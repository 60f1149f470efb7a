/-
# The BAC handshake

Which answers to MUTUAL AUTHENTICATE the reader takes, what it writes to `*session_out`,
and that a chip which received the reader's command derives the same session.  The command
puts the reader's random number first and the answer the chip's, so a command that comes
back as an answer fails.
-/
import NfcAdapter.PassportAuth

namespace NfcAdapter

open ByteCounter

/-! ## Sixteen bytes XORed -/

/-- Two byte arrays XORed byte by byte. -/
def FixedBytes.xor {n : ℕ} (a b : FixedBytes n) : FixedBytes n :=
  ⟨List.zipWith (· ^^^ ·) a.1 b.1, by simp [a.2, b.2]⟩

theorem copy_eq {n : ℕ} (a : FixedBytes n) : FixedBytes.copy n a.1 = a :=
  Subtype.ext (List.take_left' a.2)

/-- The comparison looks at the first `len` bytes of both sides. -/
theorem bytesEqual_take_iff {a b : Bytes} {len : ℕ} (ha : len ≤ a.length) (hb : b.length = len) :
    bytesEqual a b len = true ↔ a.take len = b := by
  have htake : bytesEqual a b len = bytesEqual (a.take len) b len := by
    rw [bytesEqual, bytesEqual, List.take_take, Nat.min_self]
  rw [htake]
  exact bytesEqual_iff (by rw [List.length_take]; omega) hb

/-! ## The function with its out-parameter -/

section Handshake

variable (ssl : OpenSsl) (keys : BacStaticKeys) (challenge : BacChallenge) (rndIcc : FixedBytes 8)

/-- `bac_process_mutual_authenticate_response` as a program on `*session_out`. -/
def bacProcessMutualAuthenticateResponseInto (response : Bytes) : StateM BacSession Bool := do
  if response.length ≠ 40 then
    return false
  let eicc := response.take 32
  match retailMac ssl keys.kmac.1 eicc with
  | none => return false
  | some micExpect =>
    if bytesEqual micExpect (response.drop 32) 8 = false then
      return false
    match des3Cbc ssl false keys.kenc.1 (zeroIv 8) eicc with
    | none => return false
    | some r =>
      if bytesEqual r rndIcc.1 8 = false then
        return false
      if bytesEqual (r.drop 8) challenge.rndIfd.1 8 = false then
        return false
      let kseed := FixedBytes.copy 16 (List.zipWith (· ^^^ ·) challenge.kIfd.1 (r.drop 16))
      modify fun session => { session with ksEnc := bacKdf ssl kseed 1 }
      modify fun session => { session with ksMac := bacKdf ssl kseed 2 }
      modify fun session =>
        { session with ssc := .copy 8 (rndIcc.1.drop 4 ++ session.ssc.1.drop 4) }
      modify fun session =>
        { session with ssc := .copy 8 (session.ssc.1.take 4 ++ challenge.rndIfd.1.drop 4) }
      return true

/-- The two halves of the send sequence counter are the two copies. -/
theorem ssc_halves (a b ssc : FixedBytes 8) :
    FixedBytes.copy 8 ((FixedBytes.copy 8 (a.1.drop 4 ++ ssc.1.drop 4)).1.take 4 ++ b.1.drop 4)
      = FixedBytes.copy 8 (a.1.drop 4 ++ b.1.drop 4) := by
  have ha : (a.1.drop 4).length = 4 := by rw [List.length_drop, a.2]
  have hs : (ssc.1.drop 4).length = 4 := by rw [List.length_drop, ssc.2]
  have hcopy : (FixedBytes.copy 8 (a.1.drop 4 ++ ssc.1.drop 4)).1 = a.1.drop 4 ++ ssc.1.drop 4 :=
    List.take_left' (by rw [List.length_append, ha, hs])
  rw [hcopy, List.take_left' ha]

/-- Every early return leaves `*session_out` as it was; a complete run overwrites all of
it. -/
theorem bacProcessMutualAuthenticateResponseInto_run (response : Bytes) (session : BacSession) :
    (bacProcessMutualAuthenticateResponseInto ssl keys challenge rndIcc response).run session
      = (bacProcessMutualAuthenticateResponse ssl keys challenge rndIcc response).elim
        (false, session) (true, ·) := by
  unfold bacProcessMutualAuthenticateResponseInto bacProcessMutualAuthenticateResponse
  by_cases hlen : response.length ≠ 40
  · rw [if_pos hlen, if_pos hlen]
    rfl
  rw [if_neg hlen, if_neg hlen]
  dsimp only
  rcases retailMac ssl keys.kmac.1 (response.take 32) with _ | micExpect
  · rfl
  by_cases hmac : bytesEqual micExpect (response.drop 32) 8 = false
  · simp [hmac]
    rfl
  rcases des3Cbc ssl false keys.kenc.1 (zeroIv 8) (response.take 32) with _ | r
  · simp [hmac]
    rfl
  by_cases hicc : bytesEqual r rndIcc.1 8 = false
  · simp [hmac, hicc]
    rfl
  by_cases hifd : bytesEqual (r.drop 8) challenge.rndIfd.1 8 = false
  · simp [hmac, hicc, hifd]
    rfl
  · have hssc := ssc_halves rndIcc challenge.rndIfd session.ssc
    simp [hmac, hicc, hifd, hssc]
    rfl

/-! ## The right answer -/

/-- The answer of a chip that knows the keys and has this handshake's random numbers,
with `k` for its own half of the key. -/
structure RightAnswer (response : Bytes) (k : FixedBytes 16) : Prop where
  length : response.length = 40
  mac : retailMac ssl keys.kmac.1 (response.take 32) = some (response.drop 32)
  plain : des3Cbc ssl false keys.kenc.1 (zeroIv 8) (response.take 32)
    = some (rndIcc.1 ++ challenge.rndIfd.1 ++ k.1)

/-- The session two halves of a key and two random numbers make. -/
def sharedSession (rndIfd : FixedBytes 8) (kIfd kIcc : FixedBytes 16) : BacSession where
  ksEnc := bacKdf ssl (kIfd.xor kIcc) 1
  ksMac := bacKdf ssl (kIfd.xor kIcc) 2
  ssc := .copy 8 (rndIcc.1.drop 4 ++ rndIfd.1.drop 4)

variable {ssl keys challenge rndIcc}

theorem RightAnswer.process {response : Bytes} {k : FixedBytes 16}
    (h : RightAnswer ssl keys challenge rndIcc response k) :
    bacProcessMutualAuthenticateResponse ssl keys challenge rndIcc response
      = some (sharedSession ssl rndIcc challenge.rndIfd challenge.kIfd k) := by
  have hmac : bytesEqual (response.drop 32) (response.drop 32) 8 = true :=
    (bytesEqual_iff (by simp [h.length]) (by simp [h.length])).mpr rfl
  have hicc : bytesEqual (rndIcc.1 ++ challenge.rndIfd.1 ++ k.1) rndIcc.1 8 = true := by
    rw [bytesEqual_take_iff (by simp [rndIcc.2]) rndIcc.2, List.append_assoc]
    exact List.take_left' rndIcc.2
  have hdrop8 : (rndIcc.1 ++ challenge.rndIfd.1 ++ k.1).drop 8 = challenge.rndIfd.1 ++ k.1 := by
    rw [List.append_assoc]
    exact List.drop_left' rndIcc.2
  have hdrop16 : (rndIcc.1 ++ challenge.rndIfd.1 ++ k.1).drop 16 = k.1 :=
    List.drop_left' (by rw [List.length_append, rndIcc.2, challenge.rndIfd.2])
  have hifd : bytesEqual (challenge.rndIfd.1 ++ k.1) challenge.rndIfd.1 8 = true := by
    rw [bytesEqual_take_iff (by simp [challenge.rndIfd.2]) challenge.rndIfd.2]
    exact List.take_left' challenge.rndIfd.2
  have hkseed : FixedBytes.copy 16 (List.zipWith (· ^^^ ·) challenge.kIfd.1 k.1)
      = challenge.kIfd.xor k := copy_eq (challenge.kIfd.xor k)
  rw [bacProcessMutualAuthenticateResponse, if_neg (by simp [h.length])]
  simp only [Option.bind_eq_bind, Option.bind_some, h.mac, hmac, h.plain, hicc, hdrop8, hifd,
    hdrop16, hkseed, Bool.true_eq_false, if_false]
  rfl

/-- What the reader accepts is a right answer. -/
theorem rightAnswer_of_process {response : Bytes} {session : BacSession}
    (h : bacProcessMutualAuthenticateResponse ssl keys challenge rndIcc response
      = some session) : ∃ k, RightAnswer ssl keys challenge rndIcc response k := by
  simp only [bacProcessMutualAuthenticateResponse, Option.bind_eq_bind] at h
  split_ifs at h with hlen
  rw [not_not] at hlen
  obtain ⟨micExpect, hmac, h⟩ := Option.bind_eq_some_iff.mp h
  split_ifs at h with htag
  obtain ⟨r, hr, h⟩ := Option.bind_eq_some_iff.mp h
  split_ifs at h with hicc hifd
  have hrlen : r.length = 32 := by
    rw [length_evpCrypt ssl hr, List.length_take, hlen]
    rfl
  rw [Bool.not_eq_false, bytesEqual_iff (length_retailMac ssl hmac) (by simp [hlen])] at htag
  rw [Bool.not_eq_false, bytesEqual_take_iff (by omega) rndIcc.2] at hicc
  rw [Bool.not_eq_false,
    bytesEqual_take_iff (by rw [List.length_drop]; omega) challenge.rndIfd.2] at hifd
  have hparts : r = rndIcc.1 ++ challenge.rndIfd.1 ++ r.drop 16 := by
    have hdrop : r.drop 16 = (r.drop 8).drop 8 := by rw [List.drop_drop]
    rw [← hicc, ← hifd, List.append_assoc, hdrop, List.take_append_drop, List.take_append_drop]
  have hk : (r.drop 16).length = 16 := by rw [List.length_drop, hrlen]
  exact ⟨⟨r.drop 16, hk⟩, hlen, htag ▸ hmac, hr.trans (congrArg some hparts)⟩

/-- One answer carries one half of the key. -/
theorem RightAnswer.unique {response : Bytes} {k k' : FixedBytes 16}
    (h : RightAnswer ssl keys challenge rndIcc response k)
    (h' : RightAnswer ssl keys challenge rndIcc response k') : k = k' := by
  have hplain := h.plain.symm.trans h'.plain
  rw [Option.some.injEq] at hplain
  exact Subtype.ext (List.append_cancel_left hplain)

end Handshake

/-! ## The chip -/

/-- The header of a MUTUAL AUTHENTICATE command, with Lc. -/
def mutualAuthenticateHeader : Bytes := [0x00, 0x82, 0x00, 0x00, 0x28]

/-- A chip of the document, in one handshake: the static keys, the random number it gave
out, and its half of the key. -/
structure BacChip where
  keys : BacStaticKeys
  rndIcc : FixedBytes 8
  kIcc : FixedBytes 16

namespace BacChip

variable (chip : BacChip) (ssl : OpenSsl)

/-- What the chip takes from a MUTUAL AUTHENTICATE command: it checks the MAC of the
cryptogram, deciphers `RND.IFD || RND.IC || K.IFD` and looks for its own number. -/
def receive (command : Bytes) : Option BacChallenge :=
  let eifd := (command.drop 5).take 32
  let mifd := (command.drop 37).take 8
  if command.take 5 = mutualAuthenticateHeader ∧
      retailMac ssl chip.keys.kmac.1 eifd = some mifd then
    (des3Cbc ssl false chip.keys.kenc.1 (zeroIv 8) eifd).bind fun s =>
      if (s.drop 8).take 8 = chip.rndIcc.1 then
        some ⟨.copy 8 (s.take 8), .copy 16 (s.drop 16)⟩
      else none
  else none

/-- The session the chip goes on with. -/
def session (command : Bytes) : Option BacSession :=
  (chip.receive ssl command).map fun challenge =>
    sharedSession ssl chip.rndIcc challenge.rndIfd challenge.kIfd chip.kIcc

/-- The chip's answer, `RND.IC || RND.IFD || K.IC` enciphered and its MAC. -/
def respond (command : Bytes) : Option Bytes := do
  let challenge ← chip.receive ssl command
  let eicc ← des3Cbc ssl true chip.keys.kenc.1 (zeroIv 8)
    (chip.rndIcc.1 ++ challenge.rndIfd.1 ++ chip.kIcc.1)
  let micc ← retailMac ssl chip.keys.kmac.1 eicc
  return eicc ++ micc

end BacChip

/-! ## Both sides -/

section BothSides

variable {ssl : OpenSsl} {keys : BacStaticKeys} {challenge : BacChallenge} {rndIcc : FixedBytes 8}

/-- The parts of a command the reader has built. -/
theorem bacBuildMutualAuthenticate_eq_some {random : Option BacChallenge} {command : Bytes}
    (h : bacBuildMutualAuthenticate ssl keys rndIcc random = some (challenge, command)) :
    ∃ eifd mifd : Bytes, eifd.length = 32 ∧ mifd.length = 8 ∧
      des3Cbc ssl true keys.kenc.1 (zeroIv 8) (challenge.rndIfd.1 ++ rndIcc.1 ++ challenge.kIfd.1)
        = some eifd ∧
      retailMac ssl keys.kmac.1 eifd = some mifd ∧
      command = mutualAuthenticateHeader ++ eifd ++ mifd ++ [0x28] := by
  simp only [bacBuildMutualAuthenticate, Option.bind_eq_bind, Option.bind_eq_some_iff] at h
  obtain ⟨sent, -, eifd, heifd, mifd, hmifd, h⟩ := h
  rw [Option.pure_def, Option.some.injEq, Prod.mk.injEq] at h
  obtain ⟨rfl, rfl⟩ := h
  refine ⟨eifd, mifd, ?_, length_retailMac ssl hmifd, heifd, hmifd, rfl⟩
  rw [length_evpCrypt ssl heifd, List.length_append, List.length_append, sent.rndIfd.2, rndIcc.2,
    sent.kIfd.2]

/-- The chip finds in the reader's command what the reader has drawn. -/
theorem BacChip.receive_command (hssl : ssl.DecryptInverts) {random : Option BacChallenge}
    {command : Bytes}
    (h : bacBuildMutualAuthenticate ssl keys rndIcc random = some (challenge, command))
    (k : FixedBytes 16) : BacChip.receive ⟨keys, rndIcc, k⟩ ssl command = some challenge := by
  obtain ⟨eifd, mifd, hlenE, hlenM, heifd, hmifd, rfl⟩ := bacBuildMutualAuthenticate_eq_some h
  have hE : ((mutualAuthenticateHeader ++ eifd ++ mifd ++ [0x28]).drop 5).take 32 = eifd := by
    rw [List.append_assoc, List.append_assoc, List.drop_left' (by rfl), List.take_left' hlenE]
  have hM : ((mutualAuthenticateHeader ++ eifd ++ mifd ++ [0x28]).drop 37).take 8 = mifd := by
    rw [List.append_assoc, List.drop_left' (by rw [List.length_append, hlenE]; rfl),
      List.take_left' hlenM]
  have hhead : (mutualAuthenticateHeader ++ eifd ++ mifd ++ [0x28]).take 5
      = mutualAuthenticateHeader := by
    rw [List.append_assoc, List.append_assoc, List.take_left' (by rfl)]
  have hplain := evpCrypt_inverts ssl hssl heifd
  have hdrop : (challenge.rndIfd.1 ++ rndIcc.1 ++ challenge.kIfd.1).drop 8
      = rndIcc.1 ++ challenge.kIfd.1 := by
    rw [List.append_assoc, List.drop_left' challenge.rndIfd.2]
  have hkey : (challenge.rndIfd.1 ++ rndIcc.1 ++ challenge.kIfd.1).drop 16 = challenge.kIfd.1 :=
    List.drop_left' (by rw [List.length_append, challenge.rndIfd.2, rndIcc.2])
  have hrnd : (challenge.rndIfd.1 ++ rndIcc.1 ++ challenge.kIfd.1).take 8 = challenge.rndIfd.1 := by
    rw [List.append_assoc, List.take_left' challenge.rndIfd.2]
  rw [receive, hE, hM, hhead, if_pos ⟨rfl, hmifd⟩, des3Cbc, hplain, Option.bind_some, hdrop,
    List.take_left' rndIcc.2, if_pos rfl, hkey, hrnd, copy_eq, copy_eq]

/-- The chip's answer to the reader's command is a right one. -/
theorem BacChip.respond_right (hssl : ssl.DecryptInverts) {random : Option BacChallenge}
    {command response : Bytes} {k : FixedBytes 16}
    (h : bacBuildMutualAuthenticate ssl keys rndIcc random = some (challenge, command))
    (hresponse : BacChip.respond ⟨keys, rndIcc, k⟩ ssl command = some response) :
    RightAnswer ssl keys challenge rndIcc response k := by
  rw [respond, receive_command hssl h k] at hresponse
  simp only [Option.bind_eq_bind, Option.bind_some, Option.bind_eq_some_iff, Option.pure_def,
    Option.some.injEq] at hresponse
  obtain ⟨eicc, heicc, micc, hmicc, rfl⟩ := hresponse
  have hlenE : eicc.length = 32 := by
    rw [length_evpCrypt ssl heicc, List.length_append, List.length_append, rndIcc.2,
      challenge.rndIfd.2, k.2]
  have hlenM := length_retailMac ssl hmicc
  refine ⟨by rw [List.length_append, hlenE, hlenM], ?_, ?_⟩
  · rw [List.take_left' hlenE, List.drop_left' hlenE]
    exact hmicc
  · rw [List.take_left' hlenE]
    exact evpCrypt_inverts ssl hssl heicc

/-- The reader's own cryptogram has the two random numbers the wrong way round. -/
theorem not_rightAnswer_command (hssl : ssl.DecryptInverts) {random : Option BacChallenge}
    {command : Bytes} {k : FixedBytes 16} (hne : rndIcc ≠ challenge.rndIfd)
    (h : bacBuildMutualAuthenticate ssl keys rndIcc random = some (challenge, command)) :
    ¬ RightAnswer ssl keys challenge rndIcc ((command.drop 5).take 40) k := by
  obtain ⟨eifd, mifd, hlenE, hlenM, heifd, -, rfl⟩ := bacBuildMutualAuthenticate_eq_some h
  intro hright
  have hplain := hright.plain
  have hE : (((mutualAuthenticateHeader ++ eifd ++ mifd ++ [0x28]).drop 5).take 40).take 32
      = eifd := by
    rw [List.take_take, List.append_assoc, List.append_assoc, List.drop_left' (by rfl)]
    exact List.take_left' hlenE
  rw [hE, des3Cbc, evpCrypt_inverts ssl hssl heifd, Option.some.injEq, List.append_assoc,
    List.append_assoc] at hplain
  have hhead := congrArg (List.take 8) hplain
  rw [List.take_left' challenge.rndIfd.2, List.take_left' rndIcc.2] at hhead
  exact hne (Subtype.ext hhead.symm)

end BothSides

/-- The reader takes exactly the right answers and opens the session the chip opens; any
other answer leaves `*session_out` as it was, the reader's own cryptogram among them. -/
theorem bacProcessMutualAuthenticateResponse_exact (ssl : OpenSsl) (hssl : ssl.DecryptInverts)
    (keys : BacStaticKeys) (challenge : BacChallenge) (rndIcc : FixedBytes 8) (response : Bytes)
    (sessionOut : BacSession) :
    let out := (bacProcessMutualAuthenticateResponseInto ssl keys challenge rndIcc response).run
      sessionOut
    (out.1 = true ↔ ∃ k, RightAnswer ssl keys challenge rndIcc response k) ∧
    (∀ k, RightAnswer ssl keys challenge rndIcc response k →
      out.2.ksEnc = bacKdf ssl (challenge.kIfd.xor k) 1 ∧
      out.2.ksMac = bacKdf ssl (challenge.kIfd.xor k) 2 ∧
      out.2.ssc.1 = rndIcc.1.drop 4 ++ challenge.rndIfd.1.drop 4) ∧
    (out.1 = false → out.2 = sessionOut) ∧
    ∀ random command,
      bacBuildMutualAuthenticate ssl keys rndIcc random = some (challenge, command) →
      (∀ k, RightAnswer ssl keys challenge rndIcc response k →
        BacChip.session ⟨keys, rndIcc, k⟩ ssl command = some out.2) ∧
      (∀ k, BacChip.respond ⟨keys, rndIcc, k⟩ ssl command = some response → out.1 = true) ∧
      (rndIcc ≠ challenge.rndIfd → response = (command.drop 5).take 40 → out.1 = false) := by
  intro out
  have hrun : out = (bacProcessMutualAuthenticateResponse ssl keys challenge rndIcc response).elim
      (false, sessionOut) (true, ·) :=
    bacProcessMutualAuthenticateResponseInto_run ssl keys challenge rndIcc response sessionOut
  have hright : ∀ k, RightAnswer ssl keys challenge rndIcc response k →
      out = (true, sharedSession ssl rndIcc challenge.rndIfd challenge.kIfd k) := by
    intro k hk
    rw [hrun, hk.process, Option.elim_some]
  have hiff : out.1 = true ↔ ∃ k, RightAnswer ssl keys challenge rndIcc response k := by
    constructor
    · intro htrue
      rcases hopened : bacProcessMutualAuthenticateResponse ssl keys challenge rndIcc response with
        _ | opened
      · rw [hrun, hopened] at htrue
        cases htrue
      · exact rightAnswer_of_process hopened
    · rintro ⟨k, hk⟩
      rw [hright k hk]
  refine ⟨hiff, ?_, ?_, ?_⟩
  · intro k hk
    rw [hright k hk]
    refine ⟨rfl, rfl, ?_⟩
    exact List.take_left' (by simp [rndIcc.2, challenge.rndIfd.2])
  · intro hfalse
    rcases hopened : bacProcessMutualAuthenticateResponse ssl keys challenge rndIcc response with
      _ | opened
    · rw [hrun, hopened]
      rfl
    · rw [hrun, hopened] at hfalse
      cases hfalse
  · intro random command hcommand
    refine ⟨?_, ?_, ?_⟩
    · intro k hk
      rw [hright k hk, BacChip.session, BacChip.receive_command hssl hcommand k]
      rfl
    · intro k hk
      exact hiff.mpr ⟨k, BacChip.respond_right hssl hcommand hk⟩
    · rintro hne rfl
      by_contra htrue
      obtain ⟨k, hk⟩ := hiff.mp (by simpa using htrue)
      exact not_rightAnswer_command hssl hne hcommand hk

/-! ### The handshake of the specimen -/

/-- A number in a field of `n` bytes. -/
def numberField (n value : ℕ) : FixedBytes n := ⟨beBytes n value, length_beBytes n value⟩

/-- The chip's random number. -/
def specimenRndIcc : FixedBytes 8 := numberField 8 0x4608F91988702212

/-- What the reader draws. -/
def specimenChallenge : BacChallenge where
  rndIfd := numberField 8 0x781723860C06C226
  kIfd := numberField 16 0x0B795240CB7049B01C19B33E32804F0B

/-- The chip's half of the key. -/
def specimenKIcc : FixedBytes 16 := numberField 16 0x0B4F80323EB3191CB04970CB4052790B

/-- The reader's command. -/
def specimenCommand : Bytes :=
  mutualAuthenticateHeader ++
    beBytes 40 0x72C29C2371CC9BDB65B779B8E8D37B29ECC154AA56A8799FAE2F498F76ED92F25F1448EEA8AD90A7 ++
    [0x28]

/-- The chip's answer. -/
def specimenResponse : Bytes :=
  beBytes 40 0x46B9342A41396CD7386BF5803104D7CEDC122B9132139BAF2EEDC94EE178534F2F2D235D074D7449

/-- Before the handshake, `*session_out` is all zeros. -/
def clearedSession : BacSession := ⟨.copy 16 [], .copy 16 [], .copy 8 []⟩

theorem bacProcessMutualAuthenticateResponse_exact_specimen :
    BacChip.session ⟨specimenKeys, specimenRndIcc, specimenKIcc⟩ specimenRecording.ssl
        specimenCommand
      = some ((bacProcessMutualAuthenticateResponseInto specimenRecording.ssl specimenKeys
          specimenChallenge specimenRndIcc specimenResponse).run clearedSession).2 ∧
    ((bacProcessMutualAuthenticateResponseInto specimenRecording.ssl specimenKeys
          specimenChallenge specimenRndIcc specimenResponse).run clearedSession).1 = true ∧
    ((bacProcessMutualAuthenticateResponseInto specimenRecording.ssl specimenKeys
          specimenChallenge specimenRndIcc ((specimenCommand.drop 5).take 40)).run
        clearedSession).1 = false := by
  have hssl : specimenRecording.ssl.DecryptInverts := Recording.decryptInverts (by decide +kernel)
  have hcommand : bacBuildMutualAuthenticate specimenRecording.ssl specimenKeys specimenRndIcc
      (some specimenChallenge) = some (specimenChallenge, specimenCommand) := by decide +kernel
  have hright : RightAnswer specimenRecording.ssl specimenKeys specimenChallenge specimenRndIcc
      specimenResponse specimenKIcc :=
    ⟨by decide +kernel, by decide +kernel, by decide +kernel⟩
  obtain ⟨haccept, -, -, hboth⟩ := bacProcessMutualAuthenticateResponse_exact
    specimenRecording.ssl hssl specimenKeys specimenChallenge specimenRndIcc specimenResponse
    clearedSession
  obtain ⟨-, -, -, hechoed⟩ := bacProcessMutualAuthenticateResponse_exact
    specimenRecording.ssl hssl specimenKeys specimenChallenge specimenRndIcc
    ((specimenCommand.drop 5).take 40) clearedSession
  refine ⟨(hboth _ _ hcommand).1 _ hright, haccept.mpr ⟨_, hright⟩, ?_⟩
  exact (hechoed _ _ hcommand).2.2 (by decide +kernel) rfl

end NfcAdapter
