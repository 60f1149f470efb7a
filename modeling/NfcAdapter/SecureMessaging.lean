/-
# Secure messaging (`bac.c`, `pace.c`)

`bac_sm_protect` / `bac_sm_unprotect` and `pace_sm_protect` / `pace_sm_unprotect`
wrap commands and unwrap responses with the same DO'87' / DO'97' / DO'99' / DO'8E'
objects.  What the two pairs do differently is the suite: block length, cipher, MAC,
size limit, and whether the send sequence counter is advanced before or after the
command data is enciphered.
-/
import NfcAdapter.ByteCounter
import NfcAdapter.OpenSsl

namespace NfcAdapter

open IsoPadding ByteCounter

/-! ## Send sequence counters and status words -/

/-- `ssc_increment`: the same loop in `bac.c` (8 bytes) and `pace.c` (16 bytes). -/
def sscIncrement {n : ℕ} (ssc : FixedBytes n) : FixedBytes n :=
  ⟨increment ssc.1, by rw [length_increment, ssc.2]⟩

/-- The status word of two bytes, `(guint16)((hi << 8) | lo)`. -/
def swOf (hi lo : UInt8) : UInt16 := (hi.toUInt16 <<< 8) ||| lo.toUInt16

/-- The first status byte, SW1. -/
def sw1 (sw : UInt16) : UInt8 := (sw >>> 8).toUInt8

/-- The second status byte, SW2. -/
def sw2 (sw : UInt16) : UInt8 := sw.toUInt8

/-! ## Suites -/

/-- What distinguishes one secure-messaging variant from the other, with the session
keys already in it.  `mac` gives the 8 bytes that go into DO'8E'. -/
structure SmSuite (n : ℕ) where
  blockLen : ℕ
  maxData : ℕ
  sscFirst : Bool
  mac : Bytes → Option Bytes
  encrypt : FixedBytes n → Bytes → Option Bytes
  decrypt : FixedBytes n → Bytes → Option Bytes
  blockLen_pos : 0 < blockLen
  length_mac : ∀ {input tag}, mac input = some tag → tag.length = 8

/-- Decipherment undoes encipherment at the same counter. -/
def SmSuite.DecryptInverts {n : ℕ} (S : SmSuite n) : Prop :=
  ∀ ssc padded enc, S.encrypt ssc padded = some enc →
    enc.length = padded.length ∧ S.decrypt ssc enc = some padded

/-- `BacSession`. -/
structure BacSession where
  ksEnc : FixedBytes 16
  ksMac : FixedBytes 16
  ssc : FixedBytes 8
  deriving DecidableEq

/-- `PaceSession`. -/
structure PaceSession where
  ksEnc : FixedBytes 32
  ksMac : FixedBytes 32
  ssc : FixedBytes 16
  keyLen : ℕ
  deriving DecidableEq

section Suites

variable (ssl : OpenSsl)

/-- 3DES-CBC with a zero IV, and the retail MAC. -/
def BacSession.suite (session : BacSession) : SmSuite 8 where
  blockLen := 8
  maxData := 223
  sscFirst := false
  mac := retailMac ssl session.ksMac.1
  encrypt := fun _ padded => des3Cbc ssl true session.ksEnc.1 (zeroIv 8) padded
  decrypt := fun _ enc => des3Cbc ssl false session.ksEnc.1 (zeroIv 8) enc
  blockLen_pos := by decide
  length_mac := length_retailMac ssl

/-- AES-CBC with the enciphered counter as IV, and the first half of AES-CMAC over the
padded input. -/
def PaceSession.suite (session : PaceSession) : SmSuite 16 where
  blockLen := 16
  maxData := 190
  sscFirst := true
  mac := fun input =>
    (aesCmac ssl session.ksMac.1 session.keyLen (isoPad 16 input)).map (List.take 8)
  encrypt := fun ssc padded => do
    let iv ← aesEcbEncryptBlock ssl session.ksEnc.1 session.keyLen ssc.1
    aesCbc ssl true session.ksEnc.1 session.keyLen iv padded
  decrypt := fun ssc enc => do
    let iv ← aesEcbEncryptBlock ssl session.ksEnc.1 session.keyLen ssc.1
    aesCbc ssl false session.ksEnc.1 session.keyLen iv enc
  blockLen_pos := by decide
  length_mac := by
    intro input tag h
    obtain ⟨full, hfull, rfl⟩ := Option.map_eq_some_iff.mp h
    rw [List.length_take, length_aesCmac ssl hfull]
    rfl

theorem bacSuite_decryptInverts (hssl : ssl.DecryptInverts) (session : BacSession) :
    (session.suite ssl).DecryptInverts := by
  intro ssc padded enc h
  exact ⟨length_evpCrypt ssl h, evpCrypt_inverts ssl hssl h⟩

theorem paceSuite_decryptInverts (hssl : ssl.DecryptInverts) (session : PaceSession) :
    (session.suite ssl).DecryptInverts := by
  intro ssc padded enc h
  obtain ⟨iv, hiv, henc⟩ := Option.bind_eq_some_iff.mp h
  refine ⟨length_evpCrypt ssl henc, ?_⟩
  show (aesEcbEncryptBlock ssl session.ksEnc.1 session.keyLen ssc.1).bind _ = some padded
  rw [hiv]
  exact evpCrypt_inverts ssl hssl henc

end Suites

/-! ## Protecting a command -/

/-- The arguments of `*_sm_protect`; `le < 0` means no Le byte. -/
structure SmCommand where
  cla : UInt8
  ins : UInt8
  p1 : UInt8
  p2 : UInt8
  data : Bytes
  le : ℤ
  deriving DecidableEq, Repr

/-- What `*_sm_protect` returns: the APDU, and beside it the bytes its MAC covers. -/
structure SmSent where
  apdu : Bytes
  macInput : Bytes
  deriving DecidableEq, Repr

/-- `append_tlv`: always a one-byte length. -/
def appendTlv (tag : UInt8) (data : Bytes) : Bytes := tag :: data.length.toUInt8 :: data

/-- The command header with the secure-messaging bits set in the class byte. -/
def SmCommand.header (cmd : SmCommand) : Bytes := [cmd.cla ||| 0x0C, cmd.ins, cmd.p1, cmd.p2]

/-- DO'97', absent without Le. -/
def SmCommand.do97 (cmd : SmCommand) : Bytes :=
  if cmd.le ≥ 0 then appendTlv 0x97 [cmd.le.toNat.toUInt8] else []

variable {n : ℕ}

/-- DO'87' of a command, absent without data; `none` when the cipher fails. -/
def smDo87 (S : SmSuite n) (ssc : FixedBytes n) (data : Bytes) : Option Bytes :=
  if data.length > 0 then
    (S.encrypt ssc (isoPad S.blockLen data)).map fun enc => appendTlv 0x87 (0x01 :: enc)
  else some []

/-- The bytes the command MAC covers: counter, padded header, data objects. -/
def smCommandInput (S : SmSuite n) (ssc : FixedBytes n) (cmd : SmCommand) (do87 : Bytes) : Bytes :=
  ssc.1 ++ isoPad S.blockLen cmd.header ++ do87 ++ cmd.do97

/-- The body of `*_sm_protect`, with the counter it leaves behind. -/
def smProtect (S : SmSuite n) (ssc : FixedBytes n) (cmd : SmCommand) :
    FixedBytes n × Option SmSent :=
  if cmd.le > 255 ∨ cmd.data.length > S.maxData then (ssc, none)
  else
    match smDo87 S (sscIncrement ssc) cmd.data with
    -- the ciphers run before the counter moves in `bac.c` and after it in `pace.c`
    | none => (if S.sscFirst then sscIncrement ssc else ssc, none)
    | some do87 =>
      let input := smCommandInput S (sscIncrement ssc) cmd do87
      let lc := (do87.length + cmd.do97.length + 2 + 8).toUInt8
      (sscIncrement ssc, (S.mac input).map fun mac =>
        { apdu := cmd.header ++ [lc] ++ do87 ++ cmd.do97 ++ appendTlv 0x8E mac ++ [0x00]
          macInput := input })

/-! ## Unprotecting a response -/

/-- The objects the response walk has seen, each with tag and length. -/
structure SmObjects where
  do87 : Option Bytes
  do99 : Option Bytes
  do8e : Option Bytes
  deriving DecidableEq

/-- Remember an object; a later one with the same tag replaces it, unknown tags are
skipped. -/
def SmObjects.put (o : SmObjects) (tag : UInt8) (obj : Bytes) : SmObjects :=
  if tag = 0x87 then { o with do87 := some obj }
  else if tag = 0x99 then { o with do99 := some obj }
  else if tag = 0x8E then { o with do8e := some obj }
  else o

/-- The TLV walk of `*_sm_unprotect`.  Every object takes at least two bytes, so as much
fuel as there are bytes is enough (`smWalk_fuel`). -/
def smWalk : ℕ → Bytes → SmObjects → Option SmObjects
  | fuel + 1, tag :: b :: rest, o =>
    match bacBerTlvHeader (tag :: b :: rest) with
    | none => none
    | some (h, c) =>
      if (tag :: b :: rest).length < h + c then none
      else
        smWalk fuel ((tag :: b :: rest).drop (h + c)) (o.put tag ((tag :: b :: rest).take (h + c)))
  | _, _, o => some o

/-- A response whose DO'99' and DO'8E' have the lengths the code insists on. -/
structure SmParsed where
  do87 : Option Bytes
  do99 : Bytes
  do8e : Bytes
  deriving DecidableEq

/-- Everything `*_sm_unprotect` checks before it touches the counter. -/
def smParse (rapdu : Bytes) : Option SmParsed :=
  if rapdu.length < 2 then none
  else
    match smWalk rapdu.length rapdu ⟨none, none, none⟩ with
    | some ⟨do87, some do99, some do8e⟩ =>
      if do99.length ≠ 4 ∨ do8e.length ≠ 2 + 8 then none else some ⟨do87, do99, do8e⟩
    | _ => none

/-- The bytes the response MAC is checked over. -/
def SmParsed.macInput (p : SmParsed) (ssc : FixedBytes n) : Bytes :=
  ssc.1 ++ p.do87.getD [] ++ p.do99

/-- The tag bytes of DO'8E'. -/
def SmParsed.tag (p : SmParsed) : Bytes := p.do8e.drop 2

/-- The status word of DO'99'. -/
def SmParsed.sw (p : SmParsed) : UInt16 := swOf (p.do99.getD 2 0) (p.do99.getD 3 0)

/-- The MAC comparison of `*_sm_unprotect`. -/
def SmParsed.Verifies (p : SmParsed) (S : SmSuite n) (ssc : FixedBytes n) : Prop :=
  ∃ mac, S.mac (p.macInput ssc) = some mac ∧ bytesEqual mac p.tag 8 = true

instance (p : SmParsed) (S : SmSuite n) (ssc : FixedBytes n) : Decidable (p.Verifies S ssc) :=
  decidable_of_iff (∃ mac ∈ S.mac (p.macInput ssc), bytesEqual mac p.tag 8 = true) Iff.rfl

/-- Decipher the content of DO'87' and strip its padding. -/
def smDecrypt (S : SmSuite n) (ssc : FixedBytes n) (do87 : Bytes) : Option Bytes :=
  match bacBerTlvHeader do87 with
  | none => none
  | some (h, c) =>
    if c < 1 then none
    -- only "padded, no chaining" is defined
    else if do87[h]? ≠ some 0x01 then none
    else if c - 1 = 0 ∨ (c - 1) % S.blockLen ≠ 0 then none
    else (S.decrypt ssc ((do87.drop (h + 1)).take (c - 1))).bind isoUnpad

/-- What follows the counter step: check the MAC, then decipher. -/
def smOpen (S : SmSuite n) (ssc : FixedBytes n) (p : SmParsed) : Option (Option Bytes × UInt16) :=
  match S.mac (p.macInput ssc) with
  | none => none
  | some mac =>
    if bytesEqual mac p.tag 8 then
      match p.do87 with
      | none => some (none, p.sw)
      | some do87 => (smDecrypt S ssc do87).map fun plaintext => (some plaintext, p.sw)
    else none

/-- The body of `*_sm_unprotect`: the counter it leaves behind and, where it returns
TRUE, `*plaintext_out` and `*sw_out`. -/
def smUnprotect (S : SmSuite n) (ssc : FixedBytes n) (rapdu : Bytes) :
    FixedBytes n × Option (Option Bytes × UInt16) :=
  match smParse rapdu with
  | none => (ssc, none)
  | some p => (sscIncrement ssc, smOpen S (sscIncrement ssc) p)

/-! ## The functions under their source names -/

section Named

variable (ssl : OpenSsl)

/-- `bac_sm_protect`. -/
def bacSmProtect (session : BacSession) (cmd : SmCommand) : BacSession × Option Bytes :=
  let r := smProtect (session.suite ssl) session.ssc cmd
  ({ session with ssc := r.1 }, r.2.map (·.apdu))

/-- `bac_sm_unprotect`. -/
def bacSmUnprotect (session : BacSession) (rapdu : Bytes) :
    BacSession × Option (Option Bytes × UInt16) :=
  let r := smUnprotect (session.suite ssl) session.ssc rapdu
  ({ session with ssc := r.1 }, r.2)

/-- `pace_sm_protect`. -/
def paceSmProtect (session : PaceSession) (cmd : SmCommand) : PaceSession × Option Bytes :=
  let r := smProtect (session.suite ssl) session.ssc cmd
  ({ session with ssc := r.1 }, r.2.map (·.apdu))

/-- `pace_sm_unprotect`. -/
def paceSmUnprotect (session : PaceSession) (rapdu : Bytes) :
    PaceSession × Option (Option Bytes × UInt16) :=
  let r := smUnprotect (session.suite ssl) session.ssc rapdu
  ({ session with ssc := r.1 }, r.2)

end Named

/-! ## The walk -/

/-- **The fuel is enough.** More fuel than bytes changes nothing. -/
theorem smWalk_fuel (fuel : ℕ) (rest : Bytes) (o : SmObjects) (h : rest.length ≤ fuel) :
    smWalk (fuel + 1) rest o = smWalk fuel rest o := by
  induction fuel generalizing rest o with
  | zero =>
    rw [List.length_eq_zero_iff.mp (Nat.le_zero.mp h)]
    rfl
  | succ fuel ih =>
    match rest, h with
    | [], _ => rfl
    | [tag], _ => rfl
    | tag :: b :: rest, h =>
      rw [smWalk, smWalk]
      cases hd : bacBerTlvHeader (tag :: b :: rest) with
      | none => rfl
      | some r =>
        obtain ⟨hlen, c⟩ := r
        simp only
        split
        · rfl
        · have hb := bacBerTlvHeader_bounds hd
          apply ih
          rw [List.length_drop]
          omega

theorem smWalk_of_length_le (fuel : ℕ) (rest : Bytes) (o : SmObjects) (h : rest.length ≤ fuel) :
    smWalk fuel rest o = smWalk rest.length rest o := by
  induction fuel with
  | zero => rw [Nat.le_zero.mp h]
  | succ fuel ih =>
    rcases Nat.lt_or_ge fuel rest.length with hlt | hge
    · rw [show rest.length = fuel + 1 from by omega]
    · rw [smWalk_fuel fuel rest o hge, ih hge]

/-- One well-formed object at the front is stored and skipped. -/
theorem smWalk_berTlv (tag : UInt8) (f : LengthForm) (content rest : Bytes) (o : SmObjects)
    (h : f.Fits content.length) :
    smWalk (berTlv tag f content ++ rest).length (berTlv tag f content ++ rest) o
      = smWalk rest.length rest (o.put tag (berTlv tag f content)) := by
  have hpos := length_encode_pos f content.length
  have hlen := length_berTlv tag f content
  have hhead := bacBerTlvHeader_berTlv tag f content h rest
  obtain ⟨b, tl, hcons⟩ : ∃ b tl, berTlv tag f content ++ rest = tag :: b :: tl := by
    cases f <;> exact ⟨_, _, rfl⟩
  obtain ⟨k, hk⟩ : ∃ k, (berTlv tag f content ++ rest).length = k + 1 :=
    ⟨_, (Nat.succ_pred_eq_of_pos (by rw [List.length_append, hlen]; omega)).symm⟩
  have hsum : 1 + (f.encode content.length).length + content.length
      = (berTlv tag f content).length := hlen.symm
  rw [hk, hcons, smWalk, ← hcons, hhead]
  simp only [hsum]
  rw [if_neg (by rw [List.length_append]; omega), List.drop_left, List.take_left]
  apply smWalk_of_length_le
  rw [List.length_append] at hk
  omega

/-- Stored objects are never empty. -/
def SmObjects.Nonempty (o : SmObjects) : Prop := ∀ obj, o.do87 = some obj → obj ≠ []

theorem SmObjects.nonempty_put {o : SmObjects} (ho : o.Nonempty) (tag : UInt8) {obj : Bytes}
    (hobj : obj ≠ []) : (o.put tag obj).Nonempty := by
  intro x hx
  unfold SmObjects.put at hx
  split_ifs at hx
  · simp only [Option.some.injEq] at hx
    exact hx ▸ hobj
  all_goals exact ho x hx

theorem smWalk_nonempty (fuel : ℕ) (rest : Bytes) {o o' : SmObjects} (ho : o.Nonempty)
    (h : smWalk fuel rest o = some o') : o'.Nonempty := by
  induction fuel generalizing rest o with
  | zero =>
    simp only [smWalk, Option.some.injEq] at h
    exact h ▸ ho
  | succ fuel ih =>
    match rest, h with
    | [], h =>
      simp only [smWalk, Option.some.injEq] at h
      exact h ▸ ho
    | [tag], h =>
      simp only [smWalk, Option.some.injEq] at h
      exact h ▸ ho
    | tag :: b :: rest, h =>
      rw [smWalk] at h
      cases hd : bacBerTlvHeader (tag :: b :: rest) with
      | none => simp [hd] at h
      | some r =>
        obtain ⟨hl, c⟩ := r
        simp only [hd] at h
        split at h
        · simp at h
        · have hb := bacBerTlvHeader_bounds hd
          refine ih _ (SmObjects.nonempty_put ho tag ?_) h
          intro hnil
          rw [List.take_eq_nil_iff] at hnil
          rcases hnil with h0 | h0
          · omega
          · simp at h0

/-- What `smParse` guarantees about the objects it returns. -/
theorem smParse_eq_some {rapdu : Bytes} {p : SmParsed} (h : smParse rapdu = some p) :
    p.do99.length = 4 ∧ p.do8e.length = 10 ∧ ∀ obj, p.do87 = some obj → obj ≠ [] := by
  unfold smParse at h
  split_ifs at h
  split at h
  · next do87 do99 do8e hw =>
    split_ifs at h with hl
    push Not at hl
    simp only [Option.some.injEq] at h
    subst h
    have hne : SmObjects.Nonempty ⟨do87, some do99, some do8e⟩ :=
      smWalk_nonempty _ _ (o := ⟨none, none, none⟩) (by intro x hx; simp at hx) hw
    exact ⟨hl.1, hl.2, hne⟩
  · simp at h

/-! ### A session with recorded keys -/

/-- The session of a BAC handshake with recorded values. -/
def specimenSession : BacSession where
  ksEnc := ⟨beBytes 16 0x979EC13B1CBFE9DCD01AB0FED307EAE5, length_beBytes _ _⟩
  ksMac := ⟨beBytes 16 0xF1CB1F1FB5ADF208806B89DC579DC1F8, length_beBytes _ _⟩
  ssc := ⟨beBytes 8 0x887022120C06C226, length_beBytes _ _⟩

end NfcAdapter
