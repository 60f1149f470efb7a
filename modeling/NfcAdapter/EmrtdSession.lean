/-
# The chip's end of secure messaging

What a chip that holds the reader's session does with a protected command: it takes the
APDU apart, checks the MAC over it at its own counter and deciphers the data.  Both
parties count every command and every response once, so they stay at one counter.
-/
import NfcAdapter.SmCommandForm
import NfcAdapter.PassportAuth
import NfcAdapter.SmTotal
import NfcAdapter.CardAccessComplete

namespace NfcAdapter

open IsoPadding ByteCounter

/-! ## Receiving a command -/

section Receive

variable {n : ℕ}

/-- The first object with a tag. -/
def objectOf (tag : UInt8) (objs : List Bytes) : Option Bytes :=
  objs.find? fun obj => obj.head? = some tag

/-- The command in a protected APDU, as the chip reads it at the counter `ssc`: the header
without the secure-messaging bits, the deciphered data, and Le. -/
def smReceive (S : SmSuite n) (ssc : FixedBytes n) : Bytes → Option SmCommand
  | cla :: ins :: p1 :: p2 :: rest => do
    let objs ← tlvObjects (lcBytes (cla :: ins :: p1 :: p2 :: rest))
    let do8e ← objectOf 0x8E objs
    let do87 := objectOf 0x87 objs
    let do97 := objectOf 0x97 objs
    let mac ← S.mac
      (ssc.1 ++ isoPad S.blockLen [cla, ins, p1, p2] ++ do87.getD [] ++ do97.getD [])
    if do8e.drop 2 = mac then
      let data ← do87.elim (some []) (smDecrypt S ssc)
      return ⟨cla &&& 0xF3, ins, p1, p2, data, do97.elim (-1) fun obj => (obj.getD 2 0).toNat⟩
    else none
  | _ => none

variable {S : SmSuite n} {ssc : FixedBytes n} {cmd : SmCommand} {apdu : Bytes}

/-- Without the bits that secure messaging sets, an interindustry class byte is itself. -/
theorem clear_smBits : ∀ cla : UInt8, cla &&& 0x0C = 0 → (cla ||| 0x0C) &&& 0xF3 = cla := by
  intro cla
  have h : ∀ b : BitVec 8, b &&& 0x0C = 0 → (b ||| 0x0C) &&& 0xF3 = b := by decide
  intro hcla
  have := h cla.toBitVec (congrArg UInt8.toBitVec hcla)
  exact UInt8.toBitVec_inj.mp this

/-- **The chip gets the command** out of every well-formed APDU. -/
theorem SmCommand.WellFormed.receive (h : cmd.WellFormed S ssc apdu) (hcla : cmd.cla &&& 0x0C = 0)
    (hle : -1 ≤ cmd.le) (hle' : cmd.le ≤ 255) : smReceive S ssc apdu = some cmd := by
  obtain ⟨hheader, -, do87, do97, mac, hobjs, h87, h97, -, hdec, hleb, hmac⟩ := h
  obtain ⟨rest, rfl⟩ : ∃ rest, apdu = cmd.header ++ rest :=
    ⟨apdu.drop 4, by rw [← hheader, List.take_append_drop]⟩
  -- each object is found by its tag
  have hhead87 : ∀ obj ∈ do87, obj.head? = some 0x87 := fun obj hobj => (hdec obj hobj).1
  have hhead97 : ∀ obj ∈ do97, obj.head? = some 0x97 := by
    intro obj hobj
    rw [hleb obj hobj]
    rfl
  have hfind8e : objectOf 0x8E (do87.toList ++ do97.toList ++ [0x8E :: 0x08 :: mac])
      = some (0x8E :: 0x08 :: mac) := by
    cases do87 <;> cases do97 <;> simp_all [objectOf]
  have hfind87 : objectOf 0x87 (do87.toList ++ do97.toList ++ [0x8E :: 0x08 :: mac]) = do87 := by
    cases do87 <;> cases do97 <;> simp_all [objectOf]
  have hfind97 : objectOf 0x97 (do87.toList ++ do97.toList ++ [0x8E :: 0x08 :: mac]) = do97 := by
    cases do87 <;> cases do97 <;> simp_all [objectOf]
  have hdata : do87.elim (some []) (smDecrypt S ssc) = some cmd.data := by
    cases do87 with
    | none =>
      have hnil : cmd.data = [] := by
        by_contra hne
        cases h87.mpr hne
      rw [hnil]
      rfl
    | some obj => exact (hdec obj rfl).2
  have hback : do97.elim (-1) (fun obj => ((obj.getD 2 0).toNat : ℤ)) = cmd.le := by
    cases do97 with
    | none =>
      have hneg : ¬ cmd.le ≥ 0 := fun hge => by cases h97.mpr hge
      show (-1 : ℤ) = cmd.le
      omega
    | some obj =>
      have hge : cmd.le ≥ 0 := h97.mp rfl
      rw [hleb obj rfl]
      show ((cmd.le.toNat.toUInt8.toNat : ℕ) : ℤ) = cmd.le
      rw [toNat_toUInt8 (by omega)]
      omega
  show smReceive S ssc (_ :: _ :: _ :: _ :: rest) = some cmd
  rw [smReceive]
  rw [show lcBytes ((cmd.cla ||| 0x0C) :: cmd.ins :: cmd.p1 :: cmd.p2 :: rest)
      = lcBytes (cmd.header ++ rest) from rfl, hobjs]
  simp only [Option.bind_eq_bind, Option.bind_some, hfind8e, hfind87, hfind97]
  rw [show ([cmd.cla ||| 0x0C, cmd.ins, cmd.p1, cmd.p2] : Bytes) = cmd.header from rfl, hmac,
    Option.bind_some, List.drop_succ_cons, List.drop_succ_cons, List.drop_zero, if_pos rfl, hdata,
    Option.bind_some, hback, clear_smBits cmd.cla hcla]
  rfl

/-- What the commands of a passport read have in common. -/
structure SmCommand.Short (cmd : SmCommand) : Prop where
  cla : cmd.cla &&& 0x0C = 0
  data : cmd.data.length ≤ 16
  le : -1 ≤ cmd.le ∧ cmd.le ≤ 255

/-- **One protected command.** A short command is sent, and a chip at the same counter
receives it. -/
theorem smProtect_receive (hS : S.Total) (hinv : S.DecryptInverts) (hblock : S.blockLen ≤ 16)
    (hmax : 16 ≤ S.maxData) (ssc : FixedBytes n) (hcmd : cmd.Short) :
    ∃ sent, smProtect S ssc cmd = (sscIncrement ssc, some sent) ∧
      smReceive S (sscIncrement ssc) sent.apdu = some cmd := by
  have hpad := length_isoPad S.blockLen S.blockLen_pos cmd.data
  have hdata := hcmd.data
  obtain ⟨do87, hdo87⟩ : ∃ do87, smDo87 S (sscIncrement ssc) cmd.data = some do87 := by
    rw [smDo87]
    split_ifs
    · obtain ⟨enc, henc⟩ := hS.encrypt (sscIncrement ssc) (isoPad S.blockLen cmd.data)
        (dvd_length_isoPad S.blockLen S.blockLen_pos cmd.data)
      exact ⟨_, by rw [henc, Option.map_some]⟩
    · exact ⟨_, rfl⟩
  obtain ⟨mac, hmac⟩ := hS.mac (smCommandInput S (sscIncrement ssc) cmd do87)
  obtain ⟨sent, hsent⟩ : ∃ sent, smProtect S ssc cmd = (sscIncrement ssc, some sent) := by
    rw [smProtect, if_neg (by have := hcmd.le.2; omega), hdo87]
    simp only [hmac, Option.map_some]
    exact ⟨_, rfl⟩
  refine ⟨sent, hsent, ?_⟩
  have hform : cmd.WellFormed S (sscIncrement ssc) sent.apdu :=
    (smProtect_wellFormed_iff hinv (by omega) hsent).mpr fun _ => by omega
  exact hform.receive hcmd.cla hcmd.le.1 hcmd.le.2

/-- A response with any content that a length of two bytes can announce. -/
theorem smResponse_exists (hS : S.Total) (hinv : S.DecryptInverts) {f : LengthForm}
    {plaintext : Option Bytes}
    (hfit : ∀ p ∈ plaintext, f.Fits (1 + (isoPad S.blockLen p).length)) (sw : UInt16) :
    ∃ resp, smResponse S ssc f plaintext sw = some resp := by
  obtain ⟨do87, hdo87⟩ : ∃ do87, smResponseDo87 S ssc f plaintext = some do87 := by
    cases plaintext with
    | none => exact ⟨_, rfl⟩
    | some p =>
      obtain ⟨enc, henc⟩ := hS.encrypt ssc (isoPad S.blockLen p)
        (dvd_length_isoPad S.blockLen S.blockLen_pos p)
      have hlen := (hinv ssc _ enc henc).1
      exact ⟨_, by rw [smResponseDo87, henc, Option.bind_some, hlen, if_pos (hfit p rfl)]⟩
  obtain ⟨mac, hmac⟩ := hS.mac (smResponseInput ssc do87 sw)
  exact ⟨_, by rw [smResponse, hdo87]; simp only [Option.bind_eq_bind, Option.bind_some, hmac]; rfl⟩

end Receive

/-! ## Sessions of either kind -/

namespace SmSession

variable (ssl : OpenSsl)

/-- The session at the next counter. -/
def advance : SmSession → SmSession
  | .bac s => .bac { s with ssc := sscIncrement s.ssc }
  | .pace s => .pace { s with ssc := sscIncrement s.ssc }

/-- The command a chip in this session receives; it counts the command first. -/
def receive (apdu : Bytes) : SmSession → Option SmCommand
  | .bac s => smReceive (s.suite ssl) (sscIncrement s.ssc) apdu
  | .pace s => smReceive (s.suite ssl) (sscIncrement s.ssc) apdu

/-- DO'87' of a response in the shortest form of its length. -/
def responseForm (blockLen : ℕ) (plaintext : Option Bytes) : LengthForm :=
  derForm (1 + (isoPad blockLen (plaintext.getD [])).length)

/-- The response a chip in this session sends; it counts the response first. -/
def respond (plaintext : Option Bytes) (sw : UInt16) : SmSession → Option Bytes
  | .bac s => smResponse (s.suite ssl) (sscIncrement s.ssc)
      (responseForm (s.suite ssl).blockLen plaintext) plaintext sw
  | .pace s => smResponse (s.suite ssl) (sscIncrement s.ssc)
      (responseForm (s.suite ssl).blockLen plaintext) plaintext sw

/-- The session's keys have the length of a cipher's. -/
def KeyLenOk : SmSession → Prop
  | .bac _ => True
  | .pace s => s.keyLen = 16 ∨ s.keyLen = 32

theorem KeyLenOk.advance {σ : SmSession} (h : σ.KeyLenOk) : σ.advance.KeyLenOk := by
  cases σ <;> exact h

/-- Chips answer a command that has been received. -/
theorem respond_exists {ssl : OpenSsl} (hssl : ssl.Total) (hinv : ssl.DecryptInverts)
    {σ : SmSession} (hkey : σ.KeyLenOk) {plaintext : Option Bytes}
    (hlen : ∀ p ∈ plaintext, p.length ≤ 32768) (sw : UInt16) :
    ∃ resp, σ.respond ssl plaintext sw = some resp := by
  have hfit : ∀ blockLen, 0 < blockLen → blockLen ≤ 16 → ∀ p ∈ plaintext,
      (responseForm blockLen plaintext).Fits (1 + (isoPad blockLen p).length) := by
    rintro blockLen hpos hle p ⟨rfl⟩
    have hpad := length_isoPad blockLen hpos p
    have hp := hlen p rfl
    exact fits_derForm (show 1 + (isoPad blockLen p).length < 65536 by omega)
  cases σ with
  | bac s =>
    exact smResponse_exists (bacSuite_total hssl s) (bacSuite_decryptInverts ssl hinv s)
      (hfit _ (s.suite ssl).blockLen_pos (show 8 ≤ 16 by decide)) sw
  | pace s =>
    exact smResponse_exists (paceSuite_total hssl hkey) (paceSuite_decryptInverts ssl hinv s)
      (hfit _ (s.suite ssl).blockLen_pos (show 16 ≤ 16 by decide)) sw

end SmSession

/-! ## The reader's end -/

section Reader

variable {G P : Type} {env : PassportEnv G P}

/-- The session a read works with. -/
def PassportRead.smSession (read : PassportRead G) : SmSession :=
  if read.usePace then .pace read.paceSession else .bac read.session

/-- **Sending.** What the reader sends is received at the reader's counter, and the reader
has counted it. -/
theorem passportSmProtect_receive (hssl : env.ssl.Total) (hinv : env.ssl.DecryptInverts)
    (read : PassportRead G) (hkey : read.smSession.KeyLenOk) {cmd : SmCommand}
    (hcmd : cmd.Short) :
    ∃ x y apdu, passportSmProtect env read cmd = (read.withSsc x y, some apdu) ∧
      (read.withSsc x y).smSession = read.smSession.advance ∧
      read.smSession.receive env.ssl apdu = some cmd := by
  rcases hpace : read.usePace with _ | _
  · have hsm : read.smSession = .bac read.session := by simp [PassportRead.smSession, hpace]
    obtain ⟨sent, hsent, hreceive⟩ := smProtect_receive (bacSuite_total hssl read.session)
      (bacSuite_decryptInverts env.ssl hinv read.session) (show 8 ≤ 16 by decide)
      (show 16 ≤ 223 by decide) read.session.ssc hcmd
    refine ⟨sscIncrement read.session.ssc, read.paceSession.ssc, sent.apdu, ?_, ?_, ?_⟩
    · rw [passportSmProtect, hpace]
      simp only [Bool.false_eq_true, if_false, bacProtect, bacSmProtect, hsent, Option.map_some]
      rfl
    · simp [PassportRead.smSession, PassportRead.withSsc, hpace, SmSession.advance]
    · rw [hsm]
      exact hreceive
  · have hsm : read.smSession = .pace read.paceSession := by simp [PassportRead.smSession, hpace]
    rw [hsm] at hkey
    obtain ⟨sent, hsent, hreceive⟩ := smProtect_receive (paceSuite_total hssl hkey)
      (paceSuite_decryptInverts env.ssl hinv read.paceSession) (show 16 ≤ 16 by decide)
      (show 16 ≤ 190 by decide) read.paceSession.ssc hcmd
    refine ⟨read.session.ssc, sscIncrement read.paceSession.ssc, sent.apdu, ?_, ?_, ?_⟩
    · rw [passportSmProtect, hpace]
      simp only [if_true, paceProtect, paceSmProtect, hsent, Option.map_some]
      rfl
    · simp [PassportRead.smSession, PassportRead.withSsc, hpace, SmSession.advance]
    · rw [hsm]
      exact hreceive

/-- **Opening.** A response of a chip in the reader's session opens to what the chip put in,
if its status bytes let it, and both are at one counter again. -/
theorem passportSmUnprotect_respond (hinv : env.ssl.DecryptInverts) (read : PassportRead G)
    {plaintext : Option Bytes} {sw : UInt16} {resp : Bytes}
    (hresp : read.smSession.respond env.ssl plaintext sw = some resp) :
    ∃ x y, passportSmUnprotect env read resp
        = (read.withSsc x y, if BenignStatus sw then some (plaintext, sw) else none) ∧
      (BenignStatus sw → (read.withSsc x y).smSession = read.smSession.advance) := by
  rcases hpace : read.usePace with _ | _
  · have hsm : read.smSession = .bac read.session := by simp [PassportRead.smSession, hpace]
    rw [hsm] at hresp
    have hopen := smUnprotect_smResponse _ (bacSuite_decryptInverts env.ssl hinv read.session) _ _
      hresp
    refine ⟨(smUnprotect (read.session.suite env.ssl) read.session.ssc resp).1,
      read.paceSession.ssc, ?_, fun hb => ?_⟩
    · rw [passportSmUnprotect, hpace]
      simp only [Bool.false_eq_true, if_false, bacUnprotect, bacSmUnprotect, hopen]
      rfl
    · have hssc := smUnprotect_smResponse_ssc _ _ _ hresp hb
      simp [PassportRead.smSession, PassportRead.withSsc, hpace, SmSession.advance, hssc]
  · have hsm : read.smSession = .pace read.paceSession := by simp [PassportRead.smSession, hpace]
    rw [hsm] at hresp
    have hopen := smUnprotect_smResponse _ (paceSuite_decryptInverts env.ssl hinv read.paceSession)
      _ _ hresp
    refine ⟨read.session.ssc,
      (smUnprotect (read.paceSession.suite env.ssl) read.paceSession.ssc resp).1, ?_, fun hb => ?_⟩
    · rw [passportSmUnprotect, hpace]
      simp only [if_true, paceUnprotect, paceSmUnprotect, hopen]
      rfl
    · have hssc := smUnprotect_smResponse_ssc _ _ _ hresp hb
      simp [PassportRead.smSession, PassportRead.withSsc, hpace, SmSession.advance, hssc]

end Reader

end NfcAdapter
