/-
# Which protected responses are decoded

What `passport_sm_response_ok` makes of a conforming chip's response, for every status
word.  The response walk of `*_sm_unprotect` takes the trailing SW1 SW2 for one more
object, so the answer depends on how the status bytes read as a tag and a length.
-/
import NfcAdapter.PassportSteps
import NfcAdapter.SmChannel

namespace NfcAdapter

open IsoPadding ByteCounter

variable {G P : Type} (env : PassportEnv G P)

/-- The contract for a response that carries `plaintext` and `sw`: `unprotected`, which is
what `*_sm_unprotect` gave, has both, and a status other than 9000 is reported as a
rejected command. -/
def DecodedAs (read : PassportRead G) (resp : Bytes) (plaintext : Option Bytes) (sw : UInt16)
    (unprotected : Option (Option Bytes × UInt16)) : Prop :=
  unprotected = some (plaintext, sw) ∧
    (passportSmResponseOk env read resp).2
      = if sw = 0x9000 then .ok plaintext
        else .error "The document rejected a secure messaging command"

/-- `passport_sm_response_ok` only looks at what was unprotected. -/
theorem decodedAs_iff {read : PassportRead G} {resp : Bytes} {plaintext : Option Bytes}
    {sw : UInt16} {unprotected : Option (Option Bytes × UInt16)}
    (h : (passportSmUnprotect env read resp).2 = unprotected) :
    DecodedAs env read resp plaintext sw unprotected ↔ unprotected = some (plaintext, sw) := by
  constructor
  · intro hdec
    exact hdec.1
  · intro hun
    refine ⟨hun, ?_⟩
    unfold passportSmResponseOk
    rcases hr : passportSmUnprotect env read resp with ⟨read', o⟩
    rw [hr] at h
    subst h
    simp only at hun
    subst hun
    by_cases hsw : sw = 0x9000 <;> simp [hsw]

/-- An `if` that gives its value exactly under its condition. -/
theorem ite_some_iff {α : Type} {p : Prop} [Decidable p] {a : α} :
    (if p then some a else none) = some a ↔ p := by
  by_cases h : p <;> simp [h]

/-- **Decoding, exactly.** On the response of a conforming chip either unprotect function
returns TRUE with the chip's plaintext and status word, its counter advanced by one, and
`passport_sm_response_ok` reports the status accordingly, if and only if the status bytes
are benign. -/
theorem protected_response_decoded_iff (hssl : env.ssl.DecryptInverts) (read : PassportRead G)
    (f : LengthForm) (plaintext : Option Bytes) (sw : UInt16) (resp : Bytes) :
    (read.usePace = false →
      smResponse (read.session.suite env.ssl) (sscIncrement read.session.ssc) f plaintext sw
        = some resp →
      ((bacSmUnprotect env.ssl read.session resp).1
          = { read.session with ssc := sscIncrement read.session.ssc } ∧
        DecodedAs env read resp plaintext sw (bacSmUnprotect env.ssl read.session resp).2
        ↔ BenignStatus sw)) ∧
    (read.usePace = true →
      smResponse (read.paceSession.suite env.ssl) (sscIncrement read.paceSession.ssc) f plaintext sw
        = some resp →
      ((paceSmUnprotect env.ssl read.paceSession resp).1
          = { read.paceSession with ssc := sscIncrement read.paceSession.ssc } ∧
        DecodedAs env read resp plaintext sw (paceSmUnprotect env.ssl read.paceSession resp).2
        ↔ BenignStatus sw)) := by
  constructor
  · intro hpath hresp
    have hS := bacSuite_decryptInverts env.ssl hssl read.session
    have hun : (passportSmUnprotect env read resp).2
        = (bacSmUnprotect env.ssl read.session resp).2 := by
      rw [passportSmUnprotect, hpath]
      rfl
    have hacc := smUnprotect_smResponse _ hS _ f hresp
    rw [decodedAs_iff env hun,
      show (bacSmUnprotect env.ssl read.session resp).2 = _ from hacc, ite_some_iff]
    constructor
    · intro h
      exact h.2
    · intro hb
      refine ⟨?_, hb⟩
      have hssc := smUnprotect_smResponse_ssc _ _ f hresp hb
      exact congrArg (fun x => { read.session with ssc := x }) hssc
  · intro hpath hresp
    have hS := paceSuite_decryptInverts env.ssl hssl read.paceSession
    have hun : (passportSmUnprotect env read resp).2
        = (paceSmUnprotect env.ssl read.paceSession resp).2 := by
      rw [passportSmUnprotect, hpath]
      rfl
    have hacc := smUnprotect_smResponse _ hS _ f hresp
    rw [decodedAs_iff env hun,
      show (paceSmUnprotect env.ssl read.paceSession resp).2 = _ from hacc, ite_some_iff]
    constructor
    · intro h
      exact h.2
    · intro hb
      refine ⟨?_, hb⟩
      have hssc := smUnprotect_smResponse_ssc _ _ f hresp hb
      exact congrArg (fun x => { read.paceSession with ssc := x }) hssc

/-! ### A refused file, with recorded values -/

/-- The calls of `exchangeRecording`, and the MAC over a response that says 6A82. -/
def statusRecording : Recording where
  ciphers := exchangeRecording.ciphers ++
    retailCalls exchangeBac.ksMac.1 (beBytes 12 0x887022120C06C22799026A82)
      (beBytes 16 0xA359A1BFD047DC3636B71CEFBCFFF741)
      (beBytes 8 0x31B8A1C7952B3B71) (beBytes 8 0x92E1FB14C68871AA)
  cmacs := exchangeRecording.cmacs

/-- The libraries of that exchange. -/
def statusEnv : PassportEnv Unit Unit where
  ssl := statusRecording.ssl
  ec := .failing Unit Unit
  photoJp2ToBmp := fun _ => none

/-- A BAC read in the recorded session. -/
def statusBacRead : PassportRead Unit := { PassportRead.new with session := exchangeBac }

/-- A PACE read in the recorded session, one exchange later. -/
def statusPaceRead : PassportRead Unit :=
  { PassportRead.new with
    usePace := true
    paceSession := { exchangePace with ssc := ⟨beBytes 16 1, rfl⟩ } }

/-- A chip that answers 6A82, "file not found", is reported as an integrity failure. -/
theorem file_not_found_taken_for_tampering :
    statusEnv.ssl.DecryptInverts ∧
    smResponse (exchangeBac.suite statusEnv.ssl) (sscIncrement exchangeBac.ssc) .short none 0x6A82
      = some (beBytes 16 0x99026A828E0892E1FB14C68871AA6A82) ∧
    (bacSmUnprotect statusEnv.ssl exchangeBac
      (beBytes 16 0x99026A828E0892E1FB14C68871AA6A82)).2 = none ∧
    (passportSmResponseOk statusEnv statusBacRead
      (beBytes 16 0x99026A828E0892E1FB14C68871AA6A82)).2
      = .error "Secure messaging integrity check failed" :=
  ⟨Recording.decryptInverts (by decide +kernel), by decide +kernel, by decide +kernel, by rfl⟩

theorem protected_response_decoded_iff_recorded :
    ((bacSmUnprotect statusEnv.ssl exchangeBac
          (beBytes 16 0x99026A828E0892E1FB14C68871AA6A82)).1
        = { exchangeBac with ssc := sscIncrement exchangeBac.ssc } ∧
      DecodedAs statusEnv statusBacRead (beBytes 16 0x99026A828E0892E1FB14C68871AA6A82) none 0x6A82
        (bacSmUnprotect statusEnv.ssl exchangeBac
          (beBytes 16 0x99026A828E0892E1FB14C68871AA6A82)).2
      ↔ BenignStatus 0x6A82) ∧
    ((paceSmUnprotect statusEnv.ssl statusPaceRead.paceSession (beBytes 35
          0x871101C89CF18E1500DB7E6A7D7D9F21E38AB8990290008E087358D82073C1BAA89000)).1
        = { statusPaceRead.paceSession with ssc := sscIncrement statusPaceRead.paceSession.ssc } ∧
      DecodedAs statusEnv statusPaceRead (beBytes 35
          0x871101C89CF18E1500DB7E6A7D7D9F21E38AB8990290008E087358D82073C1BAA89000)
        (some [0x61, 0x5D, 0x5F, 0x1F]) 0x9000
        (paceSmUnprotect statusEnv.ssl statusPaceRead.paceSession (beBytes 35
          0x871101C89CF18E1500DB7E6A7D7D9F21E38AB8990290008E087358D82073C1BAA89000)).2
      ↔ BenignStatus 0x9000) := by
  have hssl : statusEnv.ssl.DecryptInverts := Recording.decryptInverts (by decide +kernel)
  constructor
  · exact (protected_response_decoded_iff statusEnv hssl statusBacRead .short none 0x6A82 _).1 rfl
      (by decide +kernel)
  · exact (protected_response_decoded_iff statusEnv hssl statusPaceRead .short _ 0x9000 _).2 rfl
      (by decide +kernel)

end NfcAdapter
