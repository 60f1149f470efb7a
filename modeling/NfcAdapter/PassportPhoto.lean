/-
# The photo of a partly read DG2

Every exit of the photo leg, failed or not, ends in the result builder, which cuts the
photo from whatever is in the buffer.  A reported photo is therefore complete unless a
failing exit is taken while an image magic is already in the buffer.
-/
import NfcAdapter.PassportAuth

namespace NfcAdapter

open Runs ByteCounter IsoPadding

variable {G P : Type} (env : PassportEnv G P)

/-! ## Complete photos -/

/-- A buffer with exactly the length its own header declares. -/
def DgComplete (data : Bytes) : Prop := ∃ r ∈ bacBerTlvHeader data, data.length = r.1 + r.2

/-- If the callback gets a photo, it was cut from a complete DG2. -/
def PhotoComplete (s : PassportState G) : Prop :=
  ∀ success text result, s.status = .finished success text (some result) → result.photo ≠ none →
    ∃ dg2, s.read.dg2 = some dg2 ∧ result.photo = passportPhoto env dg2.data ∧
      DgComplete dg2.data

/-- The DG2 bytes in hand when a completion makes the photo leg fail: the call failed, the
answer was refused or had no data, the header was unusable, or the next READ BINARY could
not be protected. -/
def photoFailure (s : PassportState G) (e : PassportEvent) : Option Bytes :=
  match s.status with
  | .waiting .dg2Rest _ =>
    let dg2 := s.read.dg2.getD .new
    match e.reply with
    | none => some dg2.data
    | some bytes =>
      match passportSmResponseOk env s.read bytes with
      | (_, .error _) => some dg2.data
      | (_, .ok none) => some dg2.data
      | (read, .ok (some plaintext)) =>
        match dgAppend passportDg2MaxLen dg2 plaintext with
        | none => none
        | some (dg2, false) => some dg2.data
        | some (dg2, true) =>
          if dg2.remaining ≠ 0 ∧ (passportSmProtect env { read with dg2 := some dg2 }
            dg2.nextCommand).2 = none then some dg2.data else none
  | _ => none

/-- A completion that does not fail with the start of an image in hand. -/
def NoPartialPhoto (s : PassportState G) (e : PassportEvent) : Prop :=
  ∀ data ∈ photoFailure env s e, bacExtractDg2Photo data = none

instance (s : PassportState G) (e : PassportEvent) : Decidable (NoPartialPhoto env s e) := by
  unfold NoPartialPhoto
  infer_instance

theorem passportPhoto_eq_none {dg2 : Bytes} :
    passportPhoto env dg2 = none ↔ bacExtractDg2Photo dg2 = none := by
  unfold passportPhoto
  rcases h : bacExtractDg2Photo dg2 with _ | ⟨photo, _ | _ | _⟩
  · simp
  · simp
  · rcases hbmp : env.photoJp2ToBmp photo <;> simp [hbmp]
  · simp

/-! ## How long a plaintext can be -/

/-- Where deciphering keeps lengths, a plaintext is no longer than a DO'87' can be. -/
theorem length_smUnprotect {n : ℕ} {S : SmSuite n}
    (hdec : ∀ ssc enc out, S.decrypt ssc enc = some out → out.length = enc.length)
    {ssc : FixedBytes n} {rapdu plaintext : Bytes} {sw : UInt16}
    (h : (smUnprotect S ssc rapdu).2 = some (some plaintext, sw)) : plaintext.length < 65536 := by
  have hdecrypt : ∀ {do87 : Bytes}, smDecrypt S (sscIncrement ssc) do87 = some plaintext →
      plaintext.length < 65536 := by
    intro do87 hd
    unfold smDecrypt at hd
    split at hd
    · cases hd
    · next hl c hhead =>
      split_ifs at hd
      obtain ⟨padded, hpadded, hun⟩ := Option.bind_eq_some_iff.mp hd
      have hc := (bacBerTlvHeader_bounds hhead).2.2.2
      have hlen := hdec _ _ _ hpadded
      have htake := List.length_take_le (c - 1) (do87.drop (hl + 1))
      have := length_isoUnpad hun
      omega
  unfold smUnprotect at h
  split at h
  · cases h
  · next p _ =>
    simp only [smOpen] at h
    split at h
    · cases h
    · split_ifs at h
      split at h
      · cases h
      · next do87 _ =>
        obtain ⟨out, hout, heq⟩ := Option.map_eq_some_iff.mp h
        simp only [Prod.mk.injEq, Option.some.injEq] at heq
        exact hdecrypt (heq.1 ▸ hout)

theorem length_opened {read : PassportRead G} {bytes plaintext : Bytes}
    (h : read.opened env bytes = some plaintext) : plaintext.length < 65536 := by
  rw [opened_eq_some, passportSmUnprotect] at h
  split at h
  · refine length_smUnprotect (S := read.paceSession.suite env.ssl) ?_ h
    intro ssc enc out hout
    obtain ⟨iv, -, hcbc⟩ := Option.bind_eq_some_iff.mp hout
    exact length_evpCrypt env.ssl hcbc
  · refine length_smUnprotect (S := read.session.suite env.ssl) ?_ h
    intro ssc enc out hout
    exact length_evpCrypt env.ssl hout

/-! ## The invariant -/

/-- A DG2 buffer in the loop: empty, or with a header and not yet complete. -/
def Partial (dg2 : DgBuffer) : Prop :=
  (dg2.totalLen = 0 ∧ dg2.data = []) ∨
    (dg2.totalLen ≠ 0 ∧ dg2.totalLen ≤ passportDg2MaxLen ∧
      (∃ r ∈ bacBerTlvHeader dg2.data, r.1 + r.2 = dg2.totalLen) ∧
      dg2.data.length ≠ dg2.totalLen)

theorem Partial.not_complete {dg2 : DgBuffer} (h : Partial dg2) : ¬ DgComplete dg2.data := by
  rintro ⟨r, hr, hlen⟩
  rcases h with ⟨-, hnil⟩ | ⟨-, -, ⟨r', hr', htotal⟩, hne⟩
  · rw [hnil] at hr
    cases hr
  · rw [Option.mem_def] at hr hr'
    rw [hr, Option.some.injEq] at hr'
    subst hr'
    omega

/-- There is a DG2 buffer exactly in the loop, and it is partial. -/
def PhotoInv (s : PassportState G) : Prop :=
  ∀ p request, s.status = .waiting p request →
    (p ≠ .dg2Rest → s.read.dg2 = none) ∧
    (p = .dg2Rest → ∃ dg2, s.read.dg2 = some dg2 ∧ Partial dg2)

/-- A usable answer: the buffer with its plaintext is partial again, or complete. -/
theorem Partial.append {dg2 dg2' : DgBuffer} {plaintext : Bytes} (h : Partial dg2)
    (happ : dgAppend passportDg2MaxLen dg2 plaintext = some (dg2', true)) :
    (dg2'.remaining ≠ 0 → Partial dg2') ∧ (dg2'.remaining = 0 → DgComplete dg2'.data) := by
  obtain ⟨hdata, hlt⟩ := dgAppend_data happ
  rw [← hdata] at hlt
  have hmax : passportDg2MaxLen = 65536 := rfl
  have htotal : dg2'.totalLen ≠ 0 ∧ dg2'.totalLen ≤ passportDg2MaxLen ∧
      ∃ r ∈ bacBerTlvHeader dg2'.data, r.1 + r.2 = dg2'.totalLen := by
    rcases dgAppend_true happ with ⟨hne, htotal⟩ | ⟨-, hl, cl, hhead, hle, htotal⟩
    · rcases h with ⟨hzero, -⟩ | ⟨-, hle, ⟨r, hr, hsum⟩, -⟩
      · exact absurd hzero hne
      · rw [htotal, hdata]
        exact ⟨hne, hle, r, bacBerTlvHeader_append hr plaintext, hsum⟩
    · have hpos := (bacBerTlvHeader_bounds hhead).1
      rw [htotal, hdata]
      exact ⟨by omega, hle, (hl, cl), hhead, rfl⟩
  obtain ⟨hne, hle, r, hr, hsum⟩ := htotal
  have hrem := remaining_eq_zero (show dg2'.data.length < 2 ^ 64 by omega)
    (show dg2'.totalLen < 2 ^ 64 by omega)
  constructor
  · intro hpos
    exact Or.inr ⟨hne, hle, ⟨r, hr, hsum⟩, fun heq => hpos (hrem.mpr heq)⟩
  · intro hzero
    exact ⟨r, hr, by rw [hsum]; exact hrem.mp hzero⟩

/-- An unusable header leaves a buffer that is not complete. -/
theorem Partial.append_false {dg2 dg2' : DgBuffer} {plaintext : Bytes} (h : Partial dg2)
    (hlen : plaintext.length < 65536)
    (happ : dgAppend passportDg2MaxLen dg2 plaintext = some (dg2', false)) :
    ¬ DgComplete dg2'.data := by
  obtain ⟨hdata, -⟩ := dgAppend_data happ
  obtain ⟨hzero, hhead⟩ := dgAppend_false happ
  have hnil : dg2.data = [] := by
    rcases h with ⟨-, hnil⟩ | ⟨hne, -⟩
    · exact hnil
    · exact absurd hzero hne
  rintro ⟨r, hr, hsum⟩
  have hbig := hhead r.1 r.2 (by rw [← hdata]; exact hr)
  have hmax : passportDg2MaxLen = 65536 := rfl
  rw [hdata, hnil, List.nil_append] at hsum
  omega

/-! ## One completion -/

/-- The state a callback's outcome gives. -/
def outcome (out : PassportRead G × PassportStatus) : PassportState G := ⟨out.1, out.2⟩

/-- A photo exit with a failure is complete only where there is nothing to cut a photo
from. -/
theorem photoComplete_build_iff {read : PassportRead G} {dg2 : DgBuffer}
    (hdg2 : read.dg2 = some dg2) (hshort : ¬ DgComplete dg2.data) :
    PhotoComplete env (outcome (passportBuildResultAndFinish env read)) ↔
      bacExtractDg2Photo dg2.data = none := by
  rw [← passportPhoto_eq_none env]
  have hphoto : (read.dg2.bind fun dg2 => passportPhoto env dg2.data)
      = passportPhoto env dg2.data := by
    rw [hdg2]
    rfl
  constructor
  · intro h
    by_contra hne
    obtain ⟨dg2', hdg2', -, hcomplete⟩ := h true none _ rfl (by rw [hphoto]; exact hne)
    have hread : read.dg2 = some dg2' := hdg2'
    rw [hdg2, Option.some.injEq] at hread
    exact hshort (hread ▸ hcomplete)
  · rintro hnone success text result hs hne
    simp only [outcome, passportBuildResultAndFinish, PassportStatus.finished.injEq,
      Option.some.injEq] at hs
    obtain ⟨-, -, rfl⟩ := hs
    exact absurd (hphoto.trans hnone) hne

theorem photoComplete_build {read : PassportRead G} {dg2 : DgBuffer} (hdg2 : read.dg2 = some dg2)
    (hcomplete : DgComplete dg2.data) :
    PhotoComplete env (outcome (passportBuildResultAndFinish env read)) := by
  intro success text result hs _
  simp only [outcome, passportBuildResultAndFinish, PassportStatus.finished.injEq,
    Option.some.injEq] at hs
  obtain ⟨-, -, rfl⟩ := hs
  refine ⟨dg2, hdg2, ?_, hcomplete⟩
  show (read.dg2.bind fun dg2 => passportPhoto env dg2.data) = _
  rw [hdg2]
  rfl

theorem photoInv_of_not_waiting {s : PassportState G}
    (h : ∀ p request, s.status ≠ .waiting p request) : PhotoInv s :=
  fun p request hs => absurd hs (h p request)

theorem photoComplete_of_not_finished {s : PassportState G}
    (h : ∀ success text result, s.status ≠ .finished success text (some result)) :
    PhotoComplete env s :=
  fun success text result hs _ => absurd hs (h success text result)

/-- **One completion of the photo loop** keeps the invariant, and reports a complete photo
if it reports one, exactly when it does not fail with an image in hand. -/
theorem dg2Rest_step {s : PassportState G} {request : PassportRequest} {dg2 : DgBuffer}
    (hs : s.status = .waiting .dg2Rest request) (hdg2 : s.read.dg2 = some dg2)
    (hshort : Partial dg2) (e : PassportEvent) :
    PhotoInv (s.step env e) ∧
      (PhotoComplete env (s.step env e) ↔ NoPartialPhoto env s e) := by
  -- a failing exit with the bytes `data` in the buffer
  have hfail : ∀ (read : PassportRead G) (dg2' : DgBuffer), read.dg2 = some dg2' →
      ¬ DgComplete dg2'.data → photoFailure env s e = some dg2'.data →
      s.step env e = outcome (passportBuildResultAndFinish env read) →
      PhotoInv (s.step env e) ∧
        (PhotoComplete env (s.step env e) ↔ NoPartialPhoto env s e) := by
    intro read dg2' hread hnot hfailure hstep
    rw [hstep]
    refine ⟨photoInv_of_not_waiting (by simp [outcome, passportBuildResultAndFinish]), ?_⟩
    rw [photoComplete_build_iff env hread hnot, NoPartialPhoto, hfailure]
    simp
  rcases he : e.reply with _ | bytes
  · have hstep : s.step env e = _ := step_replyFailed hs he
    exact hfail s.read dg2 hdg2 hshort.not_complete (by simp [photoFailure, hs, he, hdg2]) hstep
  · have hstep : s.step env e = outcome (passportDg2RestReady env s.read bytes) :=
      step_reply hs he
    obtain ⟨x, y, ⟨text, hclosed, hr⟩ | ⟨hclosed, hr⟩ | ⟨plaintext, hopened, hr⟩⟩ :=
      passportSmResponseOk_cases env s.read bytes
    · refine hfail (s.read.withSsc x y) dg2 hdg2 hshort.not_complete ?_ ?_
      · simp [photoFailure, hs, he, hdg2, hr]
      · rw [hstep, passportDg2RestReady, hr]
    · refine hfail (s.read.withSsc x y) dg2 hdg2 hshort.not_complete ?_ ?_
      · simp [photoFailure, hs, he, hdg2, hr]
      · rw [hstep, passportDg2RestReady, hr]
    · rcases happ : dgAppend passportDg2MaxLen dg2 plaintext with _ | ⟨dg2', _ | _⟩
      · -- GLib aborts
        have hcrash : s.step env e = outcome (s.read.withSsc x y, .crashed) := by
          rw [hstep, passportDg2RestReady, hr]
          simp [hdg2, happ]
        have hfailure : photoFailure env s e = none := by
          simp [photoFailure, hs, he, hdg2, hr, happ]
        rw [hcrash, NoPartialPhoto, hfailure]
        refine ⟨photoInv_of_not_waiting (by simp [outcome]), ?_⟩
        simp only [Option.mem_def, reduceCtorEq, false_implies, implies_true, iff_true]
        exact photoComplete_of_not_finished env (by simp [outcome])
      · refine hfail ({ s.read.withSsc x y with dg2 := some dg2' }) dg2' rfl
          (hshort.append_false (length_opened env hopened) happ) ?_ ?_
        · simp [photoFailure, hs, he, hdg2, hr, happ]
        · rw [hstep, passportDg2RestReady, hr]
          simp [hdg2, happ]
      · obtain ⟨hmore, hdone⟩ := hshort.append happ
        have hout : s.step env e = outcome (passportDg2ReadMore env
            { s.read.withSsc x y with dg2 := some dg2' } dg2') := by
          rw [hstep, passportDg2RestReady, hr]
          simp [hdg2, happ]
        have hfailure : photoFailure env s e = if dg2'.remaining ≠ 0 ∧ (passportSmProtect env
            { s.read.withSsc x y with dg2 := some dg2' } dg2'.nextCommand).2 = none
            then some dg2'.data else none := by
          simp only [photoFailure, hs, he, hr, hdg2, Option.getD_some, happ]
        by_cases hrem : dg2'.remaining = 0
        · rw [if_neg (by simp [hrem])] at hfailure
          rw [hout, passportDg2ReadMore, if_pos hrem, NoPartialPhoto, hfailure]
          refine ⟨photoInv_of_not_waiting (by simp [outcome, passportBuildResultAndFinish]), ?_⟩
          simp only [Option.mem_def, reduceCtorEq, false_implies, implies_true, iff_true]
          exact photoComplete_build env rfl (hdone hrem)
        · rcases hprotect : passportSmProtect env { s.read.withSsc x y with dg2 := some dg2' }
            dg2'.nextCommand with ⟨read, _ | apdu⟩
          · have hread : read.dg2 = some dg2' := by
              obtain ⟨x', y', hfst⟩ := passportSmProtect_fst env
                { s.read.withSsc x y with dg2 := some dg2' } dg2'.nextCommand
              rw [hprotect] at hfst
              exact (congrArg (·.dg2) hfst)
            refine hfail read dg2' hread (hmore hrem).not_complete ?_ ?_
            · rw [hfailure, if_pos ⟨hrem, by rw [hprotect]⟩]
            · rw [hout, passportDg2ReadMore, if_neg hrem, hprotect]
              rfl
          · have hread : read.dg2 = some dg2' := by
              obtain ⟨x', y', hfst⟩ := passportSmProtect_fst env
                { s.read.withSsc x y with dg2 := some dg2' } dg2'.nextCommand
              rw [hprotect] at hfst
              exact (congrArg (·.dg2) hfst)
            rw [if_neg (by rw [hprotect]; simp)] at hfailure
            rw [hout, passportDg2ReadMore, if_neg hrem, hprotect, NoPartialPhoto, hfailure]
            constructor
            · intro p request' hs'
              have hp : Pending.dg2Rest = p := (PassportStatus.waiting.inj hs').1
              subst hp
              exact ⟨fun hne => absurd rfl hne, fun _ => ⟨dg2', hread, hmore hrem⟩⟩
            · simp only [Option.mem_def, reduceCtorEq, false_implies, implies_true, iff_true]
              exact photoComplete_of_not_finished env (by simp [outcome, passportSend])

/-- A result carries the photo of the read's own DG2 buffer. -/
def ReportsBuffer (s : PassportState G) : Prop :=
  ∀ success text result, s.status = .finished success text (some result) →
    result.photo = s.read.dg2.bind fun dg2 => passportPhoto env dg2.data

theorem reportsBuffer_build (read : PassportRead G) :
    ReportsBuffer env (outcome (passportBuildResultAndFinish env read)) := by
  intro success text result hs
  simp only [outcome, passportBuildResultAndFinish, PassportStatus.finished.injEq,
    Option.some.injEq] at hs
  rw [← hs.2.2]
  rfl

theorem reportsBuffer_of_stopped {s : PassportState G} (h : s.status.Stopped) :
    ReportsBuffer env s := by
  intro success text result hs
  rcases h with ⟨t, h⟩ | h
  · rw [h] at hs
    cases hs
  · rw [h] at hs
    cases hs

theorem reportsBuffer_of_waiting {s : PassportState G} {p : Pending} {request : PassportRequest}
    (h : s.status = .waiting p request) : ReportsBuffer env s := by
  intro success text result hs
  rw [h] at hs
  cases hs

/-- Before the photo loop every callback reports the buffer it leaves. -/
theorem reportsBuffer_ready (read : PassportRead G) (e : PassportEvent) (bytes : Bytes)
    {p : Pending} (hp : p ≠ .dg2Rest) :
    ReportsBuffer env (outcome (passportReady env read e bytes p)) := by
  have hplain : ∀ nexts, PlainStep read nexts (passportReady env read e bytes p) →
      ReportsBuffer env (outcome (passportReady env read e bytes p)) := by
    intro nexts h
    rcases h.status with ⟨q, -, apdu, hout⟩ | hstop
    · exact reportsBuffer_of_waiting env hout
    · exact reportsBuffer_of_stopped env hstop
  cases p with
  | passportAcquire => exact hplain _ (passportAcquireReady_plain read)
  | passportSelectAid => exact hplain _ (passportSelectAidReady_plain read bytes)
  | passportGetChallenge =>
    exact hplain _ (passportGetChallengeReady_plain env read bytes e.challenge)
  | passportMutualAuth =>
    rcases passportMutualAuthReady_cases env read bytes with
      hstop | ⟨data, session, x, y, apdu, -, -, hout⟩
    · exact reportsBuffer_of_stopped env hstop
    · exact reportsBuffer_of_waiting env (congrArg Prod.snd hout)
  | selectEfCardAccess => exact hplain _ (passportSelectEfCardAccessReady_plain read bytes)
  | efCardAccessRest => exact hplain _ (passportEfCardAccessRestReady_plain env read bytes)
  | paceMseSetAt => exact hplain _ (paceMseSetAtReady_plain read bytes)
  | paceGetNonce => exact hplain _ (paceGetNonceReady_plain env read bytes e.scalar)
  | paceMapNonce => exact hplain _ (paceMapNonceReady_plain env read bytes e.scalar)
  | paceKeyAgreement => exact hplain _ (paceKeyAgreementReady_plain env read bytes)
  | paceMutualAuth =>
    rcases paceMutualAuthReady_cases env read bytes with hstop | ⟨-, x, y, apdu, hout⟩
    · exact reportsBuffer_of_stopped env hstop
    · exact reportsBuffer_of_waiting env (congrArg Prod.snd hout)
  | paceSelectAid =>
    rcases paceSelectAidReady_cases env read bytes with hstop | ⟨x, y, apdu, hout⟩
    · exact reportsBuffer_of_stopped env hstop
    · exact reportsBuffer_of_waiting env (congrArg Prod.snd hout)
  | selectDg1 =>
    rcases passportSelectDg1Ready_cases env read bytes with hstop | ⟨x, y, apdu, hout⟩
    · exact reportsBuffer_of_stopped env hstop
    · exact reportsBuffer_of_waiting env (congrArg Prod.snd hout)
  | dg1Rest =>
    rcases passportDg1RestReady_cases env read bytes with hstop |
      ⟨plaintext, dg1, -, -, ⟨-, x, y, apdu, hout⟩ | ⟨-, mrz, x, y, -, ⟨apdu, hout⟩ | hout⟩⟩
    · exact reportsBuffer_of_stopped env hstop
    · exact reportsBuffer_of_waiting env (congrArg Prod.snd hout)
    · exact reportsBuffer_of_waiting env (congrArg Prod.snd hout)
    · rw [passportReady, hout]
      exact reportsBuffer_build env _
  | selectDg2 =>
    obtain ⟨x, y, ⟨apdu, hout⟩ | hout | hout⟩ := passportSelectDg2Ready_cases env read bytes
    · exact reportsBuffer_of_waiting env (congrArg Prod.snd hout)
    · rw [passportReady, hout]
      exact reportsBuffer_build env _
    · rw [passportReady, hout]
      exact reportsBuffer_build env _
  | dg2Rest => exact absurd rfl hp

/-- The DG2 buffer before the photo loop: none, and right after its SELECT an empty one. -/
theorem dg2_of_ready {read : PassportRead G} (e : PassportEvent) (bytes : Bytes) {p : Pending}
    (hp : p ≠ .dg2Rest) (hnone : read.dg2 = none) :
    (passportReady env read e bytes p).1.dg2 = none ∨
      (p = .selectDg2 ∧ (passportReady env read e bytes p).1.dg2 = some .new) := by
  by_cases hw : p.writesBuffer = false
  · exact Or.inl (by rw [(passportReady_buffers env read e bytes hw).2, hnone])
  · cases p with
    | selectDg1 =>
      left
      show (passportSelectDg1Ready env read bytes).1.dg2 = none
      obtain ⟨x, y, hout | hout⟩ := passportSelectDg1Ready_fst env read bytes
      · rw [hout]
        exact hnone
      · rw [hout]
        exact hnone
    | dg1Rest =>
      left
      show (passportDg1RestReady env read bytes).1.dg2 = none
      obtain ⟨dg1, mrz, x, y, hout, -⟩ := passportDg1RestReady_fst env read bytes
      rw [hout]
      exact hnone
    | selectDg2 =>
      obtain ⟨x, y, ⟨apdu, hout⟩ | hout | hout⟩ := passportSelectDg2Ready_cases env read bytes
      · exact Or.inr ⟨rfl, by rw [passportReady, hout]; rfl⟩
      · exact Or.inr ⟨rfl, by rw [passportReady, hout]; rfl⟩
      · exact Or.inl (by rw [passportReady, hout]; exact hnone)
    | dg2Rest => exact absurd rfl hp
    | _ => exact absurd rfl hw

theorem selectDg2Ready_waiting {read : PassportRead G} {bytes : Bytes} {q : Pending}
    {request : PassportRequest}
    (h : (passportSelectDg2Ready env read bytes).2 = .waiting q request) :
    (passportSelectDg2Ready env read bytes).1.dg2 = some .new := by
  obtain ⟨x, y, ⟨apdu, hout⟩ | hout | hout⟩ := passportSelectDg2Ready_cases env read bytes
  · rw [hout]
    rfl
  · simp [hout, passportBuildResultAndFinish] at h
  · simp [hout, passportBuildResultAndFinish] at h

/-- One completion before the photo loop reports no photo. -/
theorem beforeDg2Rest_step {s : PassportState G} {p : Pending} {request : PassportRequest}
    (hs : s.status = .waiting p request) (hp : p ≠ .dg2Rest) (hnone : s.read.dg2 = none)
    (e : PassportEvent) :
    PhotoInv (s.step env e) ∧
      (PhotoComplete env (s.step env e) ↔ NoPartialPhoto env s e) := by
  have hfailure : NoPartialPhoto env s e := by
    intro data hdata
    simp only [photoFailure, hs, Option.mem_def] at hdata
    split at hdata
    · next heq => exact absurd (PassportStatus.waiting.inj heq).1 hp
    · cases hdata
  -- with no image in the buffer there is no photo to be complete
  have hphoto : ReportsBuffer env (s.step env e) →
      ((s.step env e).read.dg2 = none ∨ (s.step env e).read.dg2 = some .new) →
      PhotoComplete env (s.step env e) := by
    intro hreports hdg2 success text result hfin hne
    refine absurd ?_ hne
    rw [hreports success text result hfin]
    rcases hdg2 with h | h
    · rw [h]
      rfl
    · rw [h, Option.bind_some]
      exact (passportPhoto_eq_none env).mpr rfl
  rcases he : e.reply with _ | bytes
  · have hstep : s.step env e = outcome (passportReplyFailed env s.read p) :=
      step_replyFailed hs he
    have hread : (s.step env e).read.dg2 = none := by
      rw [hstep]
      show (passportReplyFailed env s.read p).1.dg2 = none
      rw [passportReplyFailed_fst, hnone]
    refine ⟨photoInv_of_not_waiting ?_, iff_of_true (hphoto ?_ (Or.inl hread)) hfailure⟩
    · intro q request'
      rw [hstep]
      exact passportReplyFailed_ne_waiting env s.read p q request'
    · rw [hstep]
      cases p
      case selectDg2 => exact reportsBuffer_build env s.read
      case dg2Rest => exact absurd rfl hp
      all_goals exact reportsBuffer_of_stopped env (stopped_fail s.read _)
  · have hstep : s.step env e = outcome (passportReady env s.read e bytes p) := step_reply hs he
    have hread : (s.step env e).read.dg2 = none ∨
        (p = .selectDg2 ∧ (s.step env e).read.dg2 = some .new) := by
      rw [hstep]
      exact dg2_of_ready env e bytes hp hnone
    refine ⟨?_, iff_of_true (hphoto ?_ (hread.imp_right (·.2))) hfailure⟩
    · intro q request' hs'
      have hnexts := step_nexts hs hs'
      constructor
      · intro hq
        rcases hread with h | ⟨rfl, -⟩
        · exact h
        · exact absurd (List.mem_singleton.mp hnexts) hq
      · rintro rfl
        obtain rfl : p = .selectDg2 := by
          revert hnexts hp
          cases p <;> decide
        refine ⟨.new, ?_, Or.inl ⟨rfl, rfl⟩⟩
        rw [hstep] at hs' ⊢
        exact selectDg2Ready_waiting env hs'
    · rw [hstep]
      exact reportsBuffer_ready env s.read e bytes hp

/-! ## Whole reads -/

/-- One completion of a read that waits for it. -/
theorem PhotoInv.step {s : PassportState G} (h : PhotoInv s) {p : Pending}
    {request : PassportRequest} (hs : s.status = .waiting p request) (e : PassportEvent) :
    PhotoInv (s.step env e) ∧
      (PhotoComplete env (s.step env e) ↔ NoPartialPhoto env s e) := by
  obtain ⟨hbefore, hloop⟩ := h p request hs
  by_cases hp : p = .dg2Rest
  · subst hp
    obtain ⟨dg2, hdg2, hshort⟩ := hloop rfl
    exact dg2Rest_step env hs hdg2 hshort e
  · exact beforeDg2Rest_step env hs hp (hbefore hp) e

/-- A read that no longer waits reports what it has reported. -/
theorem noPartialPhoto_of_not_waiting {s : PassportState G} (e : PassportEvent)
    (hs : ∀ p request, s.status ≠ .waiting p request) : NoPartialPhoto env s e := by
  intro data hdata
  simp only [photoFailure, Option.mem_def] at hdata
  split at hdata
  · next request h => exact absurd h (hs _ request)
  · cases hdata

theorem waiting_or_not (s : PassportState G) :
    (∃ p request, s.status = .waiting p request) ∨ ∀ p request, s.status ≠ .waiting p request := by
  rcases hs : s.status with ⟨p, request⟩ | ⟨success, text, result⟩ | _
  · exact Or.inl ⟨p, request, rfl⟩
  · exact Or.inr (by simp)
  · exact Or.inr (by simp)

theorem passportRun_photoInv (start : PassportStart) (events : List PassportEvent) :
    PhotoInv (passportRun env start events) := by
  refine invariant PhotoInv ?_ ?_ events
  · intro s e h
    rcases waiting_or_not s with ⟨p, request, hs⟩ | hs
    · exact (h.step env hs e).1
    · rw [step_of_not_waiting e hs]
      exact h
  · intro p request hs
    rcases start with ⟨keys, readPhoto⟩ | ⟨paceK, readPhoto⟩
    · have hp : Pending.passportAcquire = p := (PassportStatus.waiting.inj hs).1
      subst hp
      exact ⟨fun _ => rfl, by simp⟩
    · have hp : Pending.passportAcquire = p := (PassportStatus.waiting.inj hs).1
      subst hp
      exact ⟨fun _ => rfl, by simp⟩

/-- **Which reads report complete photos only.** In every state of a run a reported photo
was cut from a complete DG2 if and only if no completion of the run makes the photo leg fail
while an image magic is among the bytes in hand. -/
theorem photo_complete_iff (start : PassportStart) (events : List PassportEvent) :
    (∀ before after, events = before ++ after → PhotoComplete env (passportRun env start before)) ↔
      Along (NoPartialPhoto env) (PassportState.step env) start.state events := by
  rw [along_iff]
  constructor
  · rintro h before e after rfl
    have hinv := passportRun_photoInv env start before
    rcases waiting_or_not (passportRun env start before) with ⟨p, request, hs⟩ | hs
    · refine (hinv.step env hs e).2.mp ?_
      rw [← passportRun_concat]
      exact h (before ++ [e]) after (by simp)
    · exact noPartialPhoto_of_not_waiting env e hs
  · intro h before
    induction before using List.reverseRecOn with
    | nil =>
      intro _ _ success text result hs
      rcases start with ⟨keys, readPhoto⟩ | ⟨paceK, readPhoto⟩ <;> cases hs
    | append_singleton before e ih =>
      rintro after rfl
      rw [passportRun_concat]
      have hinv := passportRun_photoInv env start before
      rcases waiting_or_not (passportRun env start before) with ⟨p, request, hs⟩ | hs
      · exact (hinv.step env hs e).2.mpr (h before e after (by simp))
      · rw [step_of_not_waiting e hs]
        exact ih (e :: after) (by simp)

/-! ### A photo cut short, with recorded values -/

/-- The specimen's read goes on with DG2, `75 08 FFD8 FFE0 00..`, until the tag is lost
after seven of its ten bytes. -/
def lostTagEvents : List PassportEvent :=
  specimenEvents ++ [
    replyEvent (beBytes 16 0x990290008E08307FA6B65902FF749000),
    replyEvent (beBytes 27 0x87090169ADF721DF729EA0990290008E081AC4A3D9870132009000),
    replyEvent (beBytes 27 0x87090121B001383C1D52EA990290008E0882CE0B0D6BDE79D99000),
    ⟨none, none, none⟩]

/-- The callback gets the five bytes that were read as a JPEG. -/
theorem lost_tag_reports_photo :
    (passportRun specimenEnv (.bac specimenKeys true) lostTagEvents).status
        = .finished true none (some ⟨[0x50, 0x3C], none,
          some ([0xFF, 0xD8, 0xFF, 0xE0, 0x00], .jpeg)⟩) ∧
      (passportRun specimenEnv (.bac specimenKeys true) lostTagEvents).read.dg2
        = some ⟨[0x75, 0x08, 0xFF, 0xD8, 0xFF, 0xE0, 0x00], 10⟩ ∧
      ¬ PhotoComplete specimenEnv
        (passportRun specimenEnv (.bac specimenKeys true) lostTagEvents) := by
  have hrun : (passportRun specimenEnv (.bac specimenKeys true) lostTagEvents).status
        = .finished true none (some ⟨[0x50, 0x3C], none,
          some ([0xFF, 0xD8, 0xFF, 0xE0, 0x00], .jpeg)⟩) ∧
      (passportRun specimenEnv (.bac specimenKeys true) lostTagEvents).read.dg2
        = some ⟨[0x75, 0x08, 0xFF, 0xD8, 0xFF, 0xE0, 0x00], 10⟩ := by
    decide +kernel
  obtain ⟨hstatus, hdg2⟩ := hrun
  refine ⟨hstatus, hdg2, ?_⟩
  intro h
  obtain ⟨dg2, hread, -, r, hr, hlen⟩ := h _ _ _ hstatus (by simp)
  rw [hdg2, Option.some.injEq] at hread
  subst hread
  have hhead : bacBerTlvHeader [0x75, 0x08, 0xFF, 0xD8, 0xFF, 0xE0, 0x00] = some (2, 8) := by
    decide
  rw [Option.mem_def, hhead, Option.some.injEq] at hr
  subst hr
  cases hlen

end NfcAdapter
