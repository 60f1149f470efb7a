/-
# A passport read is authenticated end to end

No protected command leaves before a handshake has been verified, and the MRZ of a
successful read was parsed from bytes that all came out of responses opened with the
keys of that handshake.
-/
import NfcAdapter.PassportSteps

namespace NfcAdapter

open Runs ByteCounter

variable {G P : Type} {env : PassportEnv G P}

/-! ## Sessions -/

/-- The session a handshake opened. -/
inductive SmSession where
  | bac (session : BacSession)
  | pace (session : PaceSession)

/-- The read works with the keys of a handshake's session, whatever its counter. -/
def PassportRead.Holds (read : PassportRead G) : SmSession → Prop
  | .bac session => read.usePace = false ∧ read.session = { session with ssc := read.session.ssc }
  | .pace session =>
    read.usePace = true ∧ read.paceSession = { session with ssc := read.paceSession.ssc }

/-- `*_sm_unprotect` with the keys of a handshake's session and the counter of a read. -/
def SmSession.unprotectAt (ssl : OpenSsl) (read : PassportRead G) (rapdu : Bytes) :
    SmSession → Option (Option Bytes × UInt16)
  | .bac session => (bacSmUnprotect ssl { session with ssc := read.session.ssc } rapdu).2
  | .pace session => (paceSmUnprotect ssl { session with ssc := read.paceSession.ssc } rapdu).2

theorem PassportRead.Holds.unprotectAt {read : PassportRead G} {hs : SmSession}
    (h : read.Holds hs) (rapdu : Bytes) :
    hs.unprotectAt env.ssl read rapdu = (passportSmUnprotect env read rapdu).2 := by
  rcases hs with session | session
  · obtain ⟨hpace, hkeys⟩ := h
    rw [SmSession.unprotectAt, ← hkeys, passportSmUnprotect, hpace]
    rfl
  · obtain ⟨hpace, hkeys⟩ := h
    rw [SmSession.unprotectAt, ← hkeys, passportSmUnprotect, hpace]
    rfl

/-- A handshake is verified in this step: `bac_process_mutual_authenticate_response`,
respectively `pace_verify_mutual_auth_response`, returns TRUE. -/
inductive Handshake (env : PassportEnv G P) (s : PassportState G) (e : PassportEvent) :
    SmSession → Prop
  | bac {request : PassportRequest} {bytes data : Bytes} {session : BacSession}
      (hstatus : s.status = .waiting .passportMutualAuth request) (hreply : e.reply = some bytes)
      (hraw : passportRawResponseOk bytes 40 = some data)
      (hverify : bacProcessMutualAuthenticateResponse env.ssl s.read.keys s.read.challenge
        s.read.rndIcc data = some session) : Handshake env s e (.bac session)
  | pace {request : PassportRequest} {bytes : Bytes} {pace : PaceExchange G}
      (hstatus : s.status = .waiting .paceMutualAuth request) (hreply : e.reply = some bytes)
      (hpace : s.read.pace = some pace)
      (hverify : paceVerifyMutualAuthResponse env.ssl pace bytes = true) :
      Handshake env s e (.pace pace.session)

/-! ## The invariant of a read -/

/-- The callbacks that only one of the two paths runs: `some true` for PACE. -/
def Pending.path : Pending → Option Bool
  | .passportSelectAid | .passportGetChallenge | .passportMutualAuth => some false
  | .selectEfCardAccess | .efCardAccessRest | .paceMseSetAt | .paceGetNonce | .paceMapNonce
  | .paceKeyAgreement | .paceMutualAuth | .paceSelectAid => some true
  | _ => none

/-- The callbacks before the first byte of DG1. -/
def Pending.beforeDg1 : Pending → Bool
  | .dg1Rest | .selectDg2 | .dg2Rest => false
  | _ => true

/-- The callbacks of the photo leg. -/
def Pending.afterDg1 : Pending → Bool
  | .selectDg2 | .dg2Rest => true
  | _ => false

/-- What a read knows at each stage. -/
def StageInv (read : PassportRead G) : PassportStatus → Prop
  | .waiting pending request =>
    (pending.secured = false → request.command = none) ∧
    (∀ b, pending.path = some b → read.usePace = b) ∧
    (pending.beforeDg1 = true → read.dg1 = .new) ∧
    (pending.afterDg1 = true → bacParseDg1Mrz read.dg1.data = some read.mrz) ∧
    (pending = .paceMutualAuth → ∃ pace, read.pace = some pace ∧ read.paceSession = pace.session)
  | .finished true _ result => ∃ r, result = some r ∧ bacParseDg1Mrz read.dg1.data = some r.mrzText
  | _ => True

/-- A read that has failed or crashed knows nothing more. -/
theorem stageInv_stopped {out : PassportRead G × PassportStatus} (h : out.2.Stopped) :
    StageInv out.1 out.2 := by
  rcases h with ⟨text, hout⟩ | hout <;> rw [hout] <;> trivial

/-- A plain step keeps the invariant when its next callbacks belong to the path. -/
theorem PlainStep.stageInv {read : PassportRead G} {nexts : List Pending}
    {out : PassportRead G × PassportStatus} (h : PlainStep read nexts out)
    (hdg1 : read.dg1 = .new)
    (hnexts : ∀ p ∈ nexts, (∀ b, p.path = some b → read.usePace = b) ∧ p.afterDg1 = false)
    (hpace : ∀ request, out.2 = .waiting .paceMutualAuth request →
      ∃ pace, out.1.pace = some pace ∧ out.1.paceSession = pace.session) :
    StageInv out.1 out.2 := by
  rcases h.status with ⟨p, hp, apdu, hout⟩ | hstop
  · obtain ⟨hpath, hafter⟩ := hnexts p hp
    rw [hout]
    refine ⟨fun _ => rfl, ?_, ?_, ?_, ?_⟩
    · rw [h.usePace]
      exact hpath
    · intro _
      rw [h.dg1, hdg1]
    · intro h'
      rw [hafter] at h'
      cases h'
    · intro hp'
      exact hpace ⟨apdu, none⟩ (by rw [hout, hp'])
  · exact stageInv_stopped hstop

/-- A plain step that cannot lead to the chip's PACE token needs nothing of the exchange. -/
theorem PlainStep.stageInv_of_ne {read : PassportRead G} {nexts : List Pending}
    {out : PassportRead G × PassportStatus} (h : PlainStep read nexts out)
    (hdg1 : read.dg1 = .new)
    (hnexts : ∀ p ∈ nexts, (∀ b, p.path = some b → read.usePace = b) ∧ p.afterDg1 = false)
    (hne : .paceMutualAuth ∉ nexts) : StageInv out.1 out.2 := by
  refine h.stageInv hdg1 hnexts ?_
  intro request hout
  rcases h.status with ⟨p, hp, apdu, hout'⟩ | ⟨text, hout'⟩ | hout'
  · rw [hout', PassportStatus.waiting.injEq] at hout
    rw [hout.1] at hp
    exact absurd hp hne
  · rw [hout'] at hout
    cases hout
  · rw [hout'] at hout
    cases hout

/-- The result carries the MRZ that was parsed from DG1. -/
theorem stageInv_build {read : PassportRead G}
    (h : bacParseDg1Mrz read.dg1.data = some read.mrz) :
    StageInv (passportBuildResultAndFinish env read).1
      (passportBuildResultAndFinish env read).2 :=
  ⟨_, rfl, h⟩

/-- A protected request after the handshake. -/
theorem stageInv_waiting {read : PassportRead G} {p : Pending} (request : PassportRequest)
    (hp : p.secured = true) (hpath : ∀ b, p.path = some b → read.usePace = b)
    (hbefore : p.beforeDg1 = true → read.dg1 = .new)
    (hafter : p.afterDg1 = true → bacParseDg1Mrz read.dg1.data = some read.mrz) :
    StageInv read (.waiting p request) := by
  refine ⟨?_, hpath, hbefore, hafter, ?_⟩
  · intro h
    rw [h] at hp
    cases hp
  · intro h
    rw [h] at hp
    cases hp

/-- The callback that is due keeps the invariant. -/
theorem stageInv_ready {read : PassportRead G} {p : Pending} {request : PassportRequest}
    (h : StageInv read (.waiting p request)) (e : PassportEvent) (bytes : Bytes) :
    StageInv (passportReady env read e bytes p).1 (passportReady env read e bytes p).2 := by
  obtain ⟨-, hpath, hbefore, hafter, hexchange⟩ := h
  cases p with
  | passportAcquire =>
    refine (passportAcquireReady_plain read).stageInv_of_ne (hbefore rfl) ?_ ?_
    · rcases hpace : read.usePace <;> simp [Pending.path, Pending.afterDg1]
    · rcases hpace : read.usePace <;> simp
  | passportSelectAid =>
    exact (passportSelectAidReady_plain read bytes).stageInv_of_ne (hbefore rfl)
      (by simp [Pending.path, Pending.afterDg1, hpath false rfl]) (by simp)
  | passportGetChallenge =>
    exact (passportGetChallengeReady_plain env read bytes e.challenge).stageInv_of_ne (hbefore rfl)
      (by simp [Pending.path, Pending.afterDg1, hpath false rfl]) (by simp)
  | passportMutualAuth =>
    show StageInv (passportMutualAuthReady env read bytes).1
      (passportMutualAuthReady env read bytes).2
    rcases passportMutualAuthReady_cases env read bytes with
      hstop | ⟨data, session, x, y, apdu, -, -, hout⟩
    · exact stageInv_stopped hstop
    · rw [hout]
      exact stageInv_waiting _ rfl (by simp [Pending.path]) (fun _ => hbefore rfl)
        (by simp [Pending.afterDg1])
  | selectEfCardAccess =>
    exact (passportSelectEfCardAccessReady_plain read bytes).stageInv_of_ne (hbefore rfl)
      (by simp [Pending.path, Pending.afterDg1, hpath true rfl]) (by simp)
  | efCardAccessRest =>
    exact (passportEfCardAccessRestReady_plain env read bytes).stageInv_of_ne (hbefore rfl)
      (by simp [Pending.path, Pending.afterDg1, hpath true rfl]) (by simp)
  | paceMseSetAt =>
    exact (paceMseSetAtReady_plain read bytes).stageInv_of_ne (hbefore rfl)
      (by simp [Pending.path, Pending.afterDg1, hpath true rfl]) (by simp)
  | paceGetNonce =>
    exact (paceGetNonceReady_plain env read bytes e.scalar).stageInv_of_ne (hbefore rfl)
      (by simp [Pending.path, Pending.afterDg1, hpath true rfl]) (by simp)
  | paceMapNonce =>
    exact (paceMapNonceReady_plain env read bytes e.scalar).stageInv_of_ne (hbefore rfl)
      (by simp [Pending.path, Pending.afterDg1, hpath true rfl]) (by simp)
  | paceKeyAgreement =>
    refine (paceKeyAgreementReady_plain env read bytes).stageInv (hbefore rfl)
      (by simp [Pending.path, Pending.afterDg1, hpath true rfl]) ?_
    intro request hout
    obtain ⟨pace, pace', -, -, -, hfst⟩ := paceKeyAgreementReady_waiting hout
    exact ⟨pace', by rw [hfst], by rw [hfst]⟩
  | paceMutualAuth =>
    show StageInv (paceMutualAuthReady env read bytes).1 (paceMutualAuthReady env read bytes).2
    rcases paceMutualAuthReady_cases env read bytes with hstop | ⟨-, x, y, apdu, hout⟩
    · exact stageInv_stopped hstop
    · rw [hout]
      exact stageInv_waiting _ rfl (by simp [Pending.path, hpath true rfl])
        (fun _ => hbefore rfl) (by simp [Pending.afterDg1])
  | paceSelectAid =>
    show StageInv (paceSelectAidReady env read bytes).1 (paceSelectAidReady env read bytes).2
    rcases paceSelectAidReady_cases env read bytes with hstop | ⟨x, y, apdu, hout⟩
    · exact stageInv_stopped hstop
    · rw [hout]
      exact stageInv_waiting _ rfl (by simp [Pending.path]) (fun _ => hbefore rfl)
        (by simp [Pending.afterDg1])
  | selectDg1 =>
    show StageInv (passportSelectDg1Ready env read bytes).1
      (passportSelectDg1Ready env read bytes).2
    rcases passportSelectDg1Ready_cases env read bytes with hstop | ⟨x, y, apdu, hout⟩
    · exact stageInv_stopped hstop
    · rw [hout]
      exact stageInv_waiting _ rfl (by simp [Pending.path]) (by simp [Pending.beforeDg1])
        (by simp [Pending.afterDg1])
  | dg1Rest =>
    show StageInv (passportDg1RestReady env read bytes).1 (passportDg1RestReady env read bytes).2
    rcases passportDg1RestReady_cases env read bytes with
      hstop | ⟨plaintext, dg1, -, -,
        ⟨-, x, y, apdu, hout⟩ | ⟨-, mrz, x, y, hmrz, ⟨apdu, hout⟩ | hout⟩⟩
    · exact stageInv_stopped hstop
    · rw [hout]
      exact stageInv_waiting _ rfl (by simp [Pending.path]) (by simp [Pending.beforeDg1])
        (by simp [Pending.afterDg1])
    · rw [hout]
      exact stageInv_waiting _ rfl (by simp [Pending.path]) (by simp [Pending.beforeDg1])
        (fun _ => hmrz)
    · rw [hout]
      exact stageInv_build hmrz
  | selectDg2 =>
    show StageInv (passportSelectDg2Ready env read bytes).1
      (passportSelectDg2Ready env read bytes).2
    obtain ⟨x, y, ⟨apdu, hout⟩ | hout | hout⟩ := passportSelectDg2Ready_cases env read bytes
    · rw [hout]
      exact stageInv_waiting _ rfl (by simp [Pending.path]) (by simp [Pending.beforeDg1])
        (fun _ => hafter rfl)
    · rw [hout]
      exact stageInv_build (hafter rfl)
    · rw [hout]
      exact stageInv_build (hafter rfl)
  | dg2Rest =>
    show StageInv (passportDg2RestReady env read bytes).1 (passportDg2RestReady env read bytes).2
    obtain ⟨x, y, ⟨-, hout⟩ | ⟨plaintext, -, -, hout⟩ | ⟨plaintext, dg2, -, -, hout⟩ |
      ⟨plaintext, dg2, -, -, ⟨apdu, -, hout⟩ | hout⟩⟩ := passportDg2RestReady_cases env read bytes
    · rw [hout]
      exact stageInv_build (hafter rfl)
    · rw [hout]
      trivial
    · rw [hout]
      exact stageInv_build (hafter rfl)
    · rw [hout]
      exact stageInv_waiting _ rfl (by simp [Pending.path]) (by simp [Pending.beforeDg1])
        (fun _ => hafter rfl)
    · rw [hout]
      exact stageInv_build (hafter rfl)

/-- A failed call ends the read, with what it knows if it was reading the photo. -/
theorem stageInv_replyFailed {read : PassportRead G} {p : Pending} {request : PassportRequest}
    (h : StageInv read (.waiting p request)) :
    StageInv (passportReplyFailed env read p).1 (passportReplyFailed env read p).2 := by
  cases p
  case selectDg2 => exact stageInv_build (h.2.2.2.1 rfl)
  case dg2Rest => exact stageInv_build (h.2.2.2.1 rfl)
  all_goals exact stageInv_stopped (stopped_fail _ _)

/-- The invariant of a read's state. -/
def PassportState.Inv (s : PassportState G) : Prop := StageInv s.read s.status

theorem PassportState.Inv.step {s : PassportState G} (h : s.Inv) (e : PassportEvent) :
    (s.step env e).Inv := by
  rcases hs : s.status with ⟨p, request⟩ | ⟨success, text, result⟩ | _
  · unfold PassportState.Inv at h
    rw [hs] at h
    rcases he : e.reply with _ | bytes
    · rw [step_replyFailed hs he]
      exact stageInv_replyFailed h
    · rw [step_reply hs he]
      exact stageInv_ready h e bytes
  · rw [step_of_not_waiting e (by simp [hs])]
    exact h
  · rw [step_of_not_waiting e (by simp [hs])]
    exact h

/-! ## Entering the secured part -/

theorem PlainStep.unsecured {read : PassportRead G} {nexts : List Pending}
    {out : PassportRead G × PassportStatus} (h : PlainStep read nexts out)
    (hnexts : ∀ p ∈ nexts, p.secured = false) : out.2.secured = false := by
  rcases h.status with ⟨p, hp, apdu, hout⟩ | hstop
  · rw [hout]
    exact hnexts p hp
  · exact hstop.secured

theorem replyFailed_unsecured (read : PassportRead G) {p : Pending} (h : p.secured = false) :
    (passportReplyFailed env read p).2.secured = false := by
  cases p
  case selectDg2 => cases h
  case dg2Rest => cases h
  all_goals rfl

/-- Only a verified handshake leads on to protected commands. -/
theorem handshake_of_secured {s : PassportState G} (h : s.Inv) (e : PassportEvent)
    (hsec : s.status.secured = false) (hsec' : (s.step env e).status.secured = true) :
    ∃ hs, Handshake env s e hs ∧ (s.step env e).read.Holds hs ∧
      (s.step env e).read.dg1 = .new := by
  rcases hs : s.status with ⟨p, request⟩ | ⟨success, text, result⟩ | _
  · rcases he : e.reply with _ | bytes
    · rw [hs] at hsec
      rw [step_replyFailed hs he] at hsec'
      have hun : (passportReplyFailed env s.read p).2.secured = false :=
        replyFailed_unsecured s.read hsec
      rw [hun] at hsec'
      cases hsec'
    · unfold PassportState.Inv at h
      rw [hs] at h hsec
      obtain ⟨-, hpath, hbefore, -, hexchange⟩ := h
      rw [step_reply hs he] at hsec' ⊢
      -- a plain step would have stayed unsecured
      have hplain : ∀ nexts, PlainStep s.read nexts (passportReady env s.read e bytes p) →
          ¬ (∀ q ∈ nexts, q.secured = false) := by
        intro nexts hstep hnexts
        have hun : (passportReady env s.read e bytes p).2.secured = false :=
          hstep.unsecured hnexts
        rw [hun] at hsec'
        cases hsec'
      cases p
      case passportAcquire =>
        refine absurd ?_ (hplain _ (passportAcquireReady_plain s.read))
        rcases hpace : s.read.usePace <;> simp [Pending.secured]
      case passportSelectAid =>
        exact absurd (by simp [Pending.secured])
          (hplain _ (passportSelectAidReady_plain s.read bytes))
      case passportGetChallenge =>
        exact absurd (by simp [Pending.secured])
          (hplain _ (passportGetChallengeReady_plain env s.read bytes e.challenge))
      case passportMutualAuth =>
        rcases passportMutualAuthReady_cases env s.read bytes with
          hstop | ⟨data, session, x, y, apdu, hraw, hverify, hout⟩
        · rw [show (passportReady env s.read e bytes .passportMutualAuth).2.secured = false from
            hstop.secured] at hsec'
          cases hsec'
        · refine ⟨.bac session, .bac hs he hraw hverify, ?_⟩
          show (passportMutualAuthReady env s.read bytes).1.Holds (.bac session) ∧
            (passportMutualAuthReady env s.read bytes).1.dg1 = .new
          rw [hout]
          exact ⟨⟨hpath false rfl, rfl⟩, hbefore rfl⟩
      case selectEfCardAccess =>
        exact absurd (by simp [Pending.secured])
          (hplain _ (passportSelectEfCardAccessReady_plain s.read bytes))
      case efCardAccessRest =>
        exact absurd (by simp [Pending.secured])
          (hplain _ (passportEfCardAccessRestReady_plain env s.read bytes))
      case paceMseSetAt =>
        exact absurd (by simp [Pending.secured])
          (hplain _ (paceMseSetAtReady_plain s.read bytes))
      case paceGetNonce =>
        exact absurd (by simp [Pending.secured])
          (hplain _ (paceGetNonceReady_plain env s.read bytes e.scalar))
      case paceMapNonce =>
        exact absurd (by simp [Pending.secured])
          (hplain _ (paceMapNonceReady_plain env s.read bytes e.scalar))
      case paceKeyAgreement =>
        exact absurd (by simp [Pending.secured])
          (hplain _ (paceKeyAgreementReady_plain env s.read bytes))
      case paceMutualAuth =>
        rcases paceMutualAuthReady_cases env s.read bytes with
          hstop | ⟨hverify, x, y, apdu, hout⟩
        · rw [show (passportReady env s.read e bytes .paceMutualAuth).2.secured = false from
            hstop.secured] at hsec'
          cases hsec'
        · obtain ⟨pace, hpace, hsession⟩ := hexchange rfl
          have hver : paceVerifyMutualAuthResponse env.ssl pace bytes = true := by
            simpa [PassportRead.paceVerified, hpace] using hverify
          refine ⟨.pace pace.session, .pace hs he hpace hver, ?_⟩
          show (paceMutualAuthReady env s.read bytes).1.Holds (.pace pace.session) ∧
            (paceMutualAuthReady env s.read bytes).1.dg1 = .new
          rw [hout, ← hsession]
          exact ⟨⟨hpath true rfl, rfl⟩, hbefore rfl⟩
      all_goals cases hsec
  · rw [step_of_not_waiting e (by simp [hs])] at hsec'
    rw [hsec] at hsec'
    cases hsec'
  · rw [step_of_not_waiting e (by simp [hs])] at hsec'
    rw [hsec] at hsec'
    cases hsec'

/-! ## Staying in the secured part -/

/-- The plaintext a step adds to DG1, opened with the keys of the handshake `hs`. -/
def dg1Chunk (env : PassportEnv G P) (hs : SmSession) (s : PassportState G) (e : PassportEvent) :
    Option Bytes :=
  match s.status, e.reply with
  | .waiting .dg1Rest _, some bytes =>
    match hs.unprotectAt env.ssl s.read bytes with
    | some (some plaintext, sw) => if sw = 0x9000 then some plaintext else none
    | _ => none
  | _, _ => none

theorem dg1Chunk_of_ne {hs : SmSession} {s : PassportState G} {e : PassportEvent}
    (h : ∀ request, s.status ≠ .waiting .dg1Rest request) : dg1Chunk env hs s e = none := by
  unfold dg1Chunk
  split
  · next request bytes hstatus _ => exact absurd hstatus (h request)
  · rfl

theorem dg1Chunk_of_opened {hs : SmSession} {s : PassportState G} {e : PassportEvent}
    {request : PassportRequest} {bytes plaintext : Bytes}
    (hstatus : s.status = .waiting .dg1Rest request) (hreply : e.reply = some bytes)
    (hholds : s.read.Holds hs) (hopened : s.read.opened env bytes = some plaintext) :
    dg1Chunk env hs s e = some plaintext := by
  have hun : hs.unprotectAt env.ssl s.read bytes = (passportSmUnprotect env s.read bytes).2 :=
    hholds.unprotectAt bytes
  rw [opened_eq_some.mp hopened] at hun
  simp [dg1Chunk, hstatus, hreply, hun]

/-- A secured step that leads to a secured status keeps the session's keys, and the DG1
buffer grows by exactly the chunk of the step. -/
theorem secured_step {s : PassportState G} (h : s.Inv) (e : PassportEvent) {hs : SmSession}
    (hholds : s.read.Holds hs) (hsec : s.status.secured = true)
    (hsec' : (s.step env e).status.secured = true) :
    (s.step env e).read.Holds hs ∧
      (s.step env e).read.dg1.data = s.read.dg1.data ++ (dg1Chunk env hs s e).getD [] := by
  -- the cases that only move the counters and fields other than DG1
  have hkeep : ∀ (read : PassportRead G), (∀ request, s.status ≠ .waiting .dg1Rest request) →
      (read.Holds hs ↔ s.read.Holds hs) → read.dg1.data = s.read.dg1.data →
      read.Holds hs ∧ read.dg1.data = s.read.dg1.data ++ (dg1Chunk env hs s e).getD [] := by
    intro read hne hiff hdata
    rw [dg1Chunk_of_ne hne]
    exact ⟨hiff.mpr hholds, by simpa using hdata⟩
  -- the keys do not depend on the fields a secured step writes
  have hiff : ∀ dg1 mrz dg2 x y, ({ s.read with dg1 := dg1, mrz := mrz, dg2 := dg2 }.withSsc
      x y).Holds hs ↔ s.read.Holds hs := by
    intro dg1 mrz dg2 x y
    rcases hs with session | session
    · constructor
      · rintro ⟨hpace, hkeys⟩
        have hk := congrArg (fun t : BacSession => { t with ssc := s.read.session.ssc }) hkeys
        exact ⟨hpace, hk⟩
      · rintro ⟨hpace, hkeys⟩
        have hk := congrArg (fun t : BacSession => { t with ssc := x }) hkeys
        exact ⟨hpace, hk⟩
    · constructor
      · rintro ⟨hpace, hkeys⟩
        have hk := congrArg (fun t : PaceSession => { t with ssc := s.read.paceSession.ssc }) hkeys
        exact ⟨hpace, hk⟩
      · rintro ⟨hpace, hkeys⟩
        have hk := congrArg (fun t : PaceSession => { t with ssc := y }) hkeys
        exact ⟨hpace, hk⟩
  rcases hst : s.status with ⟨p, request⟩ | ⟨success, text, result⟩ | _
  · unfold PassportState.Inv at h
    rw [hst] at h hsec
    rcases he : e.reply with _ | bytes
    · rw [step_replyFailed hst he] at hsec' ⊢
      cases p
      case selectDg2 => exact hkeep _ (by simp [hst]) Iff.rfl rfl
      case dg2Rest => exact hkeep _ (by simp [hst]) Iff.rfl rfl
      all_goals cases hsec'
    · rw [step_reply hst he] at hsec' ⊢
      cases p
      case paceSelectAid =>
        rcases paceSelectAidReady_cases env s.read bytes with hstop | ⟨x, y, apdu, hout⟩
        · rw [show (passportReady env s.read e bytes .paceSelectAid).2.secured = false from
            hstop.secured] at hsec'
          cases hsec'
        · refine hkeep _ (by simp [hst]) ?_ ?_
          · show (paceSelectAidReady env s.read bytes).1.Holds hs ↔ _
            rw [hout]
            exact hiff s.read.dg1 s.read.mrz s.read.dg2 x y
          · show (paceSelectAidReady env s.read bytes).1.dg1.data = _
            rw [hout]
            rfl
      case selectDg1 =>
        rcases passportSelectDg1Ready_cases env s.read bytes with hstop | ⟨x, y, apdu, hout⟩
        · rw [show (passportReady env s.read e bytes .selectDg1).2.secured = false from
            hstop.secured] at hsec'
          cases hsec'
        · refine hkeep _ (by simp [hst]) ?_ ?_
          · show (passportSelectDg1Ready env s.read bytes).1.Holds hs ↔ _
            rw [hout]
            exact hiff .new s.read.mrz s.read.dg2 x y
          · show (passportSelectDg1Ready env s.read bytes).1.dg1.data = _
            rw [hout, h.2.2.1 rfl]
            rfl
      case dg1Rest =>
        rcases passportDg1RestReady_cases env s.read bytes with hstop |
          ⟨plaintext, dg1, hopened, happ, hend⟩
        · rw [show (passportReady env s.read e bytes .dg1Rest).2.secured = false from
            hstop.secured] at hsec'
          cases hsec'
        · rw [dg1Chunk_of_opened hst he hholds hopened]
          have hdata := (dgAppend_data happ).1
          show (passportDg1RestReady env s.read bytes).1.Holds hs ∧
            (passportDg1RestReady env s.read bytes).1.dg1.data = s.read.dg1.data ++ plaintext
          rcases hend with ⟨-, x, y, apdu, hout⟩ | ⟨-, mrz, x, y, -, ⟨apdu, hout⟩ | hout⟩
          · rw [hout]
            exact ⟨(hiff dg1 s.read.mrz s.read.dg2 x y).mpr hholds, hdata⟩
          · rw [hout]
            exact ⟨(hiff dg1 mrz s.read.dg2 x y).mpr hholds, hdata⟩
          · rw [hout]
            exact ⟨(hiff dg1 mrz s.read.dg2 x y).mpr hholds, hdata⟩
      case selectDg2 =>
        obtain ⟨dg2, x, y, hout⟩ := passportSelectDg2Ready_fst env s.read bytes
        refine hkeep _ (by simp [hst]) ?_ ?_
        · show (passportSelectDg2Ready env s.read bytes).1.Holds hs ↔ _
          rw [hout]
          exact hiff s.read.dg1 s.read.mrz dg2 x y
        · show (passportSelectDg2Ready env s.read bytes).1.dg1.data = _
          rw [hout]
          rfl
      case dg2Rest =>
        obtain ⟨dg2, x, y, hout⟩ := passportDg2RestReady_fst env s.read bytes
        refine hkeep _ (by simp [hst]) ?_ ?_
        · show (passportDg2RestReady env s.read bytes).1.Holds hs ↔ _
          rw [hout]
          exact hiff s.read.dg1 s.read.mrz dg2 x y
        · show (passportDg2RestReady env s.read bytes).1.dg1.data = _
          rw [hout]
          rfl
      all_goals cases hsec
  · rw [step_of_not_waiting e (by simp [hst])]
    exact hkeep _ (by simp [hst]) Iff.rfl rfl
  · rw [step_of_not_waiting e (by simp [hst])]
    exact hkeep _ (by simp [hst]) Iff.rfl rfl

/-! ## Whole reads -/

/-- The two ways to start a read. -/
inductive PassportStart where
  | bac (keys : BacStaticKeys) (readPhoto : Bool)
  | pace (paceK : Bytes) (readPhoto : Bool)

/-- The state a read starts in. -/
def PassportStart.state : PassportStart → PassportState G
  | .bac keys readPhoto => .startBac keys readPhoto
  | .pace paceK readPhoto => .startPace paceK readPhoto

/-- The read after the completions `events`. -/
def passportRun (env : PassportEnv G P) (start : PassportStart) (events : List PassportEvent) :
    PassportState G :=
  run (PassportState.step env) start.state events

theorem passportRun_concat (env : PassportEnv G P) (start : PassportStart)
    (events : List PassportEvent) (e : PassportEvent) :
    passportRun env start (events ++ [e]) = (passportRun env start events).step env e :=
  run_concat _ _ _ _

theorem PassportStart.inv (start : PassportStart) : (start.state : PassportState G).Inv := by
  rcases start with ⟨keys, readPhoto⟩ | ⟨paceK, readPhoto⟩ <;>
    exact ⟨fun _ => rfl, by simp [Pending.path], fun _ => rfl, by simp [Pending.afterDg1], by simp⟩

theorem passportRun_inv (env : PassportEnv G P) (start : PassportStart)
    (events : List PassportEvent) : (passportRun env start events).Inv :=
  invariant PassportState.Inv (fun _ e h => h.step e) start.inv events

/-- The history of a secured read: the handshake it started from, and DG1 as the chunks
opened since. -/
theorem secured_history (env : PassportEnv G P) (start : PassportStart)
    (events : List PassportEvent)
    (hsec : (passportRun env start events).status.secured = true) :
    ∃ before e after hs, events = before ++ e :: after ∧
      Handshake env (passportRun env start before) e hs ∧
      (passportRun env start events).read.Holds hs ∧
      (passportRun env start events).read.dg1.data
        = (trace (dg1Chunk env hs) (PassportState.step env)
          (passportRun env start (before ++ [e])) after).flatten := by
  induction events using List.reverseRecOn with
  | nil => rcases start with ⟨keys, readPhoto⟩ | ⟨paceK, readPhoto⟩ <;> cases hsec
  | append_singleton events e ih =>
    rw [passportRun_concat] at hsec ⊢
    have hinv := passportRun_inv env start events
    rcases hbefore : (passportRun env start events).status.secured with _ | _
    · -- the handshake is this very step
      obtain ⟨hs, hhand, hholds, hdg1⟩ := handshake_of_secured hinv e hbefore hsec
      refine ⟨events, e, [], hs, rfl, hhand, hholds, ?_⟩
      rw [hdg1]
      rfl
    · obtain ⟨before, e', after, hs, rfl, hhand, hholds, hdata⟩ := ih hbefore
      obtain ⟨hholds', hdata'⟩ := secured_step hinv e hholds hbefore hsec
      refine ⟨before, e', after ++ [e], hs, by simp, hhand, hholds', ?_⟩
      have hmid : run (PassportState.step env) (passportRun env start (before ++ [e'])) after
          = passportRun env start (before ++ e' :: after) := by
        rw [passportRun, ← run_append, List.append_assoc]
        rfl
      rw [hdata', hdata, trace_concat, hmid, List.flatten_append]
      rcases dg1Chunk env hs (passportRun env start (before ++ e' :: after)) e with _ | chunk
      · rfl
      · simp

/-- **A passport read is authenticated end to end.** In every run, on either path, a
protected command is in flight only after a step that verified the handshake; and when
the callback gets success, the DG1 buffer its MRZ was parsed from is the concatenation of
the plaintexts that were opened, with status 9000, under the session of that handshake. -/
theorem passport_read_authenticated (env : PassportEnv G P) (start : PassportStart)
    (events : List PassportEvent) :
    (∀ pending request cmd,
      (passportRun env start events).status = .waiting pending request →
      request.command = some cmd →
      ∃ before e after hs, events = before ++ e :: after ∧
        Handshake env (passportRun env start before) e hs) ∧
    (∀ text result, (passportRun env start events).status = .finished true text result →
      ∃ r before e after hs, result = some r ∧ events = before ++ e :: after ∧
        Handshake env (passportRun env start before) e hs ∧
        (passportRun env start events).read.dg1.data
          = (trace (dg1Chunk env hs) (PassportState.step env)
            (passportRun env start (before ++ [e])) after).flatten ∧
        bacParseDg1Mrz (passportRun env start events).read.dg1.data = some r.mrzText) := by
  have hinv := passportRun_inv env start events
  unfold PassportState.Inv at hinv
  constructor
  · intro pending request cmd hstatus hcmd
    rw [hstatus] at hinv
    have hsec : pending.secured = true := by
      by_contra hun
      have := hinv.1 (by simpa using hun)
      rw [this] at hcmd
      cases hcmd
    obtain ⟨before, e, after, hs, hsplit, hhand, -⟩ :=
      secured_history env start events (by rw [hstatus]; exact hsec)
    exact ⟨before, e, after, hs, hsplit, hhand⟩
  · intro text result hstatus
    rw [hstatus] at hinv
    obtain ⟨r, hr, hmrz⟩ := hinv
    obtain ⟨before, e, after, hs, hsplit, hhand, -, hdata⟩ :=
      secured_history env start events (by rw [hstatus]; rfl)
    exact ⟨r, before, e, after, hs, hr, hsplit, hhand, hdata, hmrz⟩

/-! ### A read with recorded values -/

/-- The static keys of the document; its handshake opens `specimenSession`. -/
def specimenKeys : BacStaticKeys where
  kenc := ⟨beBytes 16 0xAB94FDECF2674FDFB9B391F85D7F76F2, length_beBytes _ _⟩
  kmac := ⟨beBytes 16 0x7962D9ECE03D1ACD4C76089DCE131543, length_beBytes _ _⟩

/-- What OpenSSL computes in a read of this document: EF.DG1 is `61 05 5F1F 02 503C`,
EF.DG2 starts with `75 08 FFD8 FFE000`. -/
def specimenRecording : Recording where
  sha1 := [
    (beBytes 20 0x36D272F5C350ACAC50C3F572D2360000000001,
      ⟨beBytes 20 0x969EC03B1CBFE9DDD11AB1FED206EBE4C259FC04, rfl⟩),
    (beBytes 20 0x36D272F5C350ACAC50C3F572D2360000000002,
      ⟨beBytes 20 0xF0CA1E1EB5ADF208816B88DD579CC1F81D28A2AB, rfl⟩)]
  ciphers :=
    [des3Call specimenKeys.kenc.1
        (beBytes 32 0x781723860C06C2264608F919887022120B795240CB7049B01C19B33E32804F0B)
        (beBytes 32 0x72C29C2371CC9BDB65B779B8E8D37B29ECC154AA56A8799FAE2F498F76ED92F2),
      des3Call specimenKeys.kenc.1
        (beBytes 32 0x4608F91988702212781723860C06C2260B4F80323EB3191CB04970CB4052790B)
        (beBytes 32 0x46B9342A41396CD7386BF5803104D7CEDC122B9132139BAF2EEDC94EE178534F),
      des3Call specimenSession.ksEnc.1
        (beBytes 8 0x101800000000000)
        (beBytes 8 0xBB6A56BECC3F8CF8),
      des3Call specimenSession.ksEnc.1
        (beBytes 8 0x61055F1F80000000)
        (beBytes 8 0x423B259EA0068E35),
      des3Call specimenSession.ksEnc.1
        (beBytes 8 0x2503C8000000000)
        (beBytes 8 0x776A654265F15073),
      des3Call specimenSession.ksEnc.1
        (beBytes 8 0x102800000000000)
        (beBytes 8 0xC8328FBC732CB68D),
      des3Call specimenSession.ksEnc.1
        (beBytes 8 0x7508FFD880000000)
        (beBytes 8 0x69ADF721DF729EA0),
      des3Call specimenSession.ksEnc.1
        (beBytes 8 0xFFE0008000000000)
        (beBytes 8 0x21B001383C1D52EA)] ++
    retailCalls specimenKeys.kmac.1
      (beBytes 32 0x72C29C2371CC9BDB65B779B8E8D37B29ECC154AA56A8799FAE2F498F76ED92F2)
      (beBytes 40
        0x991048E96A59C815B7FBAF044FEA3ABAE190136F33E4C120F97B82EC7727D582A67FD373C9C88C4C)
      (beBytes 8 0xF7409978DE1DBB20) (beBytes 8 0x5F1448EEA8AD90A7) ++
    retailCalls specimenKeys.kmac.1
      (beBytes 32 0x46B9342A41396CD7386BF5803104D7CEDC122B9132139BAF2EEDC94EE178534F)
      (beBytes 40
        0x7C5EBF67FDDE08F132CE9BBDD99FE4618E8451857093B46D3D276388114B619EC4B4646BB219409F)
      (beBytes 8 0x47FB23A6A6E1DD98) (beBytes 8 0x2F2D235D074D7449) ++
    retailCalls specimenSession.ksMac.1
      (beBytes 27 0x887022120C06C2270CA4020C80000000870901BB6A56BECC3F8CF8)
      (beBytes 32 0xA359A1BFD047DC3622253A28F4B0E1FEADB7C9A799104BFB5BBEC4878586F0CB)
      (beBytes 8 0xDD32A40BDB08DD12) (beBytes 8 0x326891408F5F7549) ++
    retailCalls specimenSession.ksMac.1
      (beBytes 12 0x887022120C06C22899029000)
      (beBytes 16 0xBC22CBF88018FD6CF9D0FEEEB9389CC6)
      (beBytes 8 0x421FC5C012240BC3) (beBytes 8 0xFA855A5D4C50A8ED) ++
    retailCalls specimenSession.ksMac.1
      (beBytes 19 0x887022120C06C2290CB0000080000000970104)
      (beBytes 24 0xCACD5DEA5B7E5041EC837337E8F54D6E8032D7CEE4CBC6F2)
      (beBytes 8 0x130724FD552D600E) (beBytes 8 0xED6705417E96BA55) ++
    retailCalls specimenSession.ksMac.1
      (beBytes 23 0x887022120C06C22A870901423B259EA0068E3599029000)
      (beBytes 24 0xFC8C041C872613372757B1167FC329DC73CA01766DE5152A)
      (beBytes 8 0xB08419DDB235764B) (beBytes 8 0x428183F72E4F7A8B) ++
    retailCalls specimenSession.ksMac.1
      (beBytes 19 0x887022120C06C22B0CB0000480000000970103)
      (beBytes 24 0x5FDCCD9EE5E8A084170FC10A8CB2E0FAA226848EBD6FFC4C)
      (beBytes 8 0x9C59A099246E75BA) (beBytes 8 0xD7C20BD98EDDD602) ++
    retailCalls specimenSession.ksMac.1
      (beBytes 23 0x887022120C06C22C870901776A654265F1507399029000)
      (beBytes 24 0x8051179CCB8A97A404F81C18BA341CE33A6EAA0794E18F1C)
      (beBytes 8 0xBBDA95E3AA61F708) (beBytes 8 0xA55FC1F1CC2394C2) ++
    retailCalls specimenSession.ksMac.1
      (beBytes 27 0x887022120C06C22D0CA4020C80000000870901C8328FBC732CB68D)
      (beBytes 32 0x5EE5CE36703414597B205F4C6EDAF8B2337C31BAF526BCC7ABDFF2F466A7AB6F)
      (beBytes 8 0x96C4D33F82B962FB) (beBytes 8 0x8BF05AAE6A4DE8EF) ++
    retailCalls specimenSession.ksMac.1
      (beBytes 12 0x887022120C06C22E99029000)
      (beBytes 16 0x49C015D28B590EA05A84F778733A0B3B)
      (beBytes 8 0x68AD7C41E3E661BC) (beBytes 8 0x307FA6B65902FF74) ++
    retailCalls specimenSession.ksMac.1
      (beBytes 19 0x887022120C06C22F0CB0000080000000970104)
      (beBytes 24 0xBBBC2EAFE51B04E98143FD0C10D4EE6FBD13A5011E2C21F0)
      (beBytes 8 0x24EE399712347744) (beBytes 8 0xB4E7593C5D566E2) ++
    retailCalls specimenSession.ksMac.1
      (beBytes 23 0x887022120C06C23087090169ADF721DF729EA099029000)
      (beBytes 24 0xC52F3E26CA32618F8B10CA8A4D91751D95237EC36430E333)
      (beBytes 8 0x6479654070C0F4FD) (beBytes 8 0x1AC4A3D987013200) ++
    retailCalls specimenSession.ksMac.1
      (beBytes 19 0x887022120C06C2310CB0000480000000970106)
      (beBytes 24 0xFF559220A59C0931A6E084C40485115F1D3152856957CB65)
      (beBytes 8 0xB89D030AF72B7A80) (beBytes 8 0x94C571C50118B1F9) ++
    retailCalls specimenSession.ksMac.1
      (beBytes 23 0x887022120C06C23287090121B001383C1D52EA99029000)
      (beBytes 24 0x2B4BE6F11B30298FCC2437BBA86B862FF74A84D1DB7911C7)
      (beBytes 8 0x794F1FB61BAD1872) (beBytes 8 0x82CE0B0D6BDE79D9) ++
    retailCalls specimenSession.ksMac.1
      (beBytes 19 0x887022120C06C2330CB0000780000000970103)
      (beBytes 24 0xFEA6B922727F83F3410222EBF1AC7D7ECB5A4A3F85F0A694)
      (beBytes 8 0xE8EA5CE095F9D915) (beBytes 8 0xF10F50761CB426F9)

/-- The libraries during the read; BAC makes no EC call. -/
def specimenEnv : PassportEnv Unit Unit :=
  ⟨specimenRecording.ssl, .failing Unit Unit, fun _ => none⟩

/-- A completion that brings `bytes` and needs no randomness. -/
def replyEvent (bytes : Bytes) : PassportEvent := ⟨some bytes, none, none⟩

/-- The completions up to the end of DG1: Acquire, SELECT, GET CHALLENGE, MUTUAL
AUTHENTICATE, SELECT DG1, and two READ BINARY. -/
def specimenEvents : List PassportEvent := [
  replyEvent [],
  replyEvent [0x90, 0x00],
  ⟨some (beBytes 10 0x4608F919887022129000),
    some ⟨⟨beBytes 8 0x781723860C06C226, length_beBytes _ _⟩,
      ⟨beBytes 16 0x0B795240CB7049B01C19B33E32804F0B, length_beBytes _ _⟩⟩, none⟩,
  replyEvent (beBytes 42
    0x46B9342A41396CD7386BF5803104D7CEDC122B9132139BAF2EEDC94EE178534F2F2D235D074D74499000),
  replyEvent (beBytes 16 0x990290008E08FA855A5D4C50A8ED9000),
  replyEvent (beBytes 27 0x870901423B259EA0068E35990290008E08428183F72E4F7A8B9000),
  replyEvent (beBytes 27 0x870901776A654265F15073990290008E08A55FC1F1CC2394C29000)]

theorem passport_read_authenticated_specimen :
    (∃ before e after hs, specimenEvents.take 6 = before ++ e :: after ∧
      Handshake specimenEnv (passportRun specimenEnv (.bac specimenKeys false) before) e hs) ∧
    ∃ r before e after hs,
      some (⟨[0x50, 0x3C], none, none⟩ : PassportResult) = some r ∧
      specimenEvents = before ++ e :: after ∧
      Handshake specimenEnv (passportRun specimenEnv (.bac specimenKeys false) before) e hs ∧
      (passportRun specimenEnv (.bac specimenKeys false) specimenEvents).read.dg1.data
        = (trace (dg1Chunk specimenEnv hs) (PassportState.step specimenEnv)
          (passportRun specimenEnv (.bac specimenKeys false) (before ++ [e])) after).flatten ∧
      bacParseDg1Mrz (passportRun specimenEnv (.bac specimenKeys false) specimenEvents).read.dg1.data
        = some r.mrzText :=
  ⟨(passport_read_authenticated specimenEnv (.bac specimenKeys false) (specimenEvents.take 6)).1
      .dg1Rest ⟨beBytes 19 0x0CB000040D9701038E08D7C20BD98EDDD60200,
        some ⟨0x00, 0xB0, 0x00, 0x04, [], 3⟩⟩ _ (by decide +kernel) rfl,
    (passport_read_authenticated specimenEnv (.bac specimenKeys false) specimenEvents).2
      none _ (by decide +kernel)⟩

end NfcAdapter
