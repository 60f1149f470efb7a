/-
# Choosing the PACE protocol (`nfcd_client.c`, `pace.c`)

The protocol and the curve come from a file that nobody has authenticated yet.  What is
chosen from it is copied twice, for the MSE:Set AT command and into the exchange; the
tokens at the end authenticate the exchange's copy.
-/
import NfcAdapter.PassportCardAccess

namespace NfcAdapter

open Runs

variable {G P : Type} {env : PassportEnv G P}

/-! ## The entry that is picked -/

/-- The adapter implements the entry's protocol on the entry's curve. -/
def PaceInfoEntry.Usable (entry : PaceInfoEntry) : Prop :=
  paceOidSupported entry.oid = true ∧ (paceEcCurveForParameterId entry.parameterId).isSome = true

instance (entry : PaceInfoEntry) : Decidable entry.Usable := inferInstanceAs (Decidable (_ ∧ _))

/-- An entry the loop skips. -/
theorem pickEntry_cons_of_not_usable {entry : PaceInfoEntry} (h : ¬ entry.Usable)
    (rest : List PaceInfoEntry) : pickEntry (entry :: rest) = pickEntry rest := by
  rw [pickEntry]
  split_ifs with hoid
  · rfl
  · cases hcurve : paceEcCurveForParameterId entry.parameterId with
    | none => rfl
    | some curve => exact absurd ⟨by simpa using hoid, by rw [hcurve]; rfl⟩ h

/-- An entry the loop takes. -/
theorem pickEntry_cons_of_curve {entry : PaceInfoEntry} {curve : Curve}
    (hoid : paceOidSupported entry.oid = true)
    (hcurve : paceEcCurveForParameterId entry.parameterId = some curve)
    (rest : List PaceInfoEntry) : pickEntry (entry :: rest) = some (entry, curve) := by
  rw [pickEntry, if_neg (by simp [hoid]), hcurve]

/-- The first usable entry is picked. -/
theorem pickEntry_append {before : List PaceInfoEntry} (hbefore : ∀ b ∈ before, ¬ b.Usable)
    (rest : List PaceInfoEntry) : pickEntry (before ++ rest) = pickEntry rest := by
  induction before with
  | nil => rfl
  | cons b before ih =>
      obtain ⟨hb, hbefore⟩ := List.forall_mem_cons.mp hbefore
      rw [List.cons_append, pickEntry_cons_of_not_usable hb, ih hbefore]

/-- An entry is picked exactly if one is usable. -/
theorem pickEntry_isSome (entries : List PaceInfoEntry) :
    (pickEntry entries).isSome = true ↔ ∃ entry ∈ entries, entry.Usable := by
  induction entries with
  | nil => simp [pickEntry]
  | cons entry rest ih =>
      by_cases h : entry.Usable
      · obtain ⟨curve, hcurve⟩ := Option.isSome_iff_exists.mp h.2
        rw [pickEntry_cons_of_curve h.1 hcurve]
        exact ⟨fun _ => ⟨entry, List.mem_cons_self, h⟩, fun _ => rfl⟩
      · rw [pickEntry_cons_of_not_usable h, ih]
        simp [h]

/-- What is picked is supported. -/
theorem pickEntry_supported {entries : List PaceInfoEntry} {entry : PaceInfoEntry}
    {curve : Curve} (h : pickEntry entries = some (entry, curve)) :
    paceOidSupported entry.oid = true := by
  induction entries with
  | nil => cases h
  | cons first rest ih =>
      by_cases hfirst : first.Usable
      · obtain ⟨curve', hcurve⟩ := Option.isSome_iff_exists.mp hfirst.2
        rw [pickEntry_cons_of_curve hfirst.1 hcurve] at h
        cases h
        exact hfirst.1
      · rw [pickEntry_cons_of_not_usable hfirst] at h
        exact ih h

/-! ## The exchange -/

/-- EC set-up succeeds for every curve the adapter asks for, with coordinates that fit their
arrays. -/
def EcApi.SetsUp (ec : EcApi G P) : Prop :=
  ∀ curve, ∃ group, ec.groupNewByCurveName curve = some group ∧
    1 ≤ (ec.getDegree group + 7) / 8 ∧ (ec.getDegree group + 7) / 8 ≤ paceCoordLenMax

/-- A supported protocol fits its array and has a key length. -/
theorem paceOidSupported_fits {oid : Bytes} (h : paceOidSupported oid = true) :
    ¬ (paceKeyLenForOid oid = 0 ∨ oid.length > 16) := by
  rcases paceOidSupported_cases h with rfl | rfl <;> decide

/-- The exchange is created for the curve, the protocol and its key length. -/
theorem paceExchangeNew_of_setsUp {ssl : OpenSsl} {ec : EcApi G P} (hec : ec.SetsUp) (k : Bytes)
    (curve : Curve) {oid : Bytes} (hoid : paceOidSupported oid = true) :
    ∃ pace, paceExchangeNew ssl ec k curve oid = some pace ∧ pace.oid = oid ∧
      pace.keyLen = paceKeyLenForOid oid ∧ ec.groupNewByCurveName curve = some pace.group := by
  obtain ⟨group, hgroup, hpos, hmax⟩ := hec curve
  have hok := paceOidSupported_fits hoid
  have hcoord : ¬ ((ec.getDegree group + 7) / 8 = 0 ∨
      (ec.getDegree group + 7) / 8 > paceCoordLenMax) := by omega
  simp only [paceExchangeNew, if_neg hok, hgroup, Option.bind_eq_bind, Option.bind_some,
    if_neg hcoord]
  exact ⟨_, rfl, rfl, rfl, rfl⟩

/-- Whatever the curves do, an exchange belongs to the protocol it was asked for. -/
theorem paceExchangeNew_oid {ssl : OpenSsl} {ec : EcApi G P} {k oid : Bytes} {curve : Curve}
    {pace : PaceExchange G} (h : paceExchangeNew ssl ec k curve oid = some pace) :
    pace.oid = oid := by
  unfold paceExchangeNew at h
  split_ifs at h
  simp only [Option.bind_eq_bind, Option.bind_eq_some_iff] at h
  obtain ⟨group, -, h⟩ := h
  split_ifs at h
  cases h
  rfl

/-- The rounds keep the protocol. -/
theorem paceProcessNonceResponse_oid {ssl : OpenSsl} {pace pace' : PaceExchange G} {resp : Bytes}
    (h : paceProcessNonceResponse ssl pace resp = some pace') : pace'.oid = pace.oid := by
  simp only [paceProcessNonceResponse, Option.bind_eq_bind, Option.bind_eq_some_iff] at h
  obtain ⟨z, -, h⟩ := h
  split_ifs at h
  obtain ⟨nonce, -, h⟩ := Option.bind_eq_some_iff.mp h
  cases h
  rfl

theorem paceBuildMapNonce_oid {ec : EcApi G P} {pace pace' : PaceExchange G} {random : Option ℕ}
    {apdu : Bytes} (h : paceBuildMapNonce ec pace random = some (pace', apdu)) :
    pace'.oid = pace.oid := by
  simp only [paceBuildMapNonce, Option.bind_eq_bind, Option.bind_eq_some_iff] at h
  obtain ⟨_, -, _, -, _, -, h⟩ := h
  cases h
  rfl

theorem paceProcessMapNonceResponse_oid {ec : EcApi G P} {pace pace' : PaceExchange G}
    {resp : Bytes} (h : paceProcessMapNonceResponse ec pace resp = some pace') :
    pace'.oid = pace.oid := by
  simp only [paceProcessMapNonceResponse, Option.bind_eq_bind, Option.bind_eq_some_iff] at h
  obtain ⟨_, -, _, -, _, -, _, -, _, -, _, -, _, -, _, -, _, -, h⟩ := h
  cases h
  rfl

theorem paceBuildKeyAgreement_oid {ec : EcApi G P} {pace pace' : PaceExchange G}
    {random : Option ℕ} {apdu : Bytes}
    (h : paceBuildKeyAgreement ec pace random = some (pace', apdu)) : pace'.oid = pace.oid := by
  simp only [paceBuildKeyAgreement, Option.bind_eq_bind, Option.bind_eq_some_iff] at h
  obtain ⟨_, -, _, -, _, -, _, -, h⟩ := h
  cases h
  rfl

theorem paceProcessKeyAgreementResponse_oid {ssl : OpenSsl} {ec : EcApi G P}
    {pace pace' : PaceExchange G} {resp : Bytes}
    (h : paceProcessKeyAgreementResponse ssl ec pace resp = some pace') :
    pace'.oid = pace.oid := by
  simp only [paceProcessKeyAgreementResponse, Option.bind_eq_bind, Option.bind_eq_some_iff] at h
  obtain ⟨z, -, h⟩ := h
  split_ifs at h
  simp only [Option.bind_eq_some_iff] at h
  obtain ⟨_, -, _, -, _, -, _, -, _, -, _, -, h⟩ := h
  cases h
  rfl

/-! ## Where the OID is used -/

/-- A use of a protocol's OID: in the MSE:Set AT command that is sent, or in the input of an
authentication token. -/
inductive OidUse where
  | mseSetAt (apdu : Bytes)
  | token (input : Bytes)

/-- The use a completion makes: MSE:Set AT follows the selection, the adapter's token is over
the chip's key, and the token expected of the chip over the adapter's own. -/
def oidUse (env : PassportEnv G P) (s : PassportState G) (e : PassportEvent) : Option OidUse :=
  match s.status, e.reply with
  | .waiting .efCardAccessRest _, some _ =>
    match (s.step env e).status with
    | .waiting .paceMseSetAt request => some (.mseSetAt request.apdu)
    | _ => none
  | .waiting .paceKeyAgreement _, some bytes =>
    (s.read.pace.bind fun pace => paceProcessKeyAgreementResponse env.ssl env.ec pace bytes).map
      fun pace => .token (encodeTokenInput pace pace.chipPub2)
  | .waiting .paceMutualAuth _, some _ =>
    s.read.pace.map fun pace => .token (encodeTokenInput pace pace.myPub2)
  | _, _ => none

/-- The bytes of an OID with its length in front of them. -/
def oidField (oid : Bytes) : Bytes := oid.length.toUInt8 :: oid

/-- The command of `pace_build_mse_set_at` around its OID. -/
theorem paceBuildMseSetAt_eq (oid : Bytes) :
    ∃ lc, paceBuildMseSetAt oid true
      = [0x00, 0x22, 0xC1, 0xA4, lc, 0x80] ++ oidField oid ++ [0x83, 0x01, 0x02] :=
  ⟨(2 + oid.length + 3).toUInt8, by simp [paceBuildMseSetAt, oidField]⟩

/-- The template of `encode_token_input` around its OID. -/
theorem encodeTokenInput_eq (pace : PaceExchange G) (pub2 : Bytes) :
    ∃ len key, encodeTokenInput pace pub2 = [0x7F, 0x49, len, 0x06] ++ oidField pace.oid ++ key :=
  ⟨(2 + pace.oid.length + 2 + pace.pubLen).toUInt8, [0x86, pace.pubLen.toUInt8] ++ pub2, by
    simp [encodeTokenInput, oidField]⟩

/-- A use of this OID. -/
def OidUse.Of (oid : Bytes) : OidUse → Prop
  | .mseSetAt apdu => ∃ lc, apdu = [0x00, 0x22, 0xC1, 0xA4, lc, 0x80] ++ oidField oid ++
      [0x83, 0x01, 0x02]
  | .token input => ∃ len key, input = [0x7F, 0x49, len, 0x06] ++ oidField oid ++ key

/-- One MSE:Set AT, and only tokens behind it, all of them of one OID. -/
def OidsAgree (oid : Bytes) (uses : List OidUse) : Prop :=
  ∃ apdu tokens, uses = .mseSetAt apdu :: tokens ∧ (∀ use ∈ tokens, ∃ input, use = .token input) ∧
    ∀ use ∈ uses, use.Of oid

/-- A further token. -/
theorem OidsAgree.token {oid : Bytes} {uses : List OidUse} (h : OidsAgree oid uses)
    {pace : PaceExchange G} (hoid : pace.oid = oid) (pub2 : Bytes) :
    OidsAgree oid (uses ++ [.token (encodeTokenInput pace pub2)]) := by
  obtain ⟨apdu, tokens, rfl, htokens, hof⟩ := h
  refine ⟨apdu, tokens ++ [.token (encodeTokenInput pace pub2)], rfl, ?_, ?_⟩
  · intro use huse
    rcases List.mem_append.mp huse with huse | huse
    · exact htokens use huse
    · exact ⟨_, List.mem_singleton.mp huse⟩
  · intro use huse
    rcases List.mem_append.mp huse with huse | huse
    · exact hof use huse
    · rw [List.mem_singleton.mp huse, ← hoid]
      exact encodeTokenInput_eq pace pub2

/-! ## The callbacks of the exchange -/

/-- The callbacks before an entry is chosen. -/
def Pending.beforeSelection : Pending → Bool
  | .passportAcquire | .selectEfCardAccess | .efCardAccessRest => true
  | _ => false

/-- The callbacks while an exchange is running. -/
def Pending.exchanging : Pending → Bool
  | .paceMseSetAt | .paceGetNonce | .paceMapNonce | .paceKeyAgreement | .paceMutualAuth => true
  | _ => false

theorem Pending.phase_of_nexts {p q : Pending} (h : q ∈ p.nexts) :
    (q.beforeSelection = true → p.beforeSelection = true) ∧
      (q.exchanging = true → p.exchanging = true ∨ (p = .efCardAccessRest ∧ q = .paceMseSetAt)) ∧
      (p = .paceMutualAuth → q.exchanging = false) := by
  cases p <;> simp only [Pending.nexts, List.mem_cons, List.not_mem_nil, or_false] at h <;>
    rcases h with rfl | rfl <;> simp [Pending.beforeSelection, Pending.exchanging]

/-- An exchange for the OID that was selected. -/
def Selected (read : PassportRead G) (oid : Bytes) : Prop :=
  read.paceSelectedOid = oid ∧ ∃ pace, read.pace = some pace ∧ pace.oid = oid

/-- The end of the selection. -/
theorem passportCardAccessDone_waiting {read : PassportRead G} {q : Pending}
    {request : PassportRequest} (h : (passportCardAccessDone env read).2 = .waiting q request) :
    ∃ oid, Selected (passportCardAccessDone env read).1 oid ∧
      request.apdu = paceBuildMseSetAt oid true := by
  unfold passportCardAccessDone at h ⊢
  cases hparse : paceParseCardAccess read.cardAccess 8 with
  | none =>
      rw [hparse] at h
      cases h
  | some entries =>
      rw [hparse] at h
      simp only at h ⊢
      cases hpick : passportPickPaceEntry env read.paceK entries with
      | error text =>
          rw [hpick] at h
          cases h
      | ok picked =>
          obtain ⟨pace, oid⟩ := picked
          rw [hpick] at h
          simp only [passportTransceive, PassportStatus.waiting.injEq] at h ⊢
          refine ⟨oid, ⟨rfl, pace, rfl, ?_⟩, by rw [← h.2]⟩
          unfold passportPickPaceEntry at hpick
          split at hpick
          · cases hpick
          · next entry curve _ =>
            split at hpick
            · cases hpick
            · next hnew =>
              cases hpick
              exact paceExchangeNew_oid hnew

/-- A callback of the exchange that goes on keeps the OID. -/
theorem exchanging_ready {read : PassportRead G} {oid : Bytes} (h : Selected read oid)
    {p q : Pending} (hp : p.exchanging = true) (hne : p ≠ .paceMutualAuth) {e : PassportEvent}
    {bytes : Bytes} {request : PassportRequest}
    (hready : (passportReady env read e bytes p).2 = .waiting q request) :
    Selected (passportReady env read e bytes p).1 oid := by
  obtain ⟨hselected, pace, hpace, hoid⟩ := h
  cases p with
  | paceMseSetAt =>
      simp only [passportReady, paceMseSetAtReady] at hready ⊢
      split at hready
      · cases hready
      · exact ⟨hselected, pace, hpace, hoid⟩
  | paceGetNonce =>
      simp only [passportReady, paceGetNonceReady, hpace, Option.bind_some] at hready ⊢
      cases hnonce : paceProcessNonceResponse env.ssl pace bytes with
      | none =>
          rw [hnonce] at hready
          cases hready
      | some pace' =>
          rw [hnonce] at hready
          simp only at hready ⊢
          cases hmap : paceBuildMapNonce env.ec pace' e.scalar with
          | none =>
              rw [hmap] at hready
              cases hready
          | some built =>
              exact ⟨hselected, built.1, rfl, (paceBuildMapNonce_oid hmap).trans
                ((paceProcessNonceResponse_oid hnonce).trans hoid)⟩
  | paceMapNonce =>
      simp only [passportReady, paceMapNonceReady, hpace, Option.bind_some] at hready ⊢
      cases hmap : paceProcessMapNonceResponse env.ec pace bytes with
      | none =>
          rw [hmap] at hready
          cases hready
      | some pace' =>
          rw [hmap] at hready
          simp only at hready ⊢
          cases hagree : paceBuildKeyAgreement env.ec pace' e.scalar with
          | none =>
              rw [hagree] at hready
              cases hready
          | some built =>
              exact ⟨hselected, built.1, rfl, (paceBuildKeyAgreement_oid hagree).trans
                ((paceProcessMapNonceResponse_oid hmap).trans hoid)⟩
  | paceKeyAgreement =>
      simp only [passportReady, paceKeyAgreementReady, hpace, Option.bind_some] at hready ⊢
      cases hagree : paceProcessKeyAgreementResponse env.ssl env.ec pace bytes with
      | none =>
          rw [hagree] at hready
          cases hready
      | some pace' =>
          rw [hagree] at hready
          simp only at hready ⊢
          have hoid' := (paceProcessKeyAgreementResponse_oid hagree).trans hoid
          cases paceBuildMutualAuth env.ssl pace' with
          | none => exact ⟨hselected, pace', rfl, hoid'⟩
          | some apdu => exact ⟨hselected, pace', rfl, hoid'⟩
  | paceMutualAuth => exact absurd rfl hne
  | _ => cases hp

/-! ## Runs -/

/-- The invariant of a run with the uses so far. -/
structure SelectionInv (s : PassportState G) (uses : List OidUse) : Prop where
  before : ∀ p request, s.status = .waiting p request → p.beforeSelection = true → uses = []
  exchanging : ∀ p request, s.status = .waiting p request → p.exchanging = true →
    ∃ oid, Selected s.read oid ∧ OidsAgree oid uses
  agree : uses = [] ∨ ∃ oid, OidsAgree oid uses

/-- Only three callbacks use an OID. -/
theorem oidUse_of_waiting {s : PassportState G} {e : PassportEvent} {p : Pending}
    {request : PassportRequest} (hs : s.status = .waiting p request)
    (hp : p ≠ .efCardAccessRest ∧ p ≠ .paceKeyAgreement ∧ p ≠ .paceMutualAuth) :
    oidUse env s e = none := by
  obtain ⟨hrest, hagree, hauth⟩ := hp
  unfold oidUse
  rw [hs]
  cases p <;> first | rfl | contradiction

/-- A completion that brings no reply uses none. -/
theorem oidUse_of_reply_none {s : PassportState G} {e : PassportEvent} (he : e.reply = none) :
    oidUse env s e = none := by
  unfold oidUse
  rw [he]
  split <;> simp_all

/-- The command behind the loop is the one the selection builds. -/
theorem passportEfCardAccessRestReady_selected {read : PassportRead G} {bytes : Bytes}
    {request : PassportRequest} {out : PassportRead G × PassportStatus}
    (hout : passportEfCardAccessRestReady env read bytes = out)
    (h : out.2 = .waiting .paceMseSetAt request) :
    ∃ oid, Selected out.1 oid ∧ request.apdu = paceBuildMseSetAt oid true := by
  have hmore : ∀ read' : PassportRead G, passportCardAccessMore env read' = out →
      ∃ oid, Selected out.1 oid ∧ request.apdu = paceBuildMseSetAt oid true := by
    rintro read' rfl
    unfold passportCardAccessMore at h ⊢
    split_ifs at h ⊢
    · cases h
    · exact passportCardAccessDone_waiting h
  unfold passportEfCardAccessRestReady at hout
  split_ifs at hout
  · subst hout
    cases h
  · split at hout
    · subst hout
      cases h
    · simp only at hout
      split_ifs at hout
      · split at hout
        · subst hout
          cases h
        · split_ifs at hout
          · subst hout
            cases h
          · exact hmore _ hout
      · exact hmore _ hout

/-- Where nothing is used and the callback goes on, the phase of the read decides. -/
theorem SelectionInv.step_quiet {s : PassportState G} {uses : List OidUse}
    (h : SelectionInv s uses) {e : PassportEvent} {bytes : Bytes} {p : Pending}
    {request : PassportRequest} (hs : s.status = .waiting p request)
    (he : e.reply = some bytes) (hrest : p ≠ .efCardAccessRest) (hauth : p ≠ .paceMutualAuth) :
    SelectionInv (s.step env e) uses := by
  refine ⟨?_, ?_, h.agree⟩
  · intro q request' hs' hq
    exact h.before p request hs ((Pending.phase_of_nexts (step_nexts hs hs')).1 hq)
  · intro q request' hs' hq
    rcases (Pending.phase_of_nexts (step_nexts hs hs')).2.1 hq with hp | ⟨rfl, -⟩
    · obtain ⟨oid, hselected, hagree⟩ := h.exchanging p request hs hp
      rw [step_reply hs he] at hs' ⊢
      exact ⟨oid, exchanging_ready hselected hp hauth hs', hagree⟩
    · exact absurd rfl hrest

/-- The completion that may choose an entry. -/
theorem SelectionInv.step_selection {s : PassportState G} {uses : List OidUse}
    (h : SelectionInv s uses) {e : PassportEvent} {bytes : Bytes} {request : PassportRequest}
    (hs : s.status = .waiting .efCardAccessRest request) (he : e.reply = some bytes) :
    SelectionInv (s.step env e) (uses ++ (oidUse env s e).toList) := by
  have huses : uses = [] := h.before _ request hs rfl
  have hstep : s.step env e = ⟨(passportReady env s.read e bytes .efCardAccessRest).1,
      (passportReady env s.read e bytes .efCardAccessRest).2⟩ := step_reply hs he
  by_cases hselect : ∃ request', (s.step env e).status = .waiting .paceMseSetAt request'
  · obtain ⟨request', hs'⟩ := hselect
    have huse : oidUse env s e = some (.mseSetAt request'.apdu) := by
      simp only [oidUse, hs, he, hs']
    rw [hstep] at hs'
    obtain ⟨oid, hselected, hapdu⟩ := passportEfCardAccessRestReady_selected rfl hs'
    have hagree : OidsAgree oid [.mseSetAt request'.apdu] := by
      refine ⟨_, [], rfl, by simp, ?_⟩
      intro use huse
      rw [List.mem_singleton.mp huse, hapdu]
      exact paceBuildMseSetAt_eq oid
    rw [huse, huses, Option.toList_some, List.nil_append]
    refine ⟨?_, ?_, Or.inr ⟨oid, hagree⟩⟩
    · intro q request'' hs'' hq
      rw [hstep, hs', PassportStatus.waiting.injEq] at hs''
      rw [← hs''.1] at hq
      cases hq
    · intro q request'' hs'' hq
      rw [hstep]
      exact ⟨oid, hselected, hagree⟩
  · have huse : oidUse env s e = none := by
      unfold oidUse
      rw [hs, he]
      simp only
      split
      · next request' hs' => exact absurd ⟨request', hs'⟩ hselect
      · rfl
    rw [huse, huses, Option.toList_none, List.append_nil]
    refine ⟨fun _ _ _ _ => rfl, ?_, Or.inl rfl⟩
    intro q request' hs' hq
    rcases (Pending.phase_of_nexts (step_nexts hs hs')).2.1 hq with hp | ⟨-, rfl⟩
    · cases hp
    · exact absurd ⟨request', hs'⟩ hselect

/-- The completion the adapter's token follows. -/
theorem SelectionInv.step_keyAgreement {s : PassportState G} {uses : List OidUse}
    (h : SelectionInv s uses) {e : PassportEvent} {bytes : Bytes} {request : PassportRequest}
    (hs : s.status = .waiting .paceKeyAgreement request) (he : e.reply = some bytes) :
    SelectionInv (s.step env e) (uses ++ (oidUse env s e).toList) := by
  obtain ⟨oid, ⟨hselected, pace, hpace, hoid⟩, hagree⟩ := h.exchanging _ request hs rfl
  have hquiet : SelectionInv (s.step env e) uses := h.step_quiet hs he (by decide) (by decide)
  cases hprocess : paceProcessKeyAgreementResponse env.ssl env.ec pace bytes with
  | none =>
      have huse : oidUse env s e = none := by
        simp [oidUse, hs, he, hpace, hprocess]
      rw [huse, Option.toList_none, List.append_nil]
      exact hquiet
  | some pace' =>
      have huse : oidUse env s e = some (.token (encodeTokenInput pace' pace'.chipPub2)) := by
        simp [oidUse, hs, he, hpace, hprocess]
      have hagree' := hagree.token ((paceProcessKeyAgreementResponse_oid hprocess).trans hoid)
        pace'.chipPub2
      rw [huse, Option.toList_some]
      refine ⟨?_, ?_, Or.inr ⟨oid, hagree'⟩⟩
      · intro q request' hs' hq
        have hp := (Pending.phase_of_nexts (step_nexts hs hs')).1 hq
        cases hp
      · intro q request' hs' hq
        rw [step_reply hs he] at hs' ⊢
        exact ⟨oid, exchanging_ready ⟨hselected, pace, hpace, hoid⟩ rfl (by decide) hs', hagree'⟩

/-- The completion that brings the chip's token. -/
theorem SelectionInv.step_mutualAuth {s : PassportState G} {uses : List OidUse}
    (h : SelectionInv s uses) {e : PassportEvent} {bytes : Bytes} {request : PassportRequest}
    (hs : s.status = .waiting .paceMutualAuth request) (he : e.reply = some bytes) :
    SelectionInv (s.step env e) (uses ++ (oidUse env s e).toList) := by
  obtain ⟨oid, ⟨hselected, pace, hpace, hoid⟩, hagree⟩ := h.exchanging _ request hs rfl
  have huse : oidUse env s e = some (.token (encodeTokenInput pace pace.myPub2)) := by
    simp [oidUse, hs, he, hpace]
  rw [huse, Option.toList_some]
  refine ⟨?_, ?_, Or.inr ⟨oid, hagree.token hoid pace.myPub2⟩⟩
  · intro q request' hs' hq
    have hp := (Pending.phase_of_nexts (step_nexts hs hs')).1 hq
    cases hp
  · intro q request' hs' hq
    have hp := (Pending.phase_of_nexts (step_nexts hs hs')).2.2 rfl
    rw [hp] at hq
    cases hq

/-- One completion keeps the invariant. -/
theorem SelectionInv.step {s : PassportState G} {uses : List OidUse} (h : SelectionInv s uses)
    (e : PassportEvent) :
    SelectionInv (s.step env e) (uses ++ (oidUse env s e).toList) := by
  rcases hs : s.status with ⟨p, request⟩ | ⟨success, text, result⟩ | _
  · rcases he : e.reply with _ | bytes
    · have hne : ∀ q request', (s.step env e).status ≠ .waiting q request' := by
        rw [step_replyFailed hs he]
        exact passportReplyFailed_ne_waiting env s.read p
      rw [oidUse_of_reply_none he, Option.toList_none, List.append_nil]
      exact ⟨fun q request' hs' => absurd hs' (hne q request'),
        fun q request' hs' => absurd hs' (hne q request'), h.agree⟩
    · by_cases hrest : p = .efCardAccessRest
      · subst hrest
        exact h.step_selection hs he
      · by_cases hagree : p = .paceKeyAgreement
        · subst hagree
          exact h.step_keyAgreement hs he
        · by_cases hauth : p = .paceMutualAuth
          · subst hauth
            exact h.step_mutualAuth hs he
          · rw [oidUse_of_waiting hs ⟨hrest, hagree, hauth⟩, Option.toList_none, List.append_nil]
            exact h.step_quiet hs he hrest hauth
  · have huse : oidUse env s e = none := by
      simp [oidUse, hs]
    rw [step_of_not_waiting e (by simp [hs]), huse, Option.toList_none, List.append_nil]
    exact h
  · have huse : oidUse env s e = none := by
      simp [oidUse, hs]
    rw [step_of_not_waiting e (by simp [hs]), huse, Option.toList_none, List.append_nil]
    exact h

theorem PassportStart.selectionInv (start : PassportStart) :
    SelectionInv (start.state : PassportState G) [] := by
  refine ⟨fun _ _ _ _ => rfl, ?_, Or.inl rfl⟩
  intro p request hs hp
  rcases start with ⟨keys, readPhoto⟩ | ⟨paceK, readPhoto⟩ <;> cases hs <;> cases hp

/-- In a run that uses an OID at all, all uses are of one. -/
theorem oidUses_agree (env : PassportEnv G P) (start : PassportStart)
    (events : List PassportEvent) :
    trace (oidUse env) (PassportState.step env) start.state events = [] ∨
      ∃ oid, OidsAgree oid (trace (oidUse env) (PassportState.step env) start.state events) :=
  (trace_invariant SelectionInv (fun _ _ e hinv => hinv.step e) start.selectionInv events).agree

/-- The three curves with the sizes of their fields. -/
def selectionEc : EcApi Curve Unit :=
  { EcApi.failing Curve Unit with
    groupNewByCurveName := some
    getDegree := fun curve => if curve = .brainpoolP320r1 then 320 else 256 }

def selectionEnv : PassportEnv Curve Unit := ⟨specimenRecording.ssl, selectionEc, fun _ => none⟩

theorem selectionEc_setsUp : selectionEc.SetsUp := by
  intro curve
  refine ⟨curve, rfl, ?_⟩
  cases curve <;> decide

/-- A file with AES-192 on NIST P-256, which is skipped, and AES-128 on brainpoolP256r1. -/
def skippingCardAccess : Bytes :=
  [0x31, 0x28, 0x30, 0x12, 0x06, 0x0A] ++ idPacePrefix ++
    [0x02, 0x03, 0x02, 0x01, 0x02, 0x02, 0x01, 0x0C, 0x30, 0x12, 0x06, 0x0A] ++
    paceOidAes128 ++ [0x02, 0x01, 0x02, 0x02, 0x01, 0x0D]

/-- The read when its last part has arrived. -/
def skippingRead : PassportRead Curve :=
  { (PassportStart.pace [0x31] false).state.read with cardAccess := skippingCardAccess }

end NfcAdapter
