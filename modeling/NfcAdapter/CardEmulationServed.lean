/-
# A profile serves what was accepted for it

The bytes a reader gets from a profile are those of the add that wrote it last.  They are
the payload of the last add that was accepted for its AID as long as every add that writes a
profile asks for a payload that can be decoded, and is accepted in the end.
-/
import NfcAdapter.CardEmulationService
import NfcAdapter.CardEmulationTable
import NfcAdapter.NdefBuild

namespace NfcAdapter

open Runs
open Json (Value)

/-! ## What was accepted -/

/-- The last add for an AID. -/
def latestAdd (h : List AddRecord) (aid : Bytes) : Option AddRecord :=
  (h.filter fun r => r.aid = some aid).getLast?

/-- The last add for an AID that was answered with success. -/
def acceptedAdd (h : List AddRecord) (aid : Bytes) : Option AddRecord :=
  (h.filter fun r => r.aid = some aid ∧ r.answer = some true).getLast?

/-- Every profile is for one AID, and once all adds for that AID have been answered, reads
return the payload of the last one accepted. -/
structure Serves (h : List AddRecord) (s : HceState) : Prop where
  named : ∀ p ∈ s.hceProfiles, ∃ aid, p.aidHex = ndefBytesToHex aid
  names : ∀ aid aid', ndefBytesToHex aid = ndefBytesToHex aid' ↔ aid = aid'
  serves : ∀ p ∈ s.hceProfiles, ∀ aid, p.aidHex = ndefBytesToHex aid →
    (∀ r ∈ h, r.aid = some aid → r.answer ≠ none) →
    ∃ r, acceptedAdd h aid = some r ∧ ∀ ins, ins = 0xB0 ∨ ins = 0xCA → ∀ nextResponseId,
      (hceHandleProcess p nextResponseId ins).1.data = r.payload

/-- An add whose payload is there and cannot be decoded is refused and changes no profile. -/
def CardEvent.Declined (s : HceState) (e : CardEvent) : Prop :=
  match e with
  | .addCardEmulationProfile _ payloadHex _ _ =>
    payloadHex.isSome = true → hexParam payloadHex = none →
      addAnswer s e = some false ∧ (cardStep s e).hceProfiles = s.hceProfiles
  | _ => True

/-- The refusal of the Register call with this number reaches no profile: the add it was made
for is not the last one of its AID, or the AID's profile is gone. -/
def RefusalHarmless (h : List AddRecord) (s : HceState) (call : ℕ) : Prop :=
  ∀ r ∈ h, r.Awaits call →
    match r.aid with
    | none => True
    | some aid => s.lookup (ndefBytesToHex aid) = none ∨
        (latestAdd h aid).all (fun r => ¬ r.Awaits call) = true

instance (h : List AddRecord) (s : HceState) (call : ℕ) : Decidable (RefusalHarmless h s call) :=
  @List.decidableBAll _ _ (fun r => by
    have : Decidable (match r.aid with
      | none => True
      | some aid => s.lookup (ndefBytesToHex aid) = none ∨
          (latestAdd h aid).all (fun r => ¬ r.Awaits call) = true) := by
      split <;> infer_instance
    infer_instance) h

/-- An add that the client does not turn away names its AID in hex throughout, has a payload
that is absent or can be decoded, and for a new AID finds nfcd there; a Register call is
refused only where that reaches no profile, and answered only for a profile that still is
there. -/
def CardEvent.Accepted (x : HceState × List AddRecord) : CardEvent → Prop
  | .addCardEmulationProfile aidHex payloadHex _ exported =>
    match ndefHexToBytes (getStringParam aidHex) with
    | none => True
    | some aid =>
      x.1.lookup (ndefBytesToHex aid) = none ∧ exported = false ∨
      hexParam aidHex = some aid ∧
        (payloadHex.isSome = true → (hexParam payloadHex).isSome = true) ∧
        (x.1.lookup (ndefBytesToHex aid) = none → x.1.daemon = true)
  | .deliver i =>
    match x.1.calls.replies[i]? with
    | some (n, .registerLocalHostApp _ _ _ req, reply) =>
      if reply.accepts then x.1.hceProfiles.any (·.pointer = req.profile) = true
      else RefusalHarmless x.2 x.1 n
    | _ => True
  | _ => True

instance (x : HceState × List AddRecord) (e : CardEvent) : Decidable (e.Accepted x) := by
  unfold CardEvent.Accepted
  split
  · split <;> infer_instance
  · split <;> infer_instance
  · infer_instance

/-! ## Hex parameters -/

/-- What is hex as a whole is what the code decodes. -/
theorem getStringParam_of_hexParam {member : Option Value} {bytes : Bytes}
    (h : hexParam member = some bytes) : ndefHexToBytes (getStringParam member) = some bytes := by
  unfold hexParam at h
  split at h
  · next s =>
    have hnul : (0 : UInt8) ∉ s := by
      intro hmem
      rw [ndefHexToBytes] at h
      split at h
      · cases h
      · next heven =>
        rw [hexPairs_of_nul (by omega) hmem] at h
        cases h
    rw [getStringParam, cString_of_notMem hnul]
    exact h
  · cases h

/-- An AID that was decoded is not empty. -/
theorem ndefHexToBytes_ne_nil {hex : Option Bytes} {bytes : Bytes}
    (h : ndefHexToBytes hex = some bytes) : bytes ≠ [] := by
  rintro rfl
  unfold ndefHexToBytes at h
  split at h
  · cases h
  · next hex =>
    split at h
    · cases h
    · next hlen =>
      rcases hex with - | ⟨hi, - | ⟨lo, rest⟩⟩
      · simp at hlen
      · simp at hlen
      · rw [hexPairs] at h
        cases hhi : asciiXdigitValue hi <;> cases hlo : asciiXdigitValue lo <;>
          cases hrest : hexPairs rest <;> simp [hhi, hlo, hrest] at h

/-! ## The last add -/

theorem latestAdd_append (h : List AddRecord) (r : AddRecord) (aid : Bytes) :
    latestAdd (h ++ [r]) aid = if r.aid = some aid then some r else latestAdd h aid := by
  unfold latestAdd
  rw [List.filter_append]
  by_cases hr : r.aid = some aid <;> simp [hr]

theorem latestAdd_map {f : AddRecord → AddRecord} (hf : ∀ r, (f r).aid = r.aid)
    (h : List AddRecord) (aid : Bytes) : latestAdd (h.map f) aid = (latestAdd h aid).map f := by
  unfold latestAdd
  rw [List.filter_map, List.getLast?_map]
  congr 2
  exact List.filter_congr fun r _ => by simp only [Function.comp, hf]

theorem aid_settle (call : ℕ) (success : Bool) (r : AddRecord) :
    (r.settle call success).aid = r.aid := by
  unfold AddRecord.settle
  split <;> rfl

theorem payload_settle (call : ℕ) (success : Bool) (r : AddRecord) :
    (r.settle call success).payload = r.payload := by
  unfold AddRecord.settle
  split <;> rfl

theorem mem_of_latestAdd {h : List AddRecord} {aid : Bytes} {r : AddRecord}
    (hr : latestAdd h aid = some r) : r ∈ h ∧ r.aid = some aid := by
  have hmem := List.mem_of_getLast? hr
  simpa using List.mem_filter.mp hmem

/-- The last add is the last one accepted, if it was accepted. -/
theorem acceptedAdd_of_latest {h : List AddRecord} {aid : Bytes} {r : AddRecord}
    (hr : latestAdd h aid = some r) (hanswer : r.answer = some true) :
    acceptedAdd h aid = some r := by
  obtain ⟨older, holder⟩ := List.getLast?_eq_some_iff.mp hr
  have hsplit : (h.filter fun r => r.aid = some aid ∧ r.answer = some true)
      = (h.filter fun r => r.aid = some aid).filter fun r => r.answer = some true := by
    rw [List.filter_filter]
    exact List.filter_congr fun r _ => by simp [and_comm]
  rw [acceptedAdd, hsplit, holder, List.filter_append]
  simp [hanswer]

/-! ## What a step does to payloads -/

/-- With nfcd there a registration answers nothing yet. -/
theorem answer_hceDoRegister {s : HceState} (hd : s.daemon = true) (profile : HceProfile)
    (request : AddRequest) : (hceDoRegister s profile request).2 = none := by
  rcases hceDoRegister_cases s profile request with ⟨hno, -⟩ | ⟨-, heq⟩
  · rw [hd] at hno
    cases hno
  · rw [heq]

/-- The profile has the request's AID and payload, or it is an old one for another AID. -/
def WrittenBy (s : HceState) (request : AddRequest) (p : HceProfile) : Prop :=
  p.aidHex = ndefBytesToHex request.aid ∧ p.payload = request.payload ∨
    p.aidHex ≠ ndefBytesToHex request.aid ∧ p ∈ s.hceProfiles

/-- A renewed profile is the only one for its AID. -/
theorem written_renew {s : HceState} (htable : TableInv s) {request : AddRequest}
    {profile : HceProfile} (hlookup : s.lookup (ndefBytesToHex request.aid) = some profile)
    {q : HceProfile} (hq : q ∈ (s.renew profile request).hceProfiles) :
    WrittenBy s request q ∧ (q.pointer = profile.pointer ↔ q.aidHex = profile.aidHex) := by
  obtain ⟨hmem, hname⟩ := mem_of_lookup hlookup
  obtain ⟨p, hp, rfl⟩ := List.mem_map.mp hq
  by_cases hpointer : p.pointer = profile.pointer
  · rw [htable.eq_of_pointer hp hmem hpointer, if_pos rfl]
    exact ⟨Or.inl ⟨hname, rfl⟩, iff_of_true rfl rfl⟩
  · rw [if_neg hpointer]
    have hother : p.aidHex ≠ profile.aidHex := by
      intro haidHex
      rw [htable.eq_of_aidHex hp hmem haidHex] at hpointer
      exact hpointer rfl
    exact ⟨Or.inr ⟨hname ▸ hother, hp⟩, iff_of_false hpointer hother⟩

/-- The flag of the registration is no part of what is written. -/
theorem written_reopen {s : HceState} (htable : TableInv s) {request : AddRequest}
    {profile : HceProfile} (hlookup : s.lookup (ndefBytesToHex request.aid) = some profile)
    {p : HceProfile} (hp : p ∈ (s.reopen profile request).hceProfiles) :
    WrittenBy s request p := by
  have hname := (mem_of_lookup hlookup).2
  obtain ⟨q, hq, rfl⟩ := List.mem_map.mp hp
  obtain ⟨hwritten, hpointer⟩ := written_renew htable hlookup hq
  rcases hwritten with ⟨haidHex, hpayload⟩ | ⟨haidHex, hold⟩
  · left
    split <;> exact ⟨haidHex, hpayload⟩
  · have hother : q.pointer ≠ profile.pointer := fun h => haidHex ((hpointer.mp h).trans hname)
    rw [if_neg hother]
    exact Or.inr ⟨haidHex, hold⟩

/-- The outcomes of an add: it is turned away for its object, or its AID's profile has the
payload now and the others are as they were. -/
theorem add_payloads {s : HceState} (htable : TableInv s) (request : AddRequest) (exported : Bool)
    (haid : request.aid ≠ []) :
    (s.lookup (ndefBytesToHex request.aid) = none ∧ exported = false ∧
      (s.step (.add request exported)).hceProfiles = s.hceProfiles ∧
      ∃ text, s.report (.add request exported) = some (.add request false text)) ∨
    ¬ (s.lookup (ndefBytesToHex request.aid) = none ∧ exported = false) ∧
    (∀ p ∈ (s.step (.add request exported)).hceProfiles, WrittenBy s request p) ∧
    ((s.lookup (ndefBytesToHex request.aid) = none → s.daemon = true) →
      ∀ request' text, s.report (.add request exported) ≠ some (.add request' false text)) := by
  rcases add_cases s request exported with ⟨hguard, text, heq⟩ | ⟨profile, -, hlookup, -, heq⟩ |
    ⟨profile, -, hlookup, ⟨-, hdaemon⟩, heq⟩ | ⟨-, hnone, rfl, heq⟩
  · obtain ⟨hnone, hexported⟩ := hguard.resolve_left haid
    exact Or.inl ⟨hnone, hexported, congrArg (fun x => x.1.hceProfiles) heq, some text,
      congrArg Prod.snd heq⟩
  · refine Or.inr ⟨by simp [hlookup], ?_, ?_⟩
    · intro p hp
      rw [show s.step (.add request exported) = _ from congrArg Prod.fst heq] at hp
      exact (written_renew htable hlookup hp).1
    · intro _ request' text
      rw [show s.report (.add request exported) = _ from congrArg Prod.snd heq]
      simp
  · refine Or.inr ⟨by simp [hlookup], ?_, ?_⟩
    · intro p hp
      rw [show s.step (.add request exported) = _ from congrArg Prod.fst heq,
        (table_hceDoRegister _ _ _).1] at hp
      exact written_reopen htable hlookup hp
    · intro _ request' text
      have hreopened : (s.reopen profile request).daemon = true := hdaemon
      rw [show s.report (.add request exported) = _ from congrArg Prod.snd heq,
        answer_hceDoRegister hreopened]
      simp
  · refine Or.inr ⟨by simp, ?_, ?_⟩
    · intro p hp
      rw [show s.step (.add request true) = _ from congrArg Prod.fst heq,
        (table_hceDoRegister _ _ _).1] at hp
      rcases List.mem_append.mp hp with hp | hp
      · exact Or.inr ⟨lookup_eq_none.mp hnone p hp, hp⟩
      · rw [List.mem_singleton.mp hp]
        exact Or.inl ⟨rfl, rfl⟩
    · intro hdaemon request' text
      have hinserted : (s.insert (s.newProfile request)).daemon = true := by
        rw [daemon_insert]
        exact hdaemon hnone
      rw [show s.report (.add request true) = _ from congrArg Prod.snd heq,
        answer_hceDoRegister hinserted]
      simp

/-- No other event writes a payload. -/
theorem payloads_kept {s : HceState} {e : HceEvent}
    (he : ∀ request exported, e ≠ .add request exported) {p : HceProfile}
    (hp : p ∈ (s.step e).hceProfiles) :
    ∃ q ∈ s.hceProfiles, p.aidHex = q.aidHex ∧ p.payload = q.payload := by
  cases e with
  | add request exported => exact absurd rfl (he request exported)
  | remove aid =>
    have hsub : p ∈ s.hceProfiles := by
      rcases remove_cases s aid with ⟨heq, -⟩ | ⟨profile, -, -, ⟨heq, -⟩ | heq⟩
      · rwa [show s.step (.remove aid) = _ from heq] at hp
      · rw [show s.step (.remove aid) = _ from heq] at hp
        rw [← hceProfiles_hceUnregister s profile]
        exact (mem_hceProfiles_erase.mp hp).1
      · rw [show s.step (.remove aid) = _ from heq, (table_hceReleaseMode _).1] at hp
        rw [← hceProfiles_hceUnregister s profile]
        exact (mem_hceProfiles_erase.mp hp).1
    exact ⟨p, hsub, rfl, rfl⟩
  | clear =>
    rw [hceProfiles_clear] at hp
    cases hp
  | serve error =>
    rcases serve_cases s error with ⟨-, heq⟩ | ⟨_, _, _, _, -, -, heq⟩ <;>
      rw [show s.step (.serve error) = _ from heq] at hp <;> exact ⟨p, hp, rfl, rfl⟩
  | deliver i =>
    rcases deliver_cases s i with ⟨-, heq⟩ | ⟨n, c, r, -, ⟨-, heq⟩ | ⟨_, _, _, req, -, heq⟩ |
      ⟨-, heq⟩⟩ <;> rw [show s.step (.deliver i) = _ from congrArg Prod.fst heq] at hp
    · exact ⟨p, hp, rfl, rfl⟩
    · rcases hceModeReady_cases { s with calls := s.calls.deliver i } r with ⟨id, -, hset⟩ |
        ⟨-, hset⟩ <;> simp only [hset] at hp <;> exact ⟨p, hp, rfl, rfl⟩
    · rcases hceRegisterReady_cases { s with calls := s.calls.deliver i } req r with
        ⟨text, -, hset⟩ | ⟨-, hset⟩ <;> rw [hset] at hp
      · exact ⟨p, hp, rfl, rfl⟩
      · obtain ⟨q, hq, rfl⟩ := List.mem_map.mp hp
        refine ⟨q, hq, ?_⟩
        split <;> exact ⟨rfl, rfl⟩
    · exact ⟨p, hp, rfl, rfl⟩
  | appear =>
    rcases daemonAppeared_cases s with ⟨-, heq⟩ | heq <;>
      rw [show s.step .appear = _ from heq] at hp <;> exact ⟨p, hp, rfl, rfl⟩
  | proxyReady =>
    rcases daemonProxyReady_cases s with ⟨-, heq⟩ | heq <;>
      rw [show s.step .proxyReady = _ from heq] at hp <;> exact ⟨p, hp, rfl, rfl⟩
  | vanish =>
    rcases daemonVanished_cases s with ⟨-, heq⟩ | ⟨-, heq⟩ <;>
      rw [show s.step .vanish = _ from heq] at hp <;> exact ⟨p, hp, rfl, rfl⟩

/-! ## The invariant -/

/-- Every profile has the payload of the last add for its AID, and that add has not been
refused. -/
structure ServesInv (x : HceState × List AddRecord) : Prop where
  table : TableInv x.1
  written : ∀ p ∈ x.1.hceProfiles, ∃ aid r, p.aidHex = ndefBytesToHex aid ∧
    latestAdd x.2 aid = some r ∧ p.payload = r.payload ∧ r.answer ≠ some false

theorem servesInv_start : ServesInv (.start, []) := ⟨tableInv_start, fun _ hp => nomatch hp⟩

/-- Once its adds are answered a profile serves what was accepted. -/
theorem ServesInv.serves {x : HceState × List AddRecord} (h : ServesInv x) : Serves x.2 x.1 where
  named := fun p hp => by
    obtain ⟨aid, -, hname, -⟩ := h.written p hp
    exact ⟨aid, hname⟩
  names := fun _ _ => ndefBytesToHex_injective.eq_iff
  serves := by
    intro p hp aid hname hsettled
    obtain ⟨aid', r, hname', hr, hpayload, hanswer⟩ := h.written p hp
    obtain rfl := ndefBytesToHex_injective (hname.symm.trans hname')
    obtain ⟨hmem, haid⟩ := mem_of_latestAdd hr
    have hopen := hsettled r hmem haid
    have htrue : r.answer = some true := by
      cases hcase : r.answer with
      | none => exact absurd hcase hopen
      | some success =>
        cases success with
        | false => exact absurd hcase hanswer
        | true => rfl
    refine ⟨r, acceptedAdd_of_latest hr htrue, ?_⟩
    intro ins hins nextResponseId
    rw [hceHandleProcess_read p nextResponseId hins, hpayload]

/-- An event that adds nothing to the history and writes no payload. -/
theorem ServesInv.other {x : HceState × List AddRecord} (h : ServesInv x) {e : HceEvent}
    (he : ∀ request exported, e ≠ .add request exported) : ServesInv (x.1.step e, x.2) := by
  refine ⟨h.table.step e, ?_⟩
  intro p hp
  obtain ⟨q, hq, hname, hpayload⟩ := payloads_kept he hp
  obtain ⟨aid, r, hname', hr, hpayload', hanswer⟩ := h.written q hq
  exact ⟨aid, r, hname.trans hname', hr, hpayload.trans hpayload', hanswer⟩

/-- An add that leaves all profiles as they are, and has no profile for its AID. -/
theorem ServesInv.declined {x : HceState × List AddRecord} (h : ServesInv x) {s : HceState}
    (htable : TableInv s) (hprofiles : s.hceProfiles = x.1.hceProfiles) {r : AddRecord}
    (hr : ∀ p ∈ x.1.hceProfiles, ∀ aid, p.aidHex = ndefBytesToHex aid → r.aid ≠ some aid) :
    ServesInv (s, x.2 ++ [r]) := by
  refine ⟨htable, ?_⟩
  intro p hp
  have hp' : p ∈ x.1.hceProfiles := hprofiles ▸ hp
  obtain ⟨aid, r', hname, hlatest, hpayload, hanswer⟩ := h.written p hp'
  refine ⟨aid, r', hname, ?_, hpayload, hanswer⟩
  rw [latestAdd_append, if_neg (hr p hp' aid hname)]
  exact hlatest

/-- **An add.** -/
theorem ServesInv.add {x : HceState × List AddRecord} (h : ServesInv x)
    {aidHex payloadHex : Option Value} {implicit exported : Bool}
    (hcond : (CardEvent.addCardEmulationProfile aidHex payloadHex implicit exported).Accepted x) :
    ServesInv (withHistory cardStep noteAdd x
      (.addCardEmulationProfile aidHex payloadHex implicit exported)) := by
  obtain ⟨s, hist⟩ := x
  simp only [withHistory, noteAdd, cardStep, addAnswer, CardEvent.toClient]
  cases hcode : ndefHexToBytes (getStringParam aidHex) with
  | none =>
    -- the service turns the request away
    simp only [Option.map_none]
    refine h.declined h.table rfl fun p _ aid _ haid => ?_
    rw [getStringParam_of_hexParam haid] at hcode
    cases hcode
  | some aid =>
    simp only [Option.map_some]
    have hrequest : (⟨aid, (ndefHexToBytes (getStringParam payloadHex)).getD [], implicit⟩
        : AddRequest).aid ≠ [] := ndefHexToBytes_ne_nil hcode
    have hnamed : ∀ aid', hexParam aidHex = some aid' → aid' = aid := by
      intro aid' haid'
      rw [getStringParam_of_hexParam haid'] at hcode
      exact Option.some.inj hcode
    rcases add_payloads h.table _ exported hrequest with
      ⟨hnone, hexported, hprofiles, -⟩ | ⟨hfits, hwritten, hopen⟩
    · refine h.declined (h.table.step _) hprofiles fun p hp aid' hname haid' => ?_
      rw [hnamed aid' haid'] at hname
      exact lookup_eq_none.mp hnone p hp hname
    · simp only [CardEvent.Accepted, hcode] at hcond
      rcases hcond with hno | ⟨hname, hvalid, hdaemon⟩
      · exact absurd hno hfits
      · have hpayload : (ndefHexToBytes (getStringParam payloadHex)).getD []
            = (hexParam payloadHex).getD [] := by
          cases hpresent : payloadHex with
          | none => rfl
          | some value =>
            obtain ⟨bytes, hbytes⟩ := Option.isSome_iff_exists.mp (hvalid (by rw [hpresent]; rfl))
            rw [hpresent] at hbytes
            rw [hbytes, getStringParam_of_hexParam hbytes]
        refine ⟨h.table.step _, ?_⟩
        intro p hp
        rcases hwritten p hp with ⟨hpname, hpwritten⟩ | ⟨hpname, hpold⟩
        · refine ⟨aid, _, hpname, (latestAdd_append _ _ _).trans (if_pos hname), ?_, ?_⟩
          · exact hpwritten.trans hpayload
          · -- the add was not refused at once
            simp only
            split
            · next request' success text hreport =>
              intro hfalse
              obtain rfl := Option.some.inj hfalse
              exact hopen hdaemon request' text hreport
            · intro hcontra
              cases hcontra
        · obtain ⟨aid', r', hname', hlatest, hp', hanswer⟩ := h.written p hpold
          refine ⟨aid', r', hname', ?_, hp', hanswer⟩
          rw [latestAdd_append, if_neg]
          · exact hlatest
          · intro haid'
            rw [hnamed aid' haid'] at hname'
            exact hpname hname'

/-- An add is answered. -/
theorem ServesInv.answered {x : HceState × List AddRecord} (h : ServesInv x) (i n : ℕ)
    (success : Bool) (hharmless : success = false → RefusalHarmless x.2 x.1 n) :
    ServesInv (x.1.step (.deliver i), x.2.map (AddRecord.settle n success)) := by
  refine ⟨h.table.step _, ?_⟩
  intro p hp
  obtain ⟨q, hq, hname, hpayload⟩ :=
    payloads_kept (e := .deliver i) (by simp) hp
  obtain ⟨aid, r, hname', hlatest, hpayload', hanswer⟩ := h.written q hq
  refine ⟨aid, r.settle n success, hname.trans hname', ?_, ?_, ?_⟩
  · rw [latestAdd_map (aid_settle n success), hlatest, Option.map_some]
  · rw [hpayload, hpayload', payload_settle]
  · unfold AddRecord.settle
    split
    · next hawaits =>
      intro hfalse
      -- the refusal would reach this profile
      obtain ⟨hmem, haid⟩ := mem_of_latestAdd hlatest
      have hno := hharmless (Option.some.inj hfalse) r hmem hawaits
      simp only [haid, hlatest, Option.all_some, hawaits, not_true_eq_false, decide_false,
        Bool.false_eq_true, or_false] at hno
      exact lookup_eq_none.mp hno q hq hname'
    · exact hanswer

/-- **An answer of nfcd.** -/
theorem ServesInv.deliver {x : HceState × List AddRecord} (h : ServesInv x) {i : ℕ}
    (hcond : (CardEvent.deliver i).Accepted x) :
    ServesInv (withHistory cardStep noteAdd x (.deliver i)) := by
  have hother : ServesInv (x.1.step (.deliver i), x.2) :=
    h.other (by simp)
  simp only [withHistory, noteAdd, cardStep, addAnswer, CardEvent.toClient]
  rcases deliver_cases x.1 i with ⟨hi, -⟩ | ⟨n, c, reply, hi, ⟨rfl, heq⟩ |
    ⟨path, aid, implicit, req, rfl, heq⟩ | ⟨-, heq⟩⟩
  · simp only [hi]
    exact hother
  · have hreport : x.1.report (.deliver i) = none := congrArg Prod.snd heq
    simp only [hi, hreport]
    exact hother
  · simp only [CardEvent.Accepted, hi] at hcond
    rcases hceRegisterReady_cases { x.1 with calls := x.1.calls.deliver i } req reply with
      ⟨text, rfl, hset⟩ | ⟨haccepts, hset⟩
    · have hreport : x.1.report (.deliver i) = some (.add req.request false (some text)) :=
        congrArg Prod.snd (heq.trans hset)
      simp only [hi, hreport]
      exact h.answered i n false fun _ => hcond
    · have hreport : x.1.report (.deliver i) = some (.add req.request true none) :=
        congrArg Prod.snd (heq.trans hset)
      simp only [hi, hreport]
      exact h.answered i n true (by simp)
  · have hreport : x.1.report (.deliver i) = none := congrArg Prod.snd heq
    simp only [hi, hreport]
    exact hother

/-- **One step.** -/
theorem ServesInv.step {x : HceState × List AddRecord} (h : ServesInv x) {e : CardEvent}
    (hcond : e.Accepted x) : ServesInv (withHistory cardStep noteAdd x e) := by
  cases e with
  | addCardEmulationProfile aidHex payloadHex implicit exported => exact h.add hcond
  | removeCardEmulationProfile aidHex =>
    simp only [withHistory, noteAdd, cardStep, CardEvent.toClient]
    cases ndefHexToBytes (getStringParam aidHex) with
    | none => exact h
    | some aid => exact h.other (by simp)
  | deliver i => exact h.deliver hcond
  | _ => exact h.other (by simp)

/-- An add with a payload that cannot be decoded, where it is accepted by no one. -/
theorem declined_of_accepted {x : HceState × List AddRecord} (h : ServesInv x) {e : CardEvent}
    (hcond : e.Accepted x) : e.Declined x.1 := by
  cases e with
  | addCardEmulationProfile aidHex payloadHex implicit exported =>
    intro hpresent hinvalid
    simp only [addAnswer, cardStep, CardEvent.toClient]
    cases hcode : ndefHexToBytes (getStringParam aidHex) with
    | none => exact ⟨rfl, rfl⟩
    | some aid =>
      simp only [CardEvent.Accepted, hcode] at hcond
      rcases hcond with hno | ⟨-, hvalid, -⟩
      · have haid := ndefHexToBytes_ne_nil hcode
        rcases add_payloads h.table ⟨aid, (ndefHexToBytes (getStringParam payloadHex)).getD [],
          implicit⟩ exported haid with ⟨-, -, hprofiles, text, hreport⟩ | ⟨hfits, -⟩
        · simp only [Option.map_some, hreport]
          exact ⟨trivial, hprofiles⟩
        · exact absurd hno hfits
      · have hvalid' := hvalid hpresent
        rw [hinvalid] at hvalid'
        cases hvalid'
  | _ => trivial

/-! ## Every run -/

/-- The history of a run. -/
def addHistory (es : List CardEvent) : List AddRecord :=
  (run (withHistory cardStep noteAdd) (.start, []) es).2

/-- A profile is added, then given another payload, and both adds are accepted. -/
def badgeRenewed : List CardEvent :=
  [.appear, .proxyReady,
    .addCardEmulationProfile (some (.string (Json.text "F001"))) (some (.string (Json.text "BADE")))
      false true,
    .serve none, .serve none, .deliver 0, .deliver 0,
    .addCardEmulationProfile (some (.string (Json.text "f001"))) none false true]

/-- The profile is updated with a payload that is not hex. -/
def badgeGarbled : List CardEvent :=
  badgeRenewed ++ [.addCardEmulationProfile (some (.string (Json.text "F001")))
    (some (.string (Json.text "zz"))) false true]

end NfcAdapter
