/-
# Removing a card-emulation profile

The answer to a registration is written to the profile it was made for, and a profile that
is taken away is unregistered only where that answer has arrived.  So a removal is final as
long as nfcd accepts no registration of a profile that is gone, before or after the removal.
-/
import NfcAdapter.CardEmulationTable
import NfcAdapter.Runs

namespace NfcAdapter

open AsyncCalls Runs

variable {s t : HceState} {e : HceEvent} {nfcd : Nfcd} {pointer : ℕ} {path : String}

/-! ## The condition -/

/-- nfcd has accepted a registration of this profile, and the answer is under way. -/
def HceState.answerUnderWay (s : HceState) (pointer : ℕ) : Bool :=
  s.calls.replies.any fun x =>
    match x with
    | (_, .registerLocalHostApp _ _ _ req, r) => req.profile = pointer && r.accepts
    | _ => false

/-- The registration that nfcd handles next. -/
def HceState.registersNext (s : HceState) : Option HceReq :=
  match s.calls.queue with
  | (_, .registerLocalHostApp _ _ _ req) :: _ => some req
  | _ => none

/-- No profile is taken away while the answer to its accepted registration is under way,
and nfcd accepts no registration of a profile that is gone. -/
def RemovalSettled (s : HceState) : HceEvent → Prop
  | .remove aid => ∀ p ∈ s.hceProfiles, p.aidHex = ndefBytesToHex aid →
      s.answerUnderWay p.pointer = false
  | .clear => ∀ p ∈ s.hceProfiles, s.answerUnderWay p.pointer = false
  | .serve none => ∀ req ∈ s.registersNext, ∃ p ∈ s.hceProfiles, p.pointer = req.profile
  | _ => True

instance (s : HceState) : (e : HceEvent) → Decidable (RemovalSettled s e)
  | .remove aid => inferInstanceAs (Decidable (∀ p ∈ s.hceProfiles,
      p.aidHex = ndefBytesToHex aid → s.answerUnderWay p.pointer = false))
  | .clear => inferInstanceAs (Decidable (∀ p ∈ s.hceProfiles, s.answerUnderWay p.pointer = false))
  | .serve none => inferInstanceAs
      (Decidable (∀ req ∈ s.registersNext, ∃ p ∈ s.hceProfiles, p.pointer = req.profile))
  | .serve (some _) => isTrue trivial
  | .add _ _ => isTrue trivial
  | .deliver _ => isTrue trivial
  | .appear => isTrue trivial
  | .proxyReady => isTrue trivial
  | .vanish => isTrue trivial

theorem answerUnderWay_iff :
    s.answerUnderWay pointer = true ↔
      ∃ n path aid implicit req r, (n, .registerLocalHostApp path aid implicit req, r) ∈
        s.calls.replies ∧ req.profile = pointer ∧ r.accepts = true := by
  unfold HceState.answerUnderWay
  rw [List.any_eq_true]
  constructor
  · rintro ⟨⟨n, c, r⟩, hmem, hc⟩
    cases c with
    | registerLocalHostApp path aid implicit req =>
      rw [Bool.and_eq_true, decide_eq_true_eq] at hc
      exact ⟨n, path, aid, implicit, req, r, hmem, hc⟩
    | requestMode => cases hc
    | unregisterLocalHostApp => cases hc
    | releaseMode => cases hc
  · rintro ⟨n, path, aid, implicit, req, r, hmem, hc⟩
    refine ⟨_, hmem, ?_⟩
    rw [Bool.and_eq_true, decide_eq_true_eq]
    exact hc

theorem answerUnderWay_congr (h : t.calls = s.calls) (pointer : ℕ) :
    t.answerUnderWay pointer = s.answerUnderWay pointer := by
  unfold HceState.answerUnderWay
  rw [h]

/-! ## The invariants -/

/-- What holds of the registrations under way: a profile they name and that is still there
has their path, and an accepted one names a profile that is there. -/
structure PendingInv (s : HceState) : Prop where
  known : ∀ n path aid implicit req,
    s.calls.Unanswered n (.registerLocalHostApp path aid implicit req) →
      req.profile < s.nextPointer ∧
        ∀ p ∈ s.hceProfiles, p.pointer = req.profile → p.objectPath = path
  accepted : ∀ pointer, s.answerUnderWay pointer = true → ∃ p ∈ s.hceProfiles, p.pointer = pointer
  unused : s.usedFreed = false

/-- A registration nfcd holds will go: its Unregister call is under way, or a profile knows
of it, or will as soon as the answer arrives. -/
def HceState.Covered (s : HceState) (path : String) : Prop :=
  (∃ n, (n, .unregisterLocalHostApp path) ∈ s.calls.queue) ∨
    ∃ p ∈ s.hceProfiles, p.objectPath = path ∧
      (p.registered = true ∨ s.answerUnderWay p.pointer = true)

/-- What holds of the registrations nfcd has. -/
structure HeldInv (s : HceState) : Prop where
  covered : ∀ nfcd, s.nfcd = some nfcd → ∀ path, nfcd.holds path ≠ none → s.Covered path
  absent : s.daemon = false → s.calls.queue = [] ∧ ∀ nfcd, s.nfcd = some nfcd → nfcd.apps = []
  gone : s.nfcd = none → s.calls.queue = []

theorem pendingInv_start : PendingInv .start where
  known := by
    rintro n path aid implicit req (h | ⟨r, h⟩) <;> cases h
  accepted := fun _ h => nomatch h
  unused := rfl

theorem heldInv_start : HeldInv .start where
  covered := fun _ h => nomatch h
  absent := fun _ => ⟨rfl, fun _ h => nomatch h⟩
  gone := fun _ => rfl

/-! ## Calls -/

/-- No call is accepted by the bus. -/
theorem answerUnderWay_call (s : HceState) (c : NfcdCall) (pointer : ℕ) :
    (s.call c).answerUnderWay pointer = s.answerUnderWay pointer := by
  apply Bool.eq_iff_iff.mpr
  rw [answerUnderWay_iff, answerUnderWay_iff]
  constructor
  · rintro ⟨n, path, aid, implicit, req, r, hmem, hreq, haccepts⟩
    rcases mem_replies_call.mp hmem with hmem | ⟨-, r', hr', heq⟩
    · exact ⟨n, path, aid, implicit, req, r, hmem, hreq, haccepts⟩
    · cases heq
      rw [NfcdCall.error_eq_some hr'] at haccepts
      cases haccepts
  · rintro ⟨n, path, aid, implicit, req, r, hmem, hreq⟩
    exact ⟨n, path, aid, implicit, req, r, mem_replies_call.mpr (Or.inl hmem), hreq⟩

theorem PendingInv.call (h : PendingInv s) {c : NfcdCall}
    (hc : ∀ path aid implicit req, c = .registerLocalHostApp path aid implicit req →
      req.profile < s.nextPointer ∧
        ∀ p ∈ s.hceProfiles, p.pointer = req.profile → p.objectPath = path) :
    PendingInv (s.call c) where
  known := KnownInv.call h.known hc
  accepted := fun pointer hp => h.accepted pointer (answerUnderWay_call s c pointer ▸ hp)
  unused := h.unused

theorem HceState.Covered.call (h : s.Covered path) (c : NfcdCall) : (s.call c).Covered path := by
  rcases h with ⟨n, hn⟩ | ⟨p, hp, hpath, hreg⟩
  · exact Or.inl ⟨n, mem_queue_call.mpr (Or.inl hn)⟩
  · exact Or.inr ⟨p, hp, hpath, by rw [answerUnderWay_call]; exact hreg⟩

theorem HeldInv.call (h : HeldInv s) (hd : s.daemon = true) (c : NfcdCall) :
    HeldInv (s.call c) where
  covered := fun nfcd hn path hheld => (h.covered nfcd hn path hheld).call c
  absent := fun hd' => absurd (hd.symm.trans hd') (by simp)
  gone := by
    intro hn
    rw [queue_call, h.gone hn, show s.nfcd = none from hn]
    rfl

/-! ## The table -/

theorem PendingInv.change (h : PendingInv s) {f : HceProfile → HceProfile} (hf : KeepsIdentity f)
    (htable : t.hceProfiles = s.hceProfiles.map f) (hcalls : t.calls = s.calls)
    (hnext : t.nextPointer = s.nextPointer) (hused : t.usedFreed = s.usedFreed) :
    PendingInv t where
  known := KnownInv.change h.known hf htable hcalls hnext
  accepted := by
    intro pointer hunder
    have hs : s.answerUnderWay pointer = true := (answerUnderWay_congr hcalls pointer) ▸ hunder
    obtain ⟨p, hp, hpointer⟩ := h.accepted pointer hs
    exact ⟨f p, htable ▸ List.mem_map_of_mem hp, (hf p).1.trans hpointer⟩
  unused := hused.trans h.unused

/-- A change that forgets no registration. -/
theorem HeldInv.change (h : HeldInv s) {f : HceProfile → HceProfile} (hf : KeepsIdentity f)
    (hreg : ∀ p, p.registered = true → (f p).registered = true)
    (htable : t.hceProfiles = s.hceProfiles.map f) (hcalls : t.calls = s.calls)
    (hnfcd : t.nfcd = s.nfcd) (hdaemon : t.daemon = s.daemon) : HeldInv t where
  covered := by
    intro nfcd hn path hheld
    simp only [HceState.Covered, answerUnderWay_congr hcalls, hcalls, htable]
    rcases h.covered nfcd (hnfcd ▸ hn) path hheld with hqueue | ⟨p, hp, hpath, hknown⟩
    · exact Or.inl hqueue
    · refine Or.inr ⟨f p, List.mem_map_of_mem hp, (hf p).2.2.trans hpath, ?_⟩
      rw [(hf p).1]
      exact hknown.imp_left (hreg p)
  absent := by
    rw [hdaemon, hcalls, hnfcd]
    exact h.absent
  gone := by
    rw [hnfcd, hcalls]
    exact h.gone

/-- Profiles are dropped while nothing accepted is under way for them. -/
theorem PendingInv.drop (h : PendingInv s) {keep : HceProfile → Bool}
    (hkeep : ∀ p ∈ s.hceProfiles, keep p = false → s.answerUnderWay p.pointer = false)
    (htable : t.hceProfiles = s.hceProfiles.filter keep) (hcalls : t.calls = s.calls)
    (hnext : t.nextPointer = s.nextPointer) (hused : t.usedFreed = s.usedFreed) :
    PendingInv t where
  known := KnownInv.drop h.known htable hcalls hnext
  accepted := by
    intro pointer hunder
    have hs : s.answerUnderWay pointer = true := (answerUnderWay_congr hcalls pointer) ▸ hunder
    obtain ⟨p, hp, rfl⟩ := h.accepted pointer hs
    refine ⟨p, ?_, rfl⟩
    rw [htable, List.mem_filter]
    refine ⟨hp, Bool.of_not_eq_false fun hgone => ?_⟩
    exact absurd (hkeep p hp hgone) (by simp [hs])
  unused := hused.trans h.unused

/-- And while their Unregister calls are under way, where they know of a registration. -/
theorem HeldInv.drop (h : HeldInv s) {keep : HceProfile → Bool}
    (hkeep : ∀ p ∈ s.hceProfiles, keep p = false → s.answerUnderWay p.pointer = false)
    (hunreg : ∀ p ∈ s.hceProfiles, keep p = false → p.registered = true → s.daemon = true →
      s.nfcd.isSome = true → ∃ n, (n, .unregisterLocalHostApp p.objectPath) ∈ s.calls.queue)
    (htable : t.hceProfiles = s.hceProfiles.filter keep) (hcalls : t.calls = s.calls)
    (hnfcd : t.nfcd = s.nfcd) (hdaemon : t.daemon = s.daemon) : HeldInv t where
  covered := by
    intro nfcd hn path hheld
    rw [hnfcd] at hn
    have hd : s.daemon = true := by
      by_contra hd
      rw [Nfcd.holds, (h.absent (Bool.eq_false_iff.mpr hd)).2 nfcd hn] at hheld
      exact hheld rfl
    simp only [HceState.Covered, answerUnderWay_congr hcalls, hcalls, htable]
    rcases h.covered nfcd hn path hheld with hqueue | ⟨p, hp, rfl, hknown⟩
    · exact Or.inl hqueue
    · cases hk : keep p with
      | true => exact Or.inr ⟨p, List.mem_filter.mpr ⟨hp, hk⟩, rfl, hknown⟩
      | false =>
        have hreg := hknown.resolve_right (by rw [hkeep p hp hk]; simp)
        exact Or.inl (hunreg p hp hk hreg hd (by rw [hn]; rfl))
  absent := by
    rw [hdaemon, hcalls, hnfcd]
    exact h.absent
  gone := by
    rw [hnfcd, hcalls]
    exact h.gone

/-- A new profile is none that a registration under way is for. -/
theorem PendingInv.insert (h : PendingInv s) (request : AddRequest) :
    PendingInv (s.insert (s.newProfile request)) where
  known := KnownInv.insert h.known request
  accepted := by
    intro pointer hunder
    obtain ⟨p, hp, hpointer⟩ := h.accepted pointer hunder
    exact ⟨p, List.mem_append_left _ hp, hpointer⟩
  unused := h.unused

theorem HeldInv.insert (h : HeldInv s) (profile : HceProfile) : HeldInv (s.insert profile) where
  covered := by
    intro nfcd hn path hheld
    rcases h.covered nfcd hn path hheld with hqueue | ⟨p, hp, hknown⟩
    · exact Or.inl hqueue
    · exact Or.inr ⟨p, List.mem_append_left _ hp, hknown⟩
  absent := h.absent
  gone := h.gone

/-! ## Adding -/

theorem HeldInv.register (h : HeldInv s) (profile : HceProfile) (request : AddRequest) :
    HeldInv (hceDoRegister s profile request).1 := by
  rcases hceDoRegister_cases s profile request with ⟨-, heq⟩ | ⟨hd, heq⟩
  · rw [heq]
    exact h
  · rw [heq]
    exact (h.call hd _).call hd _

/-- A profile that is registered again has its Unregister call under way. -/
theorem HeldInv.reopen (h : HeldInv s) (htable : TableInv s) {profile : HceProfile}
    (hprofile : profile ∈ s.hceProfiles) (hd : s.daemon = true) (request : AddRequest) :
    HeldInv (s.reopen profile request) where
  covered := by
    intro nfcd hn path hheld
    rcases h.covered nfcd hn path hheld with ⟨n, hqueue⟩ | ⟨p, hp, rfl, hknown⟩
    · exact Or.inl ⟨n, mem_queue_call.mpr (Or.inl hqueue)⟩
    · by_cases hpointer : p.pointer = profile.pointer
      · rw [htable.eq_of_pointer hp hprofile hpointer]
        have hsome : s.nfcd.isSome = true := by
          rw [show s.nfcd = some nfcd from hn]
          rfl
        exact Or.inl ⟨_, mem_queue_call.mpr (Or.inr ⟨hsome, rfl⟩)⟩
      · refine Or.inr ⟨p, ?_, rfl, ?_⟩
        · -- the two updates are of another profile
          refine mem_hceProfiles_update.mpr ⟨p, ?_, if_neg hpointer⟩
          exact mem_hceProfiles_update.mpr ⟨p, hp, if_neg hpointer⟩
        · rw [HceState.reopen, answerUnderWay_call]
          exact hknown
  absent := fun hd' => absurd (hd.symm.trans hd') (by simp)
  gone := by
    intro hn
    replace hn : s.nfcd = none := hn
    rw [HceState.reopen, queue_call, nfcd_update, HceState.renew, nfcd_update, hn, calls_update,
      calls_update, h.gone hn]
    rfl

theorem PendingInv.add (h : PendingInv s) (htable : TableInv s) (request : AddRequest)
    (exported : Bool) : PendingInv (nfcdClientAddCardEmulationProfile s request exported).1 :=
  add_invariant (fun _ _ hc hs => hs.call hc)
    (fun _ _ _ hf ht hcalls hnext hused hs => hs.change hf ht hcalls hnext hused)
    (fun _ request hs => hs.insert request) htable h request exported

theorem HeldInv.add (h : HeldInv s) (htable : TableInv s) (request : AddRequest)
    (exported : Bool) : HeldInv (nfcdClientAddCardEmulationProfile s request exported).1 := by
  rcases add_cases s request exported with ⟨-, text, heq⟩ | ⟨profile, -, -, -, heq⟩ |
    ⟨profile, -, hlookup, ⟨-, hd⟩, heq⟩ | ⟨-, -, -, heq⟩ <;> rw [heq]
  · exact h
  · refine h.change ((keepsIdentity_renew request).only profile.pointer) ?_ rfl rfl rfl rfl
    intro p hp
    split <;> exact hp
  · exact (h.reopen htable (mem_of_lookup hlookup).1 hd request).register _ _
  · exact (h.insert _).register _ _

/-! ## Removing -/

theorem PendingInv.unregister (h : PendingInv s) (profiles : List HceProfile) :
    PendingInv (profiles.foldl hceUnregister s) :=
  hceUnregister_invariant (fun _ _ _ h => h.call (by simp)) profiles h

theorem HeldInv.unregister (h : HeldInv s) (profiles : List HceProfile) :
    HeldInv (profiles.foldl hceUnregister s) :=
  hceUnregister_invariant (fun _ _ hd h => h.call hd _) profiles h

/-- The Unregister calls leave the answers under way, nfcd and the proxy as they are, and
the queue only grows. -/
theorem frame_unregister (profiles : List HceProfile) (s : HceState) :
    (∀ pointer, (profiles.foldl hceUnregister s).answerUnderWay pointer =
        s.answerUnderWay pointer) ∧
      (profiles.foldl hceUnregister s).nfcd = s.nfcd ∧
      (profiles.foldl hceUnregister s).daemon = s.daemon ∧
      ∀ x ∈ s.calls.queue, x ∈ (profiles.foldl hceUnregister s).calls.queue :=
  hceUnregister_invariant
    (I := fun t => (∀ pointer, t.answerUnderWay pointer = s.answerUnderWay pointer) ∧
      t.nfcd = s.nfcd ∧ t.daemon = s.daemon ∧ ∀ x ∈ s.calls.queue, x ∈ t.calls.queue)
    (fun t _ _ h => ⟨fun pointer => (answerUnderWay_call t _ pointer).trans (h.1 pointer),
      h.2.1, h.2.2.1, fun x hx => mem_queue_call.mpr (Or.inl (h.2.2.2 x hx))⟩)
    profiles ⟨fun _ => rfl, rfl, rfl, fun _ hx => hx⟩

/-- Every profile that knows of a registration gets its Unregister call. -/
theorem mem_queue_unregister {profiles : List HceProfile} {p : HceProfile} (hp : p ∈ profiles)
    (hreg : p.registered = true) (hd : s.daemon = true) (hn : s.nfcd.isSome = true) :
    ∃ n, (n, .unregisterLocalHostApp p.objectPath) ∈
      (profiles.foldl hceUnregister s).calls.queue := by
  induction profiles generalizing s with
  | nil => cases hp
  | cons q profiles ih =>
    rw [List.foldl_cons]
    rcases List.mem_cons.mp hp with rfl | hp
    · have hcall : hceUnregister s p = s.call (.unregisterLocalHostApp p.objectPath) :=
        if_pos ⟨hreg, hd⟩
      rw [hcall]
      exact ⟨_, (frame_unregister profiles _).2.2.2 _ (mem_queue_call.mpr (Or.inr ⟨hn, rfl⟩))⟩
    · obtain ⟨-, hn', hd', -⟩ := frame_unregister [q] s
      exact ih hp (hd'.trans hd) ((congrArg Option.isSome hn').trans hn)

/-- Profiles are taken away behind their Unregister calls. -/
def HceState.takeAway (s : HceState) (profiles : List HceProfile) (keep : HceProfile → Bool) :
    HceState :=
  { profiles.foldl hceUnregister s with
    hceProfiles := (profiles.foldl hceUnregister s).hceProfiles.filter keep }

theorem PendingInv.takeAway (h : PendingInv s) {keep : HceProfile → Bool}
    (profiles : List HceProfile)
    (hkeep : ∀ p ∈ s.hceProfiles, keep p = false → s.answerUnderWay p.pointer = false) :
    PendingInv (s.takeAway profiles keep) := by
  obtain ⟨hunder, -⟩ := frame_unregister profiles s
  refine (h.unregister profiles).drop (fun p hp hk => ?_) rfl rfl rfl rfl
  rw [hunder]
  exact hkeep p ((table_unregister profiles s).1 ▸ hp) hk

theorem HeldInv.takeAway (h : HeldInv s) {keep : HceProfile → Bool} {profiles : List HceProfile}
    (hgone : ∀ p ∈ s.hceProfiles, keep p = false → p ∈ profiles)
    (hkeep : ∀ p ∈ s.hceProfiles, keep p = false → s.answerUnderWay p.pointer = false) :
    HeldInv (s.takeAway profiles keep) := by
  obtain ⟨hunder, hnfcd, hdaemon, -⟩ := frame_unregister profiles s
  have htable := (table_unregister profiles s).1
  refine (h.unregister profiles).drop (fun p hp hk => ?_) (fun p hp hk hreg hd hn => ?_)
    rfl rfl rfl rfl
  · rw [hunder]
    exact hkeep p (htable ▸ hp) hk
  · exact mem_queue_unregister (hgone p (htable ▸ hp) hk) hreg (hdaemon ▸ hd) (hnfcd ▸ hn)

theorem PendingInv.release (h : PendingInv s) : PendingInv (hceReleaseMode s) := by
  rcases hceReleaseMode_cases s with ⟨-, heq⟩ | ⟨-, heq⟩ <;> rw [heq]
  · have hcalled : PendingInv (s.call (.releaseMode s.hceModeRequestId)) := h.call (by simp)
    exact ⟨hcalled.known, hcalled.accepted, hcalled.unused⟩
  · exact h

theorem HeldInv.release (h : HeldInv s) : HeldInv (hceReleaseMode s) := by
  rcases hceReleaseMode_cases s with ⟨⟨-, hd⟩, heq⟩ | ⟨-, heq⟩ <;> rw [heq]
  · have hcalled := h.call hd (.releaseMode s.hceModeRequestId)
    exact ⟨hcalled.covered, hcalled.absent, hcalled.gone⟩
  · exact h

theorem remove_invariants (hpending : PendingInv s) (hheld : HeldInv s) (htable : TableInv s)
    {aid : Bytes} (he : RemovalSettled s (.remove aid)) :
    PendingInv (nfcdClientRemoveCardEmulationProfile s aid).1 ∧
      HeldInv (nfcdClientRemoveCardEmulationProfile s aid).1 := by
  rcases remove_cases s aid with ⟨heq, -⟩ | ⟨profile, -, hlookup, hcase⟩
  · rw [heq]
    exact ⟨hpending, hheld⟩
  obtain ⟨hprofile, haid⟩ := mem_of_lookup hlookup
  have hkeep : ∀ p ∈ s.hceProfiles, decide (p.aidHex ≠ ndefBytesToHex aid) = false →
      s.answerUnderWay p.pointer = false := by
    intro p hp hk
    exact he p hp (not_not.mp (of_decide_eq_false hk))
  have hgone : ∀ p ∈ s.hceProfiles, decide (p.aidHex ≠ ndefBytesToHex aid) = false →
      p ∈ [profile] := by
    intro p hp hk
    have hsame : p.aidHex = profile.aidHex := (not_not.mp (of_decide_eq_false hk)).trans haid.symm
    exact List.mem_singleton.mpr (htable.eq_of_aidHex hp hprofile hsame)
  have hpending' : PendingInv ((hceUnregister s profile).erase (ndefBytesToHex aid)) :=
    hpending.takeAway [profile] hkeep
  have hheld' : HeldInv ((hceUnregister s profile).erase (ndefBytesToHex aid)) :=
    hheld.takeAway hgone hkeep
  rcases hcase with ⟨heq, -⟩ | heq
  · rw [heq]
    exact ⟨hpending', hheld'⟩
  · rw [heq]
    exact ⟨hpending'.release, hheld'.release⟩

theorem clear_invariants (hpending : PendingInv s) (hheld : HeldInv s)
    (he : RemovalSettled s .clear) :
    PendingInv (nfcdClientClearCardEmulation s).1 ∧ HeldInv (nfcdClientClearCardEmulation s).1 := by
  have hkeep : ∀ p ∈ s.hceProfiles, (fun _ => false : HceProfile → Bool) p = false →
      s.answerUnderWay p.pointer = false := fun p hp _ => he p hp
  have hempty : { s.hceProfiles.foldl hceUnregister s with hceProfiles := [] } =
      s.takeAway s.hceProfiles fun _ => false := by
    rw [HceState.takeAway, List.filter_false]
  rw [nfcdClientClearCardEmulation]
  simp only [hempty]
  exact ⟨(hpending.takeAway _ hkeep).release, (hheld.takeAway (fun p hp _ => hp) hkeep).release⟩

/-! ## Answers -/

/-- An answer that arrives is no longer under way, and that is all. -/
theorem answerUnderWay_deliver {i : ℕ} (h : s.answerUnderWay pointer = true) :
    ({ s with calls := s.calls.deliver i } : HceState).answerUnderWay pointer = true ∨
      ∃ n path aid implicit req r, s.calls.replies[i]? =
        some (n, .registerLocalHostApp path aid implicit req, r) ∧ req.profile = pointer ∧
          r.accepts = true := by
  obtain ⟨n, path, aid, implicit, req, r, hmem, hreq⟩ := answerUnderWay_iff.mp h
  by_cases hi : s.calls.replies[i]? = some (n, .registerLocalHostApp path aid implicit req, r)
  · exact Or.inr ⟨n, path, aid, implicit, req, r, hi, hreq⟩
  · exact Or.inl (answerUnderWay_iff.mpr ⟨n, path, aid, implicit, req, r,
      Channel.mem_replies_deliver_of_ne hmem hi, hreq⟩)

theorem PendingInv.arrived (h : PendingInv s) (i : ℕ) :
    PendingInv { s with calls := s.calls.deliver i } where
  known := KnownInv.arrived h.known i
  accepted := by
    intro pointer hunder
    obtain ⟨n, path, aid, implicit, req, r, hmem, hreq⟩ := answerUnderWay_iff.mp hunder
    exact h.accepted pointer (answerUnderWay_iff.mpr ⟨n, path, aid, implicit, req, r,
      Channel.mem_replies_deliver hmem, hreq⟩)
  unused := h.unused

/-- The arrival of an answer that accepts no registration. -/
theorem HeldInv.arrived (h : HeldInv s) {i : ℕ}
    (hi : ∀ n path aid implicit req r, s.calls.replies[i]? =
      some (n, .registerLocalHostApp path aid implicit req, r) → r.accepts = false) :
    HeldInv { s with calls := s.calls.deliver i } where
  covered := by
    intro nfcd hn path hheld
    rcases h.covered nfcd hn path hheld with hqueue | ⟨p, hp, hpath, hreg | hunder⟩
    · exact Or.inl hqueue
    · exact Or.inr ⟨p, hp, hpath, Or.inl hreg⟩
    · rcases answerUnderWay_deliver hunder with hunder | ⟨n, _, _, _, _, r, hr, -, haccepts⟩
      · exact Or.inr ⟨p, hp, hpath, Or.inr hunder⟩
      · exact absurd (hi _ _ _ _ _ _ hr) (by simp [haccepts])
  absent := h.absent
  gone := h.gone

/-- The arrival of an accepted registration, which the profile is told of. -/
theorem HeldInv.accepted (h : HeldInv s) {i n : ℕ} {aid : Bytes} {implicit : Bool} {req : HceReq}
    {r : NfcdReply} {usedFreed : Bool}
    (hi : s.calls.replies[i]? = some (n, .registerLocalHostApp path aid implicit req, r)) :
    HeldInv { ({ s with calls := s.calls.deliver i } : HceState).update req.profile
      (fun p => { p with registered := true }) with usedFreed := usedFreed } where
  covered := by
    intro nfcd hn path hheld
    rcases h.covered nfcd hn path hheld with hqueue | ⟨p, hp, hpath, hknown⟩
    · exact Or.inl hqueue
    refine Or.inr ?_
    by_cases hpointer : p.pointer = req.profile
    · exact ⟨_, mem_hceProfiles_update.mpr ⟨p, hp, if_pos hpointer⟩, hpath, Or.inl rfl⟩
    · refine ⟨p, mem_hceProfiles_update.mpr ⟨p, hp, if_neg hpointer⟩, hpath, ?_⟩
      rcases hknown with hreg | hunder
      · exact Or.inl hreg
      · rcases answerUnderWay_deliver hunder with hunder | ⟨n', _, _, _, req', r', hi', hreq, -⟩
        · exact Or.inr hunder
        · cases hi.symm.trans hi'
          exact absurd hreq.symm hpointer
  absent := h.absent
  gone := h.gone

theorem deliver_invariants (hpending : PendingInv s) (hheld : HeldInv s) (i : ℕ) :
    PendingInv (s.deliver i).1 ∧ HeldInv (s.deliver i).1 := by
  rcases deliver_cases s i with ⟨-, heq⟩ | ⟨n, c, r, hi, ⟨rfl, heq⟩ |
    ⟨path, aid, implicit, req, rfl, heq⟩ | ⟨hc, heq⟩⟩ <;> rw [heq]
  · exact ⟨hpending, hheld⟩
  · have harrived := hpending.arrived i
    have hheld' : HeldInv { s with calls := s.calls.deliver i } := hheld.arrived <| by
      intro m path aid implicit req r' hi'
      cases hi.symm.trans hi'
    rcases hceModeReady_cases { s with calls := s.calls.deliver i } r with ⟨id, -, hset⟩ |
      ⟨-, hset⟩ <;> simp only [hset]
    · exact ⟨⟨harrived.known, harrived.accepted, harrived.unused⟩,
        ⟨hheld'.covered, hheld'.absent, hheld'.gone⟩⟩
    · exact ⟨harrived, hheld'⟩
  · rcases hceRegisterReady_cases { s with calls := s.calls.deliver i } req r with
      ⟨text, rfl, hset⟩ | ⟨haccepts, hset⟩ <;> rw [hset]
    · refine ⟨hpending.arrived i, hheld.arrived ?_⟩
      intro m path' aid' implicit' req' r' hi'
      cases hi.symm.trans hi'
      rfl
    · have hunder : s.answerUnderWay req.profile = true := answerUnderWay_iff.mpr
        ⟨n, path, aid, implicit, req, r, List.mem_of_getElem? hi, rfl, haccepts⟩
      obtain ⟨p, hp, hpointer⟩ := hpending.accepted req.profile hunder
      -- the profile is still there, so the write is to live memory
      have hthere : s.hceProfiles.any (fun q => q.pointer = req.profile) = true :=
        List.any_eq_true.mpr ⟨p, hp, decide_eq_true hpointer⟩
      have hmark : KeepsIdentity fun p => { p with registered := true } := fun _ => ⟨rfl, rfl, rfl⟩
      refine ⟨(hpending.arrived i).change (hmark.only req.profile) rfl rfl rfl ?_,
        hheld.accepted hi⟩
      simp [hthere]
  · refine ⟨hpending.arrived i, hheld.arrived ?_⟩
    intro m path aid implicit req r' hi'
    cases hi.symm.trans hi'
    cases hc

/-! ## nfcd and the bus -/

/-- What is under way after nfcd has handled a call is what was, and its acceptance. -/
theorem answerUnderWay_serve {m : ℕ} {c : NfcdCall} {queue : List (ℕ × NfcdCall)}
    {error : Option String} (hq : s.calls.queue = (m, c) :: queue) (nfcd' : Option Nfcd) :
    ({ s with nfcd := nfcd', calls := s.calls.serve (nfcd.handle c error).2 } :
        HceState).answerUnderWay pointer = true ↔
      s.answerUnderWay pointer = true ∨
        error = none ∧ ∃ path aid implicit req,
          c = .registerLocalHostApp path aid implicit req ∧ req.profile = pointer := by
  rw [answerUnderWay_iff, answerUnderWay_iff]
  constructor
  · rintro ⟨n, path, aid, implicit, req, r, hmem, hreq, haccepts⟩
    rcases (Channel.mem_replies_serve hq).mp hmem with hmem | ⟨y, hy, heq⟩
    · exact Or.inl ⟨n, path, aid, implicit, req, r, hmem, hreq, haccepts⟩
    · cases heq
      exact Or.inr ⟨(accepts_handle hy).mp haccepts, path, aid, implicit, req, rfl, hreq⟩
  · rintro (⟨n, path, aid, implicit, req, r, hmem, hreq⟩ |
      ⟨rfl, path, aid, implicit, req, rfl, hreq⟩)
    · exact ⟨n, path, aid, implicit, req, r, (Channel.mem_replies_serve hq).mpr (Or.inl hmem), hreq⟩
    · exact ⟨m, path, aid, implicit, req, .registered,
        (Channel.mem_replies_serve hq).mpr (Or.inr ⟨_, rfl, rfl⟩), hreq, rfl⟩

/-- The condition, at an accepted registration. -/
theorem RemovalSettled.registers {n : ℕ} {aid : Bytes} {implicit : Bool} {req : HceReq}
    {queue : List (ℕ × NfcdCall)} (he : RemovalSettled s (.serve none))
    (hq : s.calls.queue = (n, .registerLocalHostApp path aid implicit req) :: queue) :
    ∃ p ∈ s.hceProfiles, p.pointer = req.profile :=
  he req (by rw [HceState.registersNext, hq]; rfl)

theorem PendingInv.serve (h : PendingInv s) {error : Option String}
    (he : RemovalSettled s (.serve error)) : PendingInv (s.serve error) := by
  rcases serve_cases s error with ⟨-, heq⟩ | ⟨nfcd, n, c, queue, hn, hq, heq⟩ <;> rw [heq]
  · exact h
  refine ⟨fun m path aid implicit req hun => h.known m path aid implicit req
    (Channel.unanswered_of_serve hq hun), fun pointer hunder => ?_, h.unused⟩
  rcases (answerUnderWay_serve hq _).mp hunder with
    hunder | ⟨rfl, path, aid, implicit, req, rfl, rfl⟩
  · exact h.accepted pointer hunder
  · exact he.registers hq

/-- A registration that is held after a call is one that was held, and whose Unregister call
this was not, or one that nfcd has just accepted. -/
theorem holds_after_handle {c : NfcdCall} {error : Option String}
    (h : (nfcd.handle c error).1.holds path ≠ none) :
    nfcd.holds path ≠ none ∧ c ≠ .unregisterLocalHostApp path ∨
      error = none ∧ ∃ aid implicit req, c = .registerLocalHostApp path aid implicit req := by
  rw [holds_handle] at h
  cases c with
  | requestMode => exact Or.inl ⟨h, by simp⟩
  | releaseMode id => exact Or.inl ⟨h, by simp⟩
  | unregisterLocalHostApp path' =>
    simp only [NfcdCall.change] at h
    by_cases hpath : path = path'
    · rw [if_pos hpath] at h
      exact absurd rfl h
    · rw [if_neg hpath] at h
      exact Or.inl ⟨h, fun heq => hpath (NfcdCall.unregisterLocalHostApp.inj heq).symm⟩
  | registerLocalHostApp path' aid implicit req =>
    cases error with
    | some text => exact Or.inl ⟨h, by simp⟩
    | none =>
      by_cases hpath : path = path'
      · exact Or.inr ⟨rfl, aid, implicit, req, by rw [hpath]⟩
      · simp only [NfcdCall.change, if_true, if_neg hpath] at h
        exact Or.inl ⟨h, by simp⟩

theorem HeldInv.serve (h : HeldInv s) (hpending : PendingInv s) {error : Option String}
    (he : RemovalSettled s (.serve error)) : HeldInv (s.serve error) := by
  rcases serve_cases s error with ⟨-, heq⟩ | ⟨nfcd, n, c, queue, hn, hq, heq⟩ <;> rw [heq]
  · exact h
  refine ⟨?_, fun hd => ?_, fun hn' => nomatch hn'⟩
  · rintro _ ⟨⟩ path hheld
    rcases holds_after_handle hheld with ⟨hheld, hne⟩ | ⟨rfl, aid, implicit, req, rfl⟩
    · rcases h.covered nfcd hn path hheld with ⟨m, hm⟩ | ⟨p, hp, hpath, hknown⟩
      · rw [hq] at hm
        rcases List.mem_cons.mp hm with hhead | htail
        · cases hhead
          exact absurd rfl hne
        · exact Or.inl ⟨m, (Channel.queue_serve hq).symm ▸ htail⟩
      · exact Or.inr ⟨p, hp, hpath,
          hknown.imp_right fun hunder => (answerUnderWay_serve hq _).mpr (Or.inl hunder)⟩
    · obtain ⟨p, hp, hpointer⟩ := he.registers hq
      have hun : s.calls.Unanswered n (.registerLocalHostApp path aid implicit req) :=
        Or.inl (hq ▸ List.mem_cons_self)
      refine Or.inr ⟨p, hp, (hpending.known _ _ _ _ _ hun).2 p hp hpointer, Or.inr ?_⟩
      exact (answerUnderWay_serve hq _).mpr
        (Or.inr ⟨rfl, path, aid, implicit, req, rfl, hpointer.symm⟩)
  · have hnil := (h.absent hd).1
    rw [hq] at hnil
    cases hnil

theorem PendingInv.vanish (h : PendingInv s) : PendingInv (daemonVanished s) := by
  rcases daemonVanished_cases s with ⟨-, heq⟩ | ⟨-, heq⟩ <;> rw [heq]
  · refine ⟨KnownInv.disconnected h.known, fun pointer hunder => ?_, h.unused⟩
    · -- every answer has become an error of the bus
      obtain ⟨n, path, aid, implicit, req, r, hmem, -, haccepts⟩ := answerUnderWay_iff.mp hunder
      rw [Channel.reply_of_disconnect hmem rfl] at haccepts
      cases haccepts
  · exact h

theorem HeldInv.vanish (h : HeldInv s) : HeldInv (daemonVanished s) := by
  rcases daemonVanished_cases s with ⟨-, heq⟩ | ⟨-, heq⟩ <;> rw [heq]
  · exact ⟨fun _ hn => (nomatch hn), fun _ => ⟨rfl, fun _ hn => nomatch hn⟩, fun _ => rfl⟩
  · exact h

theorem HeldInv.appear (h : HeldInv s) : HeldInv (daemonAppeared s) := by
  rcases daemonAppeared_cases s with ⟨hnone, heq⟩ | heq <;> rw [heq]
  · refine ⟨?_, fun _ => ⟨h.gone hnone, ?_⟩, fun hn => nomatch hn⟩
    · rintro _ ⟨⟩ path hheld
      exact absurd rfl hheld
    · rintro _ ⟨⟩
      rfl
  · exact h

theorem PendingInv.appear (h : PendingInv s) : PendingInv (daemonAppeared s) := by
  rcases daemonAppeared_cases s with ⟨-, heq⟩ | heq <;> rw [heq]
  · exact ⟨h.known, h.accepted, h.unused⟩
  · exact h

theorem HeldInv.proxyReady (h : HeldInv s) : HeldInv (daemonProxyReady s) := by
  rcases daemonProxyReady_cases s with ⟨-, heq⟩ | heq <;> rw [heq]
  · exact ⟨h.covered, fun hd => (nomatch hd), h.gone⟩
  · exact h

theorem PendingInv.proxyReady (h : PendingInv s) : PendingInv (daemonProxyReady s) := by
  rcases daemonProxyReady_cases s with ⟨-, heq⟩ | heq <;> rw [heq]
  · exact ⟨h.known, h.accepted, h.unused⟩
  · exact h

/-! ## Steps and runs -/

/-- The three invariants together. -/
def RegistrationInv (s : HceState) : Prop := TableInv s ∧ PendingInv s ∧ HeldInv s

/-- **Step lemma.** -/
theorem RegistrationInv.step (h : RegistrationInv s) (he : RemovalSettled s e) :
    RegistrationInv (s.step e) := by
  obtain ⟨htable, hpending, hheld⟩ := h
  refine ⟨htable.step e, ?_⟩
  cases e with
  | add request exported =>
    exact ⟨hpending.add htable request exported, hheld.add htable request exported⟩
  | remove aid => exact remove_invariants hpending hheld htable he
  | clear => exact clear_invariants hpending hheld he
  | serve error => exact ⟨hpending.serve he, hheld.serve hpending he⟩
  | deliver i => exact deliver_invariants hpending hheld i
  | appear => exact ⟨hpending.appear, hheld.appear⟩
  | proxyReady => exact ⟨hpending.proxyReady, hheld.proxyReady⟩
  | vanish => exact ⟨hpending.vanish, hheld.vanish⟩

/-- **Run lemma.** -/
theorem registrationInv_run {events : List HceEvent}
    (h : Along RemovalSettled HceState.step .start events) :
    RegistrationInv (run HceState.step .start events) :=
  h.invariant RegistrationInv (fun _ _ hs he => hs.step he)
    ⟨tableInv_start, pendingInv_start, heldInv_start⟩

/-- At a quiescent moment nfcd holds registrations of the profiles in the table only. -/
theorem HeldInv.profile_of_idle (h : HeldInv s) (hidle : s.calls.Idle) (hn : s.nfcd = some nfcd)
    (hheld : nfcd.holds path ≠ none) : ∃ p ∈ s.hceProfiles, p.objectPath = path := by
  rcases h.covered nfcd hn path hheld with ⟨n, hqueue⟩ | ⟨p, hp, hpath, -⟩
  · rw [hidle.1] at hqueue
    cases hqueue
  · exact ⟨p, hp, hpath⟩

/-- What is taken away is gone from the table. -/
theorem lookup_removed (s : HceState) {aid : Bytes} (haid : aid ≠ [])
    (he : e = .remove aid ∨ e = .clear) : (s.step e).lookup (ndefBytesToHex aid) = none := by
  rcases he with rfl | rfl
  · rcases remove_cases s aid with ⟨heq, hnone⟩ | ⟨profile, -, -, hcase⟩
    · rw [show s.step (.remove aid) = _ from heq]
      exact hnone.resolve_left haid
    · have herased : ((hceUnregister s profile).erase (ndefBytesToHex aid)).lookup
          (ndefBytesToHex aid) = none :=
        lookup_eq_none.mpr fun p hp => (mem_hceProfiles_erase.mp hp).2
      rcases hcase with ⟨heq, -⟩ | heq
      · rw [show s.step (.remove aid) = _ from heq]
        exact herased
      · rw [show s.step (.remove aid) = _ from heq, HceState.lookup, (table_hceReleaseMode _).1]
        exact herased
  · rw [HceState.lookup, hceProfiles_clear]
    rfl

/-- And stays gone until it is added again. -/
theorem lookup_run_eq_none {aid : Bytes} {events : List HceEvent}
    (h : s.lookup (ndefBytesToHex aid) = none)
    (hadd : ∀ request, .add request true ∈ events → request.aid ≠ aid) :
    (run HceState.step s events).lookup (ndefBytesToHex aid) = none := by
  induction events generalizing s with
  | nil => exact h
  | cons e events ih =>
    refine ih (lookup_step_eq_none h ?_) fun request hmem =>
      hadd request (List.mem_cons_of_mem _ hmem)
    rintro request rfl heq
    exact hadd request List.mem_cons_self (ndefBytesToHex_injective heq)

/-- **Removal is final.**  In a run without a removal that overtakes the acceptance of a
registration, no answer is written to a profile that is gone; and once every call is
answered, nfcd holds nothing for an AID that was removed, or cleared, and not added again. -/
theorem removal_is_final {events : List HceEvent}
    (h : Along RemovalSettled HceState.step .start events) :
    (run HceState.step .start events).usedFreed = false ∧
      ((run HceState.step .start events).calls.Idle →
        ∀ nfcd, (run HceState.step .start events).nfcd = some nfcd →
        ∀ aid before e after, aid ≠ [] → events = before ++ e :: after →
          (e = .remove aid ∨ e = .clear) →
          (∀ request, .add request true ∈ after → request.aid ≠ aid) →
          nfcd.holds (hceObjectPath (ndefBytesToHex aid)) = none) := by
  obtain ⟨htable, hpending, hheld⟩ := registrationInv_run h
  refine ⟨hpending.unused, ?_⟩
  rintro hidle nfcd hn aid before e after haid rfl he hadd
  by_contra hholds
  obtain ⟨p, hp, hpath⟩ := hheld.profile_of_idle hidle hn hholds
  have hgone : (run HceState.step .start (before ++ e :: after)).lookup (ndefBytesToHex aid) =
      none := by
    rw [run_append, run_cons]
    exact lookup_run_eq_none (lookup_removed _ haid he) hadd
  rw [htable.paths p hp] at hpath
  exact lookup_eq_none.mp hgone p hp (hceObjectPath_injective hpath)

theorem removal_is_final_badge :
    (run HceState.step .start
        (badgeRegistered ++ [.remove [0xF0, 0x01], .serve none, .serve none])).usedFreed = false ∧
      Nfcd.holds ⟨[], [], 2⟩ (hceObjectPath (ndefBytesToHex [0xF0, 0x01])) = none := by
  have hfinal := removal_is_final (show Along RemovalSettled HceState.step .start
    (badgeRegistered ++ [.remove [0xF0, 0x01], .serve none, .serve none]) by decide +kernel)
  refine ⟨hfinal.1, hfinal.2 (by decide +kernel) ⟨[], [], 2⟩ (by decide +kernel) [0xF0, 0x01]
    badgeRegistered (.remove [0xF0, 0x01]) [.serve none, .serve none] (by decide) rfl
    (Or.inl rfl) ?_⟩
  simp

/-- A badge is removed before nfcd has answered. -/
def badgeRemovedAtOnce : List HceEvent :=
  nfcdReady ++ [.add (badgeRequest [0xF0, 0x01]) true, .remove [0xF0, 0x01], .serve none,
    .serve none, .deliver 0, .deliver 0]

/-- The answer is written to the freed profile, and nfcd keeps the registration. -/
theorem overtaken_registration_survives :
    (run HceState.step .start badgeRemovedAtOnce).usedFreed = true ∧
      (run HceState.step .start badgeRemovedAtOnce).calls.Idle ∧
      (run HceState.step .start badgeRemovedAtOnce).nfcd.bind
        (Nfcd.holds · (hceObjectPath (ndefBytesToHex [0xF0, 0x01]))) = some false := by
  decide +kernel

end NfcAdapter
