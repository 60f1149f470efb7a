/-
# Card emulation across restarts of nfcd

A profile's `registered` flag and the mode slot mirror what the nfcd on the bus holds.
Nothing resets them when nfcd goes away, so they mirror the present one as long as it goes
away only while they are clear, and as long as no refused registration leaves a flag behind
that an earlier answer has set.
-/
import NfcAdapter.CardEmulationRemoval
import NfcAdapter.CardEmulationRegistration

namespace NfcAdapter

open AsyncCalls Runs

variable {s t : HceState} {e : HceEvent} {nfcd : Nfcd} {path : String} {n id pointer : ℕ}

/-! ## The condition -/

/-- A registration of this profile waits among these calls. -/
def registersIn (queue : List (ℕ × NfcdCall)) (pointer : ℕ) : Bool :=
  queue.any fun x =>
    match x.2 with
    | .registerLocalHostApp _ _ _ req => req.profile = pointer
    | _ => false

/-- The profile is marked as registered, or will be when the answer arrives. -/
def HceState.Marked (s : HceState) (p : HceProfile) : Prop :=
  p.registered = true ∨ s.answerUnderWay p.pointer = true

instance (s : HceState) (p : HceProfile) : Decidable (s.Marked p) :=
  inferInstanceAs (Decidable (_ ∨ _))

/-- nfcd goes away only while no profile is marked as registered and no mode is recorded,
and refuses the last registration of a profile only while it is not marked. -/
def RestartSettled (s : HceState) : HceEvent → Prop
  | .vanish => s.hceModeRequestId = 0 ∧ ∀ p ∈ s.hceProfiles, p.registered = false
  | .serve (some _) => ∀ req ∈ s.registersNext, ∀ p ∈ s.hceProfiles, p.pointer = req.profile →
      s.Marked p → registersIn s.calls.queue.tail p.pointer = true
  | _ => True

instance (s : HceState) : (e : HceEvent) → Decidable (RestartSettled s e)
  | .vanish => inferInstanceAs
      (Decidable (s.hceModeRequestId = 0 ∧ ∀ p ∈ s.hceProfiles, p.registered = false))
  | .serve (some _) => inferInstanceAs
      (Decidable (∀ req ∈ s.registersNext, ∀ p ∈ s.hceProfiles, p.pointer = req.profile →
        s.Marked p → registersIn s.calls.queue.tail p.pointer = true))
  | .serve none => isTrue trivial
  | .add _ _ => isTrue trivial
  | .remove _ => isTrue trivial
  | .clear => isTrue trivial
  | .deliver _ => isTrue trivial
  | .appear => isTrue trivial
  | .proxyReady => isTrue trivial

theorem registersIn_iff {queue : List (ℕ × NfcdCall)} :
    registersIn queue pointer = true ↔
      ∃ n path aid implicit req, (n, .registerLocalHostApp path aid implicit req) ∈ queue ∧
        req.profile = pointer := by
  unfold registersIn
  rw [List.any_eq_true]
  constructor
  · rintro ⟨⟨n, c⟩, hmem, hc⟩
    cases c with
    | registerLocalHostApp path aid implicit req =>
      exact ⟨n, path, aid, implicit, req, hmem, of_decide_eq_true hc⟩
    | requestMode => cases hc
    | unregisterLocalHostApp => cases hc
    | releaseMode => cases hc
  · rintro ⟨n, path, aid, implicit, req, hmem, hc⟩
    exact ⟨_, hmem, decide_eq_true hc⟩

/-! ## Flags and registrations -/

/-- What the steps keep: a marked profile's registration is held, or one of the profile
still waits; and behind an Unregister call for the path of a profile one of it waits. -/
structure RestartInv (s : HceState) : Prop where
  gone : s.nfcd = none → s.calls.queue = [] ∧ ∀ p ∈ s.hceProfiles, ¬ s.Marked p
  absent : s.daemon = false → s.calls.queue = []
  later : ∀ p ∈ s.hceProfiles, ∀ n, (n, .unregisterLocalHostApp p.objectPath) ∈ s.calls.queue →
    ∃ m path aid implicit req, n < m ∧
      (m, .registerLocalHostApp path aid implicit req) ∈ s.calls.queue ∧ req.profile = p.pointer
  marked : ∀ nfcd, s.nfcd = some nfcd → ∀ p ∈ s.hceProfiles, s.Marked p →
    nfcd.holds p.objectPath ≠ none ∨ registersIn s.calls.queue p.pointer = true

theorem restartInv_start : RestartInv .start where
  gone := fun _ => ⟨rfl, fun _ h => nomatch h⟩
  absent := fun _ => rfl
  later := fun _ h => nomatch h
  marked := fun _ h => nomatch h

theorem registersIn_call {c : NfcdCall} (h : registersIn s.calls.queue pointer = true) :
    registersIn (s.call c).calls.queue pointer = true := by
  obtain ⟨n, path, aid, implicit, req, hmem, hreq⟩ := registersIn_iff.mp h
  exact registersIn_iff.mpr ⟨n, path, aid, implicit, req, mem_queue_call.mpr (Or.inl hmem), hreq⟩

theorem marked_call (s : HceState) (c : NfcdCall) (p : HceProfile) :
    (s.call c).Marked p ↔ s.Marked p := by
  unfold HceState.Marked
  rw [answerUnderWay_call]

namespace RestartInv

/-- A call other than an Unregister call for the path of a profile. -/
theorem call (h : RestartInv s) (hd : s.daemon = true) {c : NfcdCall}
    (hc : ∀ p ∈ s.hceProfiles, c ≠ .unregisterLocalHostApp p.objectPath) :
    RestartInv (s.call c) where
  gone := by
    intro hn
    replace hn : s.nfcd = none := hn
    refine ⟨?_, fun p hp hmarked => (h.gone hn).2 p hp ((marked_call s c p).mp hmarked)⟩
    rw [queue_call, (h.gone hn).1, hn]
    rfl
  absent := fun hd' => absurd (hd.symm.trans hd') (by simp)
  later := by
    intro p hp n hmem
    rcases mem_queue_call.mp hmem with hmem | ⟨-, heq⟩
    · obtain ⟨m, path, aid, implicit, req, hlt, hreg, hreq⟩ := h.later p hp n hmem
      exact ⟨m, path, aid, implicit, req, hlt, mem_queue_call.mpr (Or.inl hreg), hreq⟩
    · exact absurd (Prod.mk.inj heq).2.symm (hc p hp)
  marked := by
    intro nfcd hn p hp hmarked
    exact (h.marked nfcd hn p hp ((marked_call s c p).mp hmarked)).imp_right registersIn_call

/-- A change of the table in place that marks no profile. -/
theorem change (h : RestartInv s) {f : HceProfile → HceProfile} (hf : KeepsIdentity f)
    (hreg : ∀ p, (f p).registered = true → p.registered = true)
    (htable : t.hceProfiles = s.hceProfiles.map f) (hcalls : t.calls = s.calls)
    (hnfcd : t.nfcd = s.nfcd) (hdaemon : t.daemon = s.daemon) : RestartInv t := by
  have hback : ∀ q ∈ t.hceProfiles, ∃ p ∈ s.hceProfiles, q.pointer = p.pointer ∧
      q.objectPath = p.objectPath ∧ (t.Marked q → s.Marked p) := by
    intro q hq
    obtain ⟨p, hp, rfl⟩ := List.mem_map.mp (htable ▸ hq)
    refine ⟨p, hp, (hf p).1, (hf p).2.2, fun hmarked => ?_⟩
    rw [HceState.Marked, answerUnderWay_congr hcalls, (hf p).1] at hmarked
    exact hmarked.imp_left (hreg p)
  refine ⟨?_, ?_, ?_, ?_⟩
  · rw [hnfcd, hcalls]
    refine fun hn => ⟨(h.gone hn).1, fun q hq hmarked => ?_⟩
    obtain ⟨p, hp, -, -, hback⟩ := hback q hq
    exact (h.gone hn).2 p hp (hback hmarked)
  · rw [hdaemon, hcalls]
    exact h.absent
  · intro q hq
    obtain ⟨p, hp, hpointer, hpath, -⟩ := hback q hq
    rw [hcalls, hpointer, hpath]
    exact h.later p hp
  · rw [hnfcd, hcalls]
    intro nfcd hn q hq hmarked
    obtain ⟨p, hp, hpointer, hpath, hback⟩ := hback q hq
    rw [hpointer, hpath]
    exact h.marked nfcd hn p hp (hback hmarked)

theorem drop (h : RestartInv s) {keep : HceProfile → Bool}
    (htable : t.hceProfiles = s.hceProfiles.filter keep) (hcalls : t.calls = s.calls)
    (hnfcd : t.nfcd = s.nfcd) (hdaemon : t.daemon = s.daemon) : RestartInv t := by
  have hback : ∀ p ∈ t.hceProfiles, p ∈ s.hceProfiles := fun p hp =>
    List.mem_of_mem_filter (htable ▸ hp)
  have hmarked : ∀ p, t.Marked p → s.Marked p := fun p hp => by
    rw [HceState.Marked, answerUnderWay_congr hcalls] at hp
    exact hp
  refine ⟨?_, ?_, ?_, ?_⟩
  · rw [hnfcd, hcalls]
    exact fun hn => ⟨(h.gone hn).1, fun p hp hm => (h.gone hn).2 p (hback p hp) (hmarked p hm)⟩
  · rw [hdaemon, hcalls]
    exact h.absent
  · rw [hcalls]
    exact fun p hp => h.later p (hback p hp)
  · rw [hnfcd, hcalls]
    exact fun nfcd hn p hp hm => h.marked nfcd hn p (hback p hp) (hmarked p hm)

/-- A profile is registered: behind its registration nothing about its path waits. -/
theorem register (hordered : s.calls.Ordered) (hd : s.daemon = true) (profile : HceProfile)
    (request : AddRequest)
    (hgone : s.nfcd = none → s.calls.queue = [] ∧ ∀ p ∈ s.hceProfiles, ¬ s.Marked p)
    (hlater : ∀ p ∈ s.hceProfiles, p.pointer ≠ profile.pointer →
      ∀ n, (n, .unregisterLocalHostApp p.objectPath) ∈ s.calls.queue →
        ∃ m path aid implicit req, n < m ∧
          (m, .registerLocalHostApp path aid implicit req) ∈ s.calls.queue ∧
          req.profile = p.pointer)
    (hmarked : ∀ nfcd, s.nfcd = some nfcd → ∀ p ∈ s.hceProfiles, p.pointer ≠ profile.pointer →
      s.Marked p → nfcd.holds p.objectPath ≠ none ∨
        registersIn s.calls.queue p.pointer = true) :
    RestartInv (hceDoRegister s profile request).1 := by
  rcases hceDoRegister_cases s profile request with ⟨hd', -⟩ | ⟨-, heq⟩
  · exact absurd (hd.symm.trans hd') (by simp)
  rw [heq]
  have hregistered : s.nfcd.isSome = true → (s.calls.next + 1,
      .registerLocalHostApp profile.objectPath request.aid profile.implicit
        ⟨profile.pointer, request⟩) ∈ ((s.call .requestMode).call (.registerLocalHostApp
          profile.objectPath request.aid profile.implicit
          ⟨profile.pointer, request⟩)).calls.queue :=
    fun hn => mem_queue_call.mpr (Or.inr ⟨hn, by rw [next_call]⟩)
  have hold : ∀ n path, (n, NfcdCall.unregisterLocalHostApp path) ∈ ((s.call .requestMode).call
      (.registerLocalHostApp profile.objectPath request.aid profile.implicit
        ⟨profile.pointer, request⟩)).calls.queue →
      (n, NfcdCall.unregisterLocalHostApp path) ∈ s.calls.queue := by
    intro n path hmem
    rcases mem_queue_call.mp hmem with hmem | ⟨-, heq⟩
    · rcases mem_queue_call.mp hmem with hmem | ⟨-, heq⟩
      · exact hmem
      · cases heq
    · cases heq
  refine ⟨fun hn => ?_, fun hd' => absurd (hd.symm.trans hd') (by simp), fun p hp n hmem => ?_,
    fun nfcd hn p hp hm => ?_⟩
  · replace hn : s.nfcd = none := hn
    refine ⟨?_, fun p hp hm => (hgone hn).2 p hp ?_⟩
    · rw [queue_call, nfcd_call, queue_call, hn, (hgone hn).1]
      rfl
    · rwa [marked_call, marked_call] at hm
  · have hmem := hold n _ hmem
    by_cases hpointer : p.pointer = profile.pointer
    · have hsome : s.nfcd.isSome = true := by
        rw [Option.isSome_iff_ne_none]
        intro hn
        rw [(hgone hn).1] at hmem
        cases hmem
      exact ⟨_, _, _, _, _, (hordered.below _ hmem).trans (Nat.lt_succ_self _), hregistered hsome,
        hpointer.symm⟩
    · obtain ⟨m, path, aid, implicit, req, hlt, hreg, hreq⟩ := hlater p hp hpointer n hmem
      exact ⟨m, path, aid, implicit, req, hlt,
        mem_queue_call.mpr (Or.inl (mem_queue_call.mpr (Or.inl hreg))), hreq⟩
  · by_cases hpointer : p.pointer = profile.pointer
    · have hsome : s.nfcd.isSome = true := by
        rw [show s.nfcd = some nfcd from hn]
        rfl
      exact Or.inr (registersIn_iff.mpr ⟨_, _, _, _, _, hregistered hsome, hpointer.symm⟩)
    · rw [marked_call, marked_call] at hm
      exact (hmarked nfcd hn p hp hpointer hm).imp_right fun h =>
        registersIn_call (registersIn_call h)

theorem add (h : RestartInv s) (htable : TableInv s) (hknown : KnownInv s)
    (hordered : s.calls.Ordered) (request : AddRequest) (exported : Bool) :
    RestartInv (nfcdClientAddCardEmulationProfile s request exported).1 := by
  have hrenewed : ∀ profile, RestartInv (s.renew profile request) := by
    intro profile
    refine h.change ((keepsIdentity_renew request).only profile.pointer) ?_ rfl rfl rfl rfl
    intro p hp
    split at hp <;> exact hp
  rcases add_cases s request exported with ⟨-, text, heq⟩ | ⟨profile, -, -, -, heq⟩ |
    ⟨profile, -, hlookup, ⟨-, hd⟩, heq⟩ | ⟨-, hnone, -, heq⟩ <;> rw [heq]
  · exact h
  · exact hrenewed profile
  · have hforget : KeepsIdentity fun p => { p with registered := false } :=
      fun _ => ⟨rfl, rfl, rfl⟩
    have hforgotten : RestartInv ((s.renew profile request).update profile.pointer
        fun p => { p with registered := false }) := by
      refine (hrenewed profile).change (hforget.only profile.pointer) ?_ rfl rfl rfl rfl
      intro p hp
      split at hp
      · cases hp
      · exact hp
    have htable' := tableInv_reopen htable profile request
    obtain ⟨q, hq, hqpointer, hqpath⟩ := mem_reopen (mem_of_lookup hlookup).1 request
    have hordered' : (s.reopen profile request).calls.Ordered := by
      refine (Asked.call ((s.renew profile request).update profile.pointer
        fun p => { p with registered := false }) ?_).ordered hordered
      rintro _ _ _ _ ⟨⟩
    refine register hordered' hd _ request (fun hn => ?_) (fun p hp hpointer n hmem => ?_)
      (fun nfcd hn p hp hpointer hm => ?_)
    · refine ⟨?_, fun p hp hm => (hforgotten.gone hn).2 p hp ((marked_call _ _ p).mp hm)⟩
      rw [HceState.reopen, queue_call, (hforgotten.gone hn).1,
        show ((s.renew profile request).update profile.pointer _).nfcd = none from hn]
      rfl
    · -- the new Unregister call is for another path
      have hpath : p.objectPath ≠ profile.objectPath := fun hpath =>
        hpointer (hqpointer ▸ congrArg HceProfile.pointer
          (htable'.eq_of_objectPath hp hq (hpath.trans hqpath.symm)))
      rcases mem_queue_call.mp hmem with hmem | ⟨-, heq⟩
      · obtain ⟨m, path, aid, implicit, req, hlt, hreg, hreq⟩ := hforgotten.later p hp n hmem
        exact ⟨m, path, aid, implicit, req, hlt, mem_queue_call.mpr (Or.inl hreg), hreq⟩
      · exact absurd (NfcdCall.unregisterLocalHostApp.inj (Prod.mk.inj heq).2) hpath
    · exact (hforgotten.marked nfcd hn p hp ((marked_call _ _ p).mp hm)).imp_right registersIn_call
  · have hnew : ∀ p ∈ (s.insert (s.newProfile request)).hceProfiles,
        p ∈ s.hceProfiles ∨ p = s.newProfile request := fun p hp =>
      (List.mem_append.mp hp).imp_right List.mem_singleton.mp
    have hunmarked : ¬ s.Marked (s.newProfile request) := by
      rintro (hreg | hunder)
      · cases hreg
      · obtain ⟨n, path, aid, implicit, req, r, hmem, hreq, -⟩ := answerUnderWay_iff.mp hunder
        have hlt := (hknown n path aid implicit req (Or.inr ⟨r, hmem⟩)).1
        rw [hreq] at hlt
        exact absurd hlt (lt_irrefl _)
    have hgone : s.nfcd = none → s.calls.queue = [] ∧
        ∀ p ∈ (s.insert (s.newProfile request)).hceProfiles, ¬ s.Marked p := by
      refine fun hn => ⟨(h.gone hn).1, fun p hp => ?_⟩
      rcases hnew p hp with hp | rfl
      · exact (h.gone hn).2 p hp
      · exact hunmarked
    cases hd : s.daemon with
    | true =>
      have hrest : ∀ p ∈ (s.insert (s.newProfile request)).hceProfiles,
          p.pointer ≠ (s.newProfile request).pointer → p ∈ s.hceProfiles := by
        intro p hp hpointer
        exact (hnew p hp).resolve_right fun heq => hpointer (by rw [heq])
      exact register (s := s.insert (s.newProfile request)) hordered hd _ request hgone
        (fun p hp hpointer => h.later p (hrest p hp hpointer))
        (fun nfcd hn p hp hpointer => h.marked nfcd hn p (hrest p hp hpointer))
    | false =>
      have hqueue := h.absent hd
      rcases hceDoRegister_cases (s.insert (s.newProfile request)) (s.newProfile request) request
        with ⟨-, heq'⟩ | ⟨hd', -⟩
      · rw [heq']
        refine ⟨hgone, h.absent, fun p hp n hmem => ?_, fun nfcd hn p hp hm => ?_⟩
        · rw [calls_insert, hqueue] at hmem
          cases hmem
        · rcases hnew p hp with hp | rfl
          · exact h.marked nfcd hn p hp hm
          · exact absurd hm hunmarked
      · exact absurd (hd.symm.trans hd') (by simp)

theorem release (h : RestartInv s) : RestartInv (hceReleaseMode s) := by
  rcases hceReleaseMode_cases s with ⟨⟨-, hd⟩, heq⟩ | ⟨-, heq⟩ <;> rw [heq]
  · have hcalled : RestartInv (s.call (.releaseMode s.hceModeRequestId)) :=
      h.call hd fun _ _ => NfcdCall.noConfusion
    exact ⟨hcalled.gone, hcalled.absent, hcalled.later, hcalled.marked⟩
  · exact h

theorem remove (h : RestartInv s) (htable : TableInv s) (aid : Bytes) :
    RestartInv (nfcdClientRemoveCardEmulationProfile s aid).1 := by
  rcases remove_cases s aid with ⟨heq, -⟩ | ⟨profile, -, hlookup, hcase⟩
  · rw [heq]
    exact h
  obtain ⟨hprofile, haid⟩ := mem_of_lookup hlookup
  have hdropped : RestartInv (s.erase (ndefBytesToHex aid)) := h.drop rfl rfl rfl rfl
  have herased : RestartInv ((hceUnregister s profile).erase (ndefBytesToHex aid)) := by
    unfold hceUnregister
    split
    · rename_i hunreg
      have hcalled : RestartInv ((s.erase (ndefBytesToHex aid)).call
          (.unregisterLocalHostApp profile.objectPath)) := by
        refine hdropped.call hunreg.2 fun p hp heq => ?_
        obtain ⟨hp, hne⟩ := mem_hceProfiles_erase.mp hp
        have hsame := htable.eq_of_objectPath hprofile hp
          (NfcdCall.unregisterLocalHostApp.inj heq)
        exact hne (hsame ▸ haid)
      exact hcalled
    · exact hdropped
  rcases hcase with ⟨heq, -⟩ | heq <;> rw [heq]
  · exact herased
  · exact herased.release

theorem clear (h : RestartInv s) : RestartInv (nfcdClientClearCardEmulation s).1 := by
  have hfold := hceUnregister_invariant
    (I := fun t => (t.nfcd = none → t.calls.queue = []) ∧ (t.daemon = false → t.calls.queue = []))
    (fun t path hd ht => ⟨fun hn => by
      rw [queue_call, ht.1 hn, show t.nfcd = none from hn]
      rfl, fun hd' => absurd (hd.symm.trans hd') (by simp)⟩)
    s.hceProfiles ⟨fun hn => (h.gone hn).1, h.absent⟩
  have hemptied : RestartInv { s.hceProfiles.foldl hceUnregister s with hceProfiles := [] } :=
    ⟨fun hn => ⟨hfold.1 hn, fun _ hp => nomatch hp⟩, hfold.2, fun _ hp => (nomatch hp),
      fun _ _ _ hp => nomatch hp⟩
  exact hemptied.release

/-- Answers that arrive mark no profile but the one whose registration they accept. -/
theorem arrived (h : RestartInv s) (i : ℕ) : RestartInv { s with calls := s.calls.deliver i } := by
  have hback : ∀ p, ({ s with calls := s.calls.deliver i } : HceState).Marked p → s.Marked p := by
    intro p hm
    refine hm.imp_right fun hunder => ?_
    obtain ⟨n, path, aid, implicit, req, r, hmem, hreq⟩ := answerUnderWay_iff.mp hunder
    exact answerUnderWay_iff.mpr ⟨n, path, aid, implicit, req, r,
      Channel.mem_replies_deliver hmem, hreq⟩
  exact ⟨fun hn => ⟨(h.gone hn).1, fun p hp hm => (h.gone hn).2 p hp (hback p hm)⟩, h.absent,
    h.later, fun nfcd hn p hp hm => h.marked nfcd hn p hp (hback p hm)⟩

theorem deliver (h : RestartInv s) (i : ℕ) : RestartInv (s.deliver i).1 := by
  rcases deliver_cases s i with ⟨-, heq⟩ | ⟨n, c, r, hi, ⟨-, heq⟩ |
    ⟨path, aid, implicit, req, rfl, heq⟩ | ⟨-, heq⟩⟩ <;> rw [heq]
  · exact h
  · have harrived := h.arrived i
    rcases hceModeReady_cases { s with calls := s.calls.deliver i } r with ⟨id, -, hset⟩ |
      ⟨-, hset⟩ <;> simp only [hset]
    · exact ⟨harrived.gone, harrived.absent, harrived.later, harrived.marked⟩
    · exact harrived
  · rcases hceRegisterReady_cases { s with calls := s.calls.deliver i } req r with
      ⟨text, -, hset⟩ | ⟨haccepts, hset⟩ <;> rw [hset]
    · exact h.arrived i
    have hunder : s.answerUnderWay req.profile = true := answerUnderWay_iff.mpr
      ⟨n, path, aid, implicit, req, r, List.mem_of_getElem? hi, rfl, haccepts⟩
    have hmark : KeepsIdentity fun p => { p with registered := true } := fun _ => ⟨rfl, rfl, rfl⟩
    -- a profile that the answer marks was marked by the answer under way
    have hback : ∀ q ∈ (({ s with calls := s.calls.deliver i } : HceState).update req.profile
        fun p => { p with registered := true }).hceProfiles, ∃ p ∈ s.hceProfiles,
        q.pointer = p.pointer ∧ q.objectPath = p.objectPath ∧
          (({ s with calls := s.calls.deliver i } : HceState).Marked q → s.Marked p) := by
      intro q hq
      obtain ⟨p, hp, rfl⟩ := mem_hceProfiles_update.mp hq
      by_cases hpointer : p.pointer = req.profile
      · rw [if_pos hpointer]
        exact ⟨p, hp, rfl, rfl, fun _ => Or.inr (hpointer ▸ hunder)⟩
      · rw [if_neg hpointer]
        refine ⟨p, hp, rfl, rfl, fun hm => hm.imp_right fun hunder => ?_⟩
        obtain ⟨m, path', aid', implicit', req', r', hmem, hreq⟩ := answerUnderWay_iff.mp hunder
        exact answerUnderWay_iff.mpr ⟨m, path', aid', implicit', req', r',
          Channel.mem_replies_deliver hmem, hreq⟩
    refine ⟨fun hn => ⟨(h.gone hn).1, fun q hq hm => ?_⟩, h.absent, fun q hq => ?_,
      fun nfcd hn q hq hm => ?_⟩
    · obtain ⟨p, hp, -, -, hpm⟩ := hback q hq
      exact (h.gone hn).2 p hp (hpm hm)
    · obtain ⟨p, hp, hpointer, hpath, -⟩ := hback q hq
      rw [hpointer, hpath]
      exact h.later p hp
    · obtain ⟨p, hp, hpointer, hpath, hpm⟩ := hback q hq
      rw [hpointer, hpath]
      exact h.marked nfcd hn p hp (hpm hm)
  · exact h.arrived i

/-- A registration that is held stays so unless its Unregister call is handled. -/
theorem holds_handle_of_ne {c : NfcdCall} (error : Option String)
    (h : nfcd.holds path ≠ none) (hc : c ≠ .unregisterLocalHostApp path) :
    (nfcd.handle c error).1.holds path ≠ none := by
  rw [holds_handle]
  cases c with
  | requestMode => exact h
  | releaseMode id => exact h
  | unregisterLocalHostApp path' =>
    have hne : path ≠ path' := fun heq => hc (by rw [heq])
    simp only [NfcdCall.change, if_neg hne]
    exact h
  | registerLocalHostApp path' aid implicit req =>
    cases error with
    | some text => exact h
    | none =>
      simp only [NfcdCall.change, if_true]
      split
      · exact Option.some_ne_none _
      · exact h

theorem registersIn_tail {c : NfcdCall} {queue : List (ℕ × NfcdCall)}
    (h : registersIn ((n, c) :: queue) pointer = true)
    (hc : ∀ path aid implicit req, c = .registerLocalHostApp path aid implicit req →
      req.profile ≠ pointer) :
    registersIn queue pointer = true := by
  obtain ⟨m, path, aid, implicit, req, hmem, hreq⟩ := registersIn_iff.mp h
  rcases List.mem_cons.mp hmem with heq | hmem
  · cases heq
    exact absurd hreq (hc path aid implicit req rfl)
  · exact registersIn_iff.mpr ⟨m, path, aid, implicit, req, hmem, hreq⟩

/-- The registration behind a call still waits when the call has been handled. -/
theorem later_tail (h : RestartInv s) {c : NfcdCall}
    {queue : List (ℕ × NfcdCall)} (hq : s.calls.queue = (n, c) :: queue) {p : HceProfile}
    (hp : p ∈ s.hceProfiles) {k : ℕ} (hk : n ≤ k)
    (hmem : (k, .unregisterLocalHostApp p.objectPath) ∈ s.calls.queue) :
    ∃ m path aid implicit req, k < m ∧
      (m, .registerLocalHostApp path aid implicit req) ∈ queue ∧ req.profile = p.pointer := by
  obtain ⟨m, path, aid, implicit, req, hlt, hreg, hreq⟩ := h.later p hp k hmem
  rw [hq] at hreg
  rcases List.mem_cons.mp hreg with heq | hreg
  · cases heq
    omega
  · exact ⟨m, path, aid, implicit, req, hlt, hreg, hreq⟩

theorem marked_serve (h : RestartInv s) (hknown : KnownInv s) {error : Option String}
    (he : RestartSettled s (.serve error)) {c : NfcdCall}
    {queue : List (ℕ × NfcdCall)} (hn : s.nfcd = some nfcd) (hq : s.calls.queue = (n, c) :: queue)
    {p : HceProfile} (hp : p ∈ s.hceProfiles)
    (hm : s.Marked p ∨ error = none ∧ ∃ path aid implicit req,
      c = .registerLocalHostApp path aid implicit req ∧ req.profile = p.pointer) :
    (nfcd.handle c error).1.holds p.objectPath ≠ none ∨ registersIn queue p.pointer = true := by
  by_cases hreg : ∃ path aid implicit req, c = .registerLocalHostApp path aid implicit req ∧
      req.profile = p.pointer
  · obtain ⟨path, aid, implicit, req, rfl, hreq⟩ := hreg
    cases error with
    | none =>
      -- accepted: nfcd holds it from now on
      have hpath := (hknown n path aid implicit req
        (Or.inl (hq ▸ List.mem_cons_self))).2 p hp hreq.symm
      left
      rw [holds_handle, hpath]
      simp [NfcdCall.change]
    | some text =>
      have hnext : req ∈ s.registersNext := by
        rw [HceState.registersNext, hq]
        rfl
      have hmarked : s.Marked p := hm.resolve_right fun hx => Option.some_ne_none text hx.1
      have hwaits := he req hnext p hp hreq.symm hmarked
      rw [hq] at hwaits
      exact Or.inr hwaits
  · have hother : ∀ path aid implicit req, c = .registerLocalHostApp path aid implicit req →
        req.profile ≠ p.pointer := fun path aid implicit req hc hreq =>
      hreg ⟨path, aid, implicit, req, hc, hreq⟩
    have hmarked : s.Marked p := hm.resolve_right fun hx => hreg hx.2
    by_cases hunreg : c = .unregisterLocalHostApp p.objectPath
    · obtain ⟨m, path, aid, implicit, req, -, hmem, hreq⟩ := h.later_tail hq hp le_rfl
        (hq ▸ hunreg ▸ List.mem_cons_self)
      exact Or.inr (registersIn_iff.mpr ⟨m, path, aid, implicit, req, hmem, hreq⟩)
    · rcases h.marked nfcd hn p hp hmarked with hheld | hwaits
      · exact Or.inl (holds_handle_of_ne error hheld hunreg)
      · exact Or.inr (registersIn_tail (hq ▸ hwaits) hother)

theorem serve (h : RestartInv s) (hknown : KnownInv s) (hordered : s.calls.Ordered)
    {error : Option String} (he : RestartSettled s (.serve error)) :
    RestartInv (s.serve error) := by
  rcases serve_cases s error with ⟨-, heq⟩ | ⟨nfcd, n, c, queue, hn, hq, heq⟩ <;> rw [heq]
  · exact h
  refine ⟨(fun hnone => nomatch hnone), fun hd => ?_, fun p hp k hmem => ?_, ?_⟩
  · have hnil := h.absent hd
    rw [hq] at hnil
    cases hnil
  · rw [Channel.queue_serve hq] at hmem
    have hk := (hordered.head_lt hq hmem).le
    obtain ⟨m, path, aid, implicit, req, hlt, hreg, hreq⟩ := h.later_tail hq hp hk
      (hq ▸ List.mem_cons_of_mem _ hmem)
    exact ⟨m, path, aid, implicit, req, hlt, (Channel.queue_serve hq).symm ▸ hreg, hreq⟩
  · rintro _ ⟨⟩ p hp hm
    rw [Channel.queue_serve hq]
    refine h.marked_serve hknown he hn hq hp ?_
    rcases hm with hreg | hunder
    · exact Or.inl (Or.inl hreg)
    · exact ((answerUnderWay_serve hq _).mp hunder).imp_left Or.inr

theorem vanish (h : RestartInv s) (he : RestartSettled s .vanish) :
    RestartInv (daemonVanished s) := by
  rcases daemonVanished_cases s with ⟨-, heq⟩ | ⟨-, heq⟩ <;> rw [heq]
  · refine ⟨fun _ => ⟨rfl, fun p hp hm => ?_⟩, fun _ => rfl, fun _ _ _ hmem => (nomatch hmem),
      fun _ hn => nomatch hn⟩
    rcases hm with hreg | hunder
    · exact absurd (hreg.symm.trans (he.2 p hp)) (by simp)
    · obtain ⟨n, path, aid, implicit, req, r, hmem, -, haccepts⟩ := answerUnderWay_iff.mp hunder
      rw [Channel.reply_of_disconnect hmem rfl] at haccepts
      cases haccepts
  · exact h

theorem appear (h : RestartInv s) : RestartInv (daemonAppeared s) := by
  rcases daemonAppeared_cases s with ⟨hnone, heq⟩ | heq <;> rw [heq]
  · exact ⟨fun hn => (nomatch hn), h.absent, h.later,
      fun _ _ p hp hm => absurd hm ((h.gone hnone).2 p hp)⟩
  · exact h

theorem proxyReady (h : RestartInv s) : RestartInv (daemonProxyReady s) := by
  rcases daemonProxyReady_cases s with ⟨-, heq⟩ | heq <;> rw [heq]
  · exact ⟨h.gone, fun hd => (nomatch hd), h.later, h.marked⟩
  · exact h

/-- **Step lemma.** -/
theorem step (h : RestartInv s) (htable : TableInv s) (hknown : KnownInv s)
    (hordered : s.calls.Ordered) (he : RestartSettled s e) : RestartInv (s.step e) := by
  cases e with
  | add request exported => exact h.add htable hknown hordered request exported
  | remove aid => exact h.remove htable aid
  | clear => exact h.clear
  | serve error => exact h.serve hknown hordered he
  | deliver i => exact h.deliver i
  | appear => exact h.appear
  | proxyReady => exact h.proxyReady
  | vanish => exact h.vanish he

end RestartInv

/-! ## The recorded mode -/

/-- The RequestMode calls that the present nfcd has granted, with their ids, and the call
whose answer the slot records. -/
structure ModeLog where
  issued : List (ℕ × ℕ)
  slot : Option ℕ
  deriving DecidableEq

/-- The history after a step; what nfcd has issued ends with it. -/
def ModeLog.step (log : ModeLog) (s : HceState) : HceEvent → ModeLog
  | .serve none =>
    match s.nfcd, s.calls.queue with
    | some nfcd, (n, .requestMode) :: _ =>
      { log with issued := (n, nfcd.nextModeId) :: log.issued }
    | _, _ => log
  | .deliver i =>
    match s.calls.replies[i]? with
    | some (n, .requestMode, .granted _) => { log with slot := some n }
    | _ => log
  | .vanish => { log with issued := [] }
  | _ => log

/-- The machine with this history. -/
def modeLogStep : HceState × ModeLog → HceEvent → HceState × ModeLog :=
  withHistory HceState.step ModeLog.step

/-- Before anything has happened. -/
def modeLogStart : HceState × ModeLog := (.start, ⟨[], none⟩)

/-- What the history says about the answers under way, the slot and the releases. -/
structure ModeLogInv (s : HceState) (log : ModeLog) : Prop where
  answer : ∀ n id, (n, .requestMode, .granted id) ∈ s.calls.replies → (n, id) ∈ log.issued
  slot : s.hceModeRequestId ≠ 0 → ∃ n, log.slot = some n ∧ (n, s.hceModeRequestId) ∈ log.issued
  release : ∀ n id, (n, .releaseMode id) ∈ s.calls.queue → ∃ m, (m, id) ∈ log.issued
  gone : s.nfcd = none → log.issued = []

theorem modeLogInv_start : ModeLogInv .start ⟨[], none⟩ where
  answer := fun _ _ h => nomatch h
  slot := fun h => absurd rfl h
  release := fun _ _ h => nomatch h
  gone := fun _ => rfl

/-- The client releases what the slot records, and forgets it then. -/
structure ReleasesSlot (s t : HceState) : Prop where
  slot : t.hceModeRequestId ≠ 0 → t.hceModeRequestId = s.hceModeRequestId
  release : ∀ n id, (n, .releaseMode id) ∈ t.calls.queue →
    (n, .releaseMode id) ∈ s.calls.queue ∨ id = s.hceModeRequestId ∧ id ≠ 0

namespace ReleasesSlot

variable {u : HceState}

theorem same (hcalls : t.calls = s.calls) (hslot : t.hceModeRequestId = s.hceModeRequestId) :
    ReleasesSlot s t :=
  ⟨fun _ => hslot, fun _ _ h => Or.inl (hcalls ▸ h)⟩

theorem trans (h : ReleasesSlot s t) (h' : ReleasesSlot t u) : ReleasesSlot s u where
  slot := by
    intro hu
    have htu := h'.slot hu
    exact htu.trans (h.slot (htu ▸ hu))
  release := by
    intro n id hmem
    rcases h'.release n id hmem with hmem | ⟨rfl, hne⟩
    · exact h.release n id hmem
    · exact Or.inr ⟨h.slot hne, hne⟩

theorem call (s : HceState) {c : NfcdCall} (hc : ∀ id, c ≠ .releaseMode id) :
    ReleasesSlot s (s.call c) := by
  refine ⟨fun _ => rfl, fun n id hmem => ?_⟩
  rcases mem_queue_call.mp hmem with hmem | ⟨-, heq⟩
  · exact Or.inl hmem
  · exact absurd (Prod.mk.inj heq).2.symm (hc id)

theorem register (s : HceState) (profile : HceProfile) (request : AddRequest) :
    ReleasesSlot s (hceDoRegister s profile request).1 := by
  rcases hceDoRegister_cases s profile request with ⟨-, heq⟩ | ⟨-, heq⟩ <;> rw [heq]
  · exact same rfl rfl
  · exact (call s (by simp)).trans (call _ (by simp))

theorem add (s : HceState) (request : AddRequest) (exported : Bool) :
    ReleasesSlot s (nfcdClientAddCardEmulationProfile s request exported).1 := by
  rcases add_cases s request exported with ⟨-, text, heq⟩ | ⟨profile, -, -, -, heq⟩ |
    ⟨profile, -, -, -, heq⟩ | ⟨-, -, -, heq⟩ <;> rw [heq]
  · exact same rfl rfl
  · exact same rfl rfl
  · have hforgotten : ReleasesSlot s ((s.renew profile request).update profile.pointer
        fun p => { p with registered := false }) := same rfl rfl
    have hreopened : ReleasesSlot s (s.reopen profile request) :=
      hforgotten.trans (call _ (by simp))
    exact hreopened.trans (register _ _ _)
  · have hinserted : ReleasesSlot s (s.insert (s.newProfile request)) := same rfl rfl
    exact hinserted.trans (register _ _ _)

theorem releaseMode (s : HceState) : ReleasesSlot s (hceReleaseMode s) := by
  rcases hceReleaseMode_cases s with ⟨⟨hne, -⟩, heq⟩ | ⟨-, heq⟩ <;> rw [heq]
  · refine ⟨fun h => absurd rfl h, fun n id hmem => ?_⟩
    rcases mem_queue_call.mp hmem with hmem | ⟨-, hnew⟩
    · exact Or.inl hmem
    · cases hnew
      exact Or.inr ⟨rfl, hne⟩
  · exact same rfl rfl

theorem unregister (profiles : List HceProfile) (s : HceState) :
    ReleasesSlot s (profiles.foldl hceUnregister s) :=
  hceUnregister_invariant (I := ReleasesSlot s)
    (fun t _ _ h => h.trans (call t (by simp))) profiles (same rfl rfl)

theorem remove (s : HceState) (aid : Bytes) :
    ReleasesSlot s (nfcdClientRemoveCardEmulationProfile s aid).1 := by
  rcases remove_cases s aid with ⟨heq, -⟩ | ⟨profile, -, -, hcase⟩
  · rw [heq]
    exact same rfl rfl
  have herased : ReleasesSlot s ((hceUnregister s profile).erase (ndefBytesToHex aid)) :=
    (unregister [profile] s).trans (same rfl rfl)
  rcases hcase with ⟨heq, -⟩ | heq <;> rw [heq]
  · exact herased
  · exact herased.trans (releaseMode _)

theorem clear (s : HceState) : ReleasesSlot s (nfcdClientClearCardEmulation s).1 := by
  have hemptied : ReleasesSlot s
      { s.hceProfiles.foldl hceUnregister s with hceProfiles := [] } :=
    (unregister s.hceProfiles s).trans (same rfl rfl)
  exact hemptied.trans (releaseMode _)

end ReleasesSlot

namespace ModeLogInv

variable {log : ModeLog}

/-- **The client's requests.** -/
theorem asked (h : ModeLogInv s log) (ha : Asked s t) (hr : ReleasesSlot s t) :
    ModeLogInv t log where
  answer := fun n id hmem => h.answer n id (ha.replies _ hmem rfl)
  slot := by
    intro hne
    have heq := hr.slot hne
    rw [heq] at hne ⊢
    exact h.slot hne
  release := by
    intro n id hmem
    rcases hr.release n id hmem with hmem | ⟨rfl, hne⟩
    · exact h.release n id hmem
    · obtain ⟨m, -, hm⟩ := h.slot hne
      exact ⟨m, hm⟩
  gone := fun hn => h.gone (ha.nfcd ▸ hn)

theorem serve (h : ModeLogInv s log) (error : Option String) :
    ModeLogInv (s.step (.serve error)) (log.step s (.serve error)) := by
  have hgrows : ∀ x ∈ log.issued, x ∈ (log.step s (.serve error)).issued := by
    intro x hx
    cases error with
    | some text => exact hx
    | none =>
      rw [ModeLog.step]
      split
      · exact List.mem_cons_of_mem _ hx
      · exact hx
  have hslot : (log.step s (.serve error)).slot = log.slot := by
    cases error with
    | some text => rfl
    | none =>
      rw [ModeLog.step]
      split <;> rfl
  rcases serve_cases s error with ⟨hidle, heq⟩ | ⟨nfcd, n, c, queue, hn, hq, heq⟩
  · have hsame : log.step s (.serve error) = log := by
      cases error with
      | some text => rfl
      | none =>
        rcases hidle with hn | hq
        · rw [ModeLog.step, hn]
        · rw [ModeLog.step, hq]
          cases s.nfcd <;> rfl
    rw [hsame, show s.step (.serve error) = _ from heq]
    exact h
  rw [show s.step (.serve error) = _ from heq]
  refine ⟨fun m id hmem => ?_, fun hne => ?_, fun m id hmem => ?_, fun hnone => nomatch hnone⟩
  · rcases (Channel.mem_replies_serve hq).mp hmem with hmem | ⟨r, hr, hnew⟩
    · exact hgrows _ (h.answer m id hmem)
    · cases hnew
      cases error with
      | some text => cases hr
      | none =>
        cases hr
        rw [ModeLog.step, hn, hq]
        exact List.mem_cons_self
  · obtain ⟨m, hm, hissued⟩ := h.slot hne
    exact ⟨m, hslot.trans hm, hgrows _ hissued⟩
  · rw [Channel.queue_serve hq] at hmem
    obtain ⟨k, hk⟩ := h.release m id (hq ▸ List.mem_cons_of_mem _ hmem)
    exact ⟨k, hgrows _ hk⟩

theorem deliver (h : ModeLogInv s log) (i : ℕ) :
    ModeLogInv (s.step (.deliver i)) (log.step s (.deliver i)) := by
  have harrived : ModeLogInv { s with calls := s.calls.deliver i } log :=
    ⟨fun n id hmem => h.answer n id (Channel.mem_replies_deliver hmem), h.slot, h.release, h.gone⟩
  rcases deliver_cases s i with ⟨hi, heq⟩ | ⟨n, c, r, hi, ⟨rfl, heq⟩ |
    ⟨path, aid, implicit, req, rfl, heq⟩ | ⟨hc, heq⟩⟩ <;>
    rw [show s.step (.deliver i) = _ from congrArg Prod.fst heq, ModeLog.step, hi]
  · exact h
  · rcases hceModeReady_cases { s with calls := s.calls.deliver i } r with ⟨id, rfl, hset⟩ |
      ⟨hnot, hset⟩ <;> simp only [hset]
    · exact ⟨harrived.answer, fun _ => ⟨n, rfl, h.answer n id (List.mem_of_getElem? hi)⟩,
        harrived.release, harrived.gone⟩
    · cases r with
      | granted id => exact absurd rfl (hnot id)
      | registered => exact harrived
      | error text => exact harrived
  · rcases hceRegisterReady_cases { s with calls := s.calls.deliver i } req r with
      ⟨text, rfl, hset⟩ | ⟨-, hset⟩ <;> rw [hset]
    · exact harrived
    · exact ⟨harrived.answer, harrived.slot, harrived.release, harrived.gone⟩
  · cases c with
    | unregisterLocalHostApp path => exact harrived
    | releaseMode id => exact harrived
    | requestMode => cases hc
    | registerLocalHostApp => cases hc

theorem vanish (h : ModeLogInv s log) (he : RestartSettled s .vanish)
    (hgone : s.nfcd = none → s.calls.queue = []) :
    ModeLogInv (s.step .vanish) (log.step s .vanish) := by
  rcases daemonVanished_cases s with ⟨-, heq⟩ | ⟨hn, heq⟩ <;>
    rw [show s.step .vanish = _ from heq]
  · refine ⟨fun n id hmem => ?_, fun hne => absurd he.1 hne, fun _ _ hmem => (nomatch hmem),
      fun _ => rfl⟩
    cases Channel.reply_of_disconnect hmem rfl
  · refine ⟨fun n id hmem => ?_, fun hne => absurd he.1 hne, fun n id hmem => ?_, fun _ => rfl⟩
    · have hissued := h.answer n id hmem
      rw [h.gone hn] at hissued
      cases hissued
    · rw [hgone hn] at hmem
      cases hmem

/-- **Step lemma.** -/
theorem step (h : ModeLogInv s log) (htable : TableInv s) (hrestart : RestartInv s)
    (he : RestartSettled s e) : ModeLogInv (s.step e) (log.step s e) := by
  cases e with
  | add request exported => exact h.asked (.add htable request exported) (.add s request exported)
  | remove aid => exact h.asked (.remove s aid) (.remove s aid)
  | clear => exact h.asked (.clear s) (.clear s)
  | serve error => exact h.serve error
  | deliver i => exact h.deliver i
  | appear =>
    rcases daemonAppeared_cases s with ⟨hn, heq⟩ | heq <;>
      rw [show s.step .appear = _ from heq]
    · exact ⟨h.answer, h.slot, h.release, fun hnone => nomatch hnone⟩
    · exact h
  | proxyReady =>
    rcases daemonProxyReady_cases s with ⟨-, heq⟩ | heq <;>
      rw [show s.step .proxyReady = _ from heq]
    · exact ⟨h.answer, h.slot, h.release, h.gone⟩
    · exact h
  | vanish => exact h.vanish he fun hn => (hrestart.gone hn).1

end ModeLogInv

/-! ## Runs -/

/-- Every call that expects an answer has got it. -/
def HceState.Answered (s : HceState) : Prop :=
  ∀ n c, s.calls.Unanswered n c → c.error noReply = none

/-- **Card emulation follows restarts.**  In a run in which nfcd goes away only while no
profile is marked and no mode is recorded, and refuses no last registration of a marked
profile: once all answers are in, a profile marked as registered is registered with the nfcd
on the bus; and at any moment a recorded mode was granted by this nfcd, and so was every mode
it is asked to release. -/
theorem follows_restarts {events : List HceEvent} {log : ModeLog}
    (h : Along RestartSettled HceState.step .start events)
    (hrun : run modeLogStep modeLogStart events = (s, log)) :
    (s.Answered → ∀ p ∈ s.hceProfiles, p.registered = true →
      ∃ nfcd, s.nfcd = some nfcd ∧ nfcd.holds p.objectPath ≠ none) ∧
    (s.hceModeRequestId ≠ 0 → s.nfcd.isSome = true ∧
      ∃ n, log.slot = some n ∧ (n, s.hceModeRequestId) ∈ log.issued) ∧
    ∀ n id, (n, .releaseMode id) ∈ s.calls.queue → ∃ m, (m, id) ∈ log.issued := by
  have hinv := (along_withHistory.mpr h : Along (fun x e => RestartSettled x.1 e) modeLogStep
    modeLogStart events).invariant
    (fun x : HceState × ModeLog => TableInv x.1 ∧ KnownInv x.1 ∧ x.1.calls.Ordered ∧
      RestartInv x.1 ∧ ModeLogInv x.1 x.2)
    (fun x e ⟨htable, hknown, hordered, hrestart, hlog⟩ he =>
      ⟨htable.step e, hknown.step htable e, ordered_step hordered htable e,
        hrestart.step htable hknown hordered he, hlog.step htable hrestart he⟩)
    ⟨tableInv_start, knownInv_start, Channel.ordered_empty, restartInv_start, modeLogInv_start⟩
  rw [show run (withHistory HceState.step ModeLog.step) modeLogStart events = _ from hrun] at hinv
  obtain ⟨-, -, -, hrestart, hlog⟩ := hinv
  refine ⟨fun hanswered p hp hreg => ?_, fun hne => ?_, hlog.release⟩
  · cases hn : s.nfcd with
    | none => exact absurd (Or.inl hreg) ((hrestart.gone hn).2 p hp)
    | some nfcd =>
      refine ⟨nfcd, rfl,
        (hrestart.marked nfcd hn p hp (Or.inl hreg)).resolve_right fun hwaits => ?_⟩
      obtain ⟨n, path, aid, implicit, req, hmem, -⟩ := registersIn_iff.mp hwaits
      cases hanswered n _ (Or.inl hmem)
  · obtain ⟨n, hslot, hissued⟩ := hlog.slot hne
    refine ⟨Option.isSome_iff_ne_none.mpr fun hn => ?_, n, hslot, hissued⟩
    rw [hlog.gone hn] at hissued
    cases hissued

theorem answered_of_idle (h : s.calls.Idle) : s.Answered := by
  rintro n c (hqueue | ⟨r, hr⟩)
  · rw [h.1] at hqueue
    cases hqueue
  · rw [h.2] at hr
    cases hr

/-- nfcd restarts while there is no profile, and the badge is added to the new one. -/
def badgeAcrossRestart : List HceEvent :=
  badgeRegistered ++ [.remove [0xF0, 0x01], .serve none, .serve none, .vanish] ++ badgeRegistered

theorem follows_restarts_badge :
    (run modeLogStep modeLogStart badgeAcrossRestart).1.Answered ∧
      ∀ p ∈ (run modeLogStep modeLogStart badgeAcrossRestart).1.hceProfiles, p.registered = true →
        ∃ nfcd, (run modeLogStep modeLogStart badgeAcrossRestart).1.nfcd = some nfcd ∧
          nfcd.holds p.objectPath ≠ none :=
  have hsettled : Along RestartSettled HceState.step .start badgeAcrossRestart := by
    decide +kernel
  have hanswered : (run modeLogStep modeLogStart badgeAcrossRestart).1.Answered :=
    answered_of_idle (by decide +kernel)
  ⟨hanswered, (follows_restarts hsettled rfl).1 hanswered⟩

/-- nfcd restarts while the badge is registered. -/
def badgeRestarted : List HceEvent := badgeRegistered ++ .vanish :: nfcdReady

/-- The flag and the recorded mode are those of the nfcd that went away. -/
theorem restart_leaves_flag_and_mode :
    (run modeLogStep modeLogStart badgeRestarted).1.calls.Idle ∧
      (run modeLogStep modeLogStart badgeRestarted).1.nfcd = some .start ∧
      (run modeLogStep modeLogStart badgeRestarted).1.hceProfiles.map HceProfile.registered =
        [true] ∧
      (run modeLogStep modeLogStart badgeRestarted).1.hceModeRequestId = 1 ∧
      (run modeLogStep modeLogStart badgeRestarted).2.issued = [] := by
  decide +kernel

end NfcAdapter
