/-
# A success of `addCardEmulationProfile`

The history of a run: the Register and Unregister calls that were sent to the nfcd now on
the bus, and which of them it has accepted.  What nfcd holds for a path is decided by the
latest call about it, so a success that goes back to this call is one nfcd knows of.
-/
import NfcAdapter.CardEmulationTable
import NfcAdapter.Runs

namespace NfcAdapter

open AsyncCalls Runs

variable {s t u : HceState} {e : HceEvent} {nfcd : Nfcd} {path : String} {n : ℕ}

/-! ## The history -/

/-- The calls about registrations that the present nfcd was sent, newest first, with the
flag a Register call asks for, and the calls among them that it has accepted. -/
structure RegistrationLog where
  sent : List (ℕ × String × Option Bool)
  accepted : List ℕ
  deriving DecidableEq

/-- Nothing was sent. -/
def RegistrationLog.empty : RegistrationLog := ⟨[], []⟩

/-- The calls about registrations from a serial number on, newest first. -/
def registrationCalls (start : ℕ) (queue : List (ℕ × NfcdCall)) :
    List (ℕ × String × Option Bool) :=
  (queue.filterMap fun x =>
    if start ≤ x.1 then (x.2.change none).map fun y => (x.1, y) else none).reverse

/-- The Register call that nfcd accepts in this step. -/
def HceState.acceptsNow (s : HceState) : HceEvent → Option ℕ
  | .serve none =>
    match s.calls.queue with
    | (n, .registerLocalHostApp ..) :: _ => some n
    | _ => none
  | _ => none

/-- The history after a step; it ends with nfcd. -/
def RegistrationLog.step (log : RegistrationLog) (s : HceState) (e : HceEvent) : RegistrationLog :=
  if (s.step e).nfcd = none then .empty
  else
    ⟨registrationCalls s.calls.next (s.step e).calls.queue ++ log.sent,
      (s.acceptsNow e).toList ++ log.accepted⟩

/-- The latest call about a path: its number, and the flag of a Register call. -/
def RegistrationLog.latest (log : RegistrationLog) (path : String) : Option (ℕ × Option Bool) :=
  (log.sent.find? fun x => x.2.1 = path).map fun x => (x.1, x.2.2)

/-- The machine with its history. -/
def logStep (x : HceState × RegistrationLog) (e : HceEvent) : HceState × RegistrationLog :=
  (x.1.step e, x.2.step x.1 e)

/-- Before anything has happened. -/
def logStart : HceState × RegistrationLog := (.start, .empty)

/-- The history does not touch the machine. -/
theorem run_logStep (x : HceState × RegistrationLog) (events : List HceEvent) :
    (run logStep x events).1 = run HceState.step x.1 events :=
  run_withHistory_fst HceState.step RegistrationLog.step x events

/-! ## The condition -/

/-- The latest call about the path registers it with this flag, and nfcd has accepted it. -/
def RegistrationLog.Confirms (log : RegistrationLog) (path : String) (implicit : Bool) : Prop :=
  ∃ n ∈ log.accepted, log.latest path = some (n, some implicit)

instance (log : RegistrationLog) (path : String) (implicit : Bool) :
    Decidable (log.Confirms path implicit) :=
  inferInstanceAs (Decidable (∃ n ∈ log.accepted, log.latest path = some (n, some implicit)))

/-- An add that takes the short cut finds its registration confirmed, and an acceptance
that arrives answers the latest call about its path. -/
def SuccessConfirmed (x : HceState × RegistrationLog) : HceEvent → Prop
  | .add request _ => ∀ profile ∈ x.1.lookup (ndefBytesToHex request.aid),
      ¬ (profile.implicit ≠ request.implicit ∧ x.1.daemon = true) →
        x.2.Confirms profile.objectPath request.implicit
  | .deliver i =>
    match x.1.calls.replies[i]? with
    | some (n, .registerLocalHostApp path _ implicit _, r) =>
      r.accepts = true → x.2.latest path = some (n, some implicit)
    | _ => True
  | _ => True

instance (x : HceState × RegistrationLog) : (e : HceEvent) → Decidable (SuccessConfirmed x e)
  | .add request _ => inferInstanceAs (Decidable (∀ profile ∈ x.1.lookup (ndefBytesToHex request.aid),
      ¬ (profile.implicit ≠ request.implicit ∧ x.1.daemon = true) →
        x.2.Confirms profile.objectPath request.implicit))
  | .deliver i =>
    match h : x.1.calls.replies[i]? with
    | some (n, .registerLocalHostApp path _ implicit _, r) =>
      decidable_of_iff (r.accepts = true → x.2.latest path = some (n, some implicit))
        (by simp [SuccessConfirmed, h])
    | none => isTrue (by simp [SuccessConfirmed, h])
    | some (_, .requestMode, _) => isTrue (by simp [SuccessConfirmed, h])
    | some (_, .unregisterLocalHostApp _, _) => isTrue (by simp [SuccessConfirmed, h])
    | some (_, .releaseMode _, _) => isTrue (by simp [SuccessConfirmed, h])
  | .remove _ => isTrue trivial
  | .clear => isTrue trivial
  | .serve _ => isTrue trivial
  | .appear => isTrue trivial
  | .proxyReady => isTrue trivial
  | .vanish => isTrue trivial

/-! ## What requests ask nfcd for -/

/-- A Register call carries the path and the flag of its request. -/
def NfcdCall.Fits (c : NfcdCall) : Prop :=
  ∀ path aid implicit req, c = .registerLocalHostApp path aid implicit req →
    path = hceObjectPath (ndefBytesToHex req.request.aid) ∧ implicit = req.request.implicit

/-- The client has done something: new calls wait behind the old ones, and no acceptance
came up. -/
structure Asked (s t : HceState) : Prop where
  nfcd : t.nfcd = s.nfcd
  next : s.calls.next ≤ t.calls.next
  ordered : s.calls.Ordered → t.calls.Ordered
  queue : ∀ x ∈ t.calls.queue,
    x ∈ s.calls.queue ∨ s.nfcd.isSome = true ∧ s.calls.next ≤ x.1 ∧ x.2.Fits
  replies : ∀ x ∈ t.calls.replies, x.2.2.accepts = true → x ∈ s.calls.replies

theorem Asked.same (hcalls : t.calls = s.calls) (hnfcd : t.nfcd = s.nfcd) : Asked s t where
  nfcd := hnfcd
  next := hcalls ▸ le_rfl
  ordered := hcalls ▸ id
  queue := fun _ hx => Or.inl (hcalls ▸ hx)
  replies := fun _ hx _ => hcalls ▸ hx

theorem Asked.trans (h : Asked s t) (h' : Asked t u) : Asked s u where
  nfcd := h'.nfcd.trans h.nfcd
  next := h.next.trans h'.next
  ordered := fun hs => h'.ordered (h.ordered hs)
  queue := by
    intro x hx
    rcases h'.queue x hx with hx | ⟨hn, hle, hfits⟩
    · exact h.queue x hx
    · exact Or.inr ⟨h.nfcd ▸ hn, h.next.trans hle, hfits⟩
  replies := fun x hx haccepts => h.replies x (h'.replies x hx haccepts) haccepts

theorem Asked.call (s : HceState) {c : NfcdCall} (hc : c.Fits) : Asked s (s.call c) where
  nfcd := rfl
  next := by
    rw [next_call]
    exact Nat.le_succ _
  ordered := by
    intro h
    unfold HceState.call
    split
    · exact h.send c
    · exact h.fail c _
  queue := by
    intro x hx
    rcases mem_queue_call.mp hx with hx | ⟨hn, rfl⟩
    · exact Or.inl hx
    · exact Or.inr ⟨hn, le_rfl, hc⟩
  replies := by
    intro x hx haccepts
    rcases mem_replies_call.mp hx with hx | ⟨-, r, hr, rfl⟩
    · exact hx
    · rw [NfcdCall.error_eq_some hr] at haccepts
      cases haccepts

theorem Asked.register (s : HceState) {profile : HceProfile} {request : AddRequest}
    (hpath : profile.objectPath = hceObjectPath (ndefBytesToHex request.aid))
    (himplicit : profile.implicit = request.implicit) :
    Asked s (hceDoRegister s profile request).1 := by
  rcases hceDoRegister_cases s profile request with ⟨-, heq⟩ | ⟨-, heq⟩ <;> rw [heq]
  · exact .same rfl rfl
  · refine (Asked.call s ?_).trans (Asked.call _ ?_)
    · exact fun _ _ _ _ hc => nomatch hc
    · rintro _ _ _ _ ⟨⟩
      exact ⟨hpath, himplicit⟩

theorem Asked.add (h : TableInv s) (request : AddRequest) (exported : Bool) :
    Asked s (nfcdClientAddCardEmulationProfile s request exported).1 := by
  rcases add_cases s request exported with ⟨-, text, heq⟩ | ⟨profile, -, -, -, heq⟩ |
    ⟨profile, -, hlookup, -, heq⟩ | ⟨-, -, -, heq⟩ <;> rw [heq]
  · exact .same rfl rfl
  · exact .same rfl rfl
  · obtain ⟨hmem, haid⟩ := mem_of_lookup hlookup
    have hreopened : Asked s (s.reopen profile request) := by
      refine Asked.trans (t := (s.renew profile request).update profile.pointer
        fun p => { p with registered := false }) (.same rfl rfl) (Asked.call _ ?_)
      exact fun _ _ _ _ hc => nomatch hc
    refine hreopened.trans (Asked.register _ ?_ rfl)
    rw [← haid]
    exact h.paths profile hmem
  · have hinserted : Asked s (s.insert (s.newProfile request)) := .same rfl rfl
    exact hinserted.trans (Asked.register _ rfl rfl)

theorem Asked.unregister (profiles : List HceProfile) (s : HceState) :
    Asked s (profiles.foldl hceUnregister s) :=
  hceUnregister_invariant (I := Asked s)
    (fun t _ _ h => h.trans (Asked.call t fun _ _ _ _ hc => nomatch hc)) profiles (.same rfl rfl)

theorem Asked.release (s : HceState) : Asked s (hceReleaseMode s) := by
  rcases hceReleaseMode_cases s with ⟨-, heq⟩ | ⟨-, heq⟩ <;> rw [heq]
  · have hcalled : Asked s (s.call (.releaseMode s.hceModeRequestId)) :=
      Asked.call s fun _ _ _ _ hc => nomatch hc
    exact hcalled.trans (.same rfl rfl)
  · exact .same rfl rfl

theorem Asked.remove (s : HceState) (aid : Bytes) :
    Asked s (nfcdClientRemoveCardEmulationProfile s aid).1 := by
  rcases remove_cases s aid with ⟨heq, -⟩ | ⟨profile, -, -, hcase⟩
  · rw [heq]
    exact .same rfl rfl
  have herased : Asked s ((hceUnregister s profile).erase (ndefBytesToHex aid)) :=
    (Asked.unregister [profile] s).trans (.same rfl rfl)
  rcases hcase with ⟨heq, -⟩ | heq <;> rw [heq]
  · exact herased
  · exact herased.trans (Asked.release _)

theorem Asked.clear (s : HceState) : Asked s (nfcdClientClearCardEmulation s).1 := by
  have hemptied : Asked s { s.hceProfiles.foldl hceUnregister s with hceProfiles := [] } :=
    (Asked.unregister s.hceProfiles s).trans (.same rfl rfl)
  exact hemptied.trans (Asked.release _)

theorem Asked.deliver (s : HceState) (i : ℕ) : Asked s (s.deliver i).1 := by
  have harrived : Asked s { s with calls := s.calls.deliver i } :=
    ⟨rfl, le_rfl, fun h => ⟨h.increasing, h.below⟩, fun _ hx => Or.inl hx,
      fun _ hx _ => Channel.mem_replies_deliver hx⟩
  rcases deliver_cases s i with ⟨-, heq⟩ | ⟨n, c, r, -, ⟨-, heq⟩ | ⟨_, _, _, req, -, heq⟩ |
    ⟨-, heq⟩⟩ <;> rw [heq]
  · exact .same rfl rfl
  · rcases hceModeReady_cases { s with calls := s.calls.deliver i } r with ⟨id, -, hset⟩ |
      ⟨-, hset⟩ <;> simp only [hset]
    · exact harrived.trans (.same rfl rfl)
    · exact harrived
  · rcases hceRegisterReady_cases { s with calls := s.calls.deliver i } req r with
      ⟨text, -, hset⟩ | ⟨-, hset⟩ <;> rw [hset]
    · exact harrived
    · exact harrived.trans (.same rfl rfl)
  · exact harrived

/-- The order of the calls in every step. -/
theorem ordered_step (h : s.calls.Ordered) (htable : TableInv s) (e : HceEvent) :
    (s.step e).calls.Ordered := by
  cases e with
  | add request exported => exact (Asked.add htable request exported).ordered h
  | remove aid => exact (Asked.remove s aid).ordered h
  | clear => exact (Asked.clear s).ordered h
  | serve error =>
    rcases serve_cases s error with ⟨-, heq⟩ | ⟨_, _, _, _, -, -, heq⟩ <;>
      rw [show s.step (.serve error) = _ from heq]
    · exact h
    · exact h.serve _
  | deliver i => exact (Asked.deliver s i).ordered h
  | appear =>
    rcases daemonAppeared_cases s with ⟨-, heq⟩ | heq <;>
      rw [show s.step .appear = _ from heq] <;> exact h
  | proxyReady =>
    rcases daemonProxyReady_cases s with ⟨-, heq⟩ | heq <;>
      rw [show s.step .proxyReady = _ from heq] <;> exact h
  | vanish =>
    rcases daemonVanished_cases s with ⟨-, heq⟩ | ⟨-, heq⟩ <;>
      rw [show s.step .vanish = _ from heq]
    · exact ⟨List.Pairwise.nil, fun _ hx => nomatch hx⟩
    · exact h

/-! ## The history and nfcd -/

theorem mem_registrationCalls {start : ℕ} {queue : List (ℕ × NfcdCall)}
    {y : ℕ × String × Option Bool} :
    y ∈ registrationCalls start queue ↔
      ∃ x ∈ queue, start ≤ x.1 ∧ ∃ z, x.2.change none = some z ∧ y = (x.1, z) := by
  unfold registrationCalls
  rw [List.mem_reverse, List.mem_filterMap]
  constructor
  · rintro ⟨x, hx, hy⟩
    by_cases hle : start ≤ x.1
    · rw [if_pos hle, Option.map_eq_some_iff] at hy
      obtain ⟨z, hz, rfl⟩ := hy
      exact ⟨x, hx, hle, z, hz, rfl⟩
    · rw [if_neg hle] at hy
      cases hy
  · rintro ⟨x, hx, hle, z, hz, rfl⟩
    refine ⟨x, hx, ?_⟩
    rw [if_pos hle, hz]
    rfl

theorem registrationCalls_eq_nil {start : ℕ} {queue : List (ℕ × NfcdCall)}
    (h : ∀ x ∈ queue, x.1 < start) : registrationCalls start queue = [] := by
  refine List.eq_nil_iff_forall_not_mem.mpr fun y hy => ?_
  obtain ⟨x, hx, hle, -⟩ := mem_registrationCalls.mp hy
  exact absurd (h x hx) (Nat.not_lt.mpr hle)

theorem sorted_registrationCalls {queue : List (ℕ × NfcdCall)} (start : ℕ)
    (h : queue.Pairwise fun x y => x.1 < y.1) :
    (registrationCalls start queue).Pairwise fun x y => y.1 < x.1 := by
  unfold registrationCalls
  rw [List.pairwise_reverse]
  refine List.Pairwise.filterMap _ ?_ h
  intro x y hxy a ha b hb
  split at ha <;> split at hb
  · obtain ⟨z, -, rfl⟩ := Option.map_eq_some_iff.mp ha
    obtain ⟨w, -, rfl⟩ := Option.map_eq_some_iff.mp hb
    exact hxy
  all_goals simp_all

/-- What the history says about the calls under way and about nfcd. -/
structure LogInv (s : HceState) (log : RegistrationLog) : Prop where
  ordered : s.calls.Ordered
  below : ∀ x ∈ log.sent, x.1 < s.calls.next
  sorted : log.sent.Pairwise fun x y => y.1 < x.1
  queued : ∀ x ∈ s.calls.queue, ∀ y, x.2.change none = some y → (x.1, y) ∈ log.sent
  handled : ∀ n ∈ log.accepted, n < s.calls.next ∧ ∀ x ∈ s.calls.queue, n < x.1
  gone : s.nfcd = none → s.calls.queue = [] ∧ log = .empty
  held : ∀ nfcd, s.nfcd = some nfcd → ∀ path implicit, log.Confirms path implicit →
    nfcd.holds path = some implicit
  fits : ∀ x ∈ s.calls.queue, x.2.Fits
  answered : ∀ n c r, (n, c, r) ∈ s.calls.replies → r.accepts = true →
    c.Fits ∧ ∀ path aid implicit req, c = .registerLocalHostApp path aid implicit req →
      n ∈ log.accepted

theorem not_confirms_empty {implicit : Bool} :
    ¬ RegistrationLog.empty.Confirms path implicit := by
  rintro ⟨n, hn, -⟩
  cases hn

theorem logInv_start : LogInv .start .empty where
  ordered := Channel.ordered_empty
  below := fun _ h => nomatch h
  sorted := List.Pairwise.nil
  queued := fun _ h => nomatch h
  handled := fun _ h => nomatch h
  gone := fun _ => ⟨rfl, rfl⟩
  held := fun _ h => nomatch h
  fits := fun _ h => nomatch h
  answered := fun _ _ _ h => nomatch h

namespace LogInv

variable {log : RegistrationLog}

/-- A number stands for one call. -/
theorem sent_unique (h : LogInv s log) {x y : ℕ × String × Option Bool} (hx : x ∈ log.sent)
    (hy : y ∈ log.sent) (heq : x.1 = y.1) : x = y := by
  by_contra hne
  have hsorted := List.pairwise_iff_getElem.mp h.sorted
  obtain ⟨i, hi, rfl⟩ := List.mem_iff_getElem.mp hx
  obtain ⟨j, hj, rfl⟩ := List.mem_iff_getElem.mp hy
  rcases Nat.lt_trichotomy i j with hlt | rfl | hlt
  · exact absurd heq (hsorted i j hi hj hlt).ne'
  · exact hne rfl
  · exact absurd heq (hsorted j i hj hi hlt).ne

/-- The latest call about a path is one that was sent, and no other is later. -/
theorem latest_spec (h : LogInv s log) {flag : Option Bool}
    (hlatest : log.latest path = some (n, flag)) :
    (n, path, flag) ∈ log.sent ∧ ∀ x ∈ log.sent, x.2.1 = path → x.1 ≤ n := by
  unfold RegistrationLog.latest at hlatest
  obtain ⟨⟨m, p, f⟩, hfind, heq⟩ := Option.map_eq_some_iff.mp hlatest
  cases heq
  obtain ⟨hpath, before, after, hsplit, hbefore⟩ := List.find?_eq_some_iff_append.mp hfind
  have hp : p = path := by simpa using hpath
  refine ⟨hp ▸ List.mem_of_find?_eq_some hfind, fun x hx hxpath => ?_⟩
  rw [hsplit] at hx
  rcases List.mem_append.mp hx with hx | hx
  · have hne := hbefore x hx
    simp [hxpath] at hne
  · rcases List.mem_cons.mp hx with rfl | hx
    · exact le_rfl
    · have hsorted := (List.pairwise_append.mp (hsplit ▸ h.sorted)).2.1
      exact ((List.pairwise_cons.mp hsorted).1 x hx).le

/-- New calls are later than all that nfcd has accepted. -/
theorem confirms_of_append (h : LogInv s log) {calls : List (ℕ × String × Option Bool)}
    (hcalls : ∀ x ∈ calls, s.calls.next ≤ x.1) {implicit : Bool}
    (hconfirms : RegistrationLog.Confirms ⟨calls ++ log.sent, log.accepted⟩ path implicit) :
    log.Confirms path implicit := by
  obtain ⟨n, hn, hlatest⟩ := hconfirms
  refine ⟨n, hn, ?_⟩
  rw [← hlatest, RegistrationLog.latest, RegistrationLog.latest, List.find?_append]
  rw [RegistrationLog.latest, List.find?_append] at hlatest
  cases hfind : calls.find? fun x => x.2.1 = path with
  | none => rfl
  | some x =>
    rw [hfind] at hlatest
    have heq : x.1 = n := (Prod.mk.inj (Option.some.inj hlatest)).1
    have hle := hcalls x (List.mem_of_find?_eq_some hfind)
    rw [heq] at hle
    exact absurd (h.handled n hn).1 (Nat.not_lt.mpr hle)

/-- **The client's steps.** -/
theorem asked (h : LogInv s log) (ha : Asked s (s.step e)) (he : s.acceptsNow e = none) :
    LogInv (s.step e) (log.step s e) := by
  have hqueue : s.nfcd = none → (s.step e).calls.queue = [] := by
    intro hn
    refine List.eq_nil_iff_forall_not_mem.mpr fun x hx => ?_
    rcases ha.queue x hx with hx | ⟨hsome, -⟩
    · rw [(h.gone hn).1] at hx
      cases hx
    · rw [hn] at hsome
      cases hsome
  have hfits : ∀ x ∈ (s.step e).calls.queue, x.2.Fits := by
    intro x hx
    rcases ha.queue x hx with hx | ⟨-, -, hfits⟩
    · exact h.fits x hx
    · exact hfits
  by_cases hn : (s.step e).nfcd = none
  · -- without nfcd nothing is sent and the log stays empty
    have hs : s.nfcd = none := ha.nfcd ▸ hn
    have hlog : log.step s e = log := by
      rw [RegistrationLog.step, if_pos hn, (h.gone hs).2]
    rw [hlog]
    refine ⟨ha.ordered h.ordered, fun x hx => (h.below x hx).trans_le ha.next, h.sorted, ?_, ?_,
      fun _ => ⟨hqueue hs, (h.gone hs).2⟩, fun nfcd hnfcd => absurd (hn.symm.trans hnfcd) (by simp),
      hfits, fun n c r hmem haccepts => h.answered n c r (ha.replies _ hmem haccepts) haccepts⟩
    · rw [hqueue hs]
      exact fun _ hx => nomatch hx
    · rw [(h.gone hs).2]
      exact fun _ hx => nomatch hx
  · have hlog : log.step s e =
        ⟨registrationCalls s.calls.next (s.step e).calls.queue ++ log.sent, log.accepted⟩ := by
      rw [RegistrationLog.step, if_neg hn, he]
      rfl
    have hnew : ∀ y ∈ registrationCalls s.calls.next (s.step e).calls.queue,
        s.calls.next ≤ y.1 ∧ y.1 < (s.step e).calls.next := by
      intro y hy
      obtain ⟨x, hx, hle, z, -, rfl⟩ := mem_registrationCalls.mp hy
      exact ⟨hle, (ha.ordered h.ordered).below x hx⟩
    rw [hlog]
    refine ⟨ha.ordered h.ordered, ?_, ?_, ?_, ?_, fun hnone => absurd hnone hn, ?_, hfits,
      fun n c r hmem haccepts => h.answered n c r (ha.replies _ hmem haccepts) haccepts⟩
    · intro x hx
      rcases List.mem_append.mp hx with hx | hx
      · exact (hnew x hx).2
      · exact (h.below x hx).trans_le ha.next
    · refine List.pairwise_append.mpr
        ⟨sorted_registrationCalls _ (ha.ordered h.ordered).increasing, h.sorted, ?_⟩
      exact fun x hx y hy => (h.below y hy).trans_le (hnew x hx).1
    · intro x hx y hy
      rcases ha.queue x hx with hold | ⟨-, hle, -⟩
      · exact List.mem_append_right _ (h.queued x hold y hy)
      · exact List.mem_append_left _ (mem_registrationCalls.mpr ⟨x, hx, hle, y, hy, rfl⟩)
    · intro n hn
      obtain ⟨hlt, hqueued⟩ := h.handled n hn
      refine ⟨hlt.trans_le ha.next, fun x hx => ?_⟩
      rcases ha.queue x hx with hold | ⟨-, hle, -⟩
      · exact hqueued x hold
      · exact hlt.trans_le hle
    · intro nfcd hnfcd path implicit hconfirms
      exact h.held nfcd (ha.nfcd ▸ hnfcd) path implicit
        (h.confirms_of_append (fun x hx => (hnew x hx).1) hconfirms)

/-- What nfcd holds once it has handled the oldest call. -/
theorem held_serve (h : LogInv s log) {c : NfcdCall} {queue : List (ℕ × NfcdCall)}
    {error : Option String} {implicit : Bool} (hnfcd : s.nfcd = some nfcd)
    (hq : s.calls.queue = (n, c) :: queue)
    (hconfirms : RegistrationLog.Confirms
      ⟨log.sent, (s.acceptsNow (.serve error)).toList ++ log.accepted⟩ path implicit) :
    (nfcd.handle c error).1.holds path = some implicit := by
  obtain ⟨m, hm, hlatest⟩ := hconfirms
  have hlog : log.latest path = some (m, some implicit) := hlatest
  obtain ⟨hsent, hnewest⟩ := h.latest_spec hlog
  have hqueued : ∀ y, c.change none = some y → (n, y) ∈ log.sent :=
    h.queued (n, c) (hq ▸ List.mem_cons_self)
  -- a call that was accepted before is older than the one that is handled now
  have hold : m ∈ log.accepted → m < n ∧ nfcd.holds path = some implicit := fun hmem =>
    ⟨(h.handled m hmem).2 (n, c) (hq ▸ List.mem_cons_self),
      h.held nfcd hnfcd path implicit ⟨m, hmem, hlatest⟩⟩
  have hcases : m ∈ log.accepted ∨ m = n ∧ error = none ∧
      ∃ p aid flag req, c = .registerLocalHostApp p aid flag req := by
    rcases List.mem_append.mp hm with hm | hm
    · right
      cases error with
      | some text => cases hm
      | none =>
        rw [HceState.acceptsNow, hq] at hm
        cases c with
        | registerLocalHostApp p aid flag req =>
          exact ⟨List.mem_singleton.mp hm, rfl, p, aid, flag, req, rfl⟩
        | requestMode => cases hm
        | unregisterLocalHostApp => cases hm
        | releaseMode => cases hm
    · exact Or.inl hm
  rw [holds_handle]
  rcases hcases with hmem | ⟨rfl, rfl, p, aid, flag, req, rfl⟩
  · obtain ⟨hlt, hholds⟩ := hold hmem
    cases hchange : c.change error with
    | none => exact hholds
    | some x =>
      obtain ⟨p, flag⟩ := x
      have hpath : path ≠ p := by
        rintro rfl
        have hasked : c.change none = some (path, flag) := by
          cases c <;> simp_all [NfcdCall.change]
        exact absurd (hnewest _ (hqueued _ hasked) rfl) (Nat.not_le.mpr hlt)
      simp only [if_neg hpath]
      exact hholds
  · have hsame := h.sent_unique hsent (hqueued _ rfl) rfl
    obtain ⟨rfl, hflag⟩ : path = p ∧ some implicit = some flag := by simpa using hsame
    simp only [NfcdCall.change, if_true]
    exact hflag.symm

theorem serve (h : LogInv s log) (error : Option String) :
    LogInv (s.step (.serve error)) (log.step s (.serve error)) := by
  rcases serve_cases s error with ⟨hidle, heq⟩ | ⟨nfcd, n, c, queue, hn, hq, heq⟩
  · have hqueue : s.calls.queue = [] := hidle.elim (fun hn => (h.gone hn).1) id
    have hnow : s.acceptsNow (.serve error) = none := by
      cases error with
      | none => rw [HceState.acceptsNow, hqueue]
      | some text => rfl
    exact h.asked (.same (congrArg HceState.calls heq) (congrArg HceState.nfcd heq)) hnow
  have hqueue : (s.step (.serve error)).calls.queue = queue := by
    rw [show s.step (.serve error) = _ from heq]
    exact Channel.queue_serve hq
  have hnext : (s.step (.serve error)).calls.next = s.calls.next := by
    rw [show s.step (.serve error) = _ from heq]
    exact Channel.next_serve _ _
  have htail : ∀ x ∈ queue, x ∈ s.calls.queue := fun x hx => hq ▸ List.mem_cons_of_mem _ hx
  have hlog : log.step s (.serve error) =
      ⟨log.sent, (s.acceptsNow (.serve error)).toList ++ log.accepted⟩ := by
    rw [RegistrationLog.step, if_neg, hqueue, registrationCalls_eq_nil, List.nil_append]
    · exact fun x hx => h.ordered.below x (htail x hx)
    · rw [show s.step (.serve error) = _ from heq]
      simp
  have hnow : ∀ m ∈ (s.acceptsNow (.serve error)).toList, m = n := by
    intro m hm
    rw [Option.mem_toList] at hm
    unfold HceState.acceptsNow at hm
    split at hm
    · rw [hq] at hm
      split at hm
      · rename_i heq'
        cases heq'
        exact (Option.some.inj hm).symm
      · cases hm
    · cases hm
  rw [hlog]
  refine ⟨?_, hnext ▸ h.below, h.sorted, ?_, ?_, ?_, ?_, ?_, ?_⟩
  · rw [show s.step (.serve error) = _ from heq]
    exact h.ordered.serve _
  · rw [hqueue]
    exact fun x hx => h.queued x (htail x hx)
  · rw [hqueue, hnext]
    intro m hm
    rcases List.mem_append.mp hm with hm | hm
    · rw [hnow m hm]
      exact ⟨h.ordered.below (n, c) (hq ▸ List.mem_cons_self), fun x hx => h.ordered.head_lt hq hx⟩
    · exact ⟨(h.handled m hm).1, fun x hx => (h.handled m hm).2 x (htail x hx)⟩
  · rw [show s.step (.serve error) = _ from heq]
    exact fun hnone => nomatch hnone
  · rw [show s.step (.serve error) = _ from heq]
    rintro _ ⟨⟩ path implicit hconfirms
    exact h.held_serve hn hq hconfirms
  · rw [hqueue]
    exact fun x hx => h.fits x (htail x hx)
  · rw [show s.step (.serve error) = _ from heq]
    intro m d r hmem haccepts
    rcases (Channel.mem_replies_serve hq).mp hmem with hmem | ⟨y, hy, hnew⟩
    · obtain ⟨hfits, haccepted⟩ := h.answered m d r hmem haccepts
      exact ⟨hfits, fun p aid flag req hd => List.mem_append_right _ (haccepted p aid flag req hd)⟩
    · cases hnew
      refine ⟨h.fits (n, c) (hq ▸ List.mem_cons_self), ?_⟩
      rintro p aid flag req rfl
      have hnone : error = none := (accepts_handle hy).mp haccepts
      rw [hnone]
      refine List.mem_append_left _ ?_
      rw [HceState.acceptsNow, hq]
      exact List.mem_singleton_self _

theorem vanish (h : LogInv s log) : LogInv (s.step .vanish) (log.step s .vanish) := by
  rcases daemonVanished_cases s with ⟨-, heq⟩ | ⟨hn, heq⟩
  · have hlog : log.step s .vanish = .empty := by
      rw [RegistrationLog.step, show s.step .vanish = _ from heq, if_pos rfl]
    rw [hlog, show s.step .vanish = _ from heq]
    refine ⟨⟨List.Pairwise.nil, fun _ hx => nomatch hx⟩, fun _ hx => (nomatch hx),
      List.Pairwise.nil, fun _ hx => (nomatch hx), fun _ hx => (nomatch hx), fun _ => ⟨rfl, rfl⟩,
      fun _ hn => (nomatch hn), fun _ hx => (nomatch hx), ?_⟩
    intro m d r hmem haccepts
    have hnot : ∀ p aid flag req, d ≠ .registerLocalHostApp p aid flag req := by
      rintro p aid flag req rfl
      rw [Channel.reply_of_disconnect hmem rfl] at haccepts
      cases haccepts
    exact ⟨fun p aid flag req hd => absurd hd (hnot p aid flag req),
      fun p aid flag req hd => absurd hd (hnot p aid flag req)⟩
  · exact h.asked (.same (congrArg HceState.calls heq) (congrArg HceState.nfcd heq)) rfl

theorem appear (h : LogInv s log) : LogInv (s.step .appear) (log.step s .appear) := by
  rcases daemonAppeared_cases s with ⟨hn, heq⟩ | heq
  · obtain ⟨hqueue, rfl⟩ := h.gone hn
    have hlog : RegistrationLog.empty.step s .appear = .empty := by
      rw [RegistrationLog.step, show s.step .appear = _ from heq, if_neg (by simp), hqueue]
      rfl
    rw [hlog, show s.step .appear = _ from heq]
    exact ⟨h.ordered, h.below, h.sorted, h.queued, h.handled, fun hnone => (nomatch hnone),
      fun _ _ _ _ hconfirms => absurd hconfirms not_confirms_empty, h.fits, h.answered⟩
  · exact h.asked (.same (congrArg HceState.calls heq) (congrArg HceState.nfcd heq)) rfl

/-- **Step lemma.** -/
theorem step (h : LogInv s log) (htable : TableInv s) (e : HceEvent) :
    LogInv (s.step e) (log.step s e) := by
  cases e with
  | add request exported => exact h.asked (.add htable request exported) rfl
  | remove aid => exact h.asked (.remove s aid) rfl
  | clear => exact h.asked (.clear s) rfl
  | serve error => exact h.serve error
  | deliver i => exact h.asked (.deliver s i) rfl
  | appear => exact h.appear
  | proxyReady =>
    refine h.asked ?_ rfl
    rcases daemonProxyReady_cases s with ⟨-, heq⟩ | heq <;>
      rw [show s.step .proxyReady = _ from heq] <;> exact .same rfl rfl
  | vanish => exact h.vanish

end LogInv

/-- **Run lemma.** -/
theorem logInv_run (events : List HceEvent) :
    LogInv (run logStep logStart events).1 (run logStep logStart events).2 := by
  have hinv : TableInv (run logStep logStart events).1 ∧
      LogInv (run logStep logStart events).1 (run logStep logStart events).2 :=
    invariant (fun x : HceState × RegistrationLog => TableInv x.1 ∧ LogInv x.1 x.2)
      (fun x e hx => ⟨hx.1.step e, hx.2.step hx.1 e⟩) ⟨tableInv_start, logInv_start⟩ events
  exact hinv.2

/-! ## A success is a registration -/

/-- Where the history confirms a registration, nfcd is there and holds it. -/
theorem LogInv.registered {log : RegistrationLog} {implicit : Bool} (h : LogInv s log)
    (hconfirms : log.Confirms path implicit) :
    ∃ nfcd, s.nfcd = some nfcd ∧ nfcd.holds path = some implicit := by
  cases hn : s.nfcd with
  | none =>
    rw [(h.gone hn).2] at hconfirms
    exact absurd hconfirms not_confirms_empty
  | some nfcd => exact ⟨nfcd, rfl, h.held nfcd hn path implicit hconfirms⟩

/-- Only adds and acceptances that arrive report the success of an add. -/
theorem success_cases {request : AddRequest} {text : Option String}
    (h : s.report e = some (.add request true text)) :
    (∃ exported profile, e = .add request exported ∧
        s.lookup (ndefBytesToHex request.aid) = some profile ∧
        ¬ (profile.implicit ≠ request.implicit ∧ s.daemon = true) ∧
        (s.step e).nfcd = s.nfcd) ∨
      ∃ i n path aid implicit req r, e = .deliver i ∧
        s.calls.replies[i]? = some (n, .registerLocalHostApp path aid implicit req, r) ∧
        r.accepts = true ∧ req.request = request ∧ (s.step e).nfcd = s.nfcd := by
  cases e with
  | add request' exported =>
    rcases add_cases s request' exported with ⟨-, text', heq⟩ | ⟨profile, -, hlookup, hcut, heq⟩ |
      ⟨profile, -, -, -, heq⟩ | ⟨-, -, -, heq⟩ <;>
      rw [show s.report (.add request' exported) = _ from congrArg Prod.snd heq] at h
    · cases h
    · cases h
      refine Or.inl ⟨exported, profile, rfl, hlookup, hcut, ?_⟩
      rw [show s.step (.add _ exported) = _ from congrArg Prod.fst heq]
      rfl
    all_goals
      rcases hceDoRegister_cases _ _ request' with ⟨-, heq'⟩ | ⟨-, heq'⟩ <;> rw [heq'] at h <;>
        cases h
  | deliver i =>
    rcases deliver_cases s i with ⟨-, heq⟩ | ⟨n, c, r, hi, ⟨-, heq⟩ |
      ⟨path, aid, implicit, req, rfl, heq⟩ | ⟨-, heq⟩⟩ <;>
      rw [show s.report (.deliver i) = _ from congrArg Prod.snd heq] at h
    · cases h
    · cases h
    · rcases hceRegisterReady_cases { s with calls := s.calls.deliver i } req r with
        ⟨text', -, hset⟩ | ⟨haccepts, hset⟩ <;> rw [hset] at h
      · cases h
      · cases h
        refine Or.inr ⟨i, n, path, aid, implicit, req, r, rfl, hi, haccepts, rfl, ?_⟩
        rw [show s.step (.deliver i) = _ from congrArg Prod.fst heq, hset]
        rfl
    · cases h
  | remove aid =>
    unfold HceState.report HceState.react nfcdClientRemoveCardEmulationProfile at h
    dsimp only at h
    split at h
    · cases h
    · split at h <;> cases h
  | clear => cases h
  | serve error => cases h
  | appear => cases h
  | proxyReady => cases h
  | vanish => cases h

/-- **A success means registered.**  In a run whose successes go back to the latest call about
their path, nfcd is on the bus and holds the registration, with the flag of the request,
whenever an add reports success. -/
theorem add_success_means_registered {events : List HceEvent} {e : HceEvent}
    {request : AddRequest} {text : Option String}
    (h : Along SuccessConfirmed logStep logStart (events ++ [e]))
    (hreport : (run HceState.step .start events).report e = some (.add request true text)) :
    ∃ nfcd, (run HceState.step .start (events ++ [e])).nfcd = some nfcd ∧
      nfcd.holds (hceObjectPath (ndefBytesToHex request.aid)) = some request.implicit := by
  have hcond := (along_concat.mp h).2
  have hinv := logInv_run events
  have htable := tableInv_run events
  rw [run_logStep] at hinv
  rw [run_concat]
  have hstate : (run logStep logStart events).1 = run HceState.step .start events :=
    run_logStep logStart events
  rcases success_cases hreport with ⟨exported, profile, rfl, hlookup, hcut, hnfcd⟩ |
    ⟨i, n, path, aid, implicit, req, r, rfl, hi, haccepts, rfl, hnfcd⟩
  · rw [SuccessConfirmed, hstate] at hcond
    obtain ⟨hmem, haid⟩ := mem_of_lookup hlookup
    have hconfirms := hcond profile hlookup hcut
    rw [htable.paths profile hmem, haid] at hconfirms
    rw [hnfcd]
    exact hinv.registered hconfirms
  · have hlatest : (run logStep logStart events).2.latest path = some (n, some implicit) := by
      simp only [SuccessConfirmed, hstate, hi] at hcond
      exact hcond haccepts
    obtain ⟨hfits, haccepted⟩ := hinv.answered n _ r (List.mem_of_getElem? hi) haccepts
    obtain ⟨rfl, rfl⟩ := hfits path aid implicit req rfl
    rw [hnfcd]
    exact hinv.registered ⟨n, haccepted _ aid _ req rfl, hlatest⟩

/-- The badge is added again. -/
theorem add_success_means_registered_badge :
    ∃ nfcd, (run HceState.step .start (badgeRegistered ++
        [.add (badgeRequest [0xF0, 0x01]) true])).nfcd = some nfcd ∧
      nfcd.holds (hceObjectPath (ndefBytesToHex (badgeRequest [0xF0, 0x01]).aid)) =
        some (badgeRequest [0xF0, 0x01]).implicit :=
  have hreport : (run HceState.step .start badgeRegistered).report
      (.add (badgeRequest [0xF0, 0x01]) true) =
        some (.add (badgeRequest [0xF0, 0x01]) true none) := by
    decide +kernel
  add_success_means_registered (by decide +kernel) hreport

/-- A badge is added before nfcd is there, and stays in the table. -/
def badgeAddedTooSoon : List HceEvent := .add (badgeRequest [0xF0, 0x01]) true :: nfcdReady

/-- Adding it again succeeds at once, and nfcd knows nothing of it. -/
theorem unregistered_badge_succeeds :
    (run HceState.step .start badgeAddedTooSoon).report (.add (badgeRequest [0xF0, 0x01]) true) =
        some (.add (badgeRequest [0xF0, 0x01]) true none) ∧
      (run HceState.step .start (badgeAddedTooSoon ++
        [.add (badgeRequest [0xF0, 0x01]) true])).nfcd = some .start ∧
      Nfcd.start.holds (hceObjectPath (ndefBytesToHex [0xF0, 0x01])) = none := by
  decide +kernel

end NfcAdapter
