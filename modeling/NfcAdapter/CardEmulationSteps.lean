/-
# What the steps of card emulation do

One lemma for each operation of the client and of nfcd: which parts of the state it
leaves alone, which calls and answers it adds, and the outcomes a request can have.
-/
import NfcAdapter.CardEmulation

namespace NfcAdapter

open AsyncCalls

variable {s : HceState}

/-! ## Calls -/

@[simp] theorem daemon_call (s : HceState) (c : NfcdCall) : (s.call c).daemon = s.daemon := rfl

@[simp] theorem hceProfiles_call (s : HceState) (c : NfcdCall) :
    (s.call c).hceProfiles = s.hceProfiles := rfl

@[simp] theorem hceModeRequestId_call (s : HceState) (c : NfcdCall) :
    (s.call c).hceModeRequestId = s.hceModeRequestId := rfl

@[simp] theorem nextPointer_call (s : HceState) (c : NfcdCall) :
    (s.call c).nextPointer = s.nextPointer := rfl

@[simp] theorem usedFreed_call (s : HceState) (c : NfcdCall) :
    (s.call c).usedFreed = s.usedFreed := rfl

@[simp] theorem nfcd_call (s : HceState) (c : NfcdCall) : (s.call c).nfcd = s.nfcd := rfl

@[simp] theorem proxies_call (s : HceState) (c : NfcdCall) : (s.call c).proxies = s.proxies := rfl

@[simp] theorem next_call (s : HceState) (c : NfcdCall) :
    (s.call c).calls.next = s.calls.next + 1 := by
  unfold HceState.call
  split <;> rfl

theorem queue_call (s : HceState) (c : NfcdCall) :
    (s.call c).calls.queue =
      s.calls.queue ++ if s.nfcd.isSome then [(s.calls.next, c)] else [] := by
  unfold HceState.call
  split
  · rfl
  · exact (List.append_nil _).symm

theorem mem_queue_call {c : NfcdCall} {x : ℕ × NfcdCall} :
    x ∈ (s.call c).calls.queue ↔
      x ∈ s.calls.queue ∨ s.nfcd.isSome = true ∧ x = (s.calls.next, c) := by
  rw [queue_call, List.mem_append]
  split <;> simp [*]

/-- A call adds an answer only where the bus refuses it. -/
theorem mem_replies_call {c : NfcdCall} {x : ℕ × NfcdCall × NfcdReply} :
    x ∈ (s.call c).calls.replies ↔
      x ∈ s.calls.replies ∨
        s.nfcd = none ∧ ∃ r, c.error serviceUnknown = some r ∧ x = (s.calls.next, c, r) := by
  unfold HceState.call
  split
  · rename_i h
    simp [Option.isSome_iff_ne_none.mp h]
  · rename_i h
    simp [Channel.mem_replies_fail, Option.not_isSome_iff_eq_none.mp h]

/-- The answers a call is given without nfcd are errors. -/
theorem NfcdCall.error_eq_some {c : NfcdCall} {text : String} {r : NfcdReply}
    (h : c.error text = some r) : r = .error text := by
  cases c <;> simp_all [NfcdCall.error]

/-! ## The table -/

section Table

variable (s : HceState) (pointer : ℕ) (f : HceProfile → HceProfile) (profile : HceProfile)
  (aidHex : String)

@[simp] theorem daemon_update : (s.update pointer f).daemon = s.daemon := rfl

@[simp] theorem hceModeRequestId_update :
    (s.update pointer f).hceModeRequestId = s.hceModeRequestId := rfl

@[simp] theorem nextPointer_update : (s.update pointer f).nextPointer = s.nextPointer := rfl

@[simp] theorem usedFreed_update : (s.update pointer f).usedFreed = s.usedFreed := rfl

@[simp] theorem nfcd_update : (s.update pointer f).nfcd = s.nfcd := rfl

@[simp] theorem calls_update : (s.update pointer f).calls = s.calls := rfl

@[simp] theorem proxies_update : (s.update pointer f).proxies = s.proxies := rfl

@[simp] theorem hceProfiles_update_eq_nil :
    (s.update pointer f).hceProfiles = [] ↔ s.hceProfiles = [] :=
  List.map_eq_nil_iff

@[simp] theorem daemon_insert : (s.insert profile).daemon = s.daemon := rfl

@[simp] theorem hceModeRequestId_insert :
    (s.insert profile).hceModeRequestId = s.hceModeRequestId := rfl

@[simp] theorem hceProfiles_insert :
    (s.insert profile).hceProfiles = s.hceProfiles ++ [profile] := rfl

@[simp] theorem nextPointer_insert : (s.insert profile).nextPointer = s.nextPointer + 1 := rfl

@[simp] theorem usedFreed_insert : (s.insert profile).usedFreed = s.usedFreed := rfl

@[simp] theorem nfcd_insert : (s.insert profile).nfcd = s.nfcd := rfl

@[simp] theorem calls_insert : (s.insert profile).calls = s.calls := rfl

@[simp] theorem proxies_insert : (s.insert profile).proxies = s.proxies := rfl

@[simp] theorem daemon_erase : (s.erase aidHex).daemon = s.daemon := rfl

@[simp] theorem hceModeRequestId_erase :
    (s.erase aidHex).hceModeRequestId = s.hceModeRequestId := rfl

@[simp] theorem nextPointer_erase : (s.erase aidHex).nextPointer = s.nextPointer := rfl

@[simp] theorem usedFreed_erase : (s.erase aidHex).usedFreed = s.usedFreed := rfl

@[simp] theorem nfcd_erase : (s.erase aidHex).nfcd = s.nfcd := rfl

@[simp] theorem calls_erase : (s.erase aidHex).calls = s.calls := rfl

@[simp] theorem proxies_erase : (s.erase aidHex).proxies = s.proxies := rfl

end Table

theorem mem_hceProfiles_erase {aidHex : String} {profile : HceProfile} :
    profile ∈ (s.erase aidHex).hceProfiles ↔ profile ∈ s.hceProfiles ∧ profile.aidHex ≠ aidHex := by
  simp [HceState.erase]

theorem mem_hceProfiles_update {pointer : ℕ} {f : HceProfile → HceProfile} {profile : HceProfile} :
    profile ∈ (s.update pointer f).hceProfiles ↔
      ∃ p ∈ s.hceProfiles, (if p.pointer = pointer then f p else p) = profile :=
  List.mem_map

theorem mem_of_lookup {aidHex : String} {profile : HceProfile}
    (h : s.lookup aidHex = some profile) :
    profile ∈ s.hceProfiles ∧ profile.aidHex = aidHex := by
  refine ⟨List.mem_of_find?_eq_some h, ?_⟩
  simpa using List.find?_some h

theorem lookup_eq_none {aidHex : String} :
    s.lookup aidHex = none ↔ ∀ profile ∈ s.hceProfiles, profile.aidHex ≠ aidHex := by
  simp [HceState.lookup]

/-! ## Requests -/

/-- What registering does: nothing, without a proxy, and otherwise two calls. -/
theorem hceDoRegister_cases (s : HceState) (profile : HceProfile) (request : AddRequest) :
    s.daemon = false ∧
        hceDoRegister s profile request =
          (s, some (.add request false (some "nfcd is not available"))) ∨
      s.daemon = true ∧
        hceDoRegister s profile request =
          ((s.call .requestMode).call (.registerLocalHostApp profile.objectPath request.aid
            profile.implicit ⟨profile.pointer, request⟩), none) := by
  unfold hceDoRegister
  cases hd : s.daemon
  · exact Or.inl ⟨rfl, if_pos rfl⟩
  · exact Or.inr ⟨rfl, if_neg (by simp)⟩

/-- A profile whose AID is added again gets the new payload and flag. -/
def HceState.renew (s : HceState) (profile : HceProfile) (request : AddRequest) : HceState :=
  s.update profile.pointer fun p =>
    { p with payload := request.payload, implicit := request.implicit }

/-- And with another flag than before it is unregistered first. -/
def HceState.reopen (s : HceState) (profile : HceProfile) (request : AddRequest) : HceState :=
  ((s.renew profile request).update profile.pointer fun p => { p with registered := false }).call
    (.unregisterLocalHostApp profile.objectPath)

/-- The outcomes of an add: a refusal, the short cut, a registration with the other flag,
a profile that is new. -/
theorem add_cases (s : HceState) (request : AddRequest) (exported : Bool) :
    ((request.aid = [] ∨ s.lookup (ndefBytesToHex request.aid) = none ∧ exported = false) ∧
      ∃ text, nfcdClientAddCardEmulationProfile s request exported =
        (s, some (.add request false (some text)))) ∨
      (∃ profile, request.aid ≠ [] ∧ s.lookup (ndefBytesToHex request.aid) = some profile ∧
        ¬ (profile.implicit ≠ request.implicit ∧ s.daemon = true) ∧
        nfcdClientAddCardEmulationProfile s request exported =
          (s.renew profile request, some (.add request true none))) ∨
      (∃ profile, request.aid ≠ [] ∧ s.lookup (ndefBytesToHex request.aid) = some profile ∧
        (profile.implicit ≠ request.implicit ∧ s.daemon = true) ∧
        nfcdClientAddCardEmulationProfile s request exported =
          hceDoRegister (s.reopen profile request) { profile with implicit := request.implicit }
            request) ∨
      (request.aid ≠ [] ∧ s.lookup (ndefBytesToHex request.aid) = none ∧ exported = true ∧
        nfcdClientAddCardEmulationProfile s request exported =
          hceDoRegister (s.insert (s.newProfile request)) (s.newProfile request) request) := by
  unfold nfcdClientAddCardEmulationProfile
  by_cases haid : request.aid = []
  · exact Or.inl ⟨Or.inl haid, _, if_pos haid⟩
  rw [if_neg haid]
  cases hlookup : s.lookup (ndefBytesToHex request.aid) with
  | some profile =>
    by_cases hflag : profile.implicit ≠ request.implicit ∧ s.daemon = true
    · exact Or.inr (Or.inr (Or.inl ⟨profile, haid, rfl, hflag, if_pos hflag⟩))
    · exact Or.inr (Or.inl ⟨profile, haid, rfl, hflag, if_neg hflag⟩)
  | none =>
    cases exported with
    | false => exact Or.inl ⟨Or.inr ⟨rfl, rfl⟩, _, rfl⟩
    | true => exact Or.inr (Or.inr (Or.inr ⟨haid, rfl, rfl, rfl⟩))

@[simp] theorem daemon_hceUnregister (s : HceState) (profile : HceProfile) :
    (hceUnregister s profile).daemon = s.daemon := by
  unfold hceUnregister
  split <;> rfl

@[simp] theorem hceProfiles_hceUnregister (s : HceState) (profile : HceProfile) :
    (hceUnregister s profile).hceProfiles = s.hceProfiles := by
  unfold hceUnregister
  split <;> rfl

/-- The outcomes of a remove. -/
theorem remove_cases (s : HceState) (aid : Bytes) :
    (nfcdClientRemoveCardEmulationProfile s aid).1 = s ∧
        (aid = [] ∨ s.lookup (ndefBytesToHex aid) = none) ∨
      ∃ profile, aid ≠ [] ∧ s.lookup (ndefBytesToHex aid) = some profile ∧
        ((nfcdClientRemoveCardEmulationProfile s aid).1 =
            (hceUnregister s profile).erase (ndefBytesToHex aid) ∧
            ((hceUnregister s profile).erase (ndefBytesToHex aid)).hceProfiles ≠ [] ∨
          (nfcdClientRemoveCardEmulationProfile s aid).1 =
            hceReleaseMode ((hceUnregister s profile).erase (ndefBytesToHex aid))) := by
  unfold nfcdClientRemoveCardEmulationProfile
  by_cases haid : aid = []
  · rw [if_pos haid]
    exact Or.inl ⟨rfl, Or.inl haid⟩
  rw [if_neg haid]
  cases hlookup : s.lookup (ndefBytesToHex aid) with
  | none => exact Or.inl ⟨rfl, Or.inr rfl⟩
  | some profile =>
    refine Or.inr ⟨profile, haid, rfl, ?_⟩
    by_cases hempty : ((hceUnregister s profile).erase (ndefBytesToHex aid)).hceProfiles = []
    · exact Or.inr (if_pos hempty)
    · exact Or.inl ⟨if_neg hempty, hempty⟩

/-- Releasing the mode: one call, or nothing. -/
theorem hceReleaseMode_cases (s : HceState) :
    (s.hceModeRequestId ≠ 0 ∧ s.daemon = true) ∧
        hceReleaseMode s =
          { s.call (.releaseMode s.hceModeRequestId) with hceModeRequestId := 0 } ∨
      ¬ (s.hceModeRequestId ≠ 0 ∧ s.daemon = true) ∧ hceReleaseMode s = s := by
  unfold hceReleaseMode
  by_cases h : s.hceModeRequestId ≠ 0 ∧ s.daemon = true
  · exact Or.inl ⟨h, if_pos h⟩
  · exact Or.inr ⟨h, if_neg h⟩

/-- The Unregister calls of a list of profiles, up to the calls themselves. -/
theorem hceUnregister_invariant {I : HceState → Prop}
    (hcall : ∀ s path, s.daemon = true → I s → I (s.call (.unregisterLocalHostApp path)))
    (profiles : List HceProfile) (h : I s) : I (profiles.foldl hceUnregister s) := by
  induction profiles generalizing s with
  | nil => exact h
  | cons profile profiles ih =>
    refine ih ?_
    unfold hceUnregister
    split
    · rename_i hunreg
      exact hcall s _ hunreg.2 h
    · exact h

/-! ## Answers and the bus -/

/-- The arrival of an answer: none is there, a mode, a registration, or one nobody waits
for. -/
theorem deliver_cases (s : HceState) (i : ℕ) :
    s.calls.replies[i]? = none ∧ s.deliver i = (s, none) ∨
      ∃ n c r, s.calls.replies[i]? = some (n, c, r) ∧
        ((c = .requestMode ∧
            s.deliver i = (hceModeReady { s with calls := s.calls.deliver i } r, none)) ∨
          (∃ path aid implicit req, c = .registerLocalHostApp path aid implicit req ∧
            s.deliver i = hceRegisterReady { s with calls := s.calls.deliver i } req r) ∨
          (c.error noReply = none ∧
            s.deliver i = ({ s with calls := s.calls.deliver i }, none))) := by
  unfold HceState.deliver
  cases hi : s.calls.replies[i]? with
  | none => exact Or.inl ⟨rfl, rfl⟩
  | some x =>
    obtain ⟨n, c, r⟩ := x
    refine Or.inr ⟨n, c, r, rfl, ?_⟩
    cases c with
    | requestMode => exact Or.inl ⟨rfl, rfl⟩
    | registerLocalHostApp path aid implicit req =>
      exact Or.inr (Or.inl ⟨path, aid, implicit, req, rfl, rfl⟩)
    | unregisterLocalHostApp path => exact Or.inr (Or.inr ⟨rfl, rfl⟩)
    | releaseMode id => exact Or.inr (Or.inr ⟨rfl, rfl⟩)

/-- A mode answer sets the slot or leaves the state alone. -/
theorem hceModeReady_cases (s : HceState) (r : NfcdReply) :
    (∃ id, r = .granted id ∧ hceModeReady s r = { s with hceModeRequestId := id }) ∨
      (∀ id, r ≠ .granted id) ∧ hceModeReady s r = s := by
  cases r with
  | granted id => exact Or.inl ⟨id, rfl, rfl⟩
  | registered => exact Or.inr ⟨(fun _ h => nomatch h), rfl⟩
  | error text => exact Or.inr ⟨(fun _ h => nomatch h), rfl⟩

/-- An answer that is not an error. -/
def NfcdReply.accepts : NfcdReply → Bool
  | .error _ => false
  | _ => true

/-- A registration answer is an error, or marks the profile. -/
theorem hceRegisterReady_cases (s : HceState) (req : HceReq) (r : NfcdReply) :
    (∃ text, r = .error text ∧
        hceRegisterReady s req r = (s, some (.add req.request false (some text)))) ∨
      r.accepts = true ∧
        hceRegisterReady s req r =
          ({ s.update req.profile (fun p => { p with registered := true }) with
              usedFreed := s.usedFreed || !s.hceProfiles.any (·.pointer = req.profile) },
            some (.add req.request true none)) := by
  cases r with
  | granted id => exact Or.inr ⟨rfl, rfl⟩
  | registered => exact Or.inr ⟨rfl, rfl⟩
  | error text => exact Or.inl ⟨text, rfl, rfl⟩

/-- nfcd handles the oldest call, if there is one. -/
theorem serve_cases (s : HceState) (error : Option String) :
    (s.nfcd = none ∨ s.calls.queue = []) ∧ s.serve error = s ∨
      ∃ nfcd n c queue, s.nfcd = some nfcd ∧ s.calls.queue = (n, c) :: queue ∧
        s.serve error =
          { s with
            nfcd := some (nfcd.handle c error).1
            calls := s.calls.serve (nfcd.handle c error).2 } := by
  unfold HceState.serve
  split
  · rename_i nfcd n c queue hn hq
    exact Or.inr ⟨nfcd, n, c, queue, hn, hq, rfl⟩
  · rename_i hnot
    refine Or.inl ⟨?_, rfl⟩
    cases hn : s.nfcd with
    | none => exact Or.inl rfl
    | some nfcd =>
      cases hq : s.calls.queue with
      | nil => exact Or.inr rfl
      | cons x queue => exact absurd hq (hnot nfcd x.1 x.2 queue hn)

/-- The bus brings a new nfcd, or nothing new. -/
theorem daemonAppeared_cases (s : HceState) :
    s.nfcd = none ∧
        daemonAppeared s = { s with nfcd := some .start, proxies := s.proxies + 1 } ∨
      daemonAppeared s = s := by
  unfold daemonAppeared
  split
  · rename_i h
    exact Or.inl ⟨h, rfl⟩
  · exact Or.inr rfl

/-- A proxy arrives, if one is being created. -/
theorem daemonProxyReady_cases (s : HceState) :
    s.proxies ≠ 0 ∧ daemonProxyReady s = { s with proxies := s.proxies - 1, daemon := true } ∨
      daemonProxyReady s = s := by
  unfold daemonProxyReady
  by_cases h : s.proxies = 0
  · exact Or.inr (if_pos h)
  · exact Or.inl ⟨h, if_neg h⟩

/-- nfcd goes away, if it is there. -/
theorem daemonVanished_cases (s : HceState) :
    s.nfcd.isSome = true ∧
        daemonVanished s =
          { s with
            daemon := false
            nfcd := none
            calls := s.calls.disconnect (NfcdCall.error noReply) } ∨
      s.nfcd = none ∧ daemonVanished s = s := by
  unfold daemonVanished
  split
  · rename_i h
    exact Or.inr ⟨h, rfl⟩
  · rename_i nfcd h
    exact Or.inl ⟨by rw [h]; rfl, rfl⟩

/-! ## The registrations nfcd holds -/

/-- The path whose registration nfcd sets or ends when it handles a call, and the flag. -/
def NfcdCall.change (c : NfcdCall) (error : Option String) : Option (String × Option Bool) :=
  match c with
  | .registerLocalHostApp path _ implicit _ =>
    if error = none then some (path, some implicit) else none
  | .unregisterLocalHostApp path => some (path, none)
  | _ => none

theorem lookup_filter_ne (apps : List (String × Bool)) (path p : String) :
    (apps.filter fun app => app.1 ≠ path).lookup p = if p = path then none else apps.lookup p := by
  induction apps with
  | nil => simp
  | cons app apps ih =>
    obtain ⟨q, implicit⟩ := app
    by_cases hq : q = path
    · rw [List.filter_cons_of_neg (by simpa using hq), ih]
      by_cases hp : p = path
      · simp [hp]
      · have hpq : (p == q) = false := by simpa [hq] using hp
        simp [hp, List.lookup_cons, hpq]
    · rw [List.filter_cons_of_pos (by simpa using hq), List.lookup_cons, List.lookup_cons, ih]
      by_cases hpq : p = q
      · simp [hpq, hq]
      · have hbeq : (p == q) = false := by simpa using hpq
        simp [hbeq]

/-- **What nfcd holds after it has handled a call.** -/
theorem holds_handle (nfcd : Nfcd) (c : NfcdCall) (error : Option String) (p : String) :
    (nfcd.handle c error).1.holds p =
      match c.change error with
      | some (path, flag) => if p = path then flag else nfcd.holds p
      | none => nfcd.holds p := by
  cases c with
  | requestMode => cases error <;> rfl
  | registerLocalHostApp path aid implicit req =>
    cases error with
    | some text => rfl
    | none =>
      simp only [Nfcd.handle, Nfcd.holds, NfcdCall.change, List.lookup_cons, lookup_filter_ne,
        if_true]
      by_cases hp : p = path
      · simp [hp]
      · have hbeq : (p == path) = false := by simpa using hp
        simp [hp, hbeq]
  | unregisterLocalHostApp path => exact lookup_filter_ne nfcd.apps path p
  | releaseMode id => rfl

/-- nfcd accepts a registration where it has no error for it. -/
theorem accepts_handle {nfcd : Nfcd} {path : String} {aid : Bytes} {implicit : Bool} {req : HceReq}
    {error : Option String} {r : NfcdReply}
    (h : (nfcd.handle (.registerLocalHostApp path aid implicit req) error).2 = some r) :
    r.accepts = true ↔ error = none := by
  cases error with
  | none =>
    cases h
    exact ⟨fun _ => rfl, fun _ => rfl⟩
  | some text =>
    cases h
    exact ⟨(fun h => nomatch h), (fun h => nomatch h)⟩

end NfcAdapter
