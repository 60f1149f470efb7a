/-
# Card-emulation mode

Every registration asks nfcd for card-emulation mode, and one slot of the client records
the id of a granted request.  A granted request is accounted for while its answer is
under way, while the slot records it, and while its release is under way.  Answers that
find the slot taken or the table empty break this; without them nothing is leaked.
-/
import NfcAdapter.CardEmulationSteps
import NfcAdapter.Runs

namespace NfcAdapter

open AsyncCalls Runs

variable {s : HceState} {e : HceEvent} {id : ℕ} {nfcd : Nfcd}

/-! ## The condition -/

/-- The event is the arrival of a granted mode. -/
def HceState.modeArrives (s : HceState) : HceEvent → Bool
  | .deliver i =>
    match s.calls.replies[i]? with
    | some (_, .requestMode, .granted _) => true
    | _ => false
  | _ => false

/-- nfcd stays, and a granted mode arrives only while the slot is free and there is a
profile. -/
def ModeWanted (s : HceState) (e : HceEvent) : Prop :=
  e ≠ .vanish ∧ (s.modeArrives e = true → s.hceModeRequestId = 0 ∧ s.hceProfiles ≠ [])

instance (s : HceState) (e : HceEvent) : Decidable (ModeWanted s e) :=
  inferInstanceAs (Decidable (_ ∧ (_ → _)))

theorem modeArrives_of_granted {i n : ℕ}
    (h : s.calls.replies[i]? = some (n, .requestMode, .granted id)) :
    s.modeArrives (.deliver i) = true := by
  simp [HceState.modeArrives, h]

/-! ## The invariant -/

/-- Somebody will release the request: the answer is under way, the slot records it, or
the release is under way. -/
def HceState.Accounted (s : HceState) (id : ℕ) : Prop :=
  (∃ n, (n, .requestMode, .granted id) ∈ s.calls.replies) ∨ id = s.hceModeRequestId ∨
    ∃ n, (n, .releaseMode id) ∈ s.calls.queue

/-- What the steps keep: every mode nfcd holds is accounted for, and a client without a
proxy has asked for nothing. -/
structure ModeInv (s : HceState) : Prop where
  accounted : ∀ nfcd, s.nfcd = some nfcd → ∀ id ∈ nfcd.modes, s.Accounted id
  positive : ∀ nfcd, s.nfcd = some nfcd → 0 < nfcd.nextModeId ∧ ∀ id ∈ nfcd.modes, 0 < id
  silent : s.daemon = false → s.hceModeRequestId = 0 ∧ s.calls.Idle
  present : s.daemon = true ∨ s.proxies ≠ 0 → s.nfcd.isSome = true

theorem modeInv_start : ModeInv .start where
  accounted := fun _ h => nomatch h
  positive := fun _ h => nomatch h
  silent := fun _ => ⟨rfl, rfl, rfl⟩
  present := fun h => by rcases h with h | h <;> simp [HceState.start] at h

/-- A call through the proxy forgets nothing. -/
theorem HceState.Accounted.call (h : s.Accounted id) (c : NfcdCall) : (s.call c).Accounted id := by
  rcases h with ⟨n, hn⟩ | hslot | ⟨n, hn⟩
  · exact Or.inl ⟨n, mem_replies_call.mpr (Or.inl hn)⟩
  · exact Or.inr (Or.inl hslot)
  · exact Or.inr (Or.inr ⟨n, mem_queue_call.mpr (Or.inl hn)⟩)

theorem ModeInv.call (h : ModeInv s) (hd : s.daemon = true) (c : NfcdCall) :
    ModeInv (s.call c) where
  accounted := fun nfcd hn id hid => (h.accounted nfcd hn id hid).call c
  positive := h.positive
  silent := fun hd' => absurd (hd.symm.trans hd') (by simp)
  present := h.present

/-- The table plays no part in it. -/
theorem ModeInv.table {t : HceState} (h : ModeInv s) (hcalls : t.calls = s.calls)
    (hnfcd : t.nfcd = s.nfcd) (hdaemon : t.daemon = s.daemon) (hproxies : t.proxies = s.proxies)
    (hslot : t.hceModeRequestId = s.hceModeRequestId) : ModeInv t where
  accounted := fun nfcd hn id hid => by
    rw [HceState.Accounted, hcalls, hslot]
    exact h.accounted nfcd (hnfcd ▸ hn) id hid
  positive := fun nfcd hn => h.positive nfcd (hnfcd ▸ hn)
  silent := fun hd => by
    rw [hslot, hcalls]
    exact h.silent (hdaemon ▸ hd)
  present := fun hp => by
    rw [hnfcd]
    rw [hdaemon, hproxies] at hp
    exact h.present hp

/-! ## The client's functions -/

theorem ModeInv.register (h : ModeInv s) (profile : HceProfile) (request : AddRequest) :
    ModeInv (hceDoRegister s profile request).1 := by
  rcases hceDoRegister_cases s profile request with ⟨-, heq⟩ | ⟨hd, heq⟩
  · rw [heq]
    exact h
  · rw [heq]
    exact (h.call hd _).call hd _

theorem ModeInv.add (h : ModeInv s) (request : AddRequest) (exported : Bool) :
    ModeInv (nfcdClientAddCardEmulationProfile s request exported).1 := by
  rcases add_cases s request exported with ⟨-, text, heq⟩ | ⟨profile, -, -, -, heq⟩ |
    ⟨profile, -, -, ⟨-, hd⟩, heq⟩ | ⟨-, -, -, heq⟩
  · rw [heq]
    exact h
  · rw [heq]
    exact h.table rfl rfl rfl rfl rfl
  · rw [heq]
    have hrenewed : ModeInv ((s.renew profile request).update profile.pointer
        fun p => { p with registered := false }) := h.table rfl rfl rfl rfl rfl
    exact (hrenewed.call hd _).register _ _
  · rw [heq]
    have hinserted : ModeInv (s.insert (s.newProfile request)) := h.table rfl rfl rfl rfl rfl
    exact hinserted.register _ _

theorem ModeInv.unregister (h : ModeInv s) (profile : HceProfile) :
    ModeInv (hceUnregister s profile) := by
  unfold hceUnregister
  split
  · rename_i hunreg
    exact h.call hunreg.2 _
  · exact h

/-- A release moves the recorded request on to the queue. -/
theorem ModeInv.release (h : ModeInv s) : ModeInv (hceReleaseMode s) := by
  rcases hceReleaseMode_cases s with ⟨⟨-, hd⟩, heq⟩ | ⟨-, heq⟩
  · rw [heq]
    refine ⟨fun nfcd hn id hid => ?_, h.positive, fun hd' => absurd (hd.symm.trans hd') (by simp),
      h.present⟩
    rcases h.accounted nfcd hn id hid with ⟨n, hr⟩ | rfl | ⟨n, hq⟩
    · exact Or.inl ⟨n, mem_replies_call.mpr (Or.inl hr)⟩
    · have hsome : s.nfcd.isSome = true := h.present (Or.inl hd)
      exact Or.inr (Or.inr ⟨_, mem_queue_call.mpr (Or.inr ⟨hsome, rfl⟩)⟩)
    · exact Or.inr (Or.inr ⟨n, mem_queue_call.mpr (Or.inl hq)⟩)
  · rw [heq]
    exact h

/-- And leaves the slot free. -/
theorem ModeInv.slot_release (h : ModeInv s) : (hceReleaseMode s).hceModeRequestId = 0 := by
  rcases hceReleaseMode_cases s with ⟨-, heq⟩ | ⟨hnot, heq⟩
  · rw [heq]
  · rw [heq]
    by_contra hslot
    cases hd : s.daemon with
    | true => exact hnot ⟨hslot, hd⟩
    | false => exact hslot (h.silent hd).1

theorem ModeInv.remove (h : ModeInv s) (aid : Bytes) :
    ModeInv (nfcdClientRemoveCardEmulationProfile s aid).1 := by
  rcases remove_cases s aid with ⟨heq, -⟩ | ⟨profile, -, -, hcase⟩
  · rw [heq]
    exact h
  have herased : ModeInv ((hceUnregister s profile).erase (ndefBytesToHex aid)) :=
    (h.unregister profile).table rfl rfl rfl rfl rfl
  rcases hcase with ⟨heq, -⟩ | heq
  · rw [heq]
    exact herased
  · rw [heq]
    exact herased.release

/-- Clearing empties the table behind the Unregister calls. -/
theorem ModeInv.cleared (h : ModeInv s) :
    ModeInv { s.hceProfiles.foldl hceUnregister s with hceProfiles := [] } := by
  have hfold : ModeInv (s.hceProfiles.foldl hceUnregister s) :=
    hceUnregister_invariant (fun s path hd hs => hs.call hd _) _ h
  exact hfold.table rfl rfl rfl rfl rfl

/-! ## nfcd and the bus -/

/-- Handling a call grants a mode to it, releases one, or leaves the modes alone. -/
theorem mem_modes_handle {c : NfcdCall} {error : Option String}
    (h : id ∈ (nfcd.handle c error).1.modes) :
    id ∈ nfcd.modes ∧ c ≠ .releaseMode id ∨
      c = .requestMode ∧ id = nfcd.nextModeId ∧ (nfcd.handle c error).2 = some (.granted id) := by
  cases c with
  | requestMode =>
    cases error with
    | some text => exact Or.inl ⟨h, by simp⟩
    | none =>
      rcases List.mem_append.mp h with h | h
      · exact Or.inl ⟨h, by simp⟩
      · have heq : id = nfcd.nextModeId := List.mem_singleton.mp h
        exact Or.inr ⟨rfl, heq, by rw [heq]; rfl⟩
  | registerLocalHostApp path aid implicit req =>
    cases error <;> exact Or.inl ⟨h, by simp⟩
  | unregisterLocalHostApp path => exact Or.inl ⟨h, by simp⟩
  | releaseMode mode =>
    obtain ⟨hmem, hne⟩ := List.mem_filter.mp h
    refine Or.inl ⟨hmem, ?_⟩
    rintro ⟨⟩
    simp at hne

theorem nextModeId_le_handle (nfcd : Nfcd) (c : NfcdCall) (error : Option String) :
    nfcd.nextModeId ≤ (nfcd.handle c error).1.nextModeId := by
  cases c with
  | requestMode => cases error <;> simp [Nfcd.handle]
  | registerLocalHostApp => cases error <;> exact le_rfl
  | unregisterLocalHostApp => exact le_rfl
  | releaseMode => exact le_rfl

theorem ModeInv.serve (h : ModeInv s) (error : Option String) : ModeInv (s.serve error) := by
  rcases serve_cases s error with ⟨-, heq⟩ | ⟨nfcd, n, c, queue, hn, hq, heq⟩
  · rw [heq]
    exact h
  rw [heq]
  obtain ⟨hnext, hpos⟩ := h.positive nfcd hn
  refine ⟨?_, ?_, fun hd => ?_, fun _ => rfl⟩
  · rintro _ ⟨⟩ id hid
    rcases mem_modes_handle hid with ⟨hmem, hne⟩ | ⟨rfl, rfl, hr⟩
    · rcases h.accounted nfcd hn id hmem with ⟨m, hm⟩ | hslot | ⟨m, hm⟩
      · exact Or.inl ⟨m, (Channel.mem_replies_serve hq).mpr (Or.inl hm)⟩
      · exact Or.inr (Or.inl hslot)
      · rw [hq] at hm
        rcases List.mem_cons.mp hm with hhead | htail
        · -- the oldest call would be the release of a mode that is still held
          cases hhead
          exact absurd rfl hne
        · exact Or.inr (Or.inr ⟨m, (Channel.queue_serve hq).symm ▸ htail⟩)
    · exact Or.inl ⟨n, (Channel.mem_replies_serve hq).mpr (Or.inr ⟨_, hr, rfl⟩)⟩
  · rintro _ ⟨⟩
    refine ⟨hnext.trans_le (nextModeId_le_handle nfcd c error), fun id hid => ?_⟩
    rcases mem_modes_handle hid with ⟨hmem, -⟩ | ⟨-, rfl, -⟩
    · exact hpos id hmem
    · exact hnext
  · have hidle := (h.silent hd).2.1
    rw [hq] at hidle
    cases hidle

/-- An answer other than a granted mode takes nothing away. -/
theorem HceState.Accounted.deliver {i : ℕ} (h : s.Accounted id)
    (hne : ∀ n, s.calls.replies[i]? ≠ some (n, .requestMode, .granted id)) :
    ({ s with calls := s.calls.deliver i } : HceState).Accounted id := by
  rcases h with ⟨n, hn⟩ | h | h
  · exact Or.inl ⟨n, Channel.mem_replies_deliver_of_ne hn (hne n)⟩
  · exact Or.inr (Or.inl h)
  · exact Or.inr (Or.inr h)

/-- Where an answer is under way, there is a proxy. -/
theorem ModeInv.daemon_of_reply {i : ℕ} {x : ℕ × NfcdCall × NfcdReply} (h : ModeInv s)
    (hi : s.calls.replies[i]? = some x) : s.daemon = true := by
  cases hd : s.daemon with
  | true => rfl
  | false =>
    rw [(h.silent hd).2.2] at hi
    cases hi

/-- Dropping an answer that grants nothing. -/
theorem ModeInv.drop {i : ℕ} {x : ℕ × NfcdCall × NfcdReply} (h : ModeInv s)
    (hi : s.calls.replies[i]? = some x) (hx : ∀ id, x.2 ≠ (.requestMode, .granted id)) :
    ModeInv { s with calls := s.calls.deliver i } where
  accounted := fun nfcd hn id hid => (h.accounted nfcd hn id hid).deliver fun n hg =>
    hx id (by rw [Option.some.inj (hi.symm.trans hg)])
  positive := h.positive
  silent := fun hd => absurd ((h.daemon_of_reply hi).symm.trans hd) (by simp)
  present := h.present

theorem ModeInv.deliver {i : ℕ} (h : ModeInv s) (he : ModeWanted s (.deliver i)) :
    ModeInv (s.deliver i).1 := by
  rcases deliver_cases s i with ⟨-, heq⟩ | ⟨n, c, r, hi, ⟨rfl, heq⟩ |
    ⟨path, aid, implicit, req, rfl, heq⟩ | ⟨hc, heq⟩⟩
  · rw [heq]
    exact h
  · rw [heq]
    rcases hceModeReady_cases { s with calls := s.calls.deliver i } r with ⟨id, rfl, hset⟩ |
      ⟨hnot, hset⟩
    · rw [hset]
      -- the slot was free, so the only request that it recorded is the new one
      have hfree : s.hceModeRequestId = 0 := (he.2 (modeArrives_of_granted hi)).1
      refine ⟨fun nfcd hn id' hid => ?_, h.positive,
        fun hd => absurd ((h.daemon_of_reply hi).symm.trans hd) (by simp), h.present⟩
      rcases h.accounted nfcd hn id' hid with ⟨m, hm⟩ | hslot | hrel
      · by_cases hsame : s.calls.replies[i]? = some (m, .requestMode, .granted id')
        · rw [hi] at hsame
          cases hsame
          exact Or.inr (Or.inl rfl)
        · exact Or.inl ⟨m, Channel.mem_replies_deliver_of_ne hm hsame⟩
      · have hpos := (h.positive nfcd hn).2 id' hid
        omega
      · exact Or.inr (Or.inr hrel)
    · rw [hset]
      exact h.drop hi fun id hx => hnot id (Prod.mk.inj hx).2
  · rw [heq]
    have hdropped := h.drop hi fun id hx => nomatch (Prod.mk.inj hx).1
    rcases hceRegisterReady_cases { s with calls := s.calls.deliver i } req r with
      ⟨text, -, hset⟩ | ⟨-, hset⟩
    · rw [hset]
      exact hdropped
    · rw [hset]
      exact hdropped.table rfl rfl rfl rfl rfl
  · rw [heq]
    refine h.drop hi fun id hx => ?_
    rw [(Prod.mk.inj hx).1] at hc
    cases hc

theorem ModeInv.appear (h : ModeInv s) : ModeInv (daemonAppeared s) := by
  rcases daemonAppeared_cases s with ⟨hnone, heq⟩ | heq
  · rw [heq]
    refine ⟨?_, ?_, h.silent, fun _ => rfl⟩
    · rintro _ ⟨⟩ id hid
      cases hid
    · rintro _ ⟨⟩
      exact ⟨Nat.one_pos, fun id hid => nomatch hid⟩
  · rw [heq]
    exact h

theorem ModeInv.proxyReady (h : ModeInv s) : ModeInv (daemonProxyReady s) := by
  rcases daemonProxyReady_cases s with ⟨hp, heq⟩ | heq
  · rw [heq]
    exact ⟨h.accounted, h.positive, fun hd => (nomatch hd), fun _ => h.present (Or.inr hp)⟩
  · rw [heq]
    exact h

/-! ## Steps and runs -/

/-- **Step lemma.** -/
theorem ModeInv.step (h : ModeInv s) (he : ModeWanted s e) : ModeInv (s.step e) := by
  cases e with
  | add request exported => exact h.add request exported
  | remove aid => exact h.remove aid
  | clear => exact h.cleared.release
  | serve error => exact h.serve error
  | deliver i => exact h.deliver he
  | appear => exact h.appear
  | proxyReady => exact h.proxyReady
  | vanish => exact absurd rfl he.1

/-- The slot of an empty table is free: the mode is released with the last profile. -/
def SlotInv (s : HceState) : Prop := s.hceProfiles = [] → s.hceModeRequestId = 0

theorem SlotInv.register (h : SlotInv s) (profile : HceProfile) (request : AddRequest) :
    SlotInv (hceDoRegister s profile request).1 := by
  rcases hceDoRegister_cases s profile request with ⟨-, heq⟩ | ⟨-, heq⟩ <;> rw [heq] <;> exact h

theorem SlotInv.add (h : SlotInv s) (request : AddRequest) (exported : Bool) :
    SlotInv (nfcdClientAddCardEmulationProfile s request exported).1 := by
  rcases add_cases s request exported with ⟨-, text, heq⟩ | ⟨profile, -, -, -, heq⟩ |
    ⟨profile, -, -, -, heq⟩ | ⟨-, -, -, heq⟩
  · rw [heq]
    exact h
  · rw [heq]
    exact fun hnil => h (hceProfiles_update_eq_nil _ _ _ |>.mp hnil)
  · rw [heq]
    have hreopened : SlotInv (s.reopen profile request) := fun hnil =>
      h (by simpa [HceState.reopen, HceState.renew] using hnil)
    exact hreopened.register _ _
  · rw [heq]
    have hinserted : SlotInv (s.insert (s.newProfile request)) := fun hnil =>
      absurd hnil (by simp)
    exact hinserted.register _ _

theorem SlotInv.remove (h : SlotInv s) (hmode : ModeInv s) (aid : Bytes) :
    SlotInv (nfcdClientRemoveCardEmulationProfile s aid).1 := by
  rcases remove_cases s aid with ⟨heq, -⟩ | ⟨profile, -, -, ⟨heq, hne⟩ | heq⟩
  · rw [heq]
    exact h
  · rw [heq]
    exact fun hnil => absurd hnil hne
  · rw [heq]
    have herased : ModeInv ((hceUnregister s profile).erase (ndefBytesToHex aid)) :=
      (hmode.unregister profile).table rfl rfl rfl rfl rfl
    exact fun _ => herased.slot_release

theorem SlotInv.deliver {i : ℕ} (h : SlotInv s) (he : ModeWanted s (.deliver i)) :
    SlotInv (s.deliver i).1 := by
  rcases deliver_cases s i with ⟨-, heq⟩ | ⟨n, c, r, hi, ⟨rfl, heq⟩ |
    ⟨path, aid, implicit, req, rfl, heq⟩ | ⟨-, heq⟩⟩
  · rw [heq]
    exact h
  · rw [heq]
    rcases hceModeReady_cases { s with calls := s.calls.deliver i } r with ⟨id, rfl, hset⟩ |
      ⟨-, hset⟩
    · rw [hset]
      exact fun hnil => absurd hnil (he.2 (modeArrives_of_granted hi)).2
    · rw [hset]
      exact h
  · rw [heq]
    rcases hceRegisterReady_cases { s with calls := s.calls.deliver i } req r with
      ⟨text, -, hset⟩ | ⟨-, hset⟩
    · rw [hset]
      exact h
    · rw [hset]
      exact fun hnil => h (List.map_eq_nil_iff.mp hnil)
  · rw [heq]
    exact h

/-- **Step lemma.** -/
theorem SlotInv.step (h : SlotInv s) (hmode : ModeInv s) (he : ModeWanted s e) :
    SlotInv (s.step e) := by
  cases e with
  | add request exported => exact h.add request exported
  | remove aid => exact h.remove hmode aid
  | clear => exact fun _ => hmode.cleared.slot_release
  | serve error =>
    rcases serve_cases s error with ⟨-, heq⟩ | ⟨_, _, _, _, -, -, heq⟩ <;>
      rw [show s.step (.serve error) = _ from heq] <;> exact h
  | deliver i => exact h.deliver he
  | appear =>
    rcases daemonAppeared_cases s with ⟨-, heq⟩ | heq <;>
      rw [show s.step .appear = _ from heq] <;> exact h
  | proxyReady =>
    rcases daemonProxyReady_cases s with ⟨-, heq⟩ | heq <;>
      rw [show s.step .proxyReady = _ from heq] <;> exact h
  | vanish => exact absurd rfl he.1

/-- **Card-emulation mode is not leaked.**  In a run in which every granted mode finds the
slot free and a profile in the table, at any quiescent moment nfcd holds no request but the
recorded one, and none at all where no profile remains. -/
theorem mode_not_leaked {events : List HceEvent} (h : Along ModeWanted HceState.step .start events)
    (hidle : (run HceState.step .start events).calls.Idle)
    (hnfcd : (run HceState.step .start events).nfcd = some nfcd) :
    (∀ id ∈ nfcd.modes, id = (run HceState.step .start events).hceModeRequestId) ∧
      ((run HceState.step .start events).hceProfiles = [] → nfcd.modes = []) := by
  have hinv : ModeInv (run HceState.step .start events) ∧
      SlotInv (run HceState.step .start events) :=
    h.invariant (fun s => ModeInv s ∧ SlotInv s)
      (fun s e hs he => ⟨hs.1.step he, hs.2.step hs.1 he⟩) ⟨modeInv_start, fun _ => rfl⟩
  obtain ⟨hmode, hslot⟩ := hinv
  have hrecorded : ∀ id ∈ nfcd.modes, id = (run HceState.step .start events).hceModeRequestId := by
    intro id hid
    rcases hmode.accounted nfcd hnfcd id hid with ⟨n, hn⟩ | hid | ⟨n, hn⟩
    · rw [hidle.2] at hn
      cases hn
    · exact hid
    · rw [hidle.1] at hn
      cases hn
  refine ⟨hrecorded, fun hnil => List.eq_nil_iff_forall_not_mem.mpr fun id hid => ?_⟩
  have hpos := (hmode.positive nfcd hnfcd).2 id hid
  rw [hrecorded id hid, hslot hnil] at hpos
  exact absurd hpos (lt_irrefl 0)

/-- Two profiles are registered; nfcd refuses the second mode, for it is on already. -/
def modeRequestedOnce : List HceEvent :=
  nfcdReady ++
    [.add (badgeRequest [0xF0, 0x01]) true, .serve none, .serve none, .deliver 0, .deliver 0,
      .add (badgeRequest [0xF0, 0x02]) true, .serve (some "Already requested"), .serve none,
      .deliver 0, .deliver 0,
      .remove [0xF0, 0x01], .remove [0xF0, 0x02], .serve none, .serve none, .serve none]

theorem mode_not_leaked_requested_once :
    (∀ id ∈ ([] : List ℕ), id = (run HceState.step .start modeRequestedOnce).hceModeRequestId) ∧
      ((run HceState.step .start modeRequestedOnce).hceProfiles = [] → ([] : List ℕ) = []) :=
  have hrun : (run HceState.step .start modeRequestedOnce).nfcd = some ⟨[], [], 2⟩ := by
    decide +kernel
  mode_not_leaked (by decide +kernel) (by decide +kernel) hrun

/-- Two profiles are registered, and nfcd grants both modes. -/
def modeRequestedTwice : List HceEvent :=
  nfcdReady ++
    [.add (badgeRequest [0xF0, 0x01]) true, .add (badgeRequest [0xF0, 0x02]) true,
      .serve none, .serve none, .serve none, .serve none,
      .deliver 0, .deliver 0, .deliver 0, .deliver 0,
      .remove [0xF0, 0x01], .remove [0xF0, 0x02], .serve none, .serve none, .serve none]

/-- The second id overwrites the first, which nobody releases. -/
theorem overwritten_mode_leaks :
    HceEvent.vanish ∉ modeRequestedTwice ∧
      (run HceState.step .start modeRequestedTwice).calls.Idle ∧
      (run HceState.step .start modeRequestedTwice).hceProfiles = [] ∧
      (run HceState.step .start modeRequestedTwice).hceModeRequestId = 0 ∧
      (run HceState.step .start modeRequestedTwice).nfcd = some ⟨[], [1], 3⟩ := by
  decide +kernel

end NfcAdapter
