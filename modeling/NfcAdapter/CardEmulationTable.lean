/-
# The table of card-emulation profiles

Profiles are told apart by their AIDs and by their addresses, an address is never given
out twice, and an object path says which AID it is for.  Every step keeps this, and only an
add whose object could be exported brings a new AID into the table.
-/
import NfcAdapter.CardEmulationSteps
import NfcAdapter.Runs
import Mathlib.Data.List.Nodup

namespace NfcAdapter

open AsyncCalls Runs

variable {s t : HceState} {e : HceEvent}

/-! ## Object paths -/

theorem digitChar_injective {m n : ℕ} (hm : m < 16) (hn : n < 16)
    (h : Nat.digitChar m = Nat.digitChar n) : m = n := by
  have hall : ∀ m < 16, ∀ n < 16, Nat.digitChar m = Nat.digitChar n → m = n := by decide
  exact hall m hm n hn h

/-- The hex form determines the bytes. -/
theorem ndefBytesToHex_injective : Function.Injective ndefBytesToHex := by
  intro as bs h
  replace h := String.ofList_injective h
  induction as generalizing bs with
  | nil =>
    cases bs with
    | nil => rfl
    | cons b bs => simp at h
  | cons a as ih =>
    cases bs with
    | nil => simp at h
    | cons b bs =>
      simp only [List.flatMap_cons, List.cons_append, List.nil_append, List.cons.injEq] at h
      obtain ⟨hhigh, hlow, htail⟩ := h
      have ha := a.toNat_lt
      have hb := b.toNat_lt
      have hhigh' := digitChar_injective (by omega) (by omega) hhigh
      have hlow' := digitChar_injective (by omega) (by omega) hlow
      have hbyte : a = b := UInt8.toNat_inj.mp (by omega)
      rw [hbyte, ih htail]

/-- The object path determines the AID. -/
theorem hceObjectPath_injective : Function.Injective hceObjectPath := by
  intro a b h
  have htail := (String.append_right_inj nfcdHceObjectPath).mp h
  exact (String.append_right_inj "/").mp htail

/-! ## The invariant -/

/-- The table is one: no address and no AID occurs twice, addresses to come are new, and
paths belong to their AIDs. -/
structure TableInv (s : HceState) : Prop where
  pointers : (s.hceProfiles.map HceProfile.pointer).Nodup
  aids : (s.hceProfiles.map HceProfile.aidHex).Nodup
  fresh : ∀ p ∈ s.hceProfiles, p.pointer < s.nextPointer
  paths : ∀ p ∈ s.hceProfiles, p.objectPath = hceObjectPath p.aidHex

theorem tableInv_start : TableInv .start where
  pointers := List.nodup_nil
  aids := List.nodup_nil
  fresh := fun _ h => nomatch h
  paths := fun _ h => nomatch h

theorem TableInv.eq_of_pointer (h : TableInv s) {p q : HceProfile} (hp : p ∈ s.hceProfiles)
    (hq : q ∈ s.hceProfiles) (heq : p.pointer = q.pointer) : p = q :=
  List.inj_on_of_nodup_map h.pointers hp hq heq

theorem TableInv.eq_of_aidHex (h : TableInv s) {p q : HceProfile} (hp : p ∈ s.hceProfiles)
    (hq : q ∈ s.hceProfiles) (heq : p.aidHex = q.aidHex) : p = q :=
  List.inj_on_of_nodup_map h.aids hp hq heq

theorem TableInv.eq_of_objectPath (h : TableInv s) {p q : HceProfile} (hp : p ∈ s.hceProfiles)
    (hq : q ∈ s.hceProfiles) (heq : p.objectPath = q.objectPath) : p = q := by
  rw [h.paths p hp, h.paths q hq] at heq
  exact h.eq_of_aidHex hp hq (hceObjectPath_injective heq)

/-! ## What a step does to the table -/

/-- A profile is changed, and is still the same profile. -/
def KeepsIdentity (f : HceProfile → HceProfile) : Prop :=
  ∀ p, (f p).pointer = p.pointer ∧ (f p).aidHex = p.aidHex ∧ (f p).objectPath = p.objectPath

theorem keepsIdentity_id : KeepsIdentity id := fun _ => ⟨rfl, rfl, rfl⟩

theorem KeepsIdentity.comp {f g : HceProfile → HceProfile} (hg : KeepsIdentity g)
    (hf : KeepsIdentity f) : KeepsIdentity (g ∘ f) := fun p =>
  ⟨(hg (f p)).1.trans (hf p).1, (hg (f p)).2.1.trans (hf p).2.1, (hg (f p)).2.2.trans (hf p).2.2⟩

/-- The change of one profile. -/
theorem KeepsIdentity.only {f : HceProfile → HceProfile} (hf : KeepsIdentity f) (pointer : ℕ) :
    KeepsIdentity fun p => if p.pointer = pointer then f p else p := by
  intro p
  dsimp only
  split
  · exact hf p
  · exact ⟨rfl, rfl, rfl⟩

/-- A step changes profiles, drops some of them, or adds one for an AID that has none. -/
inductive TableStep (s t : HceState) (e : HceEvent) : Prop where
  | change (f : HceProfile → HceProfile) (hf : KeepsIdentity f)
      (htable : t.hceProfiles = s.hceProfiles.map f) (hnext : t.nextPointer = s.nextPointer)
  | drop (keep : HceProfile → Bool) (htable : t.hceProfiles = s.hceProfiles.filter keep)
      (hnext : t.nextPointer = s.nextPointer)
  | new (request : AddRequest) (he : e = .add request true)
      (hnone : s.lookup (ndefBytesToHex request.aid) = none)
      (htable : t.hceProfiles = s.hceProfiles ++ [s.newProfile request])
      (hnext : t.nextPointer = s.nextPointer + 1)

theorem TableStep.same (htable : t.hceProfiles = s.hceProfiles)
    (hnext : t.nextPointer = s.nextPointer) : TableStep s t e :=
  .change id keepsIdentity_id (by rw [htable, List.map_id]) hnext

theorem table_hceDoRegister (s : HceState) (profile : HceProfile) (request : AddRequest) :
    (hceDoRegister s profile request).1.hceProfiles = s.hceProfiles ∧
      (hceDoRegister s profile request).1.nextPointer = s.nextPointer := by
  rcases hceDoRegister_cases s profile request with ⟨-, heq⟩ | ⟨-, heq⟩ <;> rw [heq] <;>
    exact ⟨rfl, rfl⟩

theorem table_hceReleaseMode (s : HceState) :
    (hceReleaseMode s).hceProfiles = s.hceProfiles ∧
      (hceReleaseMode s).nextPointer = s.nextPointer := by
  rcases hceReleaseMode_cases s with ⟨-, heq⟩ | ⟨-, heq⟩ <;> rw [heq] <;> exact ⟨rfl, rfl⟩

theorem table_unregister (profiles : List HceProfile) (s : HceState) :
    (profiles.foldl hceUnregister s).hceProfiles = s.hceProfiles ∧
      (profiles.foldl hceUnregister s).nextPointer = s.nextPointer :=
  hceUnregister_invariant (I := fun t => t.hceProfiles = s.hceProfiles ∧
    t.nextPointer = s.nextPointer) (fun _ _ _ h => h) profiles ⟨rfl, rfl⟩

theorem tableStep_add (s : HceState) (request : AddRequest) (exported : Bool) :
    TableStep s (s.step (.add request exported)) (.add request exported) := by
  have hrenew : KeepsIdentity fun p =>
      { p with payload := request.payload, implicit := request.implicit } :=
    fun _ => ⟨rfl, rfl, rfl⟩
  have hreopen : KeepsIdentity fun p => { p with registered := false } := fun _ => ⟨rfl, rfl, rfl⟩
  -- an error, an update in place, a registration anew, and a new profile
  rcases add_cases s request exported with ⟨-, text, heq⟩ | ⟨profile, -, -, -, heq⟩ |
    ⟨profile, -, -, -, heq⟩ | ⟨-, hnone, rfl, heq⟩ <;>
    rw [show s.step (.add request _) = _ from congrArg Prod.fst heq]
  · exact .same rfl rfl
  · exact .change _ (hrenew.only profile.pointer) rfl rfl
  · obtain ⟨htable, hnext⟩ := table_hceDoRegister (s.reopen profile request)
      { profile with implicit := request.implicit } request
    refine .change _ ((hreopen.only profile.pointer).comp (hrenew.only profile.pointer))
      (htable.trans ?_) hnext
    exact List.map_map
  · obtain ⟨htable, hnext⟩ := table_hceDoRegister (s.insert (s.newProfile request))
      (s.newProfile request) request
    exact .new request rfl hnone htable hnext

theorem tableStep_remove (s : HceState) (aid : Bytes) :
    TableStep s (s.step (.remove aid)) (.remove aid) := by
  rcases remove_cases s aid with ⟨heq, -⟩ | ⟨profile, -, -, hcase⟩
  · rw [show s.step (.remove aid) = _ from heq]
    exact .same rfl rfl
  obtain ⟨htable, hnext⟩ := table_unregister [profile] s
  have herased : ((hceUnregister s profile).erase (ndefBytesToHex aid)).hceProfiles =
      s.hceProfiles.filter fun profile => profile.aidHex ≠ ndefBytesToHex aid :=
    congrArg (List.filter _) htable
  rcases hcase with ⟨heq, -⟩ | heq
  · rw [show s.step (.remove aid) = _ from heq]
    exact .drop _ herased hnext
  · rw [show s.step (.remove aid) = _ from heq]
    obtain ⟨hreleased, hnext'⟩ :=
      table_hceReleaseMode ((hceUnregister s profile).erase (ndefBytesToHex aid))
    exact .drop _ (hreleased.trans herased) (hnext'.trans hnext)

theorem hceProfiles_clear (s : HceState) : (s.step .clear).hceProfiles = [] :=
  (table_hceReleaseMode { s.hceProfiles.foldl hceUnregister s with hceProfiles := [] }).1

theorem tableStep_clear (s : HceState) : TableStep s (s.step .clear) .clear := by
  refine .drop (fun _ => false) ?_ ?_
  · rw [hceProfiles_clear, List.filter_false]
  · exact (table_hceReleaseMode
      { s.hceProfiles.foldl hceUnregister s with hceProfiles := [] }).2.trans
      (table_unregister s.hceProfiles s).2

theorem tableStep_deliver (s : HceState) (i : ℕ) :
    TableStep s (s.step (.deliver i)) (.deliver i) := by
  rcases deliver_cases s i with ⟨-, heq⟩ | ⟨n, c, r, hi, ⟨-, heq⟩ |
    ⟨path, aid, implicit, req, -, heq⟩ | ⟨-, heq⟩⟩ <;>
    rw [show s.step (.deliver i) = _ from congrArg Prod.fst heq]
  · exact .same rfl rfl
  · rcases hceModeReady_cases { s with calls := s.calls.deliver i } r with ⟨id, -, hset⟩ |
      ⟨-, hset⟩ <;> simp only [hset] <;> exact .same rfl rfl
  · rcases hceRegisterReady_cases { s with calls := s.calls.deliver i } req r with
      ⟨text, -, hset⟩ | ⟨-, hset⟩
    · rw [hset]
      exact .same rfl rfl
    · rw [hset]
      have hmark : KeepsIdentity fun p => { p with registered := true } := fun _ => ⟨rfl, rfl, rfl⟩
      exact .change _ (hmark.only req.profile) rfl rfl
  · exact .same rfl rfl

/-- **What a step does to the table.** -/
theorem tableStep (s : HceState) (e : HceEvent) : TableStep s (s.step e) e := by
  cases e with
  | add request exported => exact tableStep_add s request exported
  | remove aid => exact tableStep_remove s aid
  | clear => exact tableStep_clear s
  | serve error =>
    rcases serve_cases s error with ⟨-, heq⟩ | ⟨_, _, _, _, -, -, heq⟩ <;>
      rw [show s.step (.serve error) = _ from heq] <;> exact .same rfl rfl
  | deliver i => exact tableStep_deliver s i
  | appear =>
    rcases daemonAppeared_cases s with ⟨-, heq⟩ | heq <;>
      rw [show s.step .appear = _ from heq] <;> exact .same rfl rfl
  | proxyReady =>
    rcases daemonProxyReady_cases s with ⟨-, heq⟩ | heq <;>
      rw [show s.step .proxyReady = _ from heq] <;> exact .same rfl rfl
  | vanish =>
    rcases daemonVanished_cases s with ⟨-, heq⟩ | ⟨-, heq⟩ <;>
      rw [show s.step .vanish = _ from heq] <;> exact .same rfl rfl

/-! ## The invariant in every step -/

theorem TableInv.change (h : TableInv s) {f : HceProfile → HceProfile} (hf : KeepsIdentity f)
    (htable : t.hceProfiles = s.hceProfiles.map f) (hnext : t.nextPointer = s.nextPointer) :
    TableInv t := by
  have hpointers : t.hceProfiles.map HceProfile.pointer = s.hceProfiles.map HceProfile.pointer := by
    rw [htable, List.map_map]
    exact List.map_congr_left fun p _ => (hf p).1
  have haids : t.hceProfiles.map HceProfile.aidHex = s.hceProfiles.map HceProfile.aidHex := by
    rw [htable, List.map_map]
    exact List.map_congr_left fun p _ => (hf p).2.1
  refine ⟨hpointers ▸ h.pointers, haids ▸ h.aids, ?_, ?_⟩ <;> rw [htable] <;> intro q hq <;>
    obtain ⟨p, hp, rfl⟩ := List.mem_map.mp hq
  · rw [(hf p).1, hnext]
    exact h.fresh p hp
  · rw [(hf p).2.1, (hf p).2.2]
    exact h.paths p hp

theorem TableInv.drop (h : TableInv s) {keep : HceProfile → Bool}
    (htable : t.hceProfiles = s.hceProfiles.filter keep) (hnext : t.nextPointer = s.nextPointer) :
    TableInv t where
  pointers := htable ▸ h.pointers.sublist (List.filter_sublist.map _)
  aids := htable ▸ h.aids.sublist (List.filter_sublist.map _)
  fresh := fun p hp => hnext ▸ h.fresh p (List.mem_of_mem_filter (htable ▸ hp))
  paths := fun p hp => h.paths p (List.mem_of_mem_filter (htable ▸ hp))

theorem TableInv.new (h : TableInv s) {request : AddRequest}
    (hnone : s.lookup (ndefBytesToHex request.aid) = none)
    (htable : t.hceProfiles = s.hceProfiles ++ [s.newProfile request])
    (hnext : t.nextPointer = s.nextPointer + 1) : TableInv t := by
  refine ⟨?_, ?_, ?_, ?_⟩ <;> rw [htable]
  · rw [List.map_append]
    refine h.pointers.append (List.nodup_singleton _) ?_
    rintro n hn hnew
    obtain ⟨p, hp, rfl⟩ := List.mem_map.mp hn
    exact (h.fresh p hp).ne (List.mem_singleton.mp hnew)
  · rw [List.map_append]
    refine h.aids.append (List.nodup_singleton _) ?_
    rintro a ha hnew
    obtain ⟨p, hp, rfl⟩ := List.mem_map.mp ha
    exact lookup_eq_none.mp hnone p hp (List.mem_singleton.mp hnew)
  · intro p hp
    rw [hnext]
    rcases List.mem_append.mp hp with hp | hp
    · exact (h.fresh p hp).trans (Nat.lt_succ_self _)
    · rw [List.mem_singleton.mp hp]
      exact Nat.lt_succ_self _
  · intro p hp
    rcases List.mem_append.mp hp with hp | hp
    · exact h.paths p hp
    · rw [List.mem_singleton.mp hp]
      rfl

/-- **Step lemma.** -/
theorem TableInv.step (h : TableInv s) (e : HceEvent) : TableInv (s.step e) := by
  cases tableStep s e with
  | change f hf htable hnext => exact h.change hf htable hnext
  | drop keep htable hnext => exact h.drop htable hnext
  | new request _ hnone htable hnext => exact h.new hnone htable hnext

/-- An AID without a profile gets one from an add whose object could be exported only. -/
theorem lookup_step_eq_none {aidHex : String} (h : s.lookup aidHex = none)
    (he : ∀ request, e = .add request true → ndefBytesToHex request.aid ≠ aidHex) :
    (s.step e).lookup aidHex = none := by
  rw [lookup_eq_none] at h ⊢
  intro q hq
  cases tableStep s e with
  | change f hf htable hnext =>
    rw [htable] at hq
    obtain ⟨p, hp, rfl⟩ := List.mem_map.mp hq
    exact (hf p).2.1 ▸ h p hp
  | drop keep htable hnext =>
    rw [htable] at hq
    exact h q (List.mem_of_mem_filter hq)
  | new request heq _ htable _ =>
    rw [htable] at hq
    rcases List.mem_append.mp hq with hq | hq
    · exact h q hq
    · rw [List.mem_singleton.mp hq]
      exact he request heq

theorem tableInv_run (events : List HceEvent) : TableInv (run HceState.step .start events) :=
  invariant TableInv (fun _ e hs => hs.step e) tableInv_start events

/-! ## A profile that is registered again -/

theorem keepsIdentity_renew (request : AddRequest) :
    KeepsIdentity fun p => { p with payload := request.payload, implicit := request.implicit } :=
  fun _ => ⟨rfl, rfl, rfl⟩

theorem tableInv_reopen (h : TableInv s) (profile : HceProfile) (request : AddRequest) :
    TableInv (s.reopen profile request) := by
  have hforget : KeepsIdentity fun p => { p with registered := false } := fun _ => ⟨rfl, rfl, rfl⟩
  exact h.change ((hforget.only profile.pointer).comp
    ((keepsIdentity_renew request).only profile.pointer)) List.map_map rfl

theorem mem_reopen {profile : HceProfile} (hprofile : profile ∈ s.hceProfiles)
    (request : AddRequest) :
    ∃ p ∈ (s.reopen profile request).hceProfiles,
      p.pointer = profile.pointer ∧ p.objectPath = profile.objectPath := by
  refine ⟨_, mem_hceProfiles_update.mpr ⟨_, mem_hceProfiles_update.mpr ⟨profile, hprofile,
    if_pos rfl⟩, if_pos rfl⟩, ?_⟩
  exact ⟨rfl, rfl⟩

/-! ## Profiles and the registrations under way -/

/-- A registration under way names a profile that has been there, and one that still is has
the path of the registration. -/
def KnownInv (s : HceState) : Prop :=
  ∀ n path aid implicit req,
    s.calls.Unanswered n (.registerLocalHostApp path aid implicit req) →
      req.profile < s.nextPointer ∧
        ∀ p ∈ s.hceProfiles, p.pointer = req.profile → p.objectPath = path

theorem knownInv_start : KnownInv .start := by
  rintro n path aid implicit req (h | ⟨r, h⟩) <;> cases h

theorem unanswered_call {n : ℕ} {c d : NfcdCall} (h : (s.call c).calls.Unanswered n d) :
    s.calls.Unanswered n d ∨ d = c := by
  rcases h with h | ⟨r, h⟩
  · rcases mem_queue_call.mp h with h | ⟨-, h⟩
    · exact Or.inl (Or.inl h)
    · exact Or.inr (Prod.mk.inj h).2
  · rcases mem_replies_call.mp h with h | ⟨-, r', -, h⟩
    · exact Or.inl (Or.inr ⟨r, h⟩)
    · exact Or.inr (Prod.mk.inj (Prod.mk.inj h).2).1

/-- The registration of a profile of the table names it. -/
theorem TableInv.known_of_mem (h : TableInv s) {p profile : HceProfile} (hp : p ∈ s.hceProfiles)
    (hpointer : p.pointer = profile.pointer) (hpath : p.objectPath = profile.objectPath) :
    profile.pointer < s.nextPointer ∧
      ∀ q ∈ s.hceProfiles, q.pointer = profile.pointer → q.objectPath = profile.objectPath := by
  refine ⟨hpointer ▸ h.fresh p hp, fun q hq hq' => ?_⟩
  rw [h.eq_of_pointer hq hp (hq'.trans hpointer.symm), hpath]

/-- What calls that name their profiles, changes in place and new profiles preserve, an add
preserves. -/
theorem add_invariant {I : HceState → Prop}
    (hcall : ∀ s c, (∀ path aid implicit req, c = .registerLocalHostApp path aid implicit req →
      req.profile < s.nextPointer ∧
        ∀ p ∈ s.hceProfiles, p.pointer = req.profile → p.objectPath = path) →
      I s → I (s.call c))
    (hchange : ∀ s t f, KeepsIdentity f → t.hceProfiles = s.hceProfiles.map f →
      t.calls = s.calls → t.nextPointer = s.nextPointer → t.usedFreed = s.usedFreed → I s → I t)
    (hinsert : ∀ s request, I s → I (s.insert (s.newProfile request)))
    (htable : TableInv s) (h : I s) (request : AddRequest) (exported : Bool) :
    I (nfcdClientAddCardEmulationProfile s request exported).1 := by
  -- both branches that register end in the same two calls
  have hregister : ∀ {s : HceState} {p profile : HceProfile}, TableInv s → p ∈ s.hceProfiles →
      p.pointer = profile.pointer → p.objectPath = profile.objectPath → I s →
      I (hceDoRegister s profile request).1 := by
    intro s p profile htable hp hpointer hpath hs
    rcases hceDoRegister_cases s profile request with ⟨-, heq⟩ | ⟨-, heq⟩ <;> rw [heq]
    · exact hs
    · refine hcall _ _ ?_ (hcall _ _ (by simp) hs)
      rintro _ _ _ _ ⟨⟩
      exact htable.known_of_mem hp hpointer hpath
  have hrenewed : ∀ profile, I (s.renew profile request) := fun profile =>
    hchange s _ _ ((keepsIdentity_renew request).only profile.pointer) rfl rfl rfl rfl h
  rcases add_cases s request exported with ⟨-, text, heq⟩ | ⟨profile, -, -, -, heq⟩ |
    ⟨profile, -, hlookup, -, heq⟩ | ⟨-, hnone, -, heq⟩ <;> rw [heq]
  · exact h
  · exact hrenewed profile
  · have hforget : KeepsIdentity fun p => { p with registered := false } :=
      fun _ => ⟨rfl, rfl, rfl⟩
    have hforgotten : I ((s.renew profile request).update profile.pointer
        fun p => { p with registered := false }) :=
      hchange _ _ _ (hforget.only profile.pointer) rfl rfl rfl rfl (hrenewed profile)
    obtain ⟨p, hp, hpointer, hpath⟩ := mem_reopen (mem_of_lookup hlookup).1 request
    exact hregister (tableInv_reopen htable profile request) hp hpointer hpath
      (hcall _ _ (by simp) hforgotten)
  · have hnew : s.newProfile request ∈ (s.insert (s.newProfile request)).hceProfiles :=
      List.mem_append_right _ (List.mem_singleton_self _)
    exact hregister (htable.new hnone rfl rfl) hnew rfl rfl (hinsert s request h)

namespace KnownInv

theorem call (h : KnownInv s) {c : NfcdCall}
    (hc : ∀ path aid implicit req, c = .registerLocalHostApp path aid implicit req →
      req.profile < s.nextPointer ∧
        ∀ p ∈ s.hceProfiles, p.pointer = req.profile → p.objectPath = path) :
    KnownInv (s.call c) := by
  intro n path aid implicit req hun
  rcases unanswered_call hun with hun | heq
  · exact h n path aid implicit req hun
  · exact hc path aid implicit req heq.symm

theorem change (h : KnownInv s) {f : HceProfile → HceProfile} (hf : KeepsIdentity f)
    (htable : t.hceProfiles = s.hceProfiles.map f) (hcalls : t.calls = s.calls)
    (hnext : t.nextPointer = s.nextPointer) : KnownInv t := by
  intro n path aid implicit req hun
  obtain ⟨hlt, hpath⟩ := h n path aid implicit req (hcalls ▸ hun)
  refine ⟨hnext ▸ hlt, fun q hq hpointer => ?_⟩
  obtain ⟨p, hp, rfl⟩ := List.mem_map.mp (htable ▸ hq)
  rw [(hf p).2.2]
  exact hpath p hp ((hf p).1 ▸ hpointer)

theorem drop (h : KnownInv s) {keep : HceProfile → Bool}
    (htable : t.hceProfiles = s.hceProfiles.filter keep) (hcalls : t.calls = s.calls)
    (hnext : t.nextPointer = s.nextPointer) : KnownInv t := by
  intro n path aid implicit req hun
  obtain ⟨hlt, hpath⟩ := h n path aid implicit req (hcalls ▸ hun)
  exact ⟨hnext ▸ hlt, fun p hp => hpath p (List.mem_of_mem_filter (htable ▸ hp))⟩

/-- A new profile is none that a registration under way is for. -/
theorem insert (h : KnownInv s) (request : AddRequest) :
    KnownInv (s.insert (s.newProfile request)) := by
  intro n path aid implicit req hun
  obtain ⟨hlt, hpath⟩ := h n path aid implicit req hun
  refine ⟨hlt.trans (Nat.lt_succ_self _), fun p hp hpointer => ?_⟩
  rcases List.mem_append.mp hp with hp | hp
  · exact hpath p hp hpointer
  · rw [List.mem_singleton.mp hp] at hpointer
    exact absurd hpointer hlt.ne'

theorem arrived (h : KnownInv s) (i : ℕ) : KnownInv { s with calls := s.calls.deliver i } :=
  fun n path aid implicit req hun => h n path aid implicit req (Channel.unanswered_of_deliver hun)

theorem disconnected (h : KnownInv s) :
    KnownInv { s with
      daemon := false
      nfcd := none
      calls := s.calls.disconnect (NfcdCall.error noReply) } := by
  rintro n path aid implicit req (hqueue | ⟨r, hr⟩)
  · cases hqueue
  · exact h n path aid implicit req (Channel.unanswered_of_disconnect hr)

theorem release (h : KnownInv s) : KnownInv (hceReleaseMode s) := by
  rcases hceReleaseMode_cases s with ⟨-, heq⟩ | ⟨-, heq⟩ <;> rw [heq]
  · have hcalled : KnownInv (s.call (.releaseMode s.hceModeRequestId)) := h.call (by simp)
    exact hcalled
  · exact h

theorem unregister (h : KnownInv s) (profiles : List HceProfile) :
    KnownInv (profiles.foldl hceUnregister s) :=
  hceUnregister_invariant (fun _ _ _ h => h.call (by simp)) profiles h

theorem remove (h : KnownInv s) (aid : Bytes) :
    KnownInv (nfcdClientRemoveCardEmulationProfile s aid).1 := by
  rcases remove_cases s aid with ⟨heq, -⟩ | ⟨profile, -, -, hcase⟩
  · rw [heq]
    exact h
  have herased : KnownInv ((hceUnregister s profile).erase (ndefBytesToHex aid)) :=
    (h.unregister [profile]).drop rfl rfl rfl
  rcases hcase with ⟨heq, -⟩ | heq <;> rw [heq]
  · exact herased
  · exact herased.release

theorem clear (h : KnownInv s) : KnownInv (nfcdClientClearCardEmulation s).1 := by
  have hemptied : KnownInv { s.hceProfiles.foldl hceUnregister s with hceProfiles := [] } :=
    (h.unregister s.hceProfiles).drop (List.filter_false _).symm rfl rfl
  exact hemptied.release

theorem deliver (h : KnownInv s) (i : ℕ) : KnownInv (s.deliver i).1 := by
  rcases deliver_cases s i with ⟨-, heq⟩ | ⟨n, c, r, -, ⟨-, heq⟩ | ⟨_, _, _, req, -, heq⟩ |
    ⟨-, heq⟩⟩ <;> rw [heq]
  · exact h
  · rcases hceModeReady_cases { s with calls := s.calls.deliver i } r with ⟨id, -, hset⟩ |
      ⟨-, hset⟩ <;> simp only [hset] <;> exact h.arrived i
  · rcases hceRegisterReady_cases { s with calls := s.calls.deliver i } req r with
      ⟨text, -, hset⟩ | ⟨-, hset⟩ <;> rw [hset]
    · exact h.arrived i
    · have hmark : KeepsIdentity fun p => { p with registered := true } := fun _ => ⟨rfl, rfl, rfl⟩
      exact (h.arrived i).change (hmark.only req.profile) rfl rfl rfl
  · exact h.arrived i

/-- **Step lemma.** -/
theorem step (h : KnownInv s) (htable : TableInv s) (e : HceEvent) : KnownInv (s.step e) := by
  cases e with
  | add request exported =>
    exact add_invariant (fun _ _ hc hs => hs.call hc)
      (fun _ _ _ hf ht hcalls hnext _ hs => hs.change hf ht hcalls hnext)
      (fun _ request hs => hs.insert request) htable h request exported
  | remove aid => exact h.remove aid
  | clear => exact h.clear
  | serve error =>
    rcases serve_cases s error with ⟨-, heq⟩ | ⟨_, _, _, _, -, hq, heq⟩ <;>
      rw [show s.step (.serve error) = _ from heq]
    · exact h
    · exact fun n path aid implicit req hun => h n path aid implicit req
        (Channel.unanswered_of_serve hq hun)
  | deliver i => exact h.deliver i
  | appear =>
    rcases daemonAppeared_cases s with ⟨-, heq⟩ | heq <;>
      rw [show s.step .appear = _ from heq] <;> exact h
  | proxyReady =>
    rcases daemonProxyReady_cases s with ⟨-, heq⟩ | heq <;>
      rw [show s.step .proxyReady = _ from heq] <;> exact h
  | vanish =>
    rcases daemonVanished_cases s with ⟨-, heq⟩ | ⟨-, heq⟩ <;>
      rw [show s.step .vanish = _ from heq]
    · exact h.disconnected
    · exact h

end KnownInv

end NfcAdapter
