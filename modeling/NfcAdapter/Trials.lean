/-
# Trying keys, unit by unit

The record of a search that tries keys in turn until one works, and of a sweep that makes
such a search for one unit after another.  A bound on a part of the record that belongs to
one key gives the bounds on the record of a unit and of the sweep.
-/
import Mathlib.Data.List.Basic
import Mathlib.Data.Nat.Init

namespace Trials

variable {κ ε ρ : Type*}

/-! ## One unit -/

section Search

variable (Failed : κ → List ε → Prop) (Works : κ → List ε → ρ → Prop)

/-- The keys are tried in turn, up to the first that works. -/
inductive Tried : List κ → List ε → Option ρ → Prop
  | exhausted : Tried [] [] none
  | failed {key : κ} {keys : List κ} {log more : List ε} {result : Option ρ}
      (h : Failed key log) (hrest : Tried keys more result) :
    Tried (key :: keys) (log ++ more) result
  | worked {key : κ} {keys : List κ} {log : List ε} {r : ρ} (h : Works key log r) :
    Tried (key :: keys) log (some r)

variable {Failed Works}

/-- Where all keys failed, others can be tried. -/
theorem Tried.append {keys keys' : List κ} {log log' : List ε} {result : Option ρ}
    (h : Tried Failed Works keys log none) (h' : Tried Failed Works keys' log' result) :
    Tried Failed Works (keys ++ keys') (log ++ log') result := by
  generalize hnone : (none : Option ρ) = none' at h
  induction h with
  | exhausted => exact h'
  | failed hfailed _ ih =>
    rw [List.cons_append, List.append_assoc]
    exact .failed hfailed (ih hnone)
  | worked _ => cases hnone

/-- All keys may fail. -/
theorem exists_tried (hfails : ∀ key, ∃ log, Failed key log) (keys : List κ) :
    ∃ log, Tried Failed Works keys log none := by
  induction keys with
  | nil => exact ⟨[], .exhausted⟩
  | cons key keys ih =>
    obtain ⟨log, hlog⟩ := hfails key
    obtain ⟨more, hmore⟩ := ih
    exact ⟨log ++ more, .failed hlog hmore⟩

/-- What holds of the exchanges for each key holds of all. -/
theorem Tried.forall_mem {P : ε → Prop} (hfailed : ∀ key log, Failed key log → ∀ x ∈ log, P x)
    (hworks : ∀ key log r, Works key log r → ∀ x ∈ log, P x) {keys : List κ} {log : List ε}
    {result : Option ρ} (h : Tried Failed Works keys log result) : ∀ x ∈ log, P x := by
  induction h with
  | exhausted => exact fun x hx => nomatch hx
  | failed hlog _ ih => exact List.forall_mem_append.mpr ⟨hfailed _ _ hlog, ih⟩
  | worked hlog => exact hworks _ _ _ hlog

/-- Every key but the last adds at most one, and the last at most `m`. -/
theorem Tried.countP_le {p : ε → Bool} {m : ℕ} (hm : 1 ≤ m)
    (hfailed : ∀ key log, Failed key log → log.countP p ≤ 1)
    (hworks : ∀ key log r, Works key log r → log.countP p ≤ m) {keys : List κ} {log : List ε}
    {result : Option ρ} (h : Tried Failed Works keys log result) :
    log.countP p ≤ keys.length - 1 + m := by
  induction h with
  | exhausted => simp
  | @failed key keys log more result hlog hrest ih =>
    have hone := hfailed key log hlog
    rw [List.countP_append, List.length_cons]
    cases keys with
    | nil =>
      cases hrest
      simp only [List.countP_nil, List.length_nil]
      omega
    | cons key' keys =>
      simp only [List.length_cons] at ih ⊢
      omega
  | worked hlog => exact Nat.le_trans (hworks _ _ _ hlog) (Nat.le_add_left _ _)

/-- What was found was found with the last of the exchanges. -/
theorem Tried.exists_works {keys : List κ} {log : List ε} {r : ρ}
    (h : Tried Failed Works keys log (some r)) :
    ∃ pre key last, log = pre ++ last ∧ Works key last r := by
  generalize hsome : some r = result at h
  induction h with
  | exhausted => cases hsome
  | @failed _ _ log _ _ _ _ ih =>
    obtain ⟨pre, key, last, rfl, hworks⟩ := ih hsome
    exact ⟨log ++ pre, key, last, (List.append_assoc _ _ _).symm, hworks⟩
  | @worked key _ log _ hworks =>
    obtain rfl := Option.some.inj hsome
    exact ⟨[], key, log, rfl, hworks⟩

/-- What the whole record has, each key's part has. -/
theorem Tried.restrict {A : List ε → Prop} (hA : ∀ log log', A (log ++ log') → A log ∧ A log')
    {keys : List κ} {log : List ε} {result : Option ρ} (h : Tried Failed Works keys log result)
    (hlog : A log) :
    Tried (fun key log => Failed key log ∧ A log) (fun key log r => Works key log r ∧ A log) keys
      log result := by
  induction h with
  | exhausted => exact .exhausted
  | failed hfailed _ ih =>
    obtain ⟨hfirst, hrest⟩ := hA _ _ hlog
    exact .failed ⟨hfailed, hfirst⟩ (ih hrest)
  | worked hworks => exact .worked ⟨hworks, hlog⟩

/-- Where it depends on the key alone whether it works, the first one that does is found. -/
theorem Tried.eq_find {p : κ → Bool} {f : κ → ρ}
    (hfailed : ∀ key log, Failed key log → p key = false)
    (hworks : ∀ key log r, Works key log r → p key = true ∧ r = f key) {keys : List κ}
    {log : List ε} {result : Option ρ} (h : Tried Failed Works keys log result) :
    result = (keys.find? p).map f := by
  induction h with
  | exhausted => rfl
  | failed hlog _ ih =>
    rw [List.find?_cons, hfailed _ _ hlog]
    exact ih
  | worked hlog =>
    obtain ⟨hkey, rfl⟩ := hworks _ _ _ hlog
    rw [List.find?_cons, hkey]
    rfl

/-- The keys up to that one add one each. -/
theorem Tried.countP_eq {p : κ → Bool} {q : ε → Bool}
    (hfailed : ∀ key log, Failed key log → p key = false ∧ log.countP q = 1)
    (hworks : ∀ key log r, Works key log r → p key = true ∧ log.countP q = 1) {keys : List κ}
    {log : List ε} {result : Option ρ} (h : Tried Failed Works keys log result) :
    log.countP q = min (keys.findIdx p + 1) keys.length := by
  induction h with
  | exhausted => rfl
  | failed hlog _ ih =>
    obtain ⟨hkey, hone⟩ := hfailed _ _ hlog
    rw [List.countP_append, hone, ih, List.findIdx_cons, hkey, List.length_cons, cond_false]
    omega
  | worked hlog =>
    obtain ⟨hkey, hone⟩ := hworks _ _ _ hlog
    rw [hone, List.findIdx_cons, hkey, List.length_cons, cond_true]
    omega

end Search

/-! ## All units -/

section Sweep

variable (Unit : ℕ → List ε → Option ρ → Prop)

/-- The units below a number are searched in order. -/
inductive Swept : ℕ → List ε → List ρ → Prop
  | start : Swept 0 [] []
  | next {n : ℕ} {log more : List ε} {found : List ρ} {r : Option ρ} (h : Swept n log found)
      (hunit : Unit n more r) : Swept (n + 1) (log ++ more) (found ++ r.toList)

variable {Unit}

/-- A sweep can go on. -/
theorem Swept.exists_extends {n m : ℕ} {log : List ε} {found : List ρ}
    (h : Swept Unit n log found) (hm : n ≤ m) (hunits : ∀ k < m, ∃ log r, Unit k log r) :
    ∃ more found', Swept Unit m (log ++ more) (found ++ found') := by
  induction m, hm using Nat.le_induction with
  | base => exact ⟨[], [], by rwa [List.append_nil, List.append_nil]⟩
  | succ m _ ih =>
    obtain ⟨more, found', hswept⟩ := ih fun k hk => hunits k (Nat.lt_succ_of_lt hk)
    obtain ⟨last, r, hunit⟩ := hunits m (Nat.lt_succ_self m)
    refine ⟨more ++ last, found' ++ r.toList, ?_⟩
    rw [← List.append_assoc, ← List.append_assoc]
    exact hswept.next hunit

/-- Every exchange belongs to a unit. -/
theorem Swept.exists_unit {n : ℕ} {log : List ε} {found : List ρ} (h : Swept Unit n log found) :
    ∀ x ∈ log, ∃ k < n, ∃ part r, Unit k part r ∧ x ∈ part := by
  induction h with
  | start => exact fun x hx => nomatch hx
  | @next n log more found r _ hunit ih =>
    intro x hx
    rcases List.mem_append.mp hx with hx | hx
    · obtain ⟨k, hk, hpart⟩ := ih x hx
      exact ⟨k, Nat.lt_succ_of_lt hk, hpart⟩
    · exact ⟨n, Nat.lt_succ_self n, more, r, hunit, hx⟩

theorem Swept.length_le {b : ℕ} (hunits : ∀ k log r, Unit k log r → log.length ≤ b) {n : ℕ}
    {log : List ε} {found : List ρ} (h : Swept Unit n log found) : log.length ≤ n * b := by
  induction h with
  | start => simp
  | next _ hunit ih =>
    rw [List.length_append, Nat.succ_mul]
    exact Nat.add_le_add ih (hunits _ _ _ hunit)

/-- What only one unit adds is bounded by what that unit adds. -/
theorem Swept.countP_le {p : ε → Bool} {u b : ℕ}
    (hother : ∀ k log r, Unit k log r → k ≠ u → ∀ x ∈ log, ¬ p x = true)
    (hunit : ∀ log r, Unit u log r → log.countP p ≤ b) {n : ℕ} {log : List ε} {found : List ρ}
    (h : Swept Unit n log found) : log.countP p ≤ b := by
  -- nothing before the unit's turn
  have hbefore : ∀ {n log found}, Swept Unit n log found → n ≤ u → log.countP p = 0 := by
    intro n log found h hn
    refine List.countP_eq_zero.mpr fun x hx => ?_
    obtain ⟨k, hk, part, r, hpart, hx⟩ := h.exists_unit x hx
    exact hother k part r hpart (by omega) x hx
  induction h with
  | start => simp
  | @next n log more found r hswept hmore ih =>
    rw [List.countP_append]
    by_cases hn : n = u
    · subst hn
      rw [hbefore hswept (Nat.le_refl n), Nat.zero_add]
      exact hunit more r hmore
    · rw [List.countP_eq_zero.mpr (hother n more r hmore hn), Nat.add_zero]
      exact ih

/-- What is found is found in order. -/
theorem Swept.ordered {index : ρ → ℕ} (hindex : ∀ k log r, Unit k log (some r) → index r = k)
    {n : ℕ} {log : List ε} {found : List ρ} (h : Swept Unit n log found) :
    found.Pairwise (fun r r' => index r < index r') ∧ ∀ r ∈ found, index r < n := by
  induction h with
  | start => exact ⟨.nil, fun r hr => nomatch hr⟩
  | @next n log more found r _ hunit ih =>
    obtain ⟨hordered, hbelow⟩ := ih
    cases r with
    | none =>
      rw [Option.toList_none, List.append_nil]
      exact ⟨hordered, fun r hr => Nat.lt_succ_of_lt (hbelow r hr)⟩
    | some r =>
      have hr := hindex n more r hunit
      rw [Option.toList_some]
      constructor
      · refine List.pairwise_append.mpr ⟨hordered, List.pairwise_singleton _ _, ?_⟩
        intro r' hr' r'' hr''
        rw [List.mem_singleton.mp hr'', hr]
        exact hbelow r' hr'
      · refine List.forall_mem_append.mpr ⟨fun r' hr' => Nat.lt_succ_of_lt (hbelow r' hr'), ?_⟩
        intro r' hr'
        rw [List.mem_singleton.mp hr', hr]
        exact Nat.lt_succ_self n

/-- What was found was found in its unit's part, and only later units follow. -/
theorem Swept.exists_found {n : ℕ} {log : List ε} {found : List ρ} (h : Swept Unit n log found) :
    ∀ r ∈ found, ∃ k < n, ∃ pre part post, log = pre ++ part ++ post ∧ Unit k part (some r) ∧
      ∀ x ∈ post, ∃ j, k < j ∧ ∃ part' r', Unit j part' r' ∧ x ∈ part' := by
  induction h with
  | start => exact fun r hr => nomatch hr
  | @next n log more found r hswept hunit ih =>
    intro r' hr'
    rcases List.mem_append.mp hr' with hr' | hr'
    · obtain ⟨k, hk, pre, part, post, rfl, hpart, hpost⟩ := ih r' hr'
      refine ⟨k, Nat.lt_succ_of_lt hk, pre, part, post ++ more, by simp, hpart, ?_⟩
      refine List.forall_mem_append.mpr ⟨hpost, fun x hx => ?_⟩
      exact ⟨n, hk, more, r, hunit, hx⟩
    · obtain rfl := Option.mem_toList.mp hr'
      exact ⟨n, Nat.lt_succ_self n, log, more, [], by simp, hunit, fun x hx => nomatch hx⟩

theorem Swept.restrict {A : List ε → Prop} (hA : ∀ log log', A (log ++ log') → A log ∧ A log')
    {n : ℕ} {log : List ε} {found : List ρ} (h : Swept Unit n log found) (hlog : A log) :
    Swept (fun k log r => Unit k log r ∧ A log) n log found := by
  induction h with
  | start => exact .start
  | next _ hunit ih =>
    obtain ⟨hbefore, hmore⟩ := hA _ _ hlog
    exact .next (ih hbefore) ⟨hunit, hmore⟩

/-- Where it depends on the unit alone what is found in it, the sweep finds it all. -/
theorem Swept.eq_filterMap {g : ℕ → Option ρ} (hunits : ∀ k log r, Unit k log r → r = g k) {n : ℕ}
    {log : List ε} {found : List ρ} (h : Swept Unit n log found) :
    found = (List.range n).filterMap g := by
  induction h with
  | start => rfl
  | @next n _ _ _ r _ hunit ih =>
    rw [List.range_succ, List.filterMap_append, ← ih, hunits _ _ _ hunit]
    cases hg : g n <;> simp [hg]

/-- Every unit has its part. -/
theorem Swept.exists_part {n : ℕ} {log : List ε} {found : List ρ} (h : Swept Unit n log found)
    {u : ℕ} (hu : u < n) : ∃ pre part post r, log = pre ++ part ++ post ∧ Unit u part r := by
  induction h with
  | start => exact absurd hu (Nat.not_lt_zero u)
  | @next n log more _ r _ hunit ih =>
    rcases Nat.lt_succ_iff_lt_or_eq.mp hu with hu | rfl
    · obtain ⟨pre, part, post, r', rfl, hpart⟩ := ih hu
      exact ⟨pre, part, post ++ more, r', by simp, hpart⟩
    · exact ⟨log, more, [], r, by simp, hunit⟩

/-- What only one unit adds is what that unit adds. -/
theorem Swept.countP_eq {p : ε → Bool} {u b : ℕ}
    (hother : ∀ k log r, Unit k log r → k ≠ u → ∀ x ∈ log, ¬ p x = true)
    (hunit : ∀ log r, Unit u log r → log.countP p = b) {n : ℕ} {log : List ε} {found : List ρ}
    (h : Swept Unit n log found) (hu : u < n) : log.countP p = b := by
  have hle : log.countP p ≤ b :=
    h.countP_le hother fun log r hlog => Nat.le_of_eq (hunit log r hlog)
  obtain ⟨pre, part, post, r, rfl, hpart⟩ := h.exists_part hu
  have hpartCount := hunit part r hpart
  rw [List.countP_append, List.countP_append] at hle ⊢
  omega

end Sweep

end Trials
