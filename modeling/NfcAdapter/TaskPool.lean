/-
# Tasks with one call under way each

Objects on a heap, each driven by a chain of asynchronous calls: an object is created
together with its first call, and the callback of a call either makes the next call for
its object or frees it.  While a callback runs its object has no call under way.  Under
this discipline an object is freed once, by the callback of its last call.
-/
import Mathlib.Data.List.InsertIdx
import Mathlib.Data.List.Nodup
import Mathlib.Logic.Function.Basic
import Mathlib.Tactic.Common

namespace TaskPool

variable {T C : Type*}

/-- The objects by address, the calls under way with the object each is for, the next
unused address, and the addresses freed so far. -/
structure Pool (T C : Type*) where
  tasks : ℕ → Option T
  calls : List (ℕ × C)
  next : ℕ
  freed : List ℕ

/-- An element of a list, and the others. -/
theorem perm_cons_eraseIdx {α : Type*} {l : List α} {i : ℕ} {a : α} (h : l[i]? = some a) :
    (a :: l.eraseIdx i).Perm l := by
  obtain ⟨hlt, hget⟩ := List.getElem?_eq_some_iff.mp h
  have hinsert := List.perm_insertIdx a (l.eraseIdx i) (i := i) (by
    rw [List.length_eraseIdx_of_lt hlt]
    omega)
  rw [← hget, List.insertIdx_eraseIdx_getElem hlt, hget] at hinsert
  exact hinsert.symm

namespace Pool

/-- No object has been created. -/
def empty : Pool T C := ⟨fun _ => none, [], 0, []⟩

/-- A new object with its first call. -/
def spawn (p : Pool T C) (t : T) (c : C) : Pool T C :=
  { p with
    tasks := Function.update p.tasks p.next (some t)
    calls := p.calls ++ [(p.next, c)]
    next := p.next + 1 }

/-- The call at position `i` has ended. -/
def take (p : Pool T C) (i : ℕ) : Pool T C := { p with calls := p.calls.eraseIdx i }

/-- The object at `id`, now `t`, makes a call. -/
def await (p : Pool T C) (id : ℕ) (t : T) (c : C) : Pool T C :=
  { p with tasks := Function.update p.tasks id (some t), calls := p.calls ++ [(id, c)] }

/-- The object at `id` is freed. -/
def free (p : Pool T C) (id : ℕ) : Pool T C :=
  { p with tasks := Function.update p.tasks id none, freed := p.freed ++ [id] }

/-- The object at `id` is changed in place. -/
def modify (p : Pool T C) (id : ℕ) (f : T → T) : Pool T C :=
  { p with tasks := Function.update p.tasks id ((p.tasks id).map f) }

/-! ## What each operation leaves -/

@[simp] theorem calls_spawn (p : Pool T C) (t : T) (c : C) :
    (p.spawn t c).calls = p.calls ++ [(p.next, c)] := rfl

@[simp] theorem next_spawn (p : Pool T C) (t : T) (c : C) : (p.spawn t c).next = p.next + 1 := rfl

@[simp] theorem freed_spawn (p : Pool T C) (t : T) (c : C) : (p.spawn t c).freed = p.freed := rfl

theorem tasks_spawn (p : Pool T C) (t : T) (c : C) (j : ℕ) :
    (p.spawn t c).tasks j = if j = p.next then some t else p.tasks j := by
  simp only [spawn, Function.update_apply]

@[simp] theorem tasks_take (p : Pool T C) (i : ℕ) : (p.take i).tasks = p.tasks := rfl

@[simp] theorem next_take (p : Pool T C) (i : ℕ) : (p.take i).next = p.next := rfl

@[simp] theorem freed_take (p : Pool T C) (i : ℕ) : (p.take i).freed = p.freed := rfl

@[simp] theorem calls_await (p : Pool T C) (id : ℕ) (t : T) (c : C) :
    (p.await id t c).calls = p.calls ++ [(id, c)] := rfl

@[simp] theorem next_await (p : Pool T C) (id : ℕ) (t : T) (c : C) :
    (p.await id t c).next = p.next := rfl

@[simp] theorem freed_await (p : Pool T C) (id : ℕ) (t : T) (c : C) :
    (p.await id t c).freed = p.freed := rfl

theorem tasks_await (p : Pool T C) (id : ℕ) (t : T) (c : C) (j : ℕ) :
    (p.await id t c).tasks j = if j = id then some t else p.tasks j := by
  simp only [await, Function.update_apply]

theorem tasks_await_eq_some {p : Pool T C} {id : ℕ} {t : T} {c : C} {j : ℕ} {t' : T} :
    (p.await id t c).tasks j = some t' ↔ j = id ∧ t = t' ∨ j ≠ id ∧ p.tasks j = some t' := by
  rw [tasks_await]
  by_cases hj : j = id <;> simp [hj]

theorem mem_calls_await {p : Pool T C} {id : ℕ} {t : T} {c : C} {j : ℕ} {d : C} :
    (j, d) ∈ (p.await id t c).calls ↔ (j, d) ∈ p.calls ∨ j = id ∧ d = c := by
  rw [calls_await, List.mem_append, List.mem_singleton, Prod.mk.injEq]

@[simp] theorem calls_free (p : Pool T C) (id : ℕ) : (p.free id).calls = p.calls := rfl

@[simp] theorem next_free (p : Pool T C) (id : ℕ) : (p.free id).next = p.next := rfl

@[simp] theorem freed_free (p : Pool T C) (id : ℕ) : (p.free id).freed = p.freed ++ [id] := rfl

theorem tasks_free (p : Pool T C) (id : ℕ) (j : ℕ) :
    (p.free id).tasks j = if j = id then none else p.tasks j := by
  simp only [free, Function.update_apply]

theorem tasks_free_eq_some {p : Pool T C} {id j : ℕ} {t : T} :
    (p.free id).tasks j = some t ↔ j ≠ id ∧ p.tasks j = some t := by
  rw [tasks_free]
  by_cases hj : j = id <;> simp [hj]

@[simp] theorem calls_modify (p : Pool T C) (id : ℕ) (f : T → T) :
    (p.modify id f).calls = p.calls := rfl

@[simp] theorem next_modify (p : Pool T C) (id : ℕ) (f : T → T) :
    (p.modify id f).next = p.next := rfl

@[simp] theorem freed_modify (p : Pool T C) (id : ℕ) (f : T → T) :
    (p.modify id f).freed = p.freed := rfl

theorem tasks_modify (p : Pool T C) (id : ℕ) (f : T → T) (j : ℕ) :
    (p.modify id f).tasks j = if j = id then (p.tasks id).map f else p.tasks j := by
  simp only [modify, Function.update_apply]

theorem tasks_modify_eq_some {p : Pool T C} {id : ℕ} {f : T → T} {j : ℕ} {t : T} :
    (p.modify id f).tasks j = some t ↔
      j = id ∧ (∃ u, p.tasks id = some u ∧ f u = t) ∨ j ≠ id ∧ p.tasks j = some t := by
  rw [tasks_modify]
  by_cases hj : j = id <;> simp [hj]

theorem tasks_spawn_eq_some {p : Pool T C} {t : T} {c : C} {j : ℕ} {t' : T} :
    (p.spawn t c).tasks j = some t' ↔
      j = p.next ∧ t = t' ∨ j ≠ p.next ∧ p.tasks j = some t' := by
  rw [tasks_spawn]
  by_cases hj : j = p.next <;> simp [hj]

/-! ## The discipline -/

/-- Every object has exactly one call under way, except the one whose callback is
running, which has none; an address is freed once, when its object goes. -/
structure WF (running : Option ℕ) (p : Pool T C) : Prop where
  calls_nodup : (p.calls.map Prod.fst).Nodup
  running_idle : ∀ id, running = some id → id ∉ p.calls.map Prod.fst
  live_iff : ∀ id, (p.tasks id).isSome ↔ id ∈ p.calls.map Prod.fst ∨ running = some id
  freed_iff : ∀ id, id ∈ p.freed ↔ id < p.next ∧ p.tasks id = none
  fresh : ∀ id, p.next ≤ id → p.tasks id = none
  freed_nodup : p.freed.Nodup

theorem wf_empty : (empty : Pool T C).WF none := by
  constructor <;> simp [empty]

/-- An object with a call is there. -/
theorem WF.exists_task {p : Pool T C} (h : p.WF none) {id : ℕ} {c : C} (hc : (id, c) ∈ p.calls) :
    ∃ t, p.tasks id = some t :=
  Option.isSome_iff_exists.mp ((h.live_iff id).mpr (Or.inl (List.mem_map_of_mem hc)))

/-- An object that is there lies below the next address. -/
theorem WF.lt_next {p : Pool T C} {running : Option ℕ} (h : p.WF running) {id : ℕ} {t : T}
    (ht : p.tasks id = some t) : id < p.next := by
  by_contra hge
  rw [h.fresh id (by omega)] at ht
  cases ht

/-- The calls of an object are one call. -/
theorem WF.call_unique {p : Pool T C} {running : Option ℕ} (h : p.WF running) {id : ℕ} {c d : C}
    (hc : (id, c) ∈ p.calls) (hd : (id, d) ∈ p.calls) : c = d := by
  have heq := List.inj_on_of_nodup_map h.calls_nodup hc hd rfl
  exact (Prod.mk.inj heq).2

theorem WF.spawn {p : Pool T C} {running : Option ℕ} (h : p.WF running) (t : T) (c : C) :
    (p.spawn t c).WF running := by
  have hfresh : p.tasks p.next = none := h.fresh _ (Nat.le_refl _)
  have hdead : ¬ (p.next ∈ p.calls.map Prod.fst ∨ running = some p.next) := by
    rw [← h.live_iff, hfresh]
    simp
  rw [not_or] at hdead
  -- one goal for each field: the next address has neither an object nor a call
  constructor
  · rw [calls_spawn, List.map_append, List.nodup_append]
    refine ⟨h.calls_nodup, by simp, ?_⟩
    intro a ha b hb hab
    rw [List.map_singleton, List.mem_singleton] at hb
    rw [hab, hb] at ha
    exact hdead.1 ha
  · rintro id hid hmem
    rw [calls_spawn, List.map_append, List.mem_append, List.map_singleton,
      List.mem_singleton] at hmem
    rcases hmem with hmem | rfl
    · exact h.running_idle id hid hmem
    · exact hdead.2 hid
  · intro id
    rw [tasks_spawn, calls_spawn, List.map_append, List.mem_append, List.map_singleton,
      List.mem_singleton]
    by_cases hid : id = p.next
    · simp [hid]
    · rw [if_neg hid, h.live_iff]
      simp [hid]
  · intro id
    rw [tasks_spawn, freed_spawn, next_spawn, h.freed_iff]
    by_cases hid : id = p.next
    · subst hid
      simp
    · rw [if_neg hid]
      constructor
      · rintro ⟨hlt, hnone⟩
        exact ⟨by omega, hnone⟩
      · rintro ⟨hlt, hnone⟩
        exact ⟨by omega, hnone⟩
  · intro id hid
    rw [next_spawn] at hid
    rw [tasks_spawn, if_neg (by omega)]
    exact h.fresh id (by omega)
  · exact h.freed_nodup

theorem WF.modify {p : Pool T C} {running : Option ℕ} (h : p.WF running) (id : ℕ) (f : T → T) :
    (p.modify id f).WF running := by
  have hsome : ∀ j, ((p.modify id f).tasks j).isSome = (p.tasks j).isSome := by
    intro j
    rw [tasks_modify]
    split
    · next hj => rw [Option.isSome_map, hj]
    · rfl
  have hnone : ∀ j, (p.modify id f).tasks j = none ↔ p.tasks j = none := by
    intro j
    rw [← Option.not_isSome_iff_eq_none, ← Option.not_isSome_iff_eq_none, hsome]
  refine ⟨h.calls_nodup, h.running_idle, fun j => ?_, fun j => ?_, fun j hj => ?_, h.freed_nodup⟩
  · rw [hsome]
    exact h.live_iff j
  · rw [hnone]
    exact h.freed_iff j
  · rw [hnone]
    exact h.fresh j hj

theorem WF.ids_take {p : Pool T C} {running : Option ℕ} (h : p.WF running) {i id : ℕ} {c : C}
    (hi : p.calls[i]? = some (id, c)) :
    (p.take i).calls.map Prod.fst = (p.calls.map Prod.fst).erase id := by
  obtain ⟨hlt, hget⟩ := List.getElem?_eq_some_iff.mp hi
  have hlt' : i < (p.calls.map Prod.fst).length := by rwa [List.length_map]
  have hat : (p.calls.map Prod.fst)[i] = id := by rw [List.getElem_map, hget]
  rw [← hat, h.calls_nodup.erase_getElem i hlt', List.eraseIdx_map]
  rfl

/-- The call that has ended, and the others. -/
theorem perm_take {p : Pool T C} {i id : ℕ} {c : C} (hi : p.calls[i]? = some (id, c)) :
    ((id, c) :: (p.take i).calls).Perm p.calls :=
  perm_cons_eraseIdx hi

/-- What is left are the calls of the other objects. -/
theorem WF.mem_take {p : Pool T C} {running : Option ℕ} (h : p.WF running) {i id : ℕ} {c : C}
    (hi : p.calls[i]? = some (id, c)) {j : ℕ} {d : C} :
    (j, d) ∈ (p.take i).calls ↔ j ≠ id ∧ (j, d) ∈ p.calls := by
  have hperm := perm_take hi
  have hnodup : (id :: (p.take i).calls.map Prod.fst).Nodup :=
    (hperm.map Prod.fst).nodup_iff.mpr h.calls_nodup
  constructor
  · intro hmem
    refine ⟨?_, hperm.subset (List.mem_cons_of_mem _ hmem)⟩
    rintro rfl
    exact (List.nodup_cons.mp hnodup).1 (List.mem_map_of_mem hmem)
  · rintro ⟨hj, hmem⟩
    rcases List.mem_cons.mp (hperm.mem_iff.mpr hmem) with heq | hrest
    · exact absurd (Prod.mk.inj heq).1 hj
    · exact hrest

/-- After a spawn, an object with its call is the new one or was there before. -/
theorem WF.spawn_cases {p : Pool T C} {running : Option ℕ} (h : p.WF running) {t u : T} {c d : C}
    {j : ℕ} (hd : (j, d) ∈ (p.spawn t c).calls) (hu : (p.spawn t c).tasks j = some u) :
    (j = p.next ∧ d = c ∧ u = t) ∨ (j ≠ p.next ∧ (j, d) ∈ p.calls ∧ p.tasks j = some u) := by
  rcases tasks_spawn_eq_some.mp hu with ⟨rfl, rfl⟩ | ⟨hj, hu⟩
  · rcases List.mem_append.mp hd with hd | hd
    · have hlive := (h.live_iff p.next).mpr (Or.inl (List.mem_map_of_mem hd))
      rw [h.fresh p.next (Nat.le_refl _)] at hlive
      cases hlive
    · exact Or.inl ⟨rfl, (Prod.mk.inj (List.mem_singleton.mp hd)).2, rfl⟩
  · refine Or.inr ⟨hj, ?_, hu⟩
    rcases List.mem_append.mp hd with hd | hd
    · exact hd
    · exact absurd (Prod.mk.inj (List.mem_singleton.mp hd)).1 hj

/-- After a callback, an object with its call is the callback's own, or another one. -/
theorem WF.await_cases {p : Pool T C} {running : Option ℕ} (h : p.WF running) {i id : ℕ} {c : C}
    (hi : p.calls[i]? = some (id, c)) {t u : T} {c' d : C} {j : ℕ}
    (hd : (j, d) ∈ ((p.take i).await id t c').calls)
    (hu : ((p.take i).await id t c').tasks j = some u) :
    (j = id ∧ d = c' ∧ u = t) ∨ (j ≠ id ∧ (j, d) ∈ p.calls ∧ p.tasks j = some u) := by
  rcases mem_calls_await.mp hd with hd | ⟨rfl, rfl⟩
  · obtain ⟨hj, hd⟩ := (h.mem_take hi).mp hd
    rcases tasks_await_eq_some.mp hu with ⟨hid, -⟩ | ⟨-, hu⟩
    · exact absurd hid hj
    · exact Or.inr ⟨hj, hd, hu⟩
  · rcases tasks_await_eq_some.mp hu with ⟨-, rfl⟩ | ⟨hj, -⟩
    · exact Or.inl ⟨rfl, rfl, rfl⟩
    · exact absurd rfl hj

/-- After a callback that frees its object, an object with its call is another one. -/
theorem WF.free_cases {p : Pool T C} {running : Option ℕ} (h : p.WF running) {i id : ℕ} {c d : C}
    (hi : p.calls[i]? = some (id, c)) {u : T} {j : ℕ} (hd : (j, d) ∈ ((p.take i).free id).calls)
    (hu : ((p.take i).free id).tasks j = some u) :
    j ≠ id ∧ (j, d) ∈ p.calls ∧ p.tasks j = some u := by
  obtain ⟨hj, hd⟩ := (h.mem_take hi).mp hd
  exact ⟨hj, hd, (tasks_free_eq_some.mp hu).2⟩

/-- A callback starts: its object has no call any more. -/
theorem WF.take {p : Pool T C} (h : p.WF none) {i id : ℕ} {c : C}
    (hi : p.calls[i]? = some (id, c)) : (p.take i).WF (some id) := by
  have hids := h.ids_take hi
  -- the ids are free of repetition, so taking one call out takes its object's only one
  have hmem : ∀ j, j ∈ (p.take i).calls.map Prod.fst ↔ j ≠ id ∧ j ∈ p.calls.map Prod.fst := by
    intro j
    rw [hids]
    exact h.calls_nodup.mem_erase_iff
  have hid : id ∈ p.calls.map Prod.fst := List.mem_map_of_mem (List.mem_of_getElem? hi)
  refine ⟨?_, ?_, fun j => ?_, h.freed_iff, h.fresh, h.freed_nodup⟩
  · rw [hids]
    exact h.calls_nodup.erase id
  · intro j hj hjmem
    obtain rfl := Option.some.inj hj
    exact ((hmem id).mp hjmem).1 rfl
  · rw [tasks_take, h.live_iff, hmem]
    by_cases hj : j = id
    · subst hj
      simp [hid]
    · simp [hj, Ne.symm hj]

/-- The callback makes the next call. -/
theorem WF.await {p : Pool T C} {id : ℕ} (h : p.WF (some id)) (t : T) (c : C) :
    (p.await id t c).WF none := by
  have hidle := h.running_idle id rfl
  have hlive : id < p.next := by
    obtain ⟨t, ht⟩ := Option.isSome_iff_exists.mp ((h.live_iff id).mpr (Or.inr rfl))
    exact h.lt_next ht
  have hmem : ∀ j, j ∈ (p.await id t c).calls.map Prod.fst ↔
      j ∈ p.calls.map Prod.fst ∨ j = id := by
    intro j
    rw [calls_await, List.map_append, List.mem_append, List.map_singleton, List.mem_singleton]
  refine ⟨?_, (fun j hj => nomatch hj), fun j => ?_, fun j => ?_, fun j hj => ?_, h.freed_nodup⟩
  · rw [calls_await, List.map_append, List.nodup_append]
    refine ⟨h.calls_nodup, by simp, ?_⟩
    intro a ha b hb hab
    rw [List.map_singleton, List.mem_singleton] at hb
    rw [hab, hb] at ha
    exact hidle ha
  · rw [tasks_await, hmem]
    by_cases hj : j = id
    · simp [hj]
    · rw [if_neg hj, h.live_iff]
      simp [hj, Ne.symm hj]
  · rw [freed_await, next_await, tasks_await, h.freed_iff]
    by_cases hj : j = id
    · subst hj
      have hsome := (h.live_iff j).mpr (Or.inr rfl)
      rw [if_pos rfl]
      constructor
      · rintro ⟨-, hnone⟩
        rw [hnone] at hsome
        cases hsome
      · rintro ⟨-, hnone⟩
        cases hnone
    · rw [if_neg hj]
  · rw [next_await] at hj
    rw [tasks_await, if_neg (by omega)]
    exact h.fresh j hj

/-- The callback frees its object. -/
theorem WF.free {p : Pool T C} {id : ℕ} (h : p.WF (some id)) : (p.free id).WF none := by
  have hidle := h.running_idle id rfl
  have hsome := (h.live_iff id).mpr (Or.inr rfl)
  have hlive : id < p.next := by
    obtain ⟨t, ht⟩ := Option.isSome_iff_exists.mp hsome
    exact h.lt_next ht
  -- the object was there until now, so its address has not been freed before
  have hnot : id ∉ p.freed := by
    rw [h.freed_iff]
    rintro ⟨-, hnone⟩
    rw [hnone] at hsome
    cases hsome
  refine ⟨h.calls_nodup, (fun j hj => nomatch hj), fun j => ?_, fun j => ?_, fun j hj => ?_, ?_⟩
  · rw [tasks_free, calls_free]
    by_cases hj : j = id
    · subst hj
      simpa using hidle
    · rw [if_neg hj, h.live_iff]
      simp [Ne.symm hj]
  · rw [freed_free, next_free, tasks_free, List.mem_append, List.mem_singleton, h.freed_iff]
    by_cases hj : j = id
    · simp [hj, hlive]
    · simp [hj]
  · rw [next_free] at hj
    rw [tasks_free]
    split
    · rfl
    · exact h.fresh j hj
  · rw [freed_free, List.nodup_append]
    refine ⟨h.freed_nodup, by simp, ?_⟩
    intro a ha b hb hab
    rw [List.mem_singleton] at hb
    rw [hab, hb] at ha
    exact hnot ha

/-! ## Counting objects -/

/-- How many objects `f` holds of: those with a call under way, and the one whose callback is
running. -/
def count (p : Pool T C) (running : Option ℕ) (f : T → Bool) : ℕ :=
  (p.calls.map Prod.fst ++ running.toList).countP fun id => (p.tasks id).any f

/-- Only the objects that are counted matter. -/
theorem count_congr {p q : Pool T C} {running running' : Option ℕ} {f : T → Bool}
    (hids : (q.calls.map Prod.fst ++ running'.toList).Perm
      (p.calls.map Prod.fst ++ running.toList))
    (htasks : ∀ id ∈ p.calls.map Prod.fst ++ running.toList,
      (q.tasks id).any f = (p.tasks id).any f) :
    q.count running' f = p.count running f := by
  rw [count, hids.countP_eq, count]
  refine List.countP_congr ?_
  intro id hid
  rw [htasks id hid]

theorem count_spawn {p : Pool T C} {running : Option ℕ} (h : p.WF running) (t : T) (c : C)
    (f : T → Bool) : (p.spawn t c).count running f = p.count running f + (f t).toNat := by
  have hperm : ((p.spawn t c).calls.map Prod.fst ++ running.toList).Perm
      (p.next :: (p.calls.map Prod.fst ++ running.toList)) := by
    rw [calls_spawn, List.map_append, List.map_singleton, List.append_assoc]
    exact List.perm_middle
  have hold : ∀ id ∈ p.calls.map Prod.fst ++ running.toList,
      ((p.spawn t c).tasks id).any f = (p.tasks id).any f := by
    intro id hid
    rw [List.mem_append, Option.mem_toList] at hid
    obtain ⟨t', ht'⟩ := Option.isSome_iff_exists.mp ((h.live_iff id).mpr hid)
    have hlt := h.lt_next ht'
    rw [tasks_spawn, if_neg (by omega)]
  have hrest := List.countP_congr (p := fun id => ((p.spawn t c).tasks id).any f)
    (q := fun id => (p.tasks id).any f) fun id hid => by rw [hold id hid]
  rw [count, hperm.countP_eq, List.countP_cons, hrest, tasks_spawn, if_pos rfl, count]
  rcases hf : f t with _ | _ <;> simp [hf]

/-- A callback that starts changes no object. -/
theorem count_take {p : Pool T C} {i id : ℕ} {c : C} (hi : p.calls[i]? = some (id, c))
    (f : T → Bool) : (p.take i).count (some id) f = p.count none f := by
  refine count_congr ?_ fun _ _ => rfl
  have hmap := (perm_take hi).map Prod.fst
  rw [Option.toList_some, Option.toList_none, List.append_nil]
  exact (List.perm_append_singleton id _).trans hmap

/-- The callback's object makes its next call: what `f` now says of it counts. -/
theorem count_await_add {p : Pool T C} {id : ℕ} (h : p.WF (some id)) {t : T}
    (ht : p.tasks id = some t) (t' : T) (c : C) (f : T → Bool) :
    (p.await id t' c).count none f + (f t).toNat = p.count (some id) f + (f t').toNat := by
  have hidle := h.running_idle id rfl
  have hrest : (p.calls.map Prod.fst).countP (fun j => ((p.await id t' c).tasks j).any f)
      = (p.calls.map Prod.fst).countP fun j => (p.tasks j).any f := by
    refine List.countP_congr ?_
    intro j hj
    have hne : j ≠ id := fun heq => hidle (heq ▸ hj)
    rw [tasks_await, if_neg hne]
  rw [count, count, calls_await, Option.toList_none, List.append_nil, Option.toList_some,
    List.map_append, List.map_singleton, List.countP_append, List.countP_append, hrest,
    List.countP_singleton, List.countP_singleton, tasks_await, if_pos rfl, ht]
  rcases hf : f t with _ | _ <;> rcases hf' : f t' with _ | _ <;> simp [hf, hf']

/-- The same where `f` says the same of it. -/
theorem count_await {p : Pool T C} {id : ℕ} (h : p.WF (some id)) {t : T}
    (ht : p.tasks id = some t) {t' : T} (c : C) {f : T → Bool} (hf : f t' = f t) :
    (p.await id t' c).count none f = p.count (some id) f := by
  have hadd := count_await_add h ht t' c f
  rw [hf] at hadd
  exact Nat.add_right_cancel hadd

/-- The callback's object goes. -/
theorem count_free {p : Pool T C} {id : ℕ} (h : p.WF (some id)) {t : T} (ht : p.tasks id = some t)
    (f : T → Bool) : (p.free id).count none f + (f t).toNat = p.count (some id) f := by
  have hidle := h.running_idle id rfl
  have hrest : (p.calls.map Prod.fst).countP (fun j => ((p.free id).tasks j).any f)
      = (p.calls.map Prod.fst).countP fun j => (p.tasks j).any f := by
    refine List.countP_congr ?_
    intro j hj
    have hne : j ≠ id := fun heq => hidle (heq ▸ hj)
    rw [tasks_free, if_neg hne]
  rw [count, count, calls_free, Option.toList_none, List.append_nil, Option.toList_some,
    List.countP_append, hrest, List.countP_singleton, ht]
  rcases hf : f t with _ | _ <;> simp [hf]

theorem count_modify {p : Pool T C} {running : Option ℕ} {id : ℕ} {g : T → T} {f : T → Bool}
    (hf : ∀ t, f (g t) = f t) : (p.modify id g).count running f = p.count running f := by
  refine count_congr (List.Perm.refl _) ?_
  intro j _
  rw [tasks_modify]
  by_cases hid : j = id
  · rw [if_pos hid, hid]
    rcases p.tasks id with _ | t
    · rfl
    · exact hf t
  · rw [if_neg hid]

/-- Nothing under way, nothing counted. -/
theorem count_of_idle {p : Pool T C} {f : T → Bool} (h : p.calls = []) : p.count none f = 0 := by
  rw [count, h]
  rfl

end Pool

end TaskPool
