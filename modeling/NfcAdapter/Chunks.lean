/-
# Lists made of chunks of one length

Where every element contributes the same number of entries, an entry is found by division:
the chunk it lies in and its place there.
-/
import Mathlib.Algebra.Group.Nat.Defs
import Mathlib.Data.List.Basic
import Mathlib.Tactic.Ring

namespace Chunks

variable {α β : Type*} {l : List α} {f : α → List β} {k : ℕ}

theorem length_flatMap (h : ∀ a ∈ l, (f a).length = k) :
    (l.flatMap f).length = l.length * k := by
  induction l with
  | nil => simp
  | cons a l ih =>
      obtain ⟨ha, hl⟩ := List.forall_mem_cons.mp h
      rw [List.flatMap_cons, List.length_append, ha, ih hl, List.length_cons]
      ring

/-- The entry at place `j` of chunk `i`. -/
theorem getElem?_flatMap (h : ∀ a ∈ l, (f a).length = k) (i : ℕ) {j : ℕ} (hj : j < k) :
    (l.flatMap f)[i * k + j]? = l[i]?.bind fun a => (f a)[j]? := by
  induction l generalizing i with
  | nil => simp
  | cons a l ih =>
      obtain ⟨ha, hl⟩ := List.forall_mem_cons.mp h
      rw [List.flatMap_cons]
      cases i with
      | zero =>
          rw [Nat.zero_mul, Nat.zero_add, List.getElem?_append_left (by omega),
            List.getElem?_cons_zero, Option.bind_some]
      | succ i =>
          have hplace : (i + 1) * k + j = (f a).length + (i * k + j) := by
            rw [ha]
            ring
          rw [hplace, List.getElem?_append_right (Nat.le_add_right _ _), Nat.add_sub_cancel_left,
            ih hl i, List.getElem?_cons_succ]

end Chunks
