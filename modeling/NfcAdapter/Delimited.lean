/-
# Text divided by delimiters

Lines that end in a pair of symbols, and values divided by a separator that an escape
symbol takes the meaning from.  Pieces that are written one after the other are read as
the same pieces exactly if none of them holds a delimiter itself.
-/
import Mathlib.Data.List.Basic
import Mathlib.Data.Nat.Init

namespace Delimited

variable {α : Type}

/-- A symbol in front of the first piece. -/
def prepend (x : α) : List (List α) → List (List α)
  | [] => [[x]]
  | piece :: pieces => (x :: piece) :: pieces

theorem prepend_append (x : α) {l : List (List α)} (h : l ≠ []) (l' : List (List α)) :
    prepend x (l ++ l') = prepend x l ++ l' := by
  obtain ⟨piece, pieces, rfl⟩ := List.exists_cons_of_ne_nil h
  rfl

theorem length_prepend (x : α) {l : List (List α)} (h : l ≠ []) :
    (prepend x l).length = l.length := by
  obtain ⟨piece, pieces, rfl⟩ := List.exists_cons_of_ne_nil h
  rfl

theorem length_le_of_mem_prepend {x : α} {n : ℕ} {l : List (List α)} (h : ∀ p ∈ l, p.length ≤ n)
    {p : List α} (hp : p ∈ prepend x l) : p.length ≤ n + 1 := by
  rcases l with _ | ⟨piece, pieces⟩
  · obtain rfl : p = [x] := by simpa [prepend] using hp
    simp
  · rcases List.mem_cons.mp hp with rfl | hp
    · have hpiece := h piece List.mem_cons_self
      rw [List.length_cons]
      omega
    · have hpiece := h p (List.mem_cons_of_mem _ hp)
      omega

/-! ## Where a pair can stand -/

/-- In front of a text, symbols other than the first of the pair add no occurrence. -/
theorem pair_infix_append_left {a b : α} {before l : List α} (h : a ∉ before) :
    [a, b] <:+: before ++ l ↔ [a, b] <:+: l := by
  induction before with
  | nil => rw [List.nil_append]
  | cons x before ih =>
      obtain ⟨hx, hbefore⟩ := List.ne_and_not_mem_of_not_mem_cons h
      rw [List.cons_append, List.infix_cons_iff, ih hbefore, or_iff_right]
      rintro ⟨t, ht⟩
      exact hx (List.cons.inj ht).1

/-- Behind a text, neither do symbols other than the second. -/
theorem pair_infix_append_right {a b : α} {l after : List α} (h : b ∉ after) :
    [a, b] <:+: l ++ after ↔ [a, b] <:+: l := by
  induction l with
  | nil =>
      constructor
      · intro hpair
        exact absurd (hpair.subset (by simp)) h
      · rintro ⟨before, rest, hnil⟩
        simp at hnil
  | cons x l ih =>
      rw [List.cons_append, List.infix_cons_iff, List.infix_cons_iff, ih]
      apply or_congr_left
      constructor
      · rintro ⟨t, ht⟩
        have ht : a :: b :: t = x :: (l ++ after) := ht
        obtain ⟨hx, ht⟩ := List.cons.inj ht
        rcases l with _ | ⟨y, l⟩
        · rw [List.nil_append] at ht
          exact absurd (ht ▸ List.mem_cons_self) h
        · obtain ⟨hy, -⟩ := List.cons.inj ht
          exact ⟨l, by rw [hx, hy]; rfl⟩
      · intro hprefix
        exact hprefix.trans (List.prefix_append (x :: l) after)

/-! ## Lines that end in a pair -/

variable [DecidableEq α]

/-- The pieces between occurrences of `a` followed by `b`. -/
def splitPair (a b : α) : List α → List (List α)
  | [] => [[]]
  | [x] => [[x]]
  | x :: y :: rest =>
    if x = a ∧ y = b then [] :: splitPair a b rest else prepend x (splitPair a b (y :: rest))

variable {a b : α}

theorem splitPair_ne_nil (l : List α) : splitPair a b l ≠ [] := by
  rcases l with _ | ⟨x, _ | ⟨y, rest⟩⟩
  · simp [splitPair]
  · simp [splitPair]
  · rw [splitPair]
    split_ifs
    · simp
    · rcases splitPair a b (y :: rest) <;> simp [prepend]

/-- A first symbol that begins no delimiter belongs to the first piece. -/
theorem splitPair_cons {x : α} {l : List α} (h : ¬ [a, b] <+: x :: l) :
    splitPair a b (x :: l) = prepend x (splitPair a b l) := by
  rcases l with _ | ⟨y, rest⟩
  · rfl
  · rw [splitPair, if_neg]
    rintro ⟨rfl, rfl⟩
    exact h ⟨rest, rfl⟩

theorem splitPair_pair (rest : List α) :
    splitPair a b (a :: b :: rest) = [] :: splitPair a b rest := by
  rw [splitPair, if_pos ⟨rfl, rfl⟩]

/-- A delimiter divides. -/
theorem splitPair_append (hab : a ≠ b) (l r : List α) :
    splitPair a b (l ++ a :: b :: r) = splitPair a b l ++ splitPair a b r := by
  induction hn : l.length using Nat.strong_induction_on generalizing l with
  | _ n ih =>
      subst hn
      rcases l with _ | ⟨x, l⟩
      · exact splitPair_pair r
      · by_cases hpair : [a, b] <+: x :: l
        · obtain ⟨rest, hrest⟩ := hpair
          have hrest : a :: b :: rest = x :: l := hrest
          rw [← hrest, List.cons_append, List.cons_append, splitPair_pair, splitPair_pair,
            ih rest.length (by rw [← hrest, List.length_cons, List.length_cons]; omega) rest rfl,
            List.cons_append]
        · have hlonger : ¬ [a, b] <+: x :: (l ++ a :: b :: r) := by
            rintro ⟨t, ht⟩
            have ht : a :: b :: t = x :: (l ++ a :: b :: r) := ht
            obtain ⟨hx, ht⟩ := List.cons.inj ht
            rcases l with _ | ⟨y, l⟩
            · exact hab (List.cons.inj ht).1.symm
            · obtain ⟨hy, -⟩ := List.cons.inj ht
              exact hpair ⟨l, by rw [hx, hy]; rfl⟩
          rw [List.cons_append, splitPair_cons hlonger, splitPair_cons hpair,
            ih l.length (by simp) l rfl, prepend_append x (splitPair_ne_nil l)]

/-- Lines written with their ends are read as what each of them is read as. -/
theorem splitPair_flatMap (hab : a ≠ b) (lines : List (List α)) :
    splitPair a b (lines.flatMap fun l => l ++ [a, b])
      = lines.flatMap (splitPair a b) ++ [[]] := by
  induction lines with
  | nil => rfl
  | cons l lines ih =>
      rw [List.flatMap_cons, List.append_assoc, List.cons_append, List.cons_append, List.nil_append,
        splitPair_append hab, ih, List.flatMap_cons, List.append_assoc]

/-- Only text without a delimiter is one piece, and that piece is the text. -/
theorem splitPair_of_not_infix {l : List α} (h : ¬ [a, b] <:+: l) : splitPair a b l = [l] := by
  induction l with
  | nil => rfl
  | cons x l ih =>
      have hpair : ¬ [a, b] <+: x :: l := fun hp => h hp.isInfix
      have hrest : ¬ [a, b] <:+: l := fun hi => h (hi.trans (List.suffix_cons x l).isInfix)
      rw [splitPair_cons hpair, ih hrest]
      rfl

theorem two_le_length_splitPair (hab : a ≠ b) {l : List α} (h : [a, b] <:+: l) :
    2 ≤ (splitPair a b l).length := by
  obtain ⟨before, after, rfl⟩ := h
  have hbefore := List.length_pos_of_ne_nil (splitPair_ne_nil (a := a) (b := b) before)
  have hafter := List.length_pos_of_ne_nil (splitPair_ne_nil (a := a) (b := b) after)
  rw [List.append_assoc, List.cons_append, List.cons_append, List.nil_append,
    splitPair_append hab, List.length_append]
  omega

/-- As many pieces as lines means that no line holds a delimiter. -/
theorem not_infix_of_length (hab : a ≠ b) {lines : List (List α)}
    (h : (lines.flatMap (splitPair a b)).length = lines.length) :
    ∀ l ∈ lines, ¬ [a, b] <:+: l := by
  have hall : ∀ lines : List (List α), lines.length ≤ (lines.flatMap (splitPair a b)).length := by
    intro lines
    induction lines with
    | nil => simp
    | cons l lines ih =>
        have hl := List.length_pos_of_ne_nil (splitPair_ne_nil (a := a) (b := b) l)
        rw [List.flatMap_cons, List.length_append, List.length_cons]
        omega
  induction lines with
  | nil => simp
  | cons l lines ih =>
      have hl := List.length_pos_of_ne_nil (splitPair_ne_nil (a := a) (b := b) l)
      have hlines := hall lines
      rw [List.flatMap_cons, List.length_append, List.length_cons] at h
      rw [List.forall_mem_cons]
      refine ⟨?_, ih (by omega)⟩
      intro hpair
      have htwo := two_le_length_splitPair hab hpair
      omega

/-- Lines that hold no delimiter are read back. -/
theorem splitPair_lines (hab : a ≠ b) {lines : List (List α)} (h : ∀ l ∈ lines, ¬ [a, b] <:+: l) :
    splitPair a b (lines.flatMap fun l => l ++ [a, b]) = lines ++ [[]] := by
  rw [splitPair_flatMap hab]
  congr 1
  induction lines with
  | nil => rfl
  | cons l lines ih =>
      obtain ⟨hl, hlines⟩ := List.forall_mem_cons.mp h
      rw [List.flatMap_cons, splitPair_of_not_infix hl, ih hlines]
      rfl

/-- A piece is no longer than the text. -/
theorem length_le_of_mem_splitPair {l p : List α} (hp : p ∈ splitPair a b l) :
    p.length ≤ l.length := by
  induction hn : l.length using Nat.strong_induction_on generalizing l p with
  | _ n ih =>
      subst hn
      rcases l with _ | ⟨x, l⟩
      · simp_all [splitPair]
      · by_cases hpair : [a, b] <+: x :: l
        · obtain ⟨rest, hrest⟩ := hpair
          have hrest : a :: b :: rest = x :: l := hrest
          have hlen := congrArg List.length hrest
          rw [List.length_cons, List.length_cons, List.length_cons] at hlen
          rw [← hrest, splitPair_pair, List.mem_cons] at hp
          rcases hp with rfl | hp
          · simp
          · have hle := ih rest.length (by rw [List.length_cons]; omega) hp rfl
            rw [List.length_cons]
            omega
        · rw [splitPair_cons hpair] at hp
          exact length_le_of_mem_prepend (fun p hp => ih l.length (by simp) hp rfl) hp

/-! ## A separator and an escape symbol -/

variable {esc sep : α}

/-- The components between separators; the symbol behind an escape does not separate. -/
def splitUnescaped (esc sep : α) : List α → List (List α)
  | [] => [[]]
  | [x] => if x = sep ∧ x ≠ esc then [[], []] else [[x]]
  | x :: y :: rest =>
    if x = esc then prepend x (prepend y (splitUnescaped esc sep rest))
    else if x = sep then [] :: splitUnescaped esc sep (y :: rest)
    else prepend x (splitUnescaped esc sep (y :: rest))

theorem splitUnescaped_ne_nil (l : List α) : splitUnescaped esc sep l ≠ [] := by
  rcases l with _ | ⟨x, _ | ⟨y, rest⟩⟩
  · simp [splitUnescaped]
  · rw [splitUnescaped]
    split_ifs <;> simp
  · rw [splitUnescaped]
    split_ifs
    · rcases splitUnescaped esc sep rest <;> simp [prepend]
    · simp
    · rcases splitUnescaped esc sep (y :: rest) <;> simp [prepend]

/-- Without escapes every separator counts. -/
theorem length_splitUnescaped {l : List α} (h : esc ∉ l) :
    (splitUnescaped esc sep l).length = l.count sep + 1 := by
  induction l with
  | nil => rfl
  | cons x l ih =>
      obtain ⟨hx, hl⟩ := List.ne_and_not_mem_of_not_mem_cons h
      have ih := ih hl
      rcases l with _ | ⟨y, rest⟩
      · rw [splitUnescaped]
        by_cases hsep : x = sep
        · simp [hsep, hsep ▸ hx.symm]
        · simp [hsep]
      · rw [splitUnescaped, if_neg hx.symm]
        by_cases hsep : x = sep
        · rw [if_pos hsep, List.length_cons, ih, hsep, List.count_cons_self]
        · rw [if_neg hsep, length_prepend x (splitUnescaped_ne_nil _), ih,
            List.count_cons_of_ne hsep]

end Delimited
