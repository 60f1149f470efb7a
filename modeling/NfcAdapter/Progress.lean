/-
# Progress in a known number of steps

`LeadsTo P step n Q s`: every run of `n` actions from `s` that meet `P` ends in a state of
`Q`.  The numbers of consecutive stages add up, and a stage that is not left again is also
where every longer run ends.
-/
import NfcAdapter.Runs

namespace Runs

variable {σ α : Type*} {P : σ → α → Prop} {step : σ → α → σ} {Q R : σ → Prop} {s : σ} {m n : ℕ}

/-- After `n` actions that meet `P` the system is in a state of `Q`. -/
def LeadsTo (P : σ → α → Prop) (step : σ → α → σ) (n : ℕ) (Q : σ → Prop) (s : σ) : Prop :=
  ∀ as : List α, as.length = n → Along P step s as → Q (run step s as)

theorem LeadsTo.refl (h : Q s) : LeadsTo P step 0 Q s := by
  intro as hlen _
  rw [List.length_eq_zero_iff.mp hlen]
  exact h

/-- One action, and what it leads to. -/
theorem LeadsTo.of_step (h : ∀ a, P s a → LeadsTo P step n Q (step s a)) :
    LeadsTo P step (n + 1) Q s := by
  intro as hlen has
  cases as with
  | nil => cases hlen
  | cons a as => exact h a has.1 as (Nat.succ.inj hlen) has.2

/-- A single action. -/
theorem LeadsTo.one (h : ∀ a, P s a → Q (step s a)) : LeadsTo P step 1 Q s :=
  LeadsTo.of_step fun a ha => LeadsTo.refl (h a ha)

/-- One stage after the other. -/
theorem LeadsTo.trans (h : LeadsTo P step m Q s) (h' : ∀ t, Q t → LeadsTo P step n R t) :
    LeadsTo P step (m + n) R s := by
  intro as hlen has
  have hlen₁ : (as.take m).length = m := by rw [List.length_take]; omega
  have hlen₂ : (as.drop m).length = n := by rw [List.length_drop]; omega
  rw [← List.take_append_drop m as] at has ⊢
  obtain ⟨has₁, has₂⟩ := along_append.mp has
  rw [run_append]
  exact h' _ (h _ hlen₁ has₁) _ hlen₂ has₂

theorem LeadsTo.imp (h : LeadsTo P step n Q s) (hQ : ∀ t, Q t → R t) : LeadsTo P step n R s :=
  fun as hlen has => hQ _ (h as hlen has)

/-- **Loop rule.** A loop with `k` rounds to go is over after `k` actions. -/
theorem LeadsTo.rounds (I : ℕ → σ → Prop)
    (hround : ∀ k t a, I (k + 1) t → P t a → I k (step t a)) {k : ℕ} (h : I k s) :
    LeadsTo P step k (I 0) s := by
  induction k generalizing s with
  | zero => exact LeadsTo.refl h
  | succ k ih => exact LeadsTo.of_step fun a ha => ih (hround k s a h ha)

/-- **Stability rule.** What is not left again also holds after every longer run. -/
theorem LeadsTo.stays (h : LeadsTo P step n Q s) (hQ : ∀ t a, Q t → P t a → Q (step t a))
    {as : List α} (hlen : n ≤ as.length) (has : Along P step s as) : Q (run step s as) := by
  rw [← List.take_append_drop n as] at has ⊢
  obtain ⟨has₁, has₂⟩ := along_append.mp has
  rw [run_append]
  exact has₂.invariant Q hQ (h _ (by rw [List.length_take]; omega) has₁)

end Runs
