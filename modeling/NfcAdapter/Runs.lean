/-
# Runs of a step function

A system with a deterministic step function runs on a list of actions.  `Along P`
says that every action of a run meets a condition in the state it is taken in; an
invariant of such steps holds in the state the run ends in.  For systems given by a
step relation, the same rule for reachable states and the lifting of a simulation.
-/
import Mathlib.Data.List.Induction
import Mathlib.Logic.Relation
import Mathlib.Tactic.Ring

namespace Runs

variable {σ α β τ : Type*}

/-! ## Deterministic systems -/

/-- The state after the actions `as`. -/
def run (step : σ → α → σ) (s : σ) (as : List α) : σ := as.foldl step s

/-- Every action of the run meets `P` in the state it is taken in. -/
def Along (P : σ → α → Prop) (step : σ → α → σ) : σ → List α → Prop
  | _, [] => True
  | s, a :: as => P s a ∧ Along P step (step s a) as

instance Along.decidable {P : σ → α → Prop} {step : σ → α → σ} [∀ s a, Decidable (P s a)] :
    (s : σ) → (as : List α) → Decidable (Along P step s as)
  | _, [] => isTrue trivial
  | s, a :: as =>
    have : Decidable (Along P step (step s a) as) := Along.decidable (step s a) as
    inferInstanceAs (Decidable (P s a ∧ Along P step (step s a) as))

@[simp] theorem run_nil (step : σ → α → σ) (s : σ) : run step s [] = s := rfl

@[simp] theorem run_cons (step : σ → α → σ) (s : σ) (a : α) (as : List α) :
    run step s (a :: as) = run step (step s a) as := rfl

theorem run_append (step : σ → α → σ) (s : σ) (as bs : List α) :
    run step s (as ++ bs) = run step (run step s as) bs :=
  List.foldl_append

theorem run_concat (step : σ → α → σ) (s : σ) (as : List α) (a : α) :
    run step s (as ++ [a]) = step (run step s as) a := by
  rw [run_append, run_cons, run_nil]

theorem along_append {P : σ → α → Prop} {step : σ → α → σ} {s : σ} {as bs : List α} :
    Along P step s (as ++ bs) ↔ Along P step s as ∧ Along P step (run step s as) bs := by
  induction as generalizing s with
  | nil => simp [Along]
  | cons a as ih => rw [List.cons_append, Along, Along, ih, run_cons, and_assoc]

theorem along_concat {P : σ → α → Prop} {step : σ → α → σ} {s : σ} {as : List α} {a : α} :
    Along P step s (as ++ [a]) ↔ Along P step s as ∧ P (run step s as) a := by
  rw [along_append]
  simp [Along]

/-- The condition, one action at a time. -/
theorem along_iff {P : σ → α → Prop} {step : σ → α → σ} {s : σ} {as : List α} :
    Along P step s as ↔ ∀ as₁ a as₂, as = as₁ ++ a :: as₂ → P (run step s as₁) a := by
  constructor
  · rintro h as₁ a as₂ rfl
    exact (along_append.mp h).2.1
  · intro h
    induction as using List.reverseRecOn with
    | nil => trivial
    | append_singleton as a ih =>
      refine along_concat.mpr ⟨ih ?_, h as a [] rfl⟩
      rintro as₁ b as₂ rfl
      exact h as₁ b (as₂ ++ [a]) (by simp)

theorem Along.imp {P Q : σ → α → Prop} {step : σ → α → σ} (h : ∀ s a, P s a → Q s a) {s : σ}
    {as : List α} (hP : Along P step s as) : Along Q step s as := by
  induction as generalizing s with
  | nil => trivial
  | cons a as ih => exact ⟨h s a hP.1, ih hP.2⟩

/-- **Invariant rule.** What the conditioned steps preserve holds after every run of
such steps. -/
theorem Along.invariant (I : σ → Prop) {P : σ → α → Prop} {step : σ → α → σ}
    (hstep : ∀ s a, I s → P s a → I (step s a)) {s : σ} {as : List α} (hs : I s)
    (h : Along P step s as) : I (run step s as) := by
  induction as generalizing s with
  | nil => exact hs
  | cons a as ih => exact ih (hstep s a hs h.1) h.2

/-- The rule without a condition on the steps. -/
theorem invariant (I : σ → Prop) {step : σ → α → σ} (hstep : ∀ s a, I s → I (step s a)) {s : σ}
    (hs : I s) (as : List α) : I (run step s as) := by
  induction as generalizing s with
  | nil => exact hs
  | cons a as ih => exact ih (hstep s a hs)

/-- **Exact condition rule.** Where, in a state that meets `I`, a step leads to a state that
meets `I` exactly when it meets `P`, all states of a run meet `I` exactly when all its steps
meet `P`. -/
theorem along_iff_along (I : σ → Prop) {P : σ → α → Prop} {step : σ → α → σ}
    (hstep : ∀ s a, I s → (I (step s a) ↔ P s a)) {s : σ} (hs : I s) (as : List α) :
    Along (fun s a => I (step s a)) step s as ↔ Along P step s as := by
  induction as generalizing s with
  | nil => exact Iff.rfl
  | cons a as ih =>
    rw [Along, Along, hstep s a hs]
    refine and_congr_right fun ha => ?_
    exact ih ((hstep s a hs).mpr ha)

/-- **Two-run rule.** What every action keeps between two systems holds between their
states after the same actions. -/
theorem run_related (R : σ → τ → Prop) {step : σ → α → σ} {step' : τ → α → τ}
    (hstep : ∀ s t a, R s t → R (step s a) (step' t a)) {s : σ} {t : τ} (hR : R s t)
    (as : List α) : R (run step s as) (run step' t as) := by
  induction as generalizing s t with
  | nil => exact hR
  | cons a as ih => exact ih (hstep s t a hR)

/-- What the steps of a run put out, in order. -/
def trace (out : σ → α → Option β) (step : σ → α → σ) : σ → List α → List β
  | _, [] => []
  | s, a :: as => (out s a).toList ++ trace out step (step s a) as

theorem trace_concat (out : σ → α → Option β) (step : σ → α → σ) (s : σ) (as : List α) (a : α) :
    trace out step s (as ++ [a]) = trace out step s as ++ (out (run step s as) a).toList := by
  induction as generalizing s with
  | nil => simp [trace]
  | cons b as ih => rw [List.cons_append, trace, trace, ih, run_cons, List.append_assoc]

/-- **Invariant rule with history.** An invariant may speak of what a run has put out. -/
theorem Along.trace_invariant {out : σ → α → Option β} (I : σ → List β → Prop)
    {P : σ → α → Prop} {step : σ → α → σ}
    (hstep : ∀ s bs a, I s bs → P s a → I (step s a) (bs ++ (out s a).toList)) {s : σ}
    {as : List α} (hs : I s []) (h : Along P step s as) :
    I (run step s as) (trace out step s as) := by
  induction as using List.reverseRecOn with
  | nil => exact hs
  | append_singleton as a ih =>
    obtain ⟨hpre, hlast⟩ := along_concat.mp h
    rw [run_concat, trace_concat]
    exact hstep _ _ _ (ih hpre) hlast

/-- The rule for a system whose steps need no condition. -/
theorem trace_invariant {out : σ → α → Option β} (I : σ → List β → Prop) {step : σ → α → σ}
    (hstep : ∀ s bs a, I s bs → I (step s a) (bs ++ (out s a).toList)) {s : σ} (hs : I s [])
    (as : List α) : I (run step s as) (trace out step s as) := by
  have hall : Along (fun _ _ => True) step s as := along_iff.mpr fun _ _ _ _ => trivial
  exact hall.trace_invariant I (fun _ _ _ h _ => hstep _ _ _ h) hs

theorem trace_some (step : σ → α → σ) (s : σ) (as : List α) :
    trace (fun _ a => some a) step s as = as := by
  induction as generalizing s with
  | nil => rfl
  | cons a as ih => rw [trace, ih, Option.toList_some, List.singleton_append]

/-- **Part rule.** A part of a system that takes a step of its own where `out` gives it an action,
and stays as it is elsewhere, takes a run of its own in every run of the system. -/
theorem run_part {part : σ → τ} {out : σ → α → Option β} {step : σ → α → σ} {step' : τ → β → τ}
    (hstep : ∀ s a, part (step s a) = (out s a).elim (part s) (step' (part s))) (s : σ)
    (as : List α) : part (run step s as) = run step' (part s) (trace out step s as) := by
  induction as generalizing s with
  | nil => rfl
  | cons a as ih =>
    rw [run_cons, ih, hstep, trace, run_append]
    cases out s a <;> rfl

/-- **Progress rule.** Where every state of an invariant allows a conditioned action, there
are conditioned runs of every length. -/
theorem exists_along (I : σ → Prop) {P : σ → α → Prop} {step : σ → α → σ}
    (hprogress : ∀ s, I s → ∃ a, P s a) (hstep : ∀ s a, I s → P s a → I (step s a)) {s : σ}
    (hs : I s) (n : ℕ) : ∃ as : List α, as.length = n ∧ Along P step s as := by
  induction n generalizing s with
  | zero => exact ⟨[], rfl, trivial⟩
  | succ n ih =>
    obtain ⟨a, ha⟩ := hprogress s hs
    obtain ⟨as, hlen, has⟩ := ih (hstep s a hs ha)
    exact ⟨a :: as, by rw [List.length_cons, hlen], ha, has⟩

/-! ## Histories -/

/-- A system with a history beside it, which sees every action and changes none. -/
def withHistory (step : σ → α → σ) (next : τ → σ → α → τ) (x : σ × τ) (a : α) : σ × τ :=
  (step x.1 a, next x.2 x.1 a)

theorem run_withHistory_fst (step : σ → α → σ) (next : τ → σ → α → τ) (x : σ × τ)
    (as : List α) : (run (withHistory step next) x as).1 = run step x.1 as := by
  induction as generalizing x with
  | nil => rfl
  | cons a as ih => exact ih (withHistory step next x a)

theorem along_withHistory {P : σ → α → Prop} {step : σ → α → σ} {next : τ → σ → α → τ} {x : σ × τ}
    {as : List α} :
    Along (fun x a => P x.1 a) (withHistory step next) x as ↔ Along P step x.1 as := by
  induction as generalizing x with
  | nil => exact Iff.rfl
  | cons a as ih => exact and_congr_right' ih

/-! ## Step relations -/

/-- The invariant rule for reachable states. -/
theorem reach_invariant (I : σ → Prop) {Step : σ → σ → Prop}
    (hstep : ∀ s s', I s → Step s s' → I s') {s s' : σ} (hs : I s)
    (h : Relation.ReflTransGen Step s s') : I s' := by
  induction h with
  | refl => exact hs
  | tail _ hst ih => exact hstep _ _ ih hst

end Runs
