/-
# Mirrors

A system posts what it shows to those who follow it, and they keep the last post they saw.
Whoever knew the view of one state and reads the posts up to a later one knows the view of
the later one, when every step posts the view it leaves behind or leaves the view alone.
-/
import NfcAdapter.Runs

namespace Mirror

open Runs

variable {σ τ α V W : Type*}

/-- What a follower knows who knew `old` and has read the posts `new`. -/
def latest (old : V) (new : List V) : V := new.getLast?.getD old

@[simp] theorem latest_nil (old : V) : latest old [] = old := rfl

@[simp] theorem latest_concat (old : V) (new : List V) (v : V) : latest old (new ++ [v]) = v := by
  rw [latest, List.getLast?_concat, Option.getD_some]

@[simp] theorem latest_singleton (old v : V) : latest old [v] = v := rfl

@[simp] theorem latest_append (old : V) (new new' : List V) :
    latest old (new ++ new') = latest (latest old new) new' := by
  induction new' using List.reverseRecOn with
  | nil => rw [List.append_nil, latest_nil]
  | append_singleton new' v _ => rw [← List.append_assoc, latest_concat, latest_concat]

theorem latest_map (f : V → W) (old : V) (new : List V) :
    latest (f old) (new.map f) = f (latest old new) := by
  induction new using List.reverseRecOn with
  | nil => rfl
  | append_singleton new v _ => rw [List.map_append, List.map_singleton, latest_concat,
      latest_concat]

variable {log : σ → List V} {view : σ → V} {s s' s'' : σ}

/-- From `s` to `s'` the log only grows, and followers keep up with the view. -/
def KeepsUp (log : σ → List V) (view : σ → V) (s s' : σ) : Prop :=
  ∃ new, log s' = log s ++ new ∧ view s' = latest (view s) new

namespace KeepsUp

theorem of_eq (hlog : log s' = log s) (hview : view s' = view s) : KeepsUp log view s s' :=
  ⟨[], by rw [hlog, List.append_nil], hview⟩

theorem refl (log : σ → List V) (view : σ → V) (s : σ) : KeepsUp log view s s := of_eq rfl rfl

/-- The view is posted. -/
theorem of_post (hlog : log s' = log s ++ [view s']) : KeepsUp log view s s' :=
  ⟨[view s'], hlog, rfl⟩

theorem trans (h : KeepsUp log view s s') (h' : KeepsUp log view s' s'') :
    KeepsUp log view s s'' := by
  obtain ⟨new, hlog, hview⟩ := h
  obtain ⟨new', hlog', hview'⟩ := h'
  refine ⟨new ++ new', ?_, ?_⟩
  · rw [hlog', hlog, List.append_assoc]
  · rw [hview', hview, latest_append]

/-- The posts since the earlier state. -/
theorem eq_latest_drop (h : KeepsUp log view s s') :
    view s' = latest (view s) ((log s').drop (log s).length) := by
  obtain ⟨new, hlog, hview⟩ := h
  rw [hlog, List.drop_left, hview]

/-- **Runs.** Steps that followers keep up with make runs that they keep up with. -/
theorem run {step : σ → α → σ} (h : ∀ s a, KeepsUp log view s (step s a)) (s : σ) (as : List α) :
    KeepsUp log view s (run step s as) := by
  induction as using List.reverseRecOn with
  | nil => exact refl log view s
  | append_singleton as a ih =>
    rw [run_concat]
    exact ih.trans (h _ a)

end KeepsUp

end Mirror
