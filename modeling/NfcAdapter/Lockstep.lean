/-
# Lockstep request and response

Two parties over an authenticated medium, each with a position counter.  The
requester stamps its `i`-th command with position `2 * i - 1` and takes only an answer
stamped `2 * i`.  The responder moves one position before it looks at a command, acts
on it only when the command carries that position, and moves once more before it
answers.  Commands and answers are arbitrary.
-/
import NfcAdapter.Runs
import Mathlib.Tactic.Ring

namespace Lockstep

/-- Where the requester is in its exchange; it stops at the first failure. -/
inductive Phase where
  | idle
  | waiting
  | stopped
  deriving DecidableEq, Repr

/-- An answer, the position it is stamped with and the command it answers. -/
structure Answer (α β : Type*) where
  position : ℕ
  command : α
  response : β

/-- Both parties, and everything they have put on the medium. -/
structure State (α β : Type*) where
  phase : Phase
  sent : List α
  position : ℕ
  received : ℕ
  answers : List (Answer α β)

variable {α β : Type*}

/-- Nothing sent yet. -/
def start : State α β := ⟨.idle, [], 0, 0, []⟩

/-- One step of either party.  `refuse` is the responder moving on without an answer,
`lose` an exchange the requester gives up. -/
inductive Step : State α β → State α β → Prop
  | send (s : State α β) (a : α) (h : s.phase = .idle) :
      Step s { s with phase := .waiting, sent := s.sent ++ [a] }
  | answer (s : State α β) (k : ℕ) (a : α) (b : β) (hk : s.sent[k]? = some a)
      (hpos : 2 * k + 1 = s.position + 1) :
      Step s { s with position := s.position + 2, received := s.received + 1,
                      answers := s.answers ++ [⟨s.position + 2, a, b⟩] }
  | refuse (s : State α β) (d : ℕ) (h : d ≤ 2) :
      Step s { s with position := s.position + d, received := s.received + 1 }
  | accept (s : State α β) (h : s.phase = .waiting) (ans : Answer α β) (hans : ans ∈ s.answers)
      (hpos : ans.position = 2 * s.sent.length) :
      Step s { s with phase := .idle }
  | lose (s : State α β) : Step s { s with phase := .stopped }

/-- Every answer is stamped for the exchange whose command it answers, no two are
stamped alike, and none is stamped ahead of the responder. -/
structure Inv (s : State α β) : Prop where
  position_le : s.position ≤ 2 * s.received
  answers_le : ∀ ans ∈ s.answers, ans.position ≤ s.position
  answers_command : ∀ ans ∈ s.answers, ∃ k, ans.position = 2 * (k + 1) ∧
    s.sent[k]? = some ans.command
  answers_sorted : s.answers.Pairwise fun x y => x.position < y.position

theorem inv_start : Inv (start : State α β) where
  position_le := le_rfl
  answers_le := by simp [start]
  answers_command := by simp [start]
  answers_sorted := List.Pairwise.nil

theorem inv_step {s s' : State α β} (hi : Inv s) (h : Step s s') : Inv s' := by
  cases h with
  | send a h =>
    refine ⟨hi.position_le, hi.answers_le, ?_, hi.answers_sorted⟩
    -- a new command does not change which command an old answer is for
    intro ans hans
    obtain ⟨k, hpos, hk⟩ := hi.answers_command ans hans
    refine ⟨k, hpos, ?_⟩
    rw [List.getElem?_append_left (List.getElem?_eq_some_iff.mp hk).1]
    exact hk
  | answer k a b hk hpos =>
    have hp := hi.position_le
    refine ⟨?_, ?_, ?_, ?_⟩
    · show s.position + 2 ≤ 2 * (s.received + 1)
      omega
    · intro ans hans
      show ans.position ≤ s.position + 2
      rcases List.mem_append.mp hans with h | h
      · have := hi.answers_le ans h
        omega
      · rw [List.mem_singleton.mp h]
    · intro ans hans
      rcases List.mem_append.mp hans with h | h
      · exact hi.answers_command ans h
      · rw [List.mem_singleton.mp h]
        refine ⟨k, ?_, hk⟩
        show s.position + 2 = 2 * (k + 1)
        omega
    · refine List.pairwise_append.mpr ⟨hi.answers_sorted, List.pairwise_singleton _ _, ?_⟩
      intro x hx y hy
      rw [List.mem_singleton.mp hy]
      have := hi.answers_le x hx
      show x.position < s.position + 2
      omega
  | refuse d h =>
    have hp := hi.position_le
    refine ⟨?_, ?_, hi.answers_command, hi.answers_sorted⟩
    · show s.position + d ≤ 2 * (s.received + 1)
      omega
    · intro ans hans
      have := hi.answers_le ans hans
      show ans.position ≤ s.position + d
      omega
  | accept h ans hans hpos => exact ⟨hi.1, hi.2, hi.3, hi.4⟩
  | lose => exact ⟨hi.1, hi.2, hi.3, hi.4⟩

theorem inv_reach {s : State α β} (h : Relation.ReflTransGen Step start s) : Inv s :=
  Runs.reach_invariant Inv (fun _ _ hi hs => inv_step hi hs) inv_start h

/-- **The answer belongs to the exchange.** An answer stamped for the current exchange
answers the command of that exchange. -/
theorem Inv.getLast?_sent {s : State α β} (hi : Inv s) {ans : Answer α β}
    (hans : ans ∈ s.answers) (hpos : ans.position = 2 * s.sent.length) :
    s.sent.getLast? = some ans.command := by
  obtain ⟨k, hk, hget⟩ := hi.answers_command ans hans
  rw [List.getLast?_eq_getElem?, show s.sent.length - 1 = k from by omega]
  exact hget

/-- No other answer carries the same position. -/
theorem Inv.index_unique {s : State α β} (hi : Inv s) {i j : ℕ} {x y : Answer α β}
    (hx : s.answers[i]? = some x) (hy : s.answers[j]? = some y) (h : x.position = y.position) :
    i = j := by
  obtain ⟨hi', rfl⟩ := List.getElem?_eq_some_iff.mp hx
  obtain ⟨hj', rfl⟩ := List.getElem?_eq_some_iff.mp hy
  have hsorted := List.pairwise_iff_getElem.mp hi.answers_sorted
  rcases Nat.lt_trichotomy i j with hlt | heq | hlt
  · have := hsorted i j hi' hj' hlt
    omega
  · exact heq
  · have := hsorted j i hj' hi' hlt
    omega

/-- **Lockstep.** A responder that was given no more commands than the requester sent
stands exactly at the position of the answer to the current exchange. -/
theorem Inv.position_eq {s : State α β} (hi : Inv s) {ans : Answer α β} (hans : ans ∈ s.answers)
    (hpos : ans.position = 2 * s.sent.length) (hle : s.received ≤ s.sent.length) :
    s.position = ans.position := by
  have h1 := hi.position_le
  have h2 := hi.answers_le ans hans
  omega

end Lockstep
