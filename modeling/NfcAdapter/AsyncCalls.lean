/-
# Asynchronous calls

One client calls one server.  Calls reach the server in the order they were sent and
carry increasing serial numbers; answers come back in any order.  When the server goes
away every unanswered call is answered with an error.
-/
import Mathlib.Data.List.Basic
import Mathlib.Data.List.Perm.Basic
import Mathlib.Tactic.Common

namespace AsyncCalls

variable {C R : Type*}

/-- The calls under way: not yet handled, oldest first, and handled but not answered. -/
structure Channel (C R : Type*) where
  queue : List (ℕ × C)
  replies : List (ℕ × C × R)
  next : ℕ
  deriving DecidableEq

namespace Channel

/-- No call has been made. -/
def empty : Channel C R := ⟨[], [], 0⟩

/-- A call to a server that is there. -/
def send (ch : Channel C R) (c : C) : Channel C R :=
  { ch with queue := ch.queue ++ [(ch.next, c)], next := ch.next + 1 }

/-- A call nobody handles; `r` is its answer, if it expects one. -/
def fail (ch : Channel C R) (c : C) (r : Option R) : Channel C R :=
  { ch with
    replies := ch.replies ++ (r.map fun r => (ch.next, c, r)).toList
    next := ch.next + 1 }

/-- The server has handled the oldest call. -/
def serve (ch : Channel C R) (r : Option R) : Channel C R :=
  match ch.queue with
  | [] => ch
  | (n, c) :: queue =>
    { ch with queue := queue, replies := ch.replies ++ (r.map fun r => (n, c, r)).toList }

/-- The answer at position `i` has arrived. -/
def deliver (ch : Channel C R) (i : ℕ) : Channel C R := { ch with replies := ch.replies.eraseIdx i }

/-- The server goes away; `r` is the error a call is answered with, if it expects one. -/
def disconnect (ch : Channel C R) (r : C → Option R) : Channel C R :=
  { ch with
    queue := []
    replies := (ch.replies.map fun x => (x.1, x.2.1, (r x.2.1).getD x.2.2)) ++
      ch.queue.filterMap fun x => (r x.2).map fun y => (x.1, x.2, y) }

/-- Nothing is under way. -/
def Idle (ch : Channel C R) : Prop := ch.queue = [] ∧ ch.replies = []

instance (ch : Channel C R) [DecidableEq C] [DecidableEq R] : Decidable ch.Idle := by
  unfold Idle
  infer_instance

/-- A call under way, handled or not. -/
def Unanswered (ch : Channel C R) (n : ℕ) (c : C) : Prop :=
  (n, c) ∈ ch.queue ∨ ∃ r, (n, c, r) ∈ ch.replies

/-! ## What is under way after each operation -/

@[simp] theorem queue_send (ch : Channel C R) (c : C) :
    (ch.send c).queue = ch.queue ++ [(ch.next, c)] := rfl

@[simp] theorem replies_send (ch : Channel C R) (c : C) : (ch.send c).replies = ch.replies := rfl

@[simp] theorem next_send (ch : Channel C R) (c : C) : (ch.send c).next = ch.next + 1 := rfl

@[simp] theorem queue_fail (ch : Channel C R) (c : C) (r : Option R) :
    (ch.fail c r).queue = ch.queue := rfl

@[simp] theorem next_fail (ch : Channel C R) (c : C) (r : Option R) :
    (ch.fail c r).next = ch.next + 1 := rfl

theorem mem_replies_fail {ch : Channel C R} {c : C} {r : Option R} {x : ℕ × C × R} :
    x ∈ (ch.fail c r).replies ↔ x ∈ ch.replies ∨ ∃ y, r = some y ∧ x = (ch.next, c, y) := by
  simp only [fail, List.mem_append, Option.mem_toList, Option.map_eq_some_iff]
  constructor
  · rintro (h | ⟨y, hy, rfl⟩)
    · exact Or.inl h
    · exact Or.inr ⟨y, hy, rfl⟩
  · rintro (h | ⟨y, hy, rfl⟩)
    · exact Or.inl h
    · exact Or.inr ⟨y, hy, rfl⟩

theorem mem_replies_serve {ch : Channel C R} {n : ℕ} {c : C} {queue : List (ℕ × C)}
    {r : Option R} (h : ch.queue = (n, c) :: queue) {x : ℕ × C × R} :
    x ∈ (ch.serve r).replies ↔ x ∈ ch.replies ∨ ∃ y, r = some y ∧ x = (n, c, y) := by
  simp only [serve, h, List.mem_append, Option.mem_toList, Option.map_eq_some_iff]
  constructor
  · rintro (hx | ⟨y, hy, rfl⟩)
    · exact Or.inl hx
    · exact Or.inr ⟨y, hy, rfl⟩
  · rintro (hx | ⟨y, hy, rfl⟩)
    · exact Or.inl hx
    · exact Or.inr ⟨y, hy, rfl⟩

theorem queue_serve {ch : Channel C R} {n : ℕ} {c : C} {queue : List (ℕ × C)} {r : Option R}
    (h : ch.queue = (n, c) :: queue) : (ch.serve r).queue = queue := by
  simp [serve, h]

@[simp] theorem next_serve (ch : Channel C R) (r : Option R) : (ch.serve r).next = ch.next := by
  unfold serve
  split <;> rfl

@[simp] theorem queue_deliver (ch : Channel C R) (i : ℕ) : (ch.deliver i).queue = ch.queue := rfl

@[simp] theorem next_deliver (ch : Channel C R) (i : ℕ) : (ch.deliver i).next = ch.next := rfl

theorem mem_replies_deliver {ch : Channel C R} {i : ℕ} {x : ℕ × C × R}
    (h : x ∈ (ch.deliver i).replies) : x ∈ ch.replies :=
  List.mem_of_mem_eraseIdx h

/-- What is not the delivered answer is still there. -/
theorem mem_replies_deliver_of_ne {ch : Channel C R} {i : ℕ} {x : ℕ × C × R}
    (h : x ∈ ch.replies) (hne : ch.replies[i]? ≠ some x) : x ∈ (ch.deliver i).replies := by
  obtain ⟨j, hj, rfl⟩ := List.mem_iff_getElem.mp h
  refine List.mem_eraseIdx_iff_getElem.mpr ⟨j, hj, ?_, rfl⟩
  rintro rfl
  exact hne (List.getElem?_eq_getElem hj)

@[simp] theorem queue_disconnect (ch : Channel C R) (r : C → Option R) :
    (ch.disconnect r).queue = [] := rfl

@[simp] theorem next_disconnect (ch : Channel C R) (r : C → Option R) :
    (ch.disconnect r).next = ch.next := rfl

/-- Behind a disconnection only calls that were under way are answered. -/
theorem unanswered_of_disconnect {ch : Channel C R} {r : C → Option R} {n : ℕ} {c : C} {y : R}
    (h : (n, c, y) ∈ (ch.disconnect r).replies) : ch.Unanswered n c := by
  simp only [disconnect, List.mem_append, List.mem_map, List.mem_filterMap,
    Option.map_eq_some_iff] at h
  rcases h with ⟨⟨m, d, z⟩, hmem, heq⟩ | ⟨⟨m, d⟩, hmem, z, -, heq⟩
  · simp only [Prod.mk.injEq] at heq
    obtain ⟨rfl, rfl, -⟩ := heq
    exact Or.inr ⟨z, hmem⟩
  · simp only [Prod.mk.injEq] at heq
    obtain ⟨rfl, rfl, -⟩ := heq
    exact Or.inl hmem

/-- And calls that expect an answer get the error. -/
theorem reply_of_disconnect {ch : Channel C R} {r : C → Option R} {n : ℕ} {c : C} {y z : R}
    (h : (n, c, y) ∈ (ch.disconnect r).replies) (hr : r c = some z) : y = z := by
  simp only [disconnect, List.mem_append, List.mem_map, List.mem_filterMap,
    Option.map_eq_some_iff] at h
  rcases h with ⟨⟨m, d, w⟩, -, heq⟩ | ⟨⟨m, d⟩, -, w, hw, heq⟩
  · simp only [Prod.mk.injEq] at heq
    obtain ⟨-, rfl, rfl⟩ := heq
    rw [hr]
    rfl
  · simp only [Prod.mk.injEq] at heq
    obtain ⟨-, rfl, rfl⟩ := heq
    rw [hr, Option.some.injEq] at hw
    exact hw.symm

/-- Handling a call makes no new one. -/
theorem unanswered_of_serve {ch : Channel C R} {n m : ℕ} {c d : C} {queue : List (ℕ × C)}
    {r : Option R} (hq : ch.queue = (m, d) :: queue) (h : (ch.serve r).Unanswered n c) :
    ch.Unanswered n c := by
  rcases h with h | ⟨r', h⟩
  · rw [queue_serve hq] at h
    exact Or.inl (hq ▸ List.mem_cons_of_mem _ h)
  · rcases (mem_replies_serve hq).mp h with h | ⟨y, -, heq⟩
    · exact Or.inr ⟨r', h⟩
    · cases heq
      exact Or.inl (hq ▸ List.mem_cons_self)

theorem unanswered_of_deliver {ch : Channel C R} {i n : ℕ} {c : C}
    (h : (ch.deliver i).Unanswered n c) : ch.Unanswered n c :=
  h.imp_right fun ⟨r, hr⟩ => ⟨r, mem_replies_deliver hr⟩

/-! ## Serial numbers -/

/-- The calls that wait are in the order of their serial numbers. -/
structure Ordered (ch : Channel C R) : Prop where
  increasing : ch.queue.Pairwise fun x y => x.1 < y.1
  below : ∀ x ∈ ch.queue, x.1 < ch.next

theorem ordered_empty : (empty : Channel C R).Ordered := ⟨List.Pairwise.nil, fun _ h => nomatch h⟩

theorem Ordered.send {ch : Channel C R} (h : ch.Ordered) (c : C) : (ch.send c).Ordered where
  increasing := by
    refine List.pairwise_append.mpr ⟨h.increasing, List.pairwise_singleton _ _, ?_⟩
    intro x hx y hy
    rw [List.mem_singleton.mp hy]
    exact h.below x hx
  below := by
    intro x hx
    rcases List.mem_append.mp hx with hx | hx
    · exact Nat.lt_succ_of_lt (h.below x hx)
    · rw [List.mem_singleton.mp hx]
      exact Nat.lt_succ_self _

theorem Ordered.fail {ch : Channel C R} (h : ch.Ordered) (c : C) (r : Option R) :
    (ch.fail c r).Ordered :=
  ⟨h.increasing, fun x hx => Nat.lt_succ_of_lt (h.below x hx)⟩

theorem Ordered.serve {ch : Channel C R} (h : ch.Ordered) (r : Option R) :
    (ch.serve r).Ordered := by
  cases hq : ch.queue with
  | nil => simpa [Channel.serve, hq] using h
  | cons x queue =>
    have hserved := queue_serve (r := r) hq
    refine ⟨?_, ?_⟩
    · rw [hserved]
      exact (List.pairwise_cons.mp (hq ▸ h.increasing)).2
    · rw [hserved, next_serve]
      exact fun y hy => h.below y (hq ▸ List.mem_cons_of_mem _ hy)

/-- The oldest call has the least number. -/
theorem Ordered.head_lt {ch : Channel C R} (h : ch.Ordered) {x y : ℕ × C} {queue : List (ℕ × C)}
    (hq : ch.queue = x :: queue) (hy : y ∈ queue) : x.1 < y.1 :=
  (List.pairwise_cons.mp (hq ▸ h.increasing)).1 y hy

/-! ## The calls of one kind -/

/-- The serial numbers of the calls under way that meet `p`. -/
def pending (ch : Channel C R) (p : C → Bool) : List ℕ :=
  (ch.queue.filter fun x => p x.2).map Prod.fst ++
    (ch.replies.filter fun x => p x.2.1).map Prod.fst

/-- The serial number of one call, if it is of the kind. -/
def pendingOne (p : C → Bool) (n : ℕ) (c : C) : List ℕ := if p c then [n] else []

theorem map_filter_one (p : C → Bool) (n : ℕ) (c : C) :
    (([(n, c)] : List (ℕ × C)).filter fun x => p x.2).map Prod.fst = pendingOne p n c := by
  unfold pendingOne
  cases hp : p c <;> simp [hp]

theorem map_filter_answered {p : C → Bool} {n : ℕ} {c : C} {r : Option R}
    (h : p c = true → r.isSome = true) :
    ((r.map fun y => (n, c, y)).toList.filter fun x => p x.2.1).map Prod.fst
      = pendingOne p n c := by
  unfold pendingOne
  cases hp : p c with
  | false => cases r <;> simp [hp]
  | true =>
    obtain ⟨y, rfl⟩ := Option.isSome_iff_exists.mp (h hp)
    simp [hp]

theorem pending_send (ch : Channel C R) (p : C → Bool) (c : C) :
    ((ch.send c).pending p).Perm (pendingOne p ch.next c ++ ch.pending p) := by
  rw [pending, queue_send, replies_send, List.filter_append, List.map_append, map_filter_one,
    pending, List.append_assoc]
  exact List.perm_append_comm_assoc _ _ _

theorem pending_fail (ch : Channel C R) {p : C → Bool} {c : C} {r : Option R}
    (h : p c = true → r.isSome = true) :
    ((ch.fail c r).pending p).Perm (pendingOne p ch.next c ++ ch.pending p) := by
  rw [pending, queue_fail, fail, List.filter_append, List.map_append, map_filter_answered h,
    pending, ← List.append_assoc]
  exact List.perm_append_comm

/-- A call that expects an answer stays under way when it is handled. -/
theorem pending_serve {ch : Channel C R} {p : C → Bool} {n : ℕ} {c : C} {queue : List (ℕ × C)}
    {r : Option R} (hq : ch.queue = (n, c) :: queue) (h : p c = true → r.isSome = true) :
    ((ch.serve r).pending p).Perm (ch.pending p) := by
  have hone := map_filter_one p n c
  simp only [pending, serve, hq]
  rw [List.filter_append, List.map_append, map_filter_answered h,
    show (n, c) :: queue = [(n, c)] ++ queue from rfl, List.filter_append, List.map_append, hone,
    List.append_assoc]
  rw [← List.append_assoc]
  exact List.perm_append_comm

/-- The delivered answer is the one that goes. -/
theorem pending_deliver {ch : Channel C R} {p : C → Bool} {i n : ℕ} {c : C} {r : R}
    (hi : ch.replies[i]? = some (n, c, r)) :
    (ch.pending p).Perm (pendingOne p n c ++ (ch.deliver i).pending p) := by
  have hlt : i < ch.replies.length := (List.getElem?_eq_some_iff.mp hi).1
  have hget : ch.replies[i] = (n, c, r) := (List.getElem?_eq_some_iff.mp hi).2
  have hperm : ch.replies.Perm ((n, c, r) :: ch.replies.eraseIdx i) := by
    rw [← hget]
    exact (List.getElem_cons_eraseIdx_perm hlt).symm
  have hfilter := ((hperm.filter fun x => p x.2.1).map Prod.fst).append_left
    ((ch.queue.filter fun x => p x.2).map Prod.fst)
  have hone := map_filter_answered (p := p) (n := n) (c := c) (r := some r) fun _ => rfl
  rw [show (n, c, r) :: ch.replies.eraseIdx i
      = ((some r).map fun y => (n, c, y)).toList ++ ch.replies.eraseIdx i from rfl,
    List.filter_append, List.map_append, hone] at hfilter
  exact hfilter.trans (List.perm_append_comm_assoc _ _ _)

/-- Calls that expect an answer outlive their server. -/
theorem pending_disconnect (ch : Channel C R) {p : C → Bool} {r : C → Option R}
    (h : ∀ c, p c = true → (r c).isSome = true) :
    ((ch.disconnect r).pending p).Perm (ch.pending p) := by
  have hreplies : ((ch.replies.map fun x => (x.1, x.2.1, (r x.2.1).getD x.2.2)).filter
      fun x => p x.2.1).map Prod.fst = (ch.replies.filter fun x => p x.2.1).map Prod.fst := by
    rw [List.filter_map, List.map_map]
    rfl
  have hqueue : ∀ queue : List (ℕ × C),
      ((queue.filterMap fun x => (r x.2).map fun y => (x.1, x.2, y)).filter
        fun x => p x.2.1).map Prod.fst = (queue.filter fun x => p x.2).map Prod.fst := by
    intro queue
    induction queue with
    | nil => rfl
    | cons x queue ih =>
      rw [List.filterMap_cons]
      cases hr : r x.2 with
      | none =>
        have hp : p x.2 = false := by
          cases hp : p x.2 with
          | false => rfl
          | true =>
            have hsome := h x.2 hp
            rw [hr] at hsome
            cases hsome
        simp [hp, ih]
      | some y =>
        cases hp : p x.2 <;> simp [hp, ih]
  rw [pending, queue_disconnect, List.filter_nil, List.map_nil, List.nil_append, disconnect,
    List.filter_append, List.map_append, hreplies, hqueue, pending]
  exact List.perm_append_comm

end Channel

end AsyncCalls
