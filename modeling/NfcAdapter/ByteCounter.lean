/-
# Big-endian byte counters

A counter kept as a big-endian byte string and incremented in place, with the
carry running from the last byte towards the first.  The increment is addition
of one modulo `256 ^ length`, so the successive values of a counter of `n` bytes
repeat with period `256 ^ n` and not before.
-/
import Mathlib.Data.Nat.ModEq
import Mathlib.Tactic.Ring

namespace ByteCounter

/-! ## Big-endian values -/

/-- The number a big-endian byte string denotes. -/
def beValue (bs : List UInt8) : ℕ := bs.foldl (fun acc b => acc * 256 + b.toNat) 0

theorem foldl_beValue (bs : List UInt8) (acc : ℕ) :
    bs.foldl (fun acc b => acc * 256 + b.toNat) acc = acc * 256 ^ bs.length + beValue bs := by
  induction bs generalizing acc with
  | nil => simp [beValue]
  | cons b bs ih =>
    rw [beValue, List.foldl_cons, List.foldl_cons, ih, ih (0 * 256 + b.toNat), List.length_cons]
    ring

@[simp] theorem beValue_nil : beValue [] = 0 := rfl

@[simp] theorem beValue_cons (b : UInt8) (bs : List UInt8) :
    beValue (b :: bs) = b.toNat * 256 ^ bs.length + beValue bs := by
  rw [beValue, List.foldl_cons, foldl_beValue]
  ring

/-- A byte string of length `n` denotes a number below `256 ^ n`. -/
theorem beValue_lt (bs : List UInt8) : beValue bs < 256 ^ bs.length := by
  induction bs with
  | nil => simp
  | cons b bs ih =>
    have hb : b.toNat + 1 ≤ 256 := b.toNat_lt
    calc beValue (b :: bs) = b.toNat * 256 ^ bs.length + beValue bs := beValue_cons b bs
      _ < (b.toNat + 1) * 256 ^ bs.length := by rw [Nat.add_mul, Nat.one_mul]; omega
      _ ≤ 256 * 256 ^ bs.length := Nat.mul_le_mul_right _ hb
      _ = 256 ^ (b :: bs).length := by rw [List.length_cons, pow_succ, Nat.mul_comm]

/-- The last `n` bytes of a number, big-endian. -/
def beBytes : ℕ → ℕ → List UInt8
  | 0, _ => []
  | n + 1, v => beBytes n (v / 256) ++ [v.toUInt8]

@[simp] theorem length_beBytes (n v : ℕ) : (beBytes n v).length = n := by
  induction n generalizing v with
  | zero => rfl
  | succ n ih => rw [beBytes, List.length_append, ih, List.length_singleton]

theorem beValue_concat (bs : List UInt8) (b : UInt8) :
    beValue (bs ++ [b]) = beValue bs * 256 + b.toNat := by
  rw [beValue, List.foldl_append, List.foldl_cons, List.foldl_nil, ← beValue]

/-- `n` bytes hold a number below `256 ^ n`. -/
theorem beValue_beBytes {n v : ℕ} (h : v < 256 ^ n) : beValue (beBytes n v) = v := by
  induction n generalizing v with
  | zero =>
    have hv : v = 0 := by simpa using h
    rw [hv]
    rfl
  | succ n ih =>
    have hdiv : v / 256 < 256 ^ n := by
      rw [Nat.div_lt_iff_lt_mul (by decide), ← pow_succ]
      exact h
    have hlast : v.toUInt8.toNat = v % 256 := by simp
    rw [beBytes, beValue_concat, ih hdiv, hlast]
    omega

/-! ## Increment with carry -/

/-- Increment from the last byte, together with the carry out of the first. -/
def incrementCarry : List UInt8 → List UInt8 × Bool
  | [] => ([], true)
  | b :: bs =>
    let r := incrementCarry bs
    if r.2 then ((b + 1) :: r.1, b + 1 == 0) else (b :: r.1, false)

/-- The counter after one increment; the carry out of the first byte is lost. -/
def increment (bs : List UInt8) : List UInt8 := (incrementCarry bs).1

@[simp] theorem length_incrementCarry (bs : List UInt8) :
    (incrementCarry bs).1.length = bs.length := by
  induction bs with
  | nil => rfl
  | cons b bs ih =>
    rw [incrementCarry]
    split <;> simp [ih]

@[simp] theorem length_increment (bs : List UInt8) : (increment bs).length = bs.length :=
  length_incrementCarry bs

/-- Increment with its carry adds exactly one. -/
theorem beValue_incrementCarry (bs : List UInt8) :
    beValue (incrementCarry bs).1 + (if (incrementCarry bs).2 then 256 ^ bs.length else 0)
      = beValue bs + 1 := by
  induction bs with
  | nil => simp [incrementCarry]
  | cons b bs ih =>
    rw [incrementCarry]
    by_cases hc : (incrementCarry bs).2
    · simp only [hc, if_true] at ih ⊢
      by_cases hb : b + 1 = 0
      · have hval : b.toNat = 255 := by
          have := congrArg UInt8.toNat hb
          rw [UInt8.toNat_add] at this
          have hlt := b.toNat_lt
          simp at this
          omega
        simp only [hb, beq_self_eq_true, if_true, beValue_cons, length_incrementCarry,
          List.length_cons, hval, pow_succ]
        simp only [UInt8.toNat_zero]
        omega
      · have hval : (b + 1).toNat = b.toNat + 1 := by
          rw [UInt8.toNat_add]
          have hlt := b.toNat_lt
          have hne : b.toNat ≠ 255 := by
            intro h255
            apply hb
            apply UInt8.toNat_inj.mp
            rw [UInt8.toNat_add, h255]
            rfl
          simp
          omega
        simp only [beq_iff_eq, hb, if_false, beValue_cons, length_incrementCarry, hval,
          Nat.add_mul, Nat.one_mul]
        omega
    · simp only [hc, Bool.false_eq_true, if_false, beValue_cons, length_incrementCarry] at ih ⊢
      omega

theorem beValue_increment (bs : List UInt8) :
    beValue (increment bs) = (beValue bs + 1) % 256 ^ bs.length := by
  have h := beValue_incrementCarry bs
  have hlt := beValue_lt (incrementCarry bs).1
  rw [length_incrementCarry] at hlt
  rw [← h, increment]
  split
  · rw [Nat.add_mod_right, Nat.mod_eq_of_lt hlt]
  · rw [Nat.add_zero, Nat.mod_eq_of_lt hlt]

/-! ## Runs of a counter -/

@[simp] theorem length_iterate_increment (n : ℕ) (bs : List UInt8) :
    (increment^[n] bs).length = bs.length := by
  induction n with
  | zero => rfl
  | succ n ih => rw [Function.iterate_succ_apply', length_increment, ih]

theorem beValue_iterate_increment (n : ℕ) (bs : List UInt8) :
    beValue (increment^[n] bs) = (beValue bs + n) % 256 ^ bs.length := by
  induction n with
  | zero => rw [Function.iterate_zero_apply, Nat.add_zero, Nat.mod_eq_of_lt (beValue_lt bs)]
  | succ n ih =>
    rw [Function.iterate_succ_apply', beValue_increment, ih, length_iterate_increment,
      Nat.mod_add_mod, Nat.add_assoc]

/-- **No repetition within a period.** Two positions below `256 ^ length` show the
same counter bytes only if they are the same position. -/
theorem iterate_increment_injective {bs : List UInt8} {m n : ℕ} (hm : m < 256 ^ bs.length)
    (hn : n < 256 ^ bs.length) (h : increment^[m] bs = increment^[n] bs) : m = n := by
  have hv := congrArg beValue h
  rw [beValue_iterate_increment, beValue_iterate_increment] at hv
  have hmod : m ≡ n [MOD 256 ^ bs.length] := Nat.ModEq.add_left_cancel' _ hv
  exact Nat.ModEq.eq_of_lt_of_lt hmod hm hn

end ByteCounter
