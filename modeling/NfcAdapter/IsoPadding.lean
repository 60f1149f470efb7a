/-
# ISO/IEC 9797-1 padding method 2

One marker byte `80` and then zeros up to the next block boundary.  The padding is
unconditional, so it is injective and can be stripped again without knowing the
block length.
-/
import Mathlib.Data.List.DropRight
import Mathlib.Data.Nat.ModEq
import Mathlib.Tactic.Ring

namespace IsoPadding

/-- The padded data: the marker is always appended, a full block of padding when the
data is already aligned. -/
def isoPad (block : ℕ) (data : List UInt8) : List UInt8 :=
  data ++ 0x80 :: List.replicate (block - data.length % block - 1) 0

/-- Strip trailing zeros and then the marker; there is no result without a marker. -/
def isoUnpad (padded : List UInt8) : Option (List UInt8) :=
  let body := padded.rdropWhile (· == 0)
  if body.getLast? = some 0x80 then some body.dropLast else none

theorem length_isoPad (block : ℕ) (hblock : 0 < block) (data : List UInt8) :
    (isoPad block data).length = data.length + (block - data.length % block) := by
  have hlt := Nat.mod_lt data.length hblock
  rw [isoPad, List.length_append, List.length_cons, List.length_replicate]
  omega

/-- Padded data is block aligned. -/
theorem dvd_length_isoPad (block : ℕ) (hblock : 0 < block) (data : List UInt8) :
    block ∣ (isoPad block data).length := by
  rw [length_isoPad block hblock]
  have hlt := Nat.mod_lt data.length hblock
  have hdm := Nat.mod_add_div data.length block
  refine ⟨data.length / block + 1, ?_⟩
  rw [Nat.mul_add, Nat.mul_one]
  omega

theorem rdropWhile_append_zeros (data : List UInt8) (n : ℕ) :
    (data ++ 0x80 :: List.replicate n 0).rdropWhile (· == 0) = data ++ [0x80] := by
  induction n with
  | zero => simp
  | succ n ih =>
    rw [List.replicate_succ', ← List.cons_append, ← List.append_assoc,
      List.rdropWhile_concat_pos _ _ _ (by rfl), ih]

/-- **Round trip.** Stripping undoes padding, for every block length. -/
@[simp] theorem isoUnpad_isoPad (block : ℕ) (data : List UInt8) :
    isoUnpad (isoPad block data) = some data := by
  rw [isoUnpad, isoPad, rdropWhile_append_zeros]
  simp

/-- Stripping does not add bytes. -/
theorem length_isoUnpad {padded data : List UInt8} (h : isoUnpad padded = some data) :
    data.length ≤ padded.length := by
  simp only [isoUnpad] at h
  split_ifs at h
  rw [← Option.some.inj h, List.length_dropLast]
  exact (Nat.sub_le _ _).trans (List.rdropWhile_prefix (· == 0) padded).length_le

end IsoPadding
