/-
# Attributes with 16-bit types and lengths

An attribute is its type and the length of its value, two bytes each with the higher one
first, and the value.  A list of attributes that fills its buffer is read back.
-/
import Mathlib.Algebra.Group.Nat.Defs
import Mathlib.Data.List.Basic

namespace Tlv16

/-! ## Big-endian halves -/

/-- Two bytes, the higher one first. -/
def be16 (n : UInt16) : List UInt8 := [(n >>> 8).toUInt8, (n &&& 0xFF).toUInt8]

@[simp] theorem length_be16 (n : UInt16) : (be16 n).length = 2 := rfl

/-- The number two such bytes make. -/
def ofBe16 (hi lo : UInt8) : ℕ := hi.toNat * 256 + lo.toNat

theorem ofBe16_be16 (n : UInt16) : ofBe16 (n >>> 8).toUInt8 (n &&& 0xFF).toUInt8 = n.toNat := by
  have hn := n.toNat_lt
  have hhi : (n >>> 8).toUInt8.toNat = n.toNat / 2 ^ 8 % 2 ^ 8 := by
    rw [UInt16.toNat_toUInt8, UInt16.toNat_shiftRight, Nat.shiftRight_eq_div_pow]
    rfl
  have hlo : (n &&& 0xFF).toUInt8.toNat = n.toNat % 2 ^ 8 % 2 ^ 8 := by
    have hmask : (0xFF : UInt16).toNat = 2 ^ 8 - 1 := rfl
    rw [UInt16.toNat_toUInt8, UInt16.toNat_and, hmask, Nat.and_two_pow_sub_one_eq_mod]
  rw [ofBe16, hhi, hlo]
  omega

theorem toNat_length {value : List UInt8} (h : value.length < 2 ^ 16) :
    value.length.toUInt16.toNat = value.length :=
  UInt16.toNat_ofNat_of_lt' h

/-! ## Attributes -/

/-- The bytes of an attribute. -/
def encode (type : UInt16) (value : List UInt8) : List UInt8 :=
  be16 type ++ (be16 value.length.toUInt16 ++ value)

@[simp] theorem length_encode (type : UInt16) (value : List UInt8) :
    (encode type value).length = 4 + value.length := by
  rw [encode, List.length_append, List.length_append, length_be16, length_be16]
  omega

/-- One attribute and what stands behind it. -/
def readOne : List UInt8 → Option ((ℕ × List UInt8) × List UInt8)
  | typeHi :: typeLo :: lenHi :: lenLo :: rest =>
    if ofBe16 lenHi lenLo ≤ rest.length then
      some ((ofBe16 typeHi typeLo, rest.take (ofBe16 lenHi lenLo)),
        rest.drop (ofBe16 lenHi lenLo))
    else none
  | _ => none

/-- The attributes that fill a buffer; `fuel` bounds their number. -/
def readUpTo : ℕ → List UInt8 → Option (List (ℕ × List UInt8))
  | _, [] => some []
  | 0, _ => none
  | fuel + 1, data => (readOne data).bind fun one => (readUpTo fuel one.2).map (one.1 :: ·)

/-- The attributes that fill a buffer, `none` where it does not end with one. -/
def read (data : List UInt8) : Option (List (ℕ × List UInt8)) := readUpTo data.length data

theorem readOne_encode {type : UInt16} {value : List UInt8} (h : value.length < 2 ^ 16)
    (rest : List UInt8) :
    readOne (encode type value ++ rest) = some ((type.toNat, value), rest) := by
  have hlen := toNat_length h
  simp only [encode, be16, List.cons_append, List.nil_append, readOne, ofBe16_be16, hlen]
  rw [if_pos (by rw [List.length_append]; omega), List.take_left, List.drop_left]

/-- The bytes of a list of attributes. -/
def encodeAll (attrs : List (UInt16 × List UInt8)) : List UInt8 :=
  attrs.flatMap fun a => encode a.1 a.2

/-- Attributes written one behind the other are read back. -/
theorem read_encodeAll {attrs : List (UInt16 × List UInt8)}
    (h : ∀ a ∈ attrs, a.2.length < 2 ^ 16) :
    read (encodeAll attrs) = some (attrs.map fun a => (a.1.toNat, a.2)) := by
  have hfuel : ∀ fuel, (encodeAll attrs).length ≤ fuel →
      readUpTo fuel (encodeAll attrs) = some (attrs.map fun a => (a.1.toNat, a.2)) := by
    induction attrs with
    | nil =>
        intro fuel _
        cases fuel <;> rfl
    | cons a attrs ih =>
        obtain ⟨ha, hattrs⟩ := List.forall_mem_cons.mp h
        intro fuel hle
        have hsplit : encodeAll (a :: attrs) = encode a.1 a.2 ++ encodeAll attrs := rfl
        rw [hsplit, List.length_append, length_encode] at hle
        obtain ⟨fuel, rfl⟩ : ∃ n, fuel = n + 1 := ⟨fuel - 1, by omega⟩
        have hone := @readOne_encode a.1 a.2 ha (encodeAll attrs)
        obtain ⟨b, bs, hbytes⟩ : ∃ b bs, encode a.1 a.2 ++ encodeAll attrs = b :: bs := ⟨_, _, rfl⟩
        rw [hsplit, hbytes, readUpTo, ← hbytes, hone, Option.bind_some,
          ih hattrs fuel (by omega), Option.map_some, List.map_cons]
        exact fun hnil => by cases hnil
  exact hfuel _ (Nat.le_refl _)

end Tlv16
