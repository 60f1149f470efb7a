/-
# Well-formed UTF-8

Byte strings that spell Unicode scalar values: what Lean's strings are made of, over lists
of bytes.  A prefix that is itself well formed can be dropped, since no character's bytes
are a proper prefix of another's.
-/
import Mathlib.Data.List.Basic

namespace Utf8

/-- The bytes are the UTF-8 encoding of some characters. -/
def Valid (bytes : List UInt8) : Prop := bytes.toByteArray.IsValidUTF8

instance (bytes : List UInt8) : Decidable (Valid bytes) :=
  inferInstanceAs (Decidable bytes.toByteArray.IsValidUTF8)

@[simp] theorem valid_nil : Valid [] := ByteArray.isValidUTF8_empty

/-- The bytes of a character can be dropped. -/
theorem valid_encodeChar_append (c : Char) (bytes : List UInt8) :
    Valid (String.utf8EncodeChar c ++ bytes) ↔ Valid bytes := by
  rw [Valid, List.toByteArray_append, ← List.utf8Encode_singleton]
  exact ByteArray.isValidUTF8_utf8Encode_singleton_append_iff

/-- The bytes of several characters can be dropped. -/
theorem valid_encode_append (cs : List Char) (bytes : List UInt8) :
    Valid (cs.flatMap String.utf8EncodeChar ++ bytes) ↔ Valid bytes := by
  induction cs with
  | nil => rfl
  | cons c cs ih => rw [List.flatMap_cons, List.append_assoc, valid_encodeChar_append, ih]

/-- A byte below `80` is a character. -/
theorem encodeChar_of_lt {b : UInt8} (hb : b < 0x80) :
    String.utf8EncodeChar (Char.ofNat b.toNat) = [b] := by
  have hlt : b.toNat < 128 := UInt8.lt_iff_toNat_lt.mp hb
  have hvalid : b.toNat.isValidChar := Or.inl (by omega)
  have hval : (Char.ofNat b.toNat).toNat = b.toNat := by
    rw [Char.ofNat, dif_pos hvalid]
    rfl
  have hsize : (Char.ofNat b.toNat).utf8Size = 1 := by
    rw [Char.utf8Size_eq_one_iff, UInt32.le_iff_toNat_le]
    show (Char.ofNat b.toNat).toNat ≤ 127
    omega
  rw [String.utf8EncodeChar_eq_singleton hsize, List.singleton_inj]
  apply UInt8.toNat_inj.mp
  rw [UInt32.toNat_toUInt8]
  show (Char.ofNat b.toNat).toNat % 2 ^ 8 = b.toNat
  rw [hval, Nat.mod_eq_of_lt (by omega)]

/-- ASCII is well-formed UTF-8. -/
theorem valid_of_ascii {bytes : List UInt8} (h : ∀ b ∈ bytes, b < 0x80) : Valid bytes := by
  induction bytes with
  | nil => exact valid_nil
  | cons b bytes ih =>
    rw [List.forall_mem_cons] at h
    have hchar := valid_encodeChar_append (Char.ofNat b.toNat) bytes
    rw [encodeChar_of_lt h.1] at hchar
    exact hchar.mpr (ih h.2)

end Utf8
