/-
# UTF-16

Characters as one or two 16-bit units, and units as two bytes in either order.  A list of
units is decoded to the one list of characters whose units they are, if there is one.
-/
import Mathlib.Data.List.Basic

namespace Utf16

/-! ## Units -/

/-- The units of a character: from `10000` on a surrogate pair. -/
def encodeChar (c : Char) : List UInt16 :=
  if c.toNat < 0x10000 then [c.toNat.toUInt16]
  else [(0xD800 + (c.toNat - 0x10000) / 0x400).toUInt16,
    (0xDC00 + (c.toNat - 0x10000) % 0x400).toUInt16]

/-- The units of a text. -/
def encode (cs : List Char) : List UInt16 := cs.flatMap encodeChar

/-- The characters of some units, `none` where a surrogate stands alone. -/
def decode : List UInt16 → Option (List Char)
  | [] => some []
  | u :: rest =>
    if u.toNat < 0xD800 ∨ 0xE000 ≤ u.toNat then
      (decode rest).map (Char.ofNat u.toNat :: ·)
    else
      match rest with
      | [] => none
      | v :: rest =>
        if u.toNat < 0xDC00 ∧ 0xDC00 ≤ v.toNat ∧ v.toNat < 0xE000 then
          (decode rest).map
            (Char.ofNat (0x10000 + (u.toNat - 0xD800) * 0x400 + (v.toNat - 0xDC00)) :: ·)
        else none

theorem toNat_toUInt16 {n : ℕ} (h : n < 0x10000) : n.toUInt16.toNat = n :=
  UInt16.toNat_ofNat_of_lt' h

theorem toNat_charOfNat {n : ℕ} (h : n.isValidChar) : (Char.ofNat n).toNat = n := by
  rw [Char.ofNat, dif_pos h]
  rfl

/-- A character is not a surrogate and below `110000`. -/
theorem range_toNat (c : Char) : c.toNat < 0xD800 ∨ 0xDFFF < c.toNat ∧ c.toNat < 0x110000 :=
  c.valid

/-! ## Decoding undoes encoding -/

/-- A unit that is no surrogate is a character. -/
theorem decode_unit {u : UInt16} (h : u.toNat < 0xD800 ∨ 0xE000 ≤ u.toNat)
    (rest : List UInt16) :
    decode (u :: rest) = (decode rest).map (Char.ofNat u.toNat :: ·) := by
  rw [decode.eq_def]
  exact if_pos h

/-- A high and a low surrogate are one. -/
theorem decode_pair {u v : UInt16} (hu : 0xD800 ≤ u.toNat ∧ u.toNat < 0xDC00)
    (hv : 0xDC00 ≤ v.toNat ∧ v.toNat < 0xE000) (rest : List UInt16) :
    decode (u :: v :: rest) = (decode rest).map
      (Char.ofNat (0x10000 + (u.toNat - 0xD800) * 0x400 + (v.toNat - 0xDC00)) :: ·) := by
  have hsurrogate : ¬ (u.toNat < 0xD800 ∨ 0xE000 ≤ u.toNat) := by omega
  simp only [decode, if_neg hsurrogate, if_pos (And.intro hu.2 hv)]

/-- The units of a character are decoded to it, whatever follows. -/
theorem decode_encodeChar_append (c : Char) (rest : List UInt16) :
    decode (encodeChar c ++ rest) = (decode rest).map (c :: ·) := by
  have hrange := range_toNat c
  unfold encodeChar
  split
  · next hsmall =>
    rw [List.singleton_append, decode_unit, toNat_toUInt16 hsmall, Char.ofNat_toNat]
    rw [toNat_toUInt16 hsmall]
    omega
  · next hlarge =>
    have hhigh : (0xD800 + (c.toNat - 0x10000) / 0x400).toUInt16.toNat
        = 0xD800 + (c.toNat - 0x10000) / 0x400 := toNat_toUInt16 (by omega)
    have hlow : (0xDC00 + (c.toNat - 0x10000) % 0x400).toUInt16.toNat
        = 0xDC00 + (c.toNat - 0x10000) % 0x400 := toNat_toUInt16 (by omega)
    have hjoin : 0x10000 + (0xD800 + (c.toNat - 0x10000) / 0x400 - 0xD800) * 0x400
        + (0xDC00 + (c.toNat - 0x10000) % 0x400 - 0xDC00) = c.toNat := by omega
    rw [List.cons_append, List.singleton_append, decode_pair, hhigh, hlow, hjoin,
      Char.ofNat_toNat]
    · rw [hhigh]
      omega
    · rw [hlow]
      omega

theorem decode_encode (cs : List Char) : decode (encode cs) = some cs := by
  induction cs with
  | nil => rfl
  | cons c cs ih => rw [encode, List.flatMap_cons, decode_encodeChar_append, ← encode, ih]; rfl

/-! ## Encoding undoes decoding -/

theorem encodeChar_unit {u : UInt16} (h : u.toNat < 0xD800 ∨ 0xE000 ≤ u.toNat) :
    encodeChar (Char.ofNat u.toNat) = [u] := by
  have hu := u.toNat_lt
  have hchar : (Char.ofNat u.toNat).toNat = u.toNat := toNat_charOfNat (by
    rw [Nat.isValidChar]
    omega)
  rw [encodeChar, hchar, if_pos (by omega), Nat.toUInt16_eq, UInt16.ofNat_toNat]

theorem encodeChar_pair {u v : UInt16} (hu : 0xD800 ≤ u.toNat ∧ u.toNat < 0xDC00)
    (hv : 0xDC00 ≤ v.toNat ∧ v.toNat < 0xE000) :
    encodeChar (Char.ofNat (0x10000 + (u.toNat - 0xD800) * 0x400 + (v.toNat - 0xDC00)))
      = [u, v] := by
  have hjoin : (Char.ofNat (0x10000 + (u.toNat - 0xD800) * 0x400 + (v.toNat - 0xDC00))).toNat
      = 0x10000 + (u.toNat - 0xD800) * 0x400 + (v.toNat - 0xDC00) := toNat_charOfNat (by
    rw [Nat.isValidChar]
    omega)
  have hhigh : 0xD800 + (0x10000 + (u.toNat - 0xD800) * 0x400 + (v.toNat - 0xDC00) - 0x10000)
      / 0x400 = u.toNat := by omega
  have hlow : 0xDC00 + (0x10000 + (u.toNat - 0xD800) * 0x400 + (v.toNat - 0xDC00) - 0x10000)
      % 0x400 = v.toNat := by omega
  rw [encodeChar, hjoin, if_neg (by omega), hhigh, hlow, Nat.toUInt16_eq, Nat.toUInt16_eq,
    UInt16.ofNat_toNat, UInt16.ofNat_toNat]

/-- What is decoded has the units it is decoded from. -/
theorem encode_of_decode {units : List UInt16} :
    ∀ {cs : List Char}, decode units = some cs → encode cs = units := by
  induction units using decode.induct with
  | case1 =>
    intro cs h
    rw [← Option.some.inj h]
    rfl
  | case2 u rest hunit ih =>
    intro cs h
    rw [decode_unit hunit, Option.map_eq_some_iff] at h
    obtain ⟨cs, h, rfl⟩ := h
    rw [encode, List.flatMap_cons, encodeChar_unit hunit, ← encode, ih h, List.singleton_append]
  | case3 u hsurrogate =>
    intro cs h
    rw [decode, if_neg hsurrogate] at h
    cases h
  | case4 u hsurrogate v rest hpair ih =>
    intro cs h
    have hu : 0xD800 ≤ u.toNat ∧ u.toNat < 0xDC00 := by omega
    rw [decode_pair hu hpair.2, Option.map_eq_some_iff] at h
    obtain ⟨cs, h, rfl⟩ := h
    rw [encode, List.flatMap_cons, encodeChar_pair hu hpair.2, ← encode, ih h, List.cons_append,
      List.singleton_append]
  | case5 u hsurrogate v rest hpair =>
    intro cs h
    simp only [decode, if_neg hsurrogate, if_neg hpair] at h
    cases h

/-- **UTF-16.** Units are decoded to a text exactly if they are its units. -/
theorem decode_eq_some_iff {units : List UInt16} {cs : List Char} :
    decode units = some cs ↔ encode cs = units := by
  constructor
  · exact encode_of_decode
  · rintro rfl
    exact decode_encode cs

theorem zero_notMem_encodeChar {c : Char} (h : c.toNat ≠ 0) : (0 : UInt16) ∉ encodeChar c := by
  have hrange := range_toNat c
  have hunit : ∀ n < 0x10000, n ≠ 0 → (0 : UInt16) ≠ n.toUInt16 := by
    intro n hlt hn heq
    have hzero := congrArg UInt16.toNat heq
    rw [toNat_toUInt16 hlt] at hzero
    exact hn hzero.symm
  unfold encodeChar
  split
  · next hsmall =>
    rw [List.mem_singleton]
    exact hunit _ hsmall h
  · next hlarge =>
    simp only [List.mem_cons, List.not_mem_nil, or_false, not_or]
    exact ⟨hunit _ (by omega) (by omega), hunit _ (by omega) (by omega)⟩

/-- No unit of a text is zero, if no character is. -/
theorem zero_notMem_encode {cs : List Char} (h : ∀ c ∈ cs, c.toNat ≠ 0) :
    (0 : UInt16) ∉ encode cs := by
  intro hmem
  obtain ⟨c, hc, hzero⟩ := List.mem_flatMap.mp hmem
  exact zero_notMem_encodeChar (h c hc) hzero

/-! ## Bytes -/

/-- The bytes of some units, the higher one first. -/
def bigEndian (units : List UInt16) : List UInt8 :=
  units.flatMap fun u => [(u.toNat / 256).toUInt8, (u.toNat % 256).toUInt8]

/-- The bytes of some units, the lower one first. -/
def littleEndian (units : List UInt16) : List UInt8 :=
  units.flatMap fun u => [(u.toNat % 256).toUInt8, (u.toNat / 256).toUInt8]

/-- The unit with its two bytes exchanged. -/
def swap (u : UInt16) : UInt16 := (u.toNat % 256 * 256 + u.toNat / 256).toUInt16

theorem toNat_swap (u : UInt16) : (swap u).toNat = u.toNat % 256 * 256 + u.toNat / 256 := by
  have hu := u.toNat_lt
  exact toNat_toUInt16 (by omega)

/-- The units that two equal bytes make are their own exchange. -/
theorem swap_eq_self_iff {u : UInt16} : swap u = u ↔ u.toNat / 256 = u.toNat % 256 := by
  have hu := u.toNat_lt
  rw [← UInt16.toNat_inj, toNat_swap]
  omega

/-- In one order the bytes are those of the exchanged units in the other. -/
theorem bigEndian_eq_littleEndian (units : List UInt16) :
    bigEndian units = littleEndian (units.map swap) := by
  rw [bigEndian, littleEndian, List.flatMap_map]
  congr 1
  funext u
  have hu := u.toNat_lt
  have hlow : (u.toNat % 256 * 256 + u.toNat / 256) % 256 = u.toNat / 256 := by omega
  have hhigh : (u.toNat % 256 * 256 + u.toNat / 256) / 256 = u.toNat % 256 := by omega
  rw [toNat_swap, hlow, hhigh]

theorem length_littleEndian (units : List UInt16) :
    (littleEndian units).length = 2 * units.length := by
  induction units with
  | nil => rfl
  | cons u units ih =>
    rw [littleEndian, List.flatMap_cons, ← littleEndian, List.length_append, ih, List.length_cons,
      List.length_cons, List.length_cons, List.length_nil]
    omega

theorem map_swap_eq_self_iff {units : List UInt16} :
    units.map swap = units ↔ ∀ u ∈ units, swap u = u := by
  have h := List.map_inj_left (f := swap) (g := id) (l := units)
  rwa [List.map_id] at h

theorem zero_notMem_map_swap {units : List UInt16} (h : (0 : UInt16) ∉ units) :
    (0 : UInt16) ∉ units.map swap := by
  intro hmem
  obtain ⟨u, hu, hzero⟩ := List.mem_map.mp hmem
  have hsum := congrArg UInt16.toNat hzero
  rw [toNat_swap, UInt16.toNat_zero] at hsum
  have hu0 : u = 0 := by
    apply UInt16.toNat_inj.mp
    rw [UInt16.toNat_zero]
    omega
  exact h (hu0 ▸ hu)

/-- The units that bytes make, the lower one first; a byte left over is dropped. -/
def ofLittleEndian : List UInt8 → List UInt16
  | lo :: hi :: rest => (hi.toNat * 256 + lo.toNat).toUInt16 :: ofLittleEndian rest
  | _ => []

theorem ofLittleEndian_littleEndian (units : List UInt16) :
    ofLittleEndian (littleEndian units) = units := by
  induction units with
  | nil => rfl
  | cons u units ih =>
    have hu := u.toNat_lt
    have hlow : (u.toNat % 256).toUInt8.toNat = u.toNat % 256 :=
      UInt8.toNat_ofNat_of_lt' (Nat.mod_lt _ (by decide))
    have hhigh : (u.toNat / 256).toUInt8.toNat = u.toNat / 256 :=
      UInt8.toNat_ofNat_of_lt' (Nat.div_lt_of_lt_mul hu)
    have hjoin : u.toNat / 256 * 256 + u.toNat % 256 = u.toNat := by omega
    rw [littleEndian, List.flatMap_cons, ← littleEndian, List.cons_append, List.singleton_append,
      ofLittleEndian, ih, hlow, hhigh, hjoin, Nat.toUInt16_eq, UInt16.ofNat_toNat]

end Utf16
