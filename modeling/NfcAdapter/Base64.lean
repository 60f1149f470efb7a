/-
# Base64

The standard alphabet with padding, and a strict decoder for it: whole groups of four, the
padding at the end only, and zero bits where bits are left over.  What is decoded is exactly
what was encoded.
-/
import Mathlib.Data.List.Basic
import Mathlib.Data.Nat.Notation
import Mathlib.Tactic.Common

namespace Base64

/-- The character of a value below 64. -/
def digit (n : ℕ) : UInt8 :=
  if n < 26 then (65 + n).toUInt8
  else if n < 52 then (97 + (n - 26)).toUInt8
  else if n < 62 then (48 + (n - 52)).toUInt8
  else if n = 62 then 43 else 47

/-- The value of a character. -/
def value? (c : UInt8) : Option ℕ :=
  if 65 ≤ c ∧ c ≤ 90 then some (c.toNat - 65)
  else if 97 ≤ c ∧ c ≤ 122 then some (c.toNat - 97 + 26)
  else if 48 ≤ c ∧ c ≤ 57 then some (c.toNat - 48 + 52)
  else if c = 43 then some 62
  else if c = 47 then some 63
  else none

/-- The padding character. -/
def pad : UInt8 := 61

/-- Three bytes are four digits; one or two bytes at the end are padded to four characters. -/
def encode : List UInt8 → List UInt8
  | a :: b :: c :: rest =>
    digit (a.toNat / 4) :: digit (a.toNat % 4 * 16 + b.toNat / 16) ::
      digit (b.toNat % 16 * 4 + c.toNat / 64) :: digit (c.toNat % 64) :: encode rest
  | [a, b] =>
    [digit (a.toNat / 4), digit (a.toNat % 4 * 16 + b.toNat / 16), digit (b.toNat % 16 * 4), pad]
  | [a] => [digit (a.toNat / 4), digit (a.toNat % 4 * 16), pad, pad]
  | [] => []

/-- The bytes of a last group. -/
def decodeLast (w x y z : UInt8) : Option (List UInt8) := do
  let i ← value? w
  let j ← value? x
  if y = pad then
    if z = pad ∧ j % 16 = 0 then some [(i * 4 + j / 16).toUInt8] else none
  else do
    let k ← value? y
    if z = pad ∧ k % 4 = 0 then
      some [(i * 4 + j / 16).toUInt8, (j % 16 * 16 + k / 4).toUInt8]
    else none

/-- The bytes of a full group. -/
def decodeGroup (w x y z : UInt8) : Option (List UInt8) := do
  let i ← value? w
  let j ← value? x
  let k ← value? y
  let l ← value? z
  some [(i * 4 + j / 16).toUInt8, (j % 16 * 16 + k / 4).toUInt8, (k % 4 * 64 + l).toUInt8]

/-- The strict decoder. -/
def decode : List UInt8 → Option (List UInt8)
  | [] => some []
  | w :: x :: y :: z :: rest =>
    if z = pad then if rest = [] then decodeLast w x y z else none
    else do
      let bytes ← decodeGroup w x y z
      let more ← decode rest
      some (bytes ++ more)
  | _ => none

/-! ## Digits -/

theorem value?_digit {n : ℕ} (hn : n < 64) : value? (digit n) = some n := by
  have hall : ∀ n < 64, value? (digit n) = some n := by decide
  exact hall n hn

theorem digit_ne_pad {n : ℕ} (hn : n < 64) : digit n ≠ pad := by
  have hall : ∀ n < 64, digit n ≠ pad := by decide
  exact hall n hn

theorem value?_eq_some {c : UInt8} {n : ℕ} (h : value? c = some n) : n < 64 ∧ digit n = c := by
  have hall : ∀ m < 256, (value? m.toUInt8).all (fun n => n < 64 ∧ digit n = m.toUInt8) = true := by
    decide +kernel
  have hc := hall c.toNat c.toNat_lt
  rw [show c.toNat.toUInt8 = c from UInt8.ofNat_toNat, h] at hc
  simpa using hc

/-- A number below 256 is the value of its byte. -/
theorem toNat_toUInt8 {n : ℕ} (hn : n < 256) : n.toUInt8.toNat = n := by
  show n % 256 = n
  omega

theorem toUInt8_eq {n : ℕ} {a : UInt8} (h : n = a.toNat) : n.toUInt8 = a := by
  rw [h]
  exact UInt8.ofNat_toNat

/-! ## The round trip -/

/-- The digits of `a`, `b` and `c` are those of a full group. -/
theorem decodeGroup_encode (a b c : UInt8) :
    decodeGroup (digit (a.toNat / 4)) (digit (a.toNat % 4 * 16 + b.toNat / 16))
      (digit (b.toNat % 16 * 4 + c.toNat / 64)) (digit (c.toNat % 64)) = some [a, b, c] := by
  have ha := a.toNat_lt
  have hb := b.toNat_lt
  have hc := c.toNat_lt
  rw [decodeGroup, value?_digit (by omega), value?_digit (by omega), value?_digit (by omega),
    value?_digit (by omega)]
  simp only [Option.bind_eq_bind, Option.bind_some, Option.some.injEq, List.cons.injEq, and_true]
  exact ⟨toUInt8_eq (by omega), toUInt8_eq (by omega), toUInt8_eq (by omega)⟩

theorem decodeLast_encode_two (a b : UInt8) :
    decodeLast (digit (a.toNat / 4)) (digit (a.toNat % 4 * 16 + b.toNat / 16))
      (digit (b.toNat % 16 * 4)) pad = some [a, b] := by
  have ha := a.toNat_lt
  have hb := b.toNat_lt
  rw [decodeLast, value?_digit (by omega), value?_digit (by omega), value?_digit (by omega)]
  simp only [Option.bind_eq_bind, Option.bind_some, if_neg (digit_ne_pad (n := b.toNat % 16 * 4)
    (by omega)), true_and]
  rw [if_pos (by omega)]
  simp only [Option.some.injEq, List.cons.injEq, and_true]
  exact ⟨toUInt8_eq (by omega), toUInt8_eq (by omega)⟩

theorem decodeLast_encode_one (a : UInt8) :
    decodeLast (digit (a.toNat / 4)) (digit (a.toNat % 4 * 16)) pad pad = some [a] := by
  have ha := a.toNat_lt
  rw [decodeLast, value?_digit (by omega), value?_digit (by omega)]
  simp only [Option.bind_eq_bind, Option.bind_some, if_true, true_and]
  rw [if_pos (by omega)]
  simp only [Option.some.injEq, List.cons.injEq, and_true]
  exact toUInt8_eq (by omega)

/-- **Round trip.** -/
theorem decode_encode (bytes : List UInt8) : decode (encode bytes) = some bytes := by
  induction bytes using encode.induct with
  | case1 a b c rest ih =>
    rw [encode, decode, if_neg (digit_ne_pad (by omega)), decodeGroup_encode, ih]
    rfl
  | case2 a b =>
    rw [encode, decode, if_pos rfl, if_pos rfl]
    exact decodeLast_encode_two a b
  | case3 a =>
    rw [encode, decode, if_pos rfl, if_pos rfl]
    exact decodeLast_encode_one a
  | case4 => rfl

/-- A last group is the encoding of its bytes. -/
theorem encode_decodeLast {w x y : UInt8} {bytes : List UInt8}
    (h : decodeLast w x y pad = some bytes) : encode bytes = [w, x, y, pad] := by
  simp only [decodeLast, Option.bind_eq_bind, Option.bind_eq_some_iff] at h
  obtain ⟨i, hi, j, hj, h⟩ := h
  obtain ⟨hi64, rfl⟩ := value?_eq_some hi
  obtain ⟨hj64, rfl⟩ := value?_eq_some hj
  by_cases hy : y = pad
  · rw [if_pos hy] at h
    split at h
    · next hz =>
      obtain rfl := Option.some.inj h
      have hi' : (i * 4 + j / 16) / 4 = i := by omega
      have hj' : (i * 4 + j / 16) % 4 * 16 = j := by omega
      rw [encode, toNat_toUInt8 (by omega), hy, hi', hj']
    · cases h
  · rw [if_neg hy] at h
    obtain ⟨k, hk, hlast⟩ := Option.bind_eq_some_iff.mp h
    obtain ⟨hk64, rfl⟩ := value?_eq_some hk
    split at hlast
    · next hz =>
      obtain rfl := Option.some.inj hlast
      have hi' : (i * 4 + j / 16) / 4 = i := by omega
      have hj' : (i * 4 + j / 16) % 4 * 16 + (j % 16 * 16 + k / 4) / 16 = j := by omega
      have hk' : (j % 16 * 16 + k / 4) % 16 * 4 = k := by omega
      rw [encode, toNat_toUInt8 (by omega), toNat_toUInt8 (by omega), hi', hj', hk']
    · cases hlast

/-- A full group is the encoding of its three bytes. -/
theorem encode_decodeGroup {w x y z : UInt8} {bytes : List UInt8}
    (h : decodeGroup w x y z = some bytes) (rest : List UInt8) :
    encode (bytes ++ rest) = w :: x :: y :: z :: encode rest := by
  simp only [decodeGroup, Option.bind_eq_bind, Option.bind_eq_some_iff, Option.some.injEq] at h
  obtain ⟨i, hi, j, hj, k, hk, l, hl, rfl⟩ := h
  obtain ⟨hi64, rfl⟩ := value?_eq_some hi
  obtain ⟨hj64, rfl⟩ := value?_eq_some hj
  obtain ⟨hk64, rfl⟩ := value?_eq_some hk
  obtain ⟨hl64, rfl⟩ := value?_eq_some hl
  have hi' : (i * 4 + j / 16) / 4 = i := by omega
  have hj' : (i * 4 + j / 16) % 4 * 16 + (j % 16 * 16 + k / 4) / 16 = j := by omega
  have hk' : (j % 16 * 16 + k / 4) % 16 * 4 + (k % 4 * 64 + l) / 64 = k := by omega
  have hl' : (k % 4 * 64 + l) % 64 = l := by omega
  simp only [List.cons_append, List.nil_append, encode]
  rw [toNat_toUInt8 (by omega), toNat_toUInt8 (by omega), toNat_toUInt8 (by omega), hi', hj',
    hk', hl']

/-- What the decoder accepts is the encoding of what it returns. -/
theorem encode_decode : ∀ {chars bytes : List UInt8}, decode chars = some bytes →
    encode bytes = chars
  | [], bytes, h => by
    obtain rfl := Option.some.inj h
    rfl
  | [_], _, h | [_, _], _, h | [_, _, _], _, h => nomatch h
  | w :: x :: y :: z :: rest, bytes, h => by
    rw [decode] at h
    by_cases hz : z = pad
    · -- the padding is in the last group
      rw [if_pos hz] at h
      split at h
      · next hrest =>
        subst hz hrest
        exact encode_decodeLast h
      · cases h
    · rw [if_neg hz] at h
      simp only [Option.bind_eq_bind, Option.bind_eq_some_iff, Option.some.injEq] at h
      obtain ⟨group, hgroup, more, hmore, rfl⟩ := h
      rw [encode_decodeGroup hgroup, encode_decode hmore]

/-- **The decoder reads encodings and nothing else.** -/
theorem decode_eq_some_iff {chars bytes : List UInt8} :
    decode chars = some bytes ↔ encode bytes = chars := by
  constructor
  · exact encode_decode
  · rintro rfl
    exact decode_encode bytes

end Base64
