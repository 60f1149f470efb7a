/-
# BER-TLV lengths (`bac.c`)

The length parser that the DG1 reader, the EF.CardAccess reader and both
secure-messaging decoders share.  Three length forms are accepted: one byte below
`80`, `81` and one byte, `82` and two bytes.
-/
import Mathlib.Tactic.Ring

namespace NfcAdapter

/-- The byte strings the program handles. -/
abbrev Bytes := List UInt8

/-- A byte array of fixed size, such as `guint8 ssc[8]`. -/
abbrev FixedBytes (n : ℕ) := { bs : Bytes // bs.length = n }

/-- A zeroed array of `n` bytes after up to `n` bytes have been copied to its start. -/
def FixedBytes.copy (n : ℕ) (bs : Bytes) : FixedBytes n :=
  ⟨(bs ++ List.replicate n 0).take n, by
    rw [List.length_take, List.length_append, List.length_replicate]
    omega⟩

/-- A stretch of bytes. -/
structure Extent where
  start : ℕ
  length : ℕ
  deriving DecidableEq, Repr

def Extent.Within (inner outer : Extent) : Prop :=
  outer.start ≤ inner.start ∧ inner.start + inner.length ≤ outer.start + outer.length

instance (inner outer : Extent) : Decidable (inner.Within outer) :=
  inferInstanceAs (Decidable (_ ∧ _))

/-! ## The parser -/

/-- `ber_length`: the number of length bytes at the start of `p`, and the content
length they give. -/
def berLength (p : Bytes) : Option (ℕ × ℕ) :=
  match p with
  | [] => none
  | b :: rest =>
    if b < 0x80 then some (1, b.toNat)
    else if b = 0x81 then
      match rest with
      | [] => none
      | c :: _ => some (2, c.toNat)
    else if b = 0x82 then
      match rest with
      | c :: d :: _ => some (3, c.toNat * 256 + d.toNat)
      | _ => none
    else none

/-- `bac_ber_tlv_header`: header length (a one-byte tag and the length bytes) and
content length of the element `data` starts with. -/
def bacBerTlvHeader (data : Bytes) : Option (ℕ × ℕ) :=
  if data.length < 2 then none
  else (berLength data.tail).map fun r => (1 + r.1, r.2)

/-! ## What a parsed length looks like -/

theorem berLength_pos {p : Bytes} {h c : ℕ} (hp : berLength p = some (h, c)) :
    1 ≤ h ∧ h ≤ 3 ∧ h ≤ p.length := by
  cases p with
  | nil => simp [berLength] at hp
  | cons b rest =>
    simp only [berLength] at hp
    split at hp
    · simp only [Option.some.injEq, Prod.mk.injEq] at hp
      simp [← hp.1]
    · split at hp
      · cases rest with
        | nil => simp at hp
        | cons d rest =>
          simp only [Option.some.injEq, Prod.mk.injEq] at hp
          simp [← hp.1]
      · split at hp
        · match rest, hp with
          | c :: d :: rest, hp =>
            simp only [Option.some.injEq, Prod.mk.injEq] at hp
            simp [← hp.1]
        · simp at hp

/-- No accepted form denotes a content of `2 ^ 16` bytes or more. -/
theorem berLength_content_lt {p : Bytes} {h c : ℕ} (hp : berLength p = some (h, c)) :
    c < 65536 := by
  cases p with
  | nil => simp [berLength] at hp
  | cons b rest =>
    have hb := b.toNat_lt
    simp only [berLength] at hp
    split at hp
    · simp only [Option.some.injEq, Prod.mk.injEq] at hp
      omega
    · split at hp
      · cases rest with
        | nil => simp at hp
        | cons d rest =>
          have hd := d.toNat_lt
          simp only [Option.some.injEq, Prod.mk.injEq] at hp
          omega
      · split at hp
        · match rest, hp with
          | c' :: d :: rest, hp =>
            have hc := c'.toNat_lt
            have hd := d.toNat_lt
            simp only [Option.some.injEq, Prod.mk.injEq] at hp
            omega
        · simp at hp

/-- The parser looks at the length bytes only: what follows them does not matter. -/
theorem berLength_append {p : Bytes} {h c : ℕ} (hp : berLength p = some (h, c)) (q : Bytes) :
    berLength (p ++ q) = some (h, c) := by
  cases p with
  | nil => simp [berLength] at hp
  | cons b rest =>
    simp only [berLength, List.cons_append] at hp ⊢
    split at hp
    · next hb => rw [if_pos hb]; exact hp
    · next hb =>
      rw [if_neg hb]
      split at hp
      · next h81 =>
        rw [if_pos h81]
        cases rest with
        | nil => simp at hp
        | cons d rest => simpa using hp
      · next h81 =>
        rw [if_neg h81]
        split at hp
        · next h82 =>
          rw [if_pos h82]
          match rest, hp with
          | c' :: d :: rest, hp => simpa using hp
        · simp at hp

theorem bacBerTlvHeader_eq_some {data : Bytes} {h c : ℕ} :
    bacBerTlvHeader data = some (h, c) ↔
      2 ≤ data.length ∧ ∃ h', berLength data.tail = some (h', c) ∧ h = 1 + h' := by
  unfold bacBerTlvHeader
  split
  · next hlt => simp; omega
  · next hge =>
    simp only [Option.map_eq_some_iff, Prod.exists, Prod.mk.injEq]
    constructor
    · rintro ⟨a, b, hab, rfl, rfl⟩
      exact ⟨by omega, a, hab, rfl⟩
    · rintro ⟨-, h', hb, rfl⟩
      exact ⟨h', c, hb, rfl, rfl⟩

theorem bacBerTlvHeader_bounds {data : Bytes} {h c : ℕ} (hd : bacBerTlvHeader data = some (h, c)) :
    2 ≤ h ∧ h ≤ 4 ∧ h ≤ data.length ∧ c < 65536 := by
  obtain ⟨hlen, h', hb, rfl⟩ := bacBerTlvHeader_eq_some.mp hd
  have hpos := berLength_pos hb
  rw [List.length_tail] at hpos
  have hc := berLength_content_lt hb
  omega

theorem bacBerTlvHeader_append {data : Bytes} {h c : ℕ} (hd : bacBerTlvHeader data = some (h, c))
    (q : Bytes) : bacBerTlvHeader (data ++ q) = some (h, c) := by
  obtain ⟨hlen, h', hb, rfl⟩ := bacBerTlvHeader_eq_some.mp hd
  refine bacBerTlvHeader_eq_some.mpr ⟨by rw [List.length_append]; omega, h', ?_, rfl⟩
  rw [List.tail_append_of_ne_nil (by intro hnil; simp [hnil] at hlen)]
  exact berLength_append hb q

/-! ## Encoding a length -/

/-- The three ways the parser reads a length. -/
inductive LengthForm where
  | short
  | one
  | two
  deriving DecidableEq, Repr

/-- The length bytes of `n` in the given form. -/
def LengthForm.encode : LengthForm → ℕ → Bytes
  | .short, n => [n.toUInt8]
  | .one, n => [0x81, n.toUInt8]
  | .two, n => [0x82, (n / 256).toUInt8, n.toUInt8]

/-- A content length the form can express. -/
def LengthForm.Fits : LengthForm → ℕ → Prop
  | .short, n => n < 0x80
  | .one, n => n < 0x100
  | .two, n => n < 0x10000

instance (f : LengthForm) (n : ℕ) : Decidable (f.Fits n) := by
  cases f <;> exact Nat.decLt _ _

theorem toNat_toUInt8 {n : ℕ} (h : n < 256) : n.toUInt8.toNat = n := by
  simp [Nat.mod_eq_of_lt h]

/-- **Length round trip.** The parser reads back every length in every form. -/
theorem berLength_encode (f : LengthForm) (n : ℕ) (h : f.Fits n) (rest : Bytes) :
    berLength (f.encode n ++ rest) = some ((f.encode n).length, n) := by
  cases f with
  | short =>
    have hn : n < 0x80 := h
    have hlt : n.toUInt8 < 0x80 := by
      rw [UInt8.lt_iff_toNat_lt, toNat_toUInt8 (by omega)]
      exact hn
    have hval : n.toUInt8.toNat = n := toNat_toUInt8 (by omega)
    simp only [LengthForm.encode, List.cons_append, berLength, if_pos hlt, hval, List.length_cons,
      List.length_nil]
  | one =>
    have hval : n.toUInt8.toNat = n := toNat_toUInt8 h
    have hform : ¬ ((0x81 : UInt8) < 0x80) := by decide
    simp only [LengthForm.encode, List.cons_append, berLength, if_neg hform, if_true, hval,
      List.length_cons, List.length_nil]
  | two =>
    have hn : n < 65536 := h
    have hval : (n / 256).toUInt8.toNat * 256 + n.toUInt8.toNat = n := by
      rw [toNat_toUInt8 (by omega), show n.toUInt8.toNat = n % 256 from rfl]
      omega
    have hform : ¬ ((0x82 : UInt8) < 0x80) := by decide
    have hne : ¬ ((0x82 : UInt8) = 0x81) := by decide
    simp only [LengthForm.encode, List.cons_append, berLength, if_neg hform, if_neg hne, if_true,
      hval, List.length_cons, List.length_nil]

/-- A TLV object: tag, length in the given form, content. -/
def berTlv (tag : UInt8) (f : LengthForm) (content : Bytes) : Bytes :=
  tag :: (f.encode content.length ++ content)

theorem length_encode_pos (f : LengthForm) (n : ℕ) : 1 ≤ (f.encode n).length := by
  cases f <;> simp [LengthForm.encode]

@[simp] theorem length_berTlv (tag : UInt8) (f : LengthForm) (content : Bytes) :
    (berTlv tag f content).length = 1 + (f.encode content.length).length + content.length := by
  simp [berTlv]
  ring

theorem bacBerTlvHeader_berTlv (tag : UInt8) (f : LengthForm) (content : Bytes)
    (h : f.Fits content.length) (rest : Bytes) :
    bacBerTlvHeader (berTlv tag f content ++ rest)
      = some (1 + (f.encode content.length).length, content.length) := by
  have hpos := length_encode_pos f content.length
  refine bacBerTlvHeader_eq_some.mpr ⟨?_, (f.encode content.length).length, ?_, rfl⟩
  · rw [List.length_append, length_berTlv]
    omega
  · rw [berTlv, List.cons_append, List.tail_cons, List.append_assoc, berLength_encode f _ h]

end NfcAdapter
