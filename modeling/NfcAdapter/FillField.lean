/-
# Fixed-width records with filled fields

A record is a row of fields of fixed widths, each value followed by fill symbols up to
its width.  A field is found again by its offset, and a value that has no fill symbol in
it by cutting the field at the first one.
-/
import Mathlib.Data.List.DropRight

namespace FillField

variable {α : Type}

/-! ## Fields by offset -/

/-- The `len` symbols from position `pos` on. -/
def slice (record : List α) (pos len : ℕ) : List α := (record.drop pos).take len

theorem length_slice {record : List α} {pos len : ℕ} (h : pos + len ≤ record.length) :
    (slice record pos len).length = len := by
  rw [slice, List.length_take, List.length_drop]
  omega

/-- A field stands behind the fields before it. -/
theorem slice_flatten (before : List (List α)) (field : List α) (after : List (List α))
    {pos len : ℕ} (hpos : before.flatten.length = pos) (hlen : field.length = len) :
    slice (before ++ field :: after).flatten pos len = field := by
  rw [slice, List.flatten_append, List.flatten_cons, List.drop_left' hpos, List.take_left' hlen]

/-- A field and the symbol behind it. -/
theorem slice_succ {record : List α} {pos len : ℕ} {a : α} (h : record[pos + len]? = some a) :
    slice record pos (len + 1) = slice record pos len ++ [a] := by
  rw [slice, slice, List.take_add_one, List.getElem?_drop, h]
  rfl

/-! ## Values with fill -/

variable {fill : α}

/-- The value with fill symbols up to the width. -/
def pad (fill : α) (width : ℕ) (value : List α) : List α :=
  value ++ List.replicate (width - value.length) fill

theorem length_pad {width : ℕ} {value : List α} (h : value.length ≤ width) :
    (pad fill width value).length = width := by
  rw [pad, List.length_append, List.length_replicate]
  omega

theorem mem_pad {width : ℕ} {value : List α} {a : α} (h : a ∈ pad fill width value) :
    a ∈ value ∨ a = fill := by
  rcases List.mem_append.mp h with h | h
  · exact Or.inl h
  · exact Or.inr (List.eq_of_mem_replicate h)

section Trim

variable [DecidableEq α]

/-- A field up to its first fill symbol. -/
def trim (fill : α) (field : List α) : List α := field.takeWhile (· != fill)

theorem not_mem_trim (field : List α) : fill ∉ trim fill field := by
  intro h
  simpa using List.mem_takeWhile_imp h

theorem length_trim_le (field : List α) : (trim fill field).length ≤ field.length :=
  (List.takeWhile_prefix _).length_le

theorem trim_of_not_mem {field : List α} (h : fill ∉ field) : trim fill field = field := by
  rw [trim, List.takeWhile_eq_self_iff]
  intro a ha
  rw [bne_iff_ne]
  rintro rfl
  exact h ha

/-- A value without a fill symbol is found again. -/
theorem trim_pad {width : ℕ} {value : List α} (h : fill ∉ value) :
    trim fill (pad fill width value) = value := by
  have hvalue : ∀ a ∈ value, (a != fill) = true := by
    intro a ha
    rw [bne_iff_ne]
    rintro rfl
    exact h ha
  rw [trim, pad, List.takeWhile_append_of_pos hvalue, List.takeWhile_replicate]
  simp

/-- Only a field without a fill symbol is as long as what it is cut to. -/
theorem length_trim_eq_iff {field : List α} :
    (trim fill field).length = field.length ↔ fill ∉ field := by
  constructor
  · intro h
    rw [← (List.takeWhile_prefix _).eq_of_length h]
    exact not_mem_trim field
  · intro h
    rw [trim_of_not_mem h]

end Trim

end FillField
