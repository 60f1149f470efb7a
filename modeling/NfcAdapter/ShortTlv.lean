/-
# Objects with short lengths

An object is a tag byte, a length byte below `80` and a value of that length.  A search
walks over the objects of a buffer, one behind the other, until it meets a tag.
-/
import Mathlib.Algebra.Group.Nat.Defs
import Mathlib.Data.List.Basic

namespace ShortTlv

/-! ## Objects -/

/-- A tag and a value that a short length can announce. -/
structure Object where
  tag : UInt8
  value : List UInt8
  short : value.length < 0x80

/-- The bytes of an object. -/
def Object.encode (o : Object) : List UInt8 := o.tag :: o.value.length.toUInt8 :: o.value

@[simp] theorem Object.length_encode (o : Object) : o.encode.length = o.value.length + 2 := rfl

/-- The length byte of an object gives its length. -/
@[simp] theorem Object.toNat_length (o : Object) :
    o.value.length.toUInt8.toNat = o.value.length :=
  UInt8.toNat_ofNat_of_lt' (Nat.lt_trans o.short (by decide))

theorem Object.length_lt (o : Object) : o.value.length.toUInt8 < 0x80 := by
  rw [UInt8.lt_iff_toNat_lt, o.toNat_length]
  exact o.short

/-- The bytes of a list of objects. -/
def encodeAll (objects : List Object) : List UInt8 := objects.flatMap Object.encode

@[simp] theorem encodeAll_nil : encodeAll [] = [] := rfl

@[simp] theorem encodeAll_cons (o : Object) (objects : List Object) :
    encodeAll (o :: objects) = o.encode ++ encodeAll objects := rfl

/-! ## Reading one object -/

/-- The object a buffer starts with, and what stands behind it. -/
def readOne : List UInt8 → Option (Object × List UInt8)
  | t :: l :: rest =>
    if h : l < 0x80 ∧ l.toNat ≤ rest.length then
      some (⟨t, rest.take l.toNat, by
        have hl := UInt8.lt_iff_toNat_lt.mp h.1
        rw [List.length_take_of_le h.2]
        exact hl⟩, rest.drop l.toNat)
    else none
  | _ => none

/-- What is written is read back. -/
theorem readOne_encode (o : Object) (rest : List UInt8) :
    readOne (o.encode ++ rest) = some (o, rest) := by
  have hfits : o.value.length.toUInt8.toNat ≤ (o.value ++ rest).length := by
    rw [o.toNat_length, List.length_append]
    exact Nat.le_add_right _ _
  have htake : (o.value ++ rest).take o.value.length.toUInt8.toNat = o.value := by
    rw [o.toNat_length, List.take_left]
  have hdrop : (o.value ++ rest).drop o.value.length.toUInt8.toNat = rest := by
    rw [o.toNat_length, List.drop_left]
  simp only [Object.encode, List.cons_append, readOne]
  rw [dif_pos ⟨o.length_lt, hfits⟩]
  simp only [htake, hdrop]

/-- What is read was written. -/
theorem eq_of_readOne {data rest : List UInt8} {o : Object} (h : readOne data = some (o, rest)) :
    data = o.encode ++ rest := by
  match data, h with
  | t :: l :: tail, h =>
    simp only [readOne] at h
    split_ifs at h with hl
    simp only [Option.some.injEq, Prod.mk.injEq] at h
    obtain ⟨rfl, rfl⟩ := h
    have hlen : (tail.take l.toNat).length.toUInt8 = l := by
      rw [List.length_take_of_le hl.2]
      exact UInt8.ofNat_toNat
    simp only [Object.encode, hlen, List.cons_append, List.take_append_drop]

/-! ## Searching for a tag -/

/-- Behind the objects `before`, none of them with the tag, `data` has `object` with it;
what stands behind that object need not be well formed. -/
structure Reaches (data : List UInt8) (tag : UInt8) (before : List Object) (object : Object) :
    Prop where
  split : ∃ rest, data = encodeAll before ++ (object.encode ++ rest)
  found : object.tag = tag
  others : ∀ o ∈ before, o.tag ≠ tag

/-- Nothing is reached where no object is read. -/
theorem not_reaches {data : List UInt8} {tag : UInt8} {before : List Object} {object : Object}
    (hread : readOne data = none) : ¬ Reaches data tag before object := by
  rintro ⟨⟨rest, rfl⟩, -, -⟩
  cases before with
  | nil => simp [readOne_encode] at hread
  | cons o before => simp [List.append_assoc, readOne_encode] at hread

/-- One object is the wanted one, or the search goes on behind it. -/
theorem reaches_iff {data rest : List UInt8} {tag : UInt8} {o : Object}
    (hread : readOne data = some (o, rest)) {before : List Object} {object : Object} :
    Reaches data tag before object ↔
      (o.tag = tag ∧ before = [] ∧ object = o) ∨
      (o.tag ≠ tag ∧ ∃ before', before = o :: before' ∧ Reaches rest tag before' object) := by
  constructor
  · rintro ⟨⟨behind, rfl⟩, hfound, hothers⟩
    cases before with
    | nil =>
        rw [encodeAll_nil, List.nil_append, readOne_encode, Option.some.injEq,
          Prod.mk.injEq] at hread
        obtain ⟨rfl, rfl⟩ := hread
        exact Or.inl ⟨hfound, rfl, rfl⟩
    | cons o' before =>
        obtain ⟨ho, hbefore⟩ := List.forall_mem_cons.mp hothers
        rw [encodeAll_cons, List.append_assoc, readOne_encode, Option.some.injEq,
          Prod.mk.injEq] at hread
        obtain ⟨rfl, rfl⟩ := hread
        exact Or.inr ⟨ho, before, rfl, ⟨behind, rfl⟩, hfound, hbefore⟩
  · have hdata := eq_of_readOne hread
    rintro (⟨htag, rfl, rfl⟩ | ⟨ho, before', rfl, ⟨behind, rfl⟩, hfound, hbefore⟩)
    · exact ⟨⟨rest, hdata⟩, htag, by simp⟩
    · refine ⟨⟨behind, ?_⟩, hfound, List.forall_mem_cons.mpr ⟨ho, hbefore⟩⟩
      rw [hdata, encodeAll_cons, List.append_assoc]

/-- The value lies within the data. -/
theorem Reaches.length_le {data : List UInt8} {tag : UInt8} {before : List Object}
    {object : Object} (h : Reaches data tag before object) :
    (encodeAll before).length + 2 + object.value.length ≤ data.length := by
  obtain ⟨rest, hdata⟩ := h.split
  rw [hdata, List.length_append, List.length_append, object.length_encode]
  omega

/-- The value stands where the search finds it. -/
theorem Reaches.value_eq {data : List UInt8} {tag : UInt8} {before : List Object}
    {object : Object} (h : Reaches data tag before object) :
    (data.drop ((encodeAll before).length + 2)).take object.value.length = object.value := by
  obtain ⟨rest, hdata⟩ := h.split
  have hvalue : data.drop ((encodeAll before).length + 2) = object.value ++ rest := by
    rw [← List.drop_drop, hdata, List.drop_left]
    rfl
  rw [hvalue, List.take_left]

/-- The search: the objects it passes and the one it stops at.  Every object takes two
bytes, so the length of the data is enough fuel. -/
def find (tag : UInt8) : ℕ → List UInt8 → Option (List Object × Object)
  | fuel + 1, data =>
    match readOne data with
    | none => none
    | some (o, rest) =>
      if o.tag = tag then some ([], o)
      else (find tag fuel rest).map fun found => (o :: found.1, found.2)
  | 0, _ => none

/-- **The search is exact.** -/
theorem find_eq_some {tag : UInt8} {fuel : ℕ} {data : List UInt8} (hfuel : data.length ≤ fuel)
    {before : List Object} {object : Object} :
    find tag fuel data = some (before, object) ↔ Reaches data tag before object := by
  induction fuel generalizing data before with
  | zero =>
      constructor
      · intro h
        cases h
      · intro h
        have hle := h.length_le
        omega
  | succ fuel ih =>
      cases hread : readOne data with
      | none => simp [find, hread, not_reaches hread]
      | some one =>
          obtain ⟨o, rest⟩ := one
          have hlen : rest.length ≤ fuel := by
            have hdata := congrArg List.length (eq_of_readOne hread)
            rw [List.length_append, o.length_encode] at hdata
            omega
          rw [find, hread, reaches_iff hread]
          by_cases htag : o.tag = tag
          · simp [htag, eq_comm]
          · simp only [htag, if_false, false_and, ne_eq, not_false_eq_true, true_and, false_or,
              Option.map_eq_some_iff, Prod.exists, Prod.mk.injEq]
            constructor
            · rintro ⟨before', object', hfind, rfl, rfl⟩
              exact ⟨before', rfl, (ih hlen).mp hfind⟩
            · rintro ⟨before', rfl, hreach⟩
              exact ⟨before', object, (ih hlen).mpr hreach, rfl, rfl⟩

end ShortTlv
