/-
# JSON values

Values as a JSON library builds them in memory: an object is the list of its members in
the order in which they were put, and putting a key again replaces its value.  Strings are
byte strings, since a C program puts whatever bytes it holds.
-/
import Mathlib.Data.Int.Notation
import Mathlib.Logic.Function.Defs

namespace Json

/-- The bytes of a string literal. -/
def text (s : String) : List UInt8 := s.toUTF8.data.toList

/-- The bytes of a string are those of its characters. -/
theorem text_ofList (cs : List Char) :
    text (String.ofList cs) = cs.flatMap String.utf8EncodeChar := by
  simp [text, List.utf8Encode]

theorem text_injective : Function.Injective text := by
  intro a b h
  have harray : a.toUTF8.data = b.toUTF8.data := Array.toList_inj.mp h
  exact String.toByteArray_inj.mp (ByteArray.ext harray)

/-- A JSON value. -/
inductive Value
  | null
  | boolean (b : Bool)
  | number (n : ℤ)
  | string (s : List UInt8)
  | array (elems : List Value)
  | object (members : List (String × Value))

/-- The members of an object. -/
abbrev Object := List (String × Value)

/-- The value of a member. -/
def Object.get? (obj : Object) (key : String) : Option Value :=
  match obj with
  | [] => none
  | (k, v) :: rest => if k = key then some v else Object.get? rest key

/-- Put a member, in place of one with the same key if there is one. -/
def Object.put (obj : Object) (key : String) (value : Value) : Object :=
  match obj with
  | [] => [(key, value)]
  | (k, v) :: rest =>
    if k = key then (key, value) :: rest else (k, v) :: Object.put rest key value

/-- Put a member if there is a value for it. -/
def Object.put? (obj : Object) (key : String) (value : Option Value) : Object :=
  match value with
  | none => obj
  | some value => obj.put key value

/-! ## Reading back what was put -/

@[simp] theorem Object.get?_nil (key : String) : Object.get? [] key = none := rfl

@[simp] theorem Object.get?_put (obj : Object) (key key' : String) (value : Value) :
    (obj.put key value).get? key' = if key' = key then some value else obj.get? key' := by
  induction obj with
  | nil =>
    rw [put, get?, get?, get?]
    simp only [eq_comm]
  | cons member rest ih =>
    obtain ⟨k, v⟩ := member
    rw [put]
    by_cases hk : k = key
    · -- the old member goes, whichever key is asked for
      subst hk
      rw [if_pos rfl, get?, get?]
      by_cases h : k = key'
      · rw [if_pos h, if_pos h.symm]
      · rw [if_neg h, if_neg (Ne.symm h), if_neg h]
    · rw [if_neg hk, get?, get?, ih]
      by_cases h : k = key'
      · rw [if_pos h, if_pos h, if_neg fun hkey => hk (h.trans hkey)]
      · rw [if_neg h, if_neg h]

@[simp] theorem Object.get?_put? (obj : Object) (key key' : String) (value : Option Value) :
    (obj.put? key value).get? key'
      = if key' = key then value.or (obj.get? key') else obj.get? key' := by
  cases value with
  | none => simp [put?]
  | some value =>
    rw [put?, get?_put]
    rfl

end Json
