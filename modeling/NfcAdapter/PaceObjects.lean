/-
# Dynamic authentication objects (`pace.c`)

Every round of the exchange carries one object inside a short-form 7C.  The search for it
is a cursor over the response; here it is compared with splitting the content of the 7C
into its objects.
-/
import NfcAdapter.Pace
import NfcAdapter.ShortTlv

namespace NfcAdapter

open ShortTlv

/-! ## The cursor -/

/-- The loop of `find_in_7c`, at offset `pos` of a response whose 7C object ends at
`stop`.  The outer option is `none` where the loop reads behind the response. -/
def findIn7cLoop (resp : Bytes) (stop : ℕ) (tag : UInt8) : ℕ → ℕ → Option (Option Extent)
  | fuel + 1, pos =>
    if pos + 2 ≤ stop then do
      let t ← resp[pos]?
      let l ← resp[pos + 1]?
      if l ≥ 0x80 ∨ pos + 2 + l.toNat > stop then some none
      else if t = tag then some (some ⟨pos + 2, l.toNat⟩)
      else findIn7cLoop resp stop tag fuel (pos + 2 + l.toNat)
    else some none
  | 0, _ => some none

/-- `find_in_7c`, with `*content_out` as an offset into the response. -/
def findIn7cSlice (resp : Bytes) (tag : UInt8) : Option (Option Extent) :=
  match resp with
  | outer :: l :: _ =>
    if outer ≠ 0x7C ∨ l ≥ 0x80 then some none
    else if l.toNat + 2 > resp.length then some none
    else findIn7cLoop resp (l.toNat + 2) tag l.toNat 2
  | _ => some none

/-! ## The cursor is a search -/

/-- What the loop makes of the objects the search passes and the one it stops at. -/
def sliceFrom (pos : ℕ) (found : List Object × Object) : Extent :=
  ⟨pos + (encodeAll found.1).length + 2, found.2.value.length⟩

/-- One object further. -/
theorem sliceFrom_cons (pos : ℕ) (o : Object) (found : List Object × Object) :
    sliceFrom pos (o :: found.1, found.2) = sliceFrom (pos + 2 + o.value.length) found := by
  simp only [sliceFrom, encodeAll_cons, List.length_append, o.length_encode, Extent.mk.injEq,
    and_true]
  omega

/-- A short length below the end of the object is what one read asks for. -/
theorem readOne_cons_cons (t l : UInt8) (rest : Bytes) :
    (∃ o, readOne (t :: l :: rest) = some (o, rest.drop l.toNat) ∧ o.tag = t ∧
        o.value = rest.take l.toNat ∧ o.value.length = l.toNat ∧
        ¬ (l ≥ 0x80 ∨ rest.length < l.toNat)) ∨
      (readOne (t :: l :: rest) = none ∧ (l ≥ 0x80 ∨ rest.length < l.toNat)) := by
  by_cases h : l < 0x80 ∧ l.toNat ≤ rest.length
  · refine Or.inl ⟨_, by rw [readOne, dif_pos h], rfl, rfl, List.length_take_of_le h.2, ?_⟩
    rintro (hl | hl)
    · exact absurd h.1 (UInt8.not_lt.mpr hl)
    · omega
  · refine Or.inr ⟨by rw [readOne, dif_neg h], ?_⟩
    rcases not_and_or.mp h with hl | hl
    · exact Or.inl (UInt8.not_lt.mp hl)
    · exact Or.inr (by omega)

/-- The walk over the content is the search. -/
theorem findInContent_eq (fuel : ℕ) (content : Bytes) (tag : UInt8) :
    findInContent fuel content tag = (find tag fuel content).map fun found => found.2.value := by
  induction fuel generalizing content with
  | zero => simp [findInContent, find]
  | succ fuel ih =>
      rcases content with - | ⟨t, - | ⟨l, rest⟩⟩
      · simp [findInContent, find, readOne]
      · simp [findInContent, find, readOne]
      · rw [findInContent, find]
        rcases readOne_cons_cons t l rest with ⟨o, hread, ht, hvalue, -, hfits⟩ | ⟨hread, hno⟩
        · rw [hread, if_neg hfits]
          simp only [ht]
          split
          · rw [Option.map_some, hvalue]
          · rw [ih, Option.map_map]
            rfl
        · rw [hread, if_pos hno]
          rfl

/-- The cursor stays within the response, and finds what the search finds in the content
that is left. -/
theorem findIn7cLoop_eq {resp : Bytes} {stop : ℕ} (hstop : stop ≤ resp.length) (tag : UInt8)
    (fuel pos : ℕ) :
    findIn7cLoop resp stop tag fuel pos
      = some ((find tag fuel ((resp.take stop).drop pos)).map (sliceFrom pos)) := by
  induction fuel generalizing pos with
  | zero => simp [findIn7cLoop, find]
  | succ fuel ih =>
      rw [findIn7cLoop, find]
      by_cases hpos : pos + 2 ≤ stop
      · rw [if_pos hpos]
        have hcontent : (resp.take stop).drop pos
            = resp[pos] :: resp[pos + 1] :: (resp.take stop).drop (pos + 2) := by
          rw [List.drop_eq_getElem_cons (by rw [List.length_take]; omega),
            List.drop_eq_getElem_cons (by rw [List.length_take]; omega), List.getElem_take,
            List.getElem_take]
        have hlen : ((resp.take stop).drop (pos + 2)).length = stop - (pos + 2) := by
          rw [List.length_drop, List.length_take_of_le hstop]
        have hbound : pos + 2 + resp[pos + 1].toNat > stop ↔
            ((resp.take stop).drop (pos + 2)).length < resp[pos + 1].toNat := by
          rw [hlen]
          omega
        rw [hcontent, List.getElem?_eq_getElem (by omega), List.getElem?_eq_getElem (by omega)]
        simp only [Option.bind_eq_bind, Option.bind_some, hbound]
        rcases readOne_cons_cons resp[pos] resp[pos + 1] ((resp.take stop).drop (pos + 2)) with
          ⟨o, hread, ht, -, hl, hfits⟩ | ⟨hread, hno⟩
        · rw [hread, if_neg hfits]
          simp only [ht]
          split
          · simp [sliceFrom, hl]
          · rw [ih, List.drop_drop, Option.map_map]
            congr 2
            funext found
            rw [Function.comp_apply, sliceFrom_cons, hl]
        · rw [hread, if_pos hno]
          rfl
      · -- less than a tag and a length is left
        rw [if_neg hpos]
        have hshort : ((resp.take stop).drop pos).length < 2 := by
          rw [List.length_drop, List.length_take_of_le hstop]
          omega
        generalize (resp.take stop).drop pos = content at hshort ⊢
        rcases content with - | ⟨t, - | ⟨l, rest⟩⟩
        · rfl
        · rfl
        · simp only [List.length_cons] at hshort
          omega

/-! ## The outer object -/

/-- The response starts with a short-form 7C object that fits in it. -/
def In7c (resp : Bytes) (outer : Object) : Prop :=
  outer.tag = 0x7C ∧ ∃ trailing, resp = outer.encode ++ trailing

/-- The search behind the header of a 7C object. -/
theorem findIn7cSlice_of_in7c {resp : Bytes} {outer : Object} (h : In7c resp outer)
    (tag : UInt8) :
    findIn7cSlice resp tag
      = some ((find tag outer.value.length outer.value).map (sliceFrom 2)) := by
  obtain ⟨htag, trailing, rfl⟩ := h
  have hl : ¬ outer.value.length.toUInt8 ≥ 0x80 := UInt8.not_le.mpr outer.length_lt
  have hresp : outer.encode ++ trailing
      = 0x7C :: outer.value.length.toUInt8 :: (outer.value ++ trailing) := by
    rw [Object.encode, htag]
    rfl
  have hstop : outer.value.length + 2 ≤ (outer.encode ++ trailing).length := by
    rw [List.length_append, outer.length_encode]
    omega
  have hcontent : ((outer.encode ++ trailing).take (outer.value.length + 2)).drop 2
      = outer.value := by
    rw [hresp, List.take_succ_cons, List.take_succ_cons, List.take_left]
    rfl
  rw [hresp, findIn7cSlice]
  simp only [ne_eq, not_true_eq_false, hl, or_self, if_false, outer.toNat_length]
  rw [← hresp, if_neg (by omega), findIn7cLoop_eq hstop, hcontent]

/-- The same with the value in place of its offset. -/
theorem findIn7c_of_in7c {resp : Bytes} {outer : Object} (h : In7c resp outer) (tag : UInt8) :
    findIn7c resp tag
      = (find tag outer.value.length outer.value).map fun found => found.2.value := by
  obtain ⟨htag, trailing, rfl⟩ := h
  have hl : ¬ outer.value.length.toUInt8 ≥ 0x80 := UInt8.not_le.mpr outer.length_lt
  have hfits : ¬ (outer.value ++ trailing).length < outer.value.length := by
    rw [List.length_append]
    omega
  rw [Object.encode, htag, List.cons_append, List.cons_append, findIn7c]
  simp only [ne_eq, not_true_eq_false, hl, or_self, if_false, outer.toNat_length, hfits,
    List.take_left, findInContent_eq]

/-- Without such an object nothing is found. -/
theorem findIn7c_of_not_in7c {resp : Bytes} (h : ¬ ∃ outer, In7c resp outer) (tag : UInt8) :
    findIn7cSlice resp tag = some none ∧ findIn7c resp tag = none := by
  match resp, h with
  | [], _ => exact ⟨rfl, rfl⟩
  | [t], _ => exact ⟨rfl, rfl⟩
  | t :: l :: rest, h =>
      rw [findIn7cSlice, findIn7c]
      by_cases hhead : t ≠ 0x7C ∨ l ≥ 0x80
      · rw [if_pos hhead, if_pos hhead]
        exact ⟨rfl, rfl⟩
      · have hfits : rest.length < l.toNat := by
          by_contra hle
          obtain ⟨ht, hl⟩ := not_or.mp hhead
          rcases readOne_cons_cons t l rest with ⟨o, hread, htag, -⟩ | ⟨-, hno⟩
          · exact h ⟨o, htag.trans (not_not.mp ht), _, eq_of_readOne hread⟩
          · exact hno.elim hl hle
        rw [if_neg hhead, if_neg hhead, if_pos hfits,
          if_pos (by simp only [List.length_cons]; omega)]
        exact ⟨rfl, rfl⟩

/-! ## What is found -/

/-- The bytes of a response at a stretch of it. -/
def Extent.read (e : Extent) (data : Bytes) : Bytes := (data.drop e.start).take e.length

/-- The search reaches an object of the 7C. -/
def Reaches7c (resp : Bytes) (tag : UInt8) (outer : Object) (before : List Object)
    (object : Object) : Prop :=
  In7c resp outer ∧ Reaches outer.value tag before object

/-- The slice of an object the search reaches is its value, inside the 7C object. -/
theorem Reaches7c.slice {resp : Bytes} {tag : UInt8} {outer object : Object}
    {before : List Object} (h : Reaches7c resp tag outer before object) :
    (sliceFrom 2 (before, object)).read resp = object.value ∧
      (sliceFrom 2 (before, object)).Within ⟨2, outer.value.length⟩ := by
  obtain ⟨⟨htag, trailing, rfl⟩, hreach⟩ := h
  have hle := hreach.length_le
  constructor
  · have hdrop : (outer.encode ++ trailing).drop (2 + (encodeAll before).length + 2)
        = outer.value.drop ((encodeAll before).length + 2) ++ trailing := by
      rw [Nat.add_assoc, ← List.drop_drop]
      show (outer.value ++ trailing).drop ((encodeAll before).length + 2) = _
      rw [List.drop_append_of_le_length (by omega)]
    rw [Extent.read, sliceFrom]
    simp only [hdrop]
    rw [List.take_append_of_le_length (by rw [List.length_drop]; omega), hreach.value_eq]
  · constructor <;> simp only [sliceFrom] <;> omega

/-- A slice is found exactly for an object the search reaches. -/
theorem findIn7cSlice_eq_some {resp : Bytes} {tag : UInt8} {e : Extent} :
    findIn7cSlice resp tag = some (some e) ↔
      ∃ outer before object, Reaches7c resp tag outer before object ∧
        e = sliceFrom 2 (before, object) := by
  constructor
  · intro h
    by_cases hex : ∃ outer, In7c resp outer
    · obtain ⟨outer, houter⟩ := hex
      rw [findIn7cSlice_of_in7c houter, Option.some.injEq, Option.map_eq_some_iff] at h
      obtain ⟨⟨before, object⟩, hfind, rfl⟩ := h
      exact ⟨outer, before, object, ⟨houter, (find_eq_some le_rfl).mp hfind⟩, rfl⟩
    · rw [(findIn7c_of_not_in7c hex tag).1] at h
      cases h
  · rintro ⟨outer, before, object, ⟨houter, hreach⟩, rfl⟩
    rw [findIn7cSlice_of_in7c houter, (find_eq_some le_rfl).mpr hreach]
    rfl

/-- The two models of `find_in_7c` agree, and no read leaves the response. -/
theorem findIn7cSlice_total (resp : Bytes) (tag : UInt8) :
    ∃ found, findIn7cSlice resp tag = some found ∧
      findIn7c resp tag = found.map fun e => e.read resp := by
  by_cases hex : ∃ outer, In7c resp outer
  · obtain ⟨outer, houter⟩ := hex
    refine ⟨_, findIn7cSlice_of_in7c houter tag, ?_⟩
    rw [findIn7c_of_in7c houter]
    cases hfind : find tag outer.value.length outer.value with
    | none => rfl
    | some found =>
        have hreach : Reaches7c resp tag outer found.1 found.2 :=
          ⟨houter, (find_eq_some le_rfl).mp hfind⟩
        simp only [Option.map_some, hreach.slice.1]
  · obtain ⟨hslice, hfind⟩ := findIn7c_of_not_in7c hex tag
    exact ⟨none, hslice, hfind⟩

/-! ## Wrapping and finding -/

/-- The object of a command or response. -/
def dataObject (tag : UInt8) (data : Bytes) (h : data.length ≤ 125) : Object :=
  ⟨tag, data, Nat.lt_of_le_of_lt h (by decide)⟩

/-- `wrap_7c` puts one object inside a 7C. -/
theorem wrap7c_eq {data : Bytes} (h : data.length ≤ 125) (tag : UInt8) :
    wrap7c tag data = Object.encode ⟨0x7C, (dataObject tag data h).encode, by
      rw [Object.length_encode]
      show data.length + 2 < 128
      omega⟩ := rfl

/-- The object of a wrapped one is reached at once. -/
theorem reaches7c_wrap7c {data : Bytes} (h : data.length ≤ 125) (tag : UInt8)
    (trailing : Bytes) :
    ∃ outer, Reaches7c (wrap7c tag data ++ trailing) tag outer [] (dataObject tag data h) :=
  ⟨_, ⟨rfl, trailing, by rw [wrap7c_eq h]⟩, ⟨[], by rw [List.append_nil]; rfl⟩, rfl, by simp⟩

/-- What is wrapped is found, whatever follows. -/
theorem findIn7c_wrap7c {data : Bytes} (h : data.length ≤ 125) (tag : UInt8)
    (trailing : Bytes) :
    findIn7cSlice (wrap7c tag data ++ trailing) tag = some (some ⟨4, data.length⟩) ∧
      findIn7c (wrap7c tag data ++ trailing) tag = some data := by
  obtain ⟨outer, hreach⟩ := reaches7c_wrap7c h tag trailing
  have hslice : findIn7cSlice (wrap7c tag data ++ trailing) tag = some (some ⟨4, data.length⟩) :=
    findIn7cSlice_eq_some.mpr ⟨outer, [], dataObject tag data h, hreach, rfl⟩
  refine ⟨hslice, ?_⟩
  obtain ⟨found, hfound, hvalue⟩ := findIn7cSlice_total (wrap7c tag data ++ trailing) tag
  rw [hslice, Option.some.injEq] at hfound
  rw [hvalue, ← hfound, Option.map_some]
  exact congrArg some hreach.slice.1

/-- **The object search is exact.**  No read leaves the response.  A slice is found exactly
if the response starts with a short-form 7C object that fits in it, whose content, split
into objects from its start, has one with the tag behind well-formed ones without it; the
slice is that object's value and lies inside the 7C object.  What `wrap_7c` wraps is found
whatever follows it. -/
theorem findIn7c_exact (resp : Bytes) (tag : UInt8) :
    (∃ found, findIn7cSlice resp tag = some found ∧
      findIn7c resp tag = found.map (fun e => e.read resp) ∧
      (found.isSome ↔ ∃ outer before object, Reaches7c resp tag outer before object) ∧
      ∀ outer before object, Reaches7c resp tag outer before object →
        ∃ e, found = some e ∧ e.read resp = object.value ∧
          e.start = 2 + (encodeAll before).length + 2 ∧ e.length = object.value.length ∧
          e.Within ⟨2, outer.value.length⟩) ∧
    ∀ data trailing : Bytes, data.length ≤ 125 →
      findIn7cSlice (wrap7c tag data ++ trailing) tag = some (some ⟨4, data.length⟩) ∧
        findIn7c (wrap7c tag data ++ trailing) tag = some data := by
  constructor
  · obtain ⟨found, hslice, hvalue⟩ := findIn7cSlice_total resp tag
    have hreach : ∀ outer before object, Reaches7c resp tag outer before object →
        found = some (sliceFrom 2 (before, object)) := by
      intro outer before object h
      have hsome := findIn7cSlice_eq_some.mpr ⟨outer, before, object, h, rfl⟩
      rw [hslice, Option.some.injEq] at hsome
      exact hsome
    refine ⟨found, hslice, hvalue, ⟨?_, ?_⟩, ?_⟩
    · intro hsome
      obtain ⟨e, rfl⟩ := Option.isSome_iff_exists.mp hsome
      obtain ⟨outer, before, object, h, -⟩ := findIn7cSlice_eq_some.mp hslice
      exact ⟨outer, before, object, h⟩
    · rintro ⟨outer, before, object, h⟩
      rw [hreach outer before object h]
      rfl
    · intro outer before object h
      exact ⟨_, hreach outer before object h, h.slice.1, rfl, rfl, h.slice.2⟩
  · intro data trailing h
    exact findIn7c_wrap7c h tag trailing

/-- A response with two objects and its status: the second one is found behind the first. -/
theorem findIn7c_exact_second :
    ∃ e, findIn7cSlice [0x7C, 0x07, 0x80, 0x01, 0xAA, 0x82, 0x02, 0xBB, 0xCC, 0x90, 0x00] 0x82
        = some (some e) ∧
      e.start = 7 ∧ e.length = 2 ∧
      findIn7c (wrap7c 0x86 [0x01, 0x02] ++ [0x90, 0x00]) 0x86 = some [0x01, 0x02] := by
  have hexact := findIn7c_exact
    [0x7C, 0x07, 0x80, 0x01, 0xAA, 0x82, 0x02, 0xBB, 0xCC, 0x90, 0x00] 0x82
  obtain ⟨⟨found, hslice, -, -, hreach⟩, -⟩ := hexact
  obtain ⟨e, rfl, -, hstart, hlen, -⟩ := hreach
    ⟨0x7C, [0x80, 0x01, 0xAA, 0x82, 0x02, 0xBB, 0xCC], by decide⟩ [⟨0x80, [0xAA], by decide⟩]
    ⟨0x82, [0xBB, 0xCC], by decide⟩
    ⟨⟨rfl, [0x90, 0x00], rfl⟩, ⟨[], rfl⟩, rfl, by simp⟩
  exact ⟨e, hslice, hstart, hlen,
    ((findIn7c_exact [] 0x86).2 [0x01, 0x02] [0x90, 0x00] (by decide)).2⟩

end NfcAdapter
