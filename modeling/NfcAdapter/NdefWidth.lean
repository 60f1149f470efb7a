/-
# The NDEF cursor in a `gsize` of any width (`ndef.c`)

`ndef_message_to_json` adds the lengths a record declares to its cursor before it compares
the sum with the length of the data.  Here the cursor has `w` bits and every read is
checked.  The one-byte reads are guarded without a sum; the two sums can wrap, the
four-byte payload length of a 32-bit `gsize` being enough for it.
-/
import Mathlib.Logic.Relation
import NfcAdapter.NdefMessage

namespace NfcAdapter

/-! ## The loop with a cursor of `w` bits -/

/-- One call of `ndef_record_to_json`: the record, the cursor before and behind it, and
the slices handed on, in a message of `len` bytes. -/
structure NdefCall where
  record : NdefRecord
  len : ℕ
  start : ℕ
  stop : ℕ
  type : Extent
  id : Extent
  payload : Extent
  deriving DecidableEq, Repr

/-- The slices lie in the message, and the cursor has moved on. -/
structure NdefCall.Inside (c : NdefCall) : Prop where
  type : c.type.Within ⟨0, c.len⟩
  id : c.id.Within ⟨0, c.len⟩
  payload : c.payload.Within ⟨0, c.len⟩
  advances : c.start < c.stop

section Width

variable (w : ℕ) (data : Bytes)

/-- The payload length at the cursor, and the cursor behind it.  An outer `none` is a read
outside the data, an inner one the jump to `malformed`. -/
def ndefPayloadLenAt (header : UInt8) (pos : ℕ) : Option (Option (ℕ × ℕ)) :=
  if header &&& ndefHdrSr ≠ 0 then
    if pos ≥ data.length then some none
    else do
      let n ← data[pos]?
      some (some (n.toNat, (pos + 1) % 2 ^ w))
  else if (pos + 4) % 2 ^ w > data.length then some none
  else do
    let a ← data[pos]?
    let b ← data[(pos + 1) % 2 ^ w]?
    let c ← data[(pos + 2) % 2 ^ w]?
    let d ← data[(pos + 3) % 2 ^ w]?
    some (some ((a.toNat * 2 ^ 24 + b.toNat * 2 ^ 16 + c.toNat * 2 ^ 8 + d.toNat) % 2 ^ w,
      (pos + 4) % 2 ^ w))

/-- The id length at the cursor, and the cursor behind it. -/
def ndefIdLenAt (header : UInt8) (pos : ℕ) : Option (Option (ℕ × ℕ)) :=
  if header &&& ndefHdrIl ≠ 0 then
    if pos ≥ data.length then some none
    else do
      let n ← data[pos]?
      some (some (n.toNat, (pos + 1) % 2 ^ w))
  else some (some (0, pos))

/-- The comparison of the declared lengths with the data, and the three slices; the
record started at `start`, its header ends at `pos`. -/
def ndefSlicesAt (header : UInt8) (start pos typeLen idLen payloadLen : ℕ) :
    Option (Option NdefCall) :=
  if (pos + typeLen + idLen + payloadLen) % 2 ^ w > data.length then some none
  else do
    let idPos := (pos + typeLen) % 2 ^ w
    let payloadPos := (idPos + idLen) % 2 ^ w
    let type ← readBytes data pos typeLen
    let id ← readBytes data idPos idLen
    let payload ← readBytes data payloadPos payloadLen
    some (some ⟨⟨header, type, id, payload⟩, data.length, start,
      (payloadPos + payloadLen) % 2 ^ w, ⟨pos, typeLen⟩, ⟨idPos, idLen⟩,
      ⟨payloadPos, payloadLen⟩⟩)

/-- One turn of the loop, from the record's first byte at `start` to its call of
`ndef_record_to_json`. -/
def ndefRecordAt (start : ℕ) : Option (Option NdefCall) := do
  let header ← data[start]?
  let pos := (start + 1) % 2 ^ w
  if pos ≥ data.length then some none
  else do
    let typeLen ← data[pos]?
    match ← ndefPayloadLenAt w data header ((pos + 1) % 2 ^ w) with
    | none => some none
    | some (payloadLen, pos) =>
      match ← ndefIdLenAt w data header pos with
      | none => some none
      | some (idLen, pos) =>
        ndefSlicesAt w data header start pos typeLen.toNat idLen payloadLen

end Width

/-- Why a walk is given up. -/
inductive NdefStop where
  | outside
  | noFuel
  deriving DecidableEq, Repr

/-- The calls of `ndef_record_to_json` that the loop makes from the cursor `pos` on, those
for the messages in Smart Posters behind the one for the poster. -/
def ndefWalk (w : ℕ) : ℕ → Bytes → ℕ → Except NdefStop (List NdefCall)
  | 0, _, _ => .error .noFuel
  | fuel + 1, data, pos =>
    if pos < data.length then
      match ndefRecordAt w data pos with
      | none => .error .outside
      | some none => .ok []
      | some (some c) => do
        let nested ← if c.record.isSmartPoster then ndefWalk w fuel c.record.payload 0 else .ok []
        let rest ← if c.record.me then .ok [] else ndefWalk w fuel data c.stop
        return c :: (nested ++ rest)
    else .ok []

/-! ## Where the sums are compared rightly -/

/-- A message and the cursor in it. -/
structure NdefCursor where
  data : Bytes
  pos : ℕ

/-- The sum of the lengths a record declares, and the number of bytes its header leaves. -/
def ndefDeclared (data : Bytes) : Option (ℕ × ℕ) :=
  match data with
  | header :: typeLen :: afterType => do
    let (payloadLen, afterPayload) ← ndefPayloadLen header afterType
    let (idLen, body) ← ndefIdLen header afterPayload
    some (typeLen.toNat + idLen + payloadLen, body.length)
  | _ => none

/-- Neither sum at this record wraps to a number the comparison lets through: not the
cursor behind a four-byte payload length, and not the end the lengths declare. -/
def NdefCursor.Fits (w : ℕ) (c : NdefCursor) : Prop :=
  (∀ header typeLen rest, c.data.drop c.pos = header :: typeLen :: rest →
    header &&& ndefHdrSr = 0 → (c.pos + 2 + 4) % 2 ^ w ≤ c.data.length →
      c.pos + 2 + 4 ≤ c.data.length) ∧
  ∀ total left, ndefDeclared (c.data.drop c.pos) = some (total, left) →
    (c.data.length - left + total) % 2 ^ w ≤ c.data.length → total ≤ left

/-- A header that could be read declares one pair of numbers. -/
theorem declared_some {total left : ℕ} {P : ℕ → ℕ → Prop} :
    (∀ total' left', some (total, left) = some (total', left') → P total' left') ↔
      P total left := by
  refine ⟨fun h => h total left rfl, ?_⟩
  rintro h _ _ ⟨rfl, rfl⟩
  exact h

theorem NdefCursor.fits_cons {w : ℕ} {data : Bytes} {start : ℕ} {header typeLen : UInt8}
    {rest : Bytes} (hdrop : data.drop start = header :: typeLen :: rest) :
    NdefCursor.Fits w ⟨data, start⟩ ↔
      (header &&& ndefHdrSr = 0 → (start + 2 + 4) % 2 ^ w ≤ data.length →
        start + 2 + 4 ≤ data.length) ∧
      ∀ total left, ndefDeclared (header :: typeLen :: rest) = some (total, left) →
        (data.length - left + total) % 2 ^ w ≤ data.length → total ≤ left := by
  rw [NdefCursor.Fits, hdrop]
  refine and_congr_left' ⟨fun h => h header typeLen rest rfl, ?_⟩
  rintro h _ _ _ ⟨rfl, rfl, rfl⟩
  exact h

/-- What `ndef_record_to_json` is called with for the record `r` and the data behind it. -/
def ndefCallOf (len start : ℕ) (r : NdefRecord) (rest : Bytes) : NdefCall where
  record := r
  len := len
  start := start
  stop := len - rest.length
  type := ⟨len - rest.length - r.payload.length - r.id.length - r.type.length, r.type.length⟩
  id := ⟨len - rest.length - r.payload.length - r.id.length, r.id.length⟩
  payload := ⟨len - rest.length - r.payload.length, r.payload.length⟩

section Step

variable {w : ℕ} {data : Bytes} (hlen : data.length < 2 ^ w)

include hlen

theorem ndefPayloadLenAt_eq (hw : 32 ≤ w) {header : UInt8} {pos : ℕ} (hpos : pos ≤ data.length)
    (hfit : header &&& ndefHdrSr = 0 → (pos + 4) % 2 ^ w ≤ data.length → pos + 4 ≤ data.length) :
    ndefPayloadLenAt w data header pos
      = some ((ndefPayloadLen header (data.drop pos)).map fun r =>
          (r.1, data.length - r.2.length)) := by
  unfold ndefPayloadLenAt ndefPayloadLen
  by_cases hsr : header &&& ndefHdrSr = 0
  · have hlong : ¬ (header &&& ndefHdrSr ≠ 0) := fun h => h hsr
    rw [if_neg hlong, if_neg hlong]
    by_cases hle : pos + 4 ≤ data.length
    · have hmod : ∀ k ≤ 4, (pos + k) % 2 ^ w = pos + k := by
        intro k hk
        exact Nat.mod_eq_of_lt (by omega)
      have hbig : 2 ^ 32 ≤ 2 ^ w := Nat.pow_le_pow_right (by decide) hw
      rw [hmod 4 le_rfl, hmod 1 (by decide), hmod 2 (by decide), hmod 3 (by decide),
        if_neg (by omega),
        List.drop_eq_getElem_cons (show pos < data.length from by omega),
        List.drop_eq_getElem_cons (show pos + 1 < data.length from by omega),
        List.drop_eq_getElem_cons (show pos + 1 + 1 < data.length from by omega),
        List.drop_eq_getElem_cons (show pos + 1 + 1 + 1 < data.length from by omega),
        List.getElem?_eq_getElem (show pos < data.length from by omega),
        List.getElem?_eq_getElem (show pos + 1 < data.length from by omega),
        List.getElem?_eq_getElem (show pos + 2 < data.length from by omega),
        List.getElem?_eq_getElem (show pos + 3 < data.length from by omega)]
      simp only [Option.bind_eq_bind, Option.bind_some, Option.map_some, Option.some.injEq,
        Prod.mk.injEq, List.length_drop]
      have h0 := (data[pos]).toNat_lt
      have h1 := (data[pos + 1]).toNat_lt
      have h2 := (data[pos + 2]).toNat_lt
      have h3 := (data[pos + 3]).toNat_lt
      exact ⟨Nat.mod_eq_of_lt (by omega), by omega⟩
    · rw [if_pos (by by_contra hno; exact hle (hfit hsr (by omega)))]
      have hshort : (data.drop pos).length < 4 := by rw [List.length_drop]; omega
      match data.drop pos, hshort with
      | [], _ | [_], _ | [_, _], _ | [_, _, _], _ => rfl
  · rw [if_pos hsr, if_pos hsr]
    by_cases hlt : pos < data.length
    · rw [if_neg (by omega), List.drop_eq_getElem_cons hlt, List.getElem?_eq_getElem hlt,
        Nat.mod_eq_of_lt (by omega)]
      simp only [Option.bind_eq_bind, Option.bind_some, Option.map_some, Option.some.injEq,
        Prod.mk.injEq, List.length_drop, true_and]
      omega
    · rw [if_pos (by omega), List.drop_of_length_le (by omega)]
      rfl

/-- Where that sum wraps, one of the four bytes is read outside the data. -/
theorem ndefPayloadLenAt_eq_none {header : UInt8} {pos : ℕ} (hpos : pos ≤ data.length)
    (hsr : header &&& ndefHdrSr = 0) (hle : (pos + 4) % 2 ^ w ≤ data.length)
    (hlt : data.length < pos + 4) : ndefPayloadLenAt w data header pos = none := by
  have hlong : ¬ (header &&& ndefHdrSr ≠ 0) := fun h => h hsr
  rw [ndefPayloadLenAt, if_neg hlong, if_neg (by omega)]
  have hnone : ∀ k, data.length = pos + k → data[(pos + k) % 2 ^ w]? = none := by
    intro k hk
    rw [← hk, Nat.mod_eq_of_lt hlen]
    exact List.getElem?_eq_none le_rfl
  -- the cursor stands at the end or at most three bytes before it
  rcases (show data.length = pos ∨ data.length = pos + 1 ∨ data.length = pos + 2 ∨
    data.length = pos + 3 from by omega) with h | h | h | h
  · rw [List.getElem?_eq_none (by omega)]
    rfl
  · simp [hnone 1 h]
  · simp [hnone 2 h]
  · simp [hnone 3 h]

theorem ndefIdLenAt_eq {header : UInt8} {pos : ℕ} (hpos : pos ≤ data.length) :
    ndefIdLenAt w data header pos
      = some ((ndefIdLen header (data.drop pos)).map fun r => (r.1, data.length - r.2.length)) := by
  unfold ndefIdLenAt ndefIdLen
  split_ifs with hil hge
  · rw [List.drop_of_length_le hge]
    rfl
  · have hlt : pos < data.length := by omega
    rw [List.drop_eq_getElem_cons hlt, List.getElem?_eq_getElem hlt, Nat.mod_eq_of_lt (by omega)]
    simp only [Option.bind_eq_bind, Option.bind_some, Option.map_some, Option.some.injEq,
      Prod.mk.injEq, List.length_drop, true_and]
    omega
  · simp only [Option.map_some, List.length_drop]
    rw [Nat.sub_sub_self hpos]

/-- Lengths that end within the data give the three slices. -/
theorem ndefSlicesAt_of_le {header : UInt8} {start pos typeLen idLen payloadLen : ℕ}
    (hle : pos + typeLen + idLen + payloadLen ≤ data.length) :
    ndefSlicesAt w data header start pos typeLen idLen payloadLen
      = some (some (ndefCallOf data.length start
          ⟨header, (data.drop pos).take typeLen, ((data.drop pos).drop typeLen).take idLen,
            ((data.drop pos).drop (typeLen + idLen)).take payloadLen⟩
          (((data.drop pos).drop (typeLen + idLen)).drop payloadLen))) := by
  have hmod : ∀ n ≤ data.length, n % 2 ^ w = n := fun n hn => Nat.mod_eq_of_lt (by omega)
  rw [ndefSlicesAt, hmod _ hle, if_neg (by omega)]
  simp only [hmod (pos + typeLen) (by omega), hmod (pos + typeLen + idLen) (by omega), hmod _ hle]
  rw [readBytes, if_pos (by omega), readBytes, if_pos (by omega), readBytes, if_pos (by omega)]
  simp only [Option.bind_eq_bind, Option.bind_some, Option.some.injEq, ndefCallOf, List.drop_drop,
    List.length_take, List.length_drop, NdefCall.mk.injEq, Extent.mk.injEq, true_and, Nat.add_assoc]
  omega

/-- Lengths that end behind the data are refused, or one of the slices leaves it. -/
theorem ndefSlicesAt_of_gt {header : UInt8} {start pos typeLen idLen payloadLen : ℕ}
    (hgt : data.length < pos + typeLen + idLen + payloadLen) :
    ndefSlicesAt w data header start pos typeLen idLen payloadLen
      = if (pos + typeLen + idLen + payloadLen) % 2 ^ w > data.length then some none else none := by
  rw [ndefSlicesAt]
  split_ifs with hcheck
  · rfl
  · by_cases htype : pos + typeLen ≤ data.length
    · by_cases hid : pos + typeLen + idLen ≤ data.length
      · simp only [Nat.mod_eq_of_lt (show pos + typeLen < 2 ^ w from by omega),
          Nat.mod_eq_of_lt (show pos + typeLen + idLen < 2 ^ w from by omega), readBytes,
          if_pos htype, if_pos hid,
          if_neg (show ¬ pos + typeLen + idLen + payloadLen ≤ data.length from by omega)]
        rfl
      · simp only [Nat.mod_eq_of_lt (show pos + typeLen < 2 ^ w from by omega), readBytes,
          if_pos htype, if_neg hid]
        rfl
    · simp only [readBytes, if_neg htype]
      rfl

/-- The loop body on a record with at least two bytes. -/
theorem ndefRecordAt_cons {start : ℕ} {header typeLen : UInt8} {rest : Bytes}
    (hdrop : data.drop start = header :: typeLen :: rest) :
    ndefRecordAt w data start =
      (ndefPayloadLenAt w data header (start + 2)).bind fun r =>
        match r with
        | none => some none
        | some (payloadLen, pos) =>
          (ndefIdLenAt w data header pos).bind fun r =>
            match r with
            | none => some none
            | some (idLen, pos) =>
              ndefSlicesAt w data header start pos typeLen.toNat idLen payloadLen := by
  have hlength := congrArg List.length hdrop
  simp only [List.length_drop, List.length_cons] at hlength
  have h0 : data[start]? = some header := by
    rw [← Nat.add_zero start, ← List.getElem?_drop, hdrop]
    rfl
  have h1 : data[start + 1]? = some typeLen := by
    rw [← List.getElem?_drop, hdrop]
    rfl
  rw [ndefRecordAt, h0]
  simp only [Option.bind_eq_bind, Option.bind_some,
    Nat.mod_eq_of_lt (show start + 1 < 2 ^ w from by omega),
    Nat.mod_eq_of_lt (show start + 1 + 1 < 2 ^ w from by omega), h1]
  rw [if_neg (by omega)]

/-- **One record.** Where the sums are compared rightly, the loop body does what the
parser over unbounded numbers does; elsewhere it leaves the data. -/
theorem ndefRecordAt_eq (hw : 32 ≤ w) {start : ℕ} (hstart : start < data.length) :
    (NdefCursor.Fits w ⟨data, start⟩ →
      ndefRecordAt w data start = some ((ndefParseRecord (data.drop start)).map fun r =>
        ndefCallOf data.length start r.1 r.2)) ∧
    (¬ NdefCursor.Fits w ⟨data, start⟩ → ndefRecordAt w data start = none) := by
  match hdrop : data.drop start with
  | [] =>
    have hlength := congrArg List.length hdrop
    simp only [List.length_drop, List.length_nil] at hlength
    omega
  | [header] =>
    have hlength := congrArg List.length hdrop
    simp only [List.length_drop, List.length_cons, List.length_nil] at hlength
    have hfits : NdefCursor.Fits w ⟨data, start⟩ := by
      simp [NdefCursor.Fits, hdrop, ndefDeclared]
    refine ⟨fun _ => ?_, fun h => absurd hfits h⟩
    rw [ndefRecordAt, List.getElem?_eq_getElem hstart]
    simp only [Option.bind_eq_bind, Option.bind_some]
    rw [Nat.mod_eq_of_lt (by omega), if_pos (by omega)]
    rfl
  | header :: typeLen :: rest =>
    have hlength := congrArg List.length hdrop
    simp only [List.length_drop, List.length_cons] at hlength
    have hrest : data.drop (start + 2) = rest := by
      rw [← List.drop_drop, hdrop]
      rfl
    have hsuffix : rest <:+ data := ⟨_, by rw [← hrest, List.take_append_drop]⟩
    rw [ndefRecordAt_cons hlen hdrop, NdefCursor.fits_cons hdrop, ndefParseRecord]
    by_cases hfield : header &&& ndefHdrSr = 0 → (start + 2 + 4) % 2 ^ w ≤ data.length →
        start + 2 + 4 ≤ data.length
    · rw [ndefPayloadLenAt_eq hlen hw (by omega) hfield, hrest, and_iff_right hfield, ndefDeclared]
      simp only [Option.bind_eq_bind, Option.bind_some]
      cases hpl : ndefPayloadLen header rest with
      | none => simp
      | some r =>
        obtain ⟨payloadLen, afterPayload⟩ := r
        have hafter : afterPayload <:+ data := by
          obtain ⟨-, rfl⟩ := ndefPayloadLen_eq_some.mp hpl
          exact (List.suffix_append _ _).trans hsuffix
        simp only [Option.map_some, Option.bind_some]
        rw [ndefIdLenAt_eq hlen (Nat.sub_le _ _), ← List.suffix_iff_eq_drop.mp hafter]
        simp only [Option.bind_some]
        cases hil : ndefIdLen header afterPayload with
        | none => simp
        | some r =>
          obtain ⟨idLen, body⟩ := r
          have hbody : body <:+ data := by
            obtain ⟨-, rfl⟩ := ndefIdLen_eq_some.mp hil
            exact (List.suffix_append _ _).trans hafter
          have hble := hbody.length_le
          have hdropBody := List.suffix_iff_eq_drop.mp hbody
          simp only [Option.map_some, Option.bind_some]
          rw [declared_some]
          by_cases hle : typeLen.toNat + idLen + payloadLen ≤ body.length
          · rw [ndefSlicesAt_of_le hlen (by omega), if_neg (Nat.not_lt.mpr hle), ← hdropBody]
            exact ⟨fun _ => rfl, fun h => absurd (fun _ => hle) h⟩
          · have hassoc : data.length - body.length + typeLen.toNat + idLen + payloadLen
                = data.length - body.length + (typeLen.toNat + idLen + payloadLen) := by omega
            rw [ndefSlicesAt_of_gt hlen (by omega), if_pos (Nat.not_le.mp hle), hassoc]
            split_ifs with hcheck
            · exact ⟨fun _ => rfl, fun h => absurd (fun hno => absurd hno (by omega)) h⟩
            · exact ⟨fun h => absurd (h (by omega)) hle, fun _ => rfl⟩
    · push Not at hfield
      obtain ⟨hsr, hwrap, hover⟩ := hfield
      rw [ndefPayloadLenAt_eq_none hlen (by omega) hsr hwrap hover]
      exact ⟨fun h => absurd (h.1 hsr hwrap) (by omega), fun _ => rfl⟩

end Step

/-! ## The whole walk -/

/-- The records the loop comes to after the one at the cursor: the next in the message,
and the first of the message in a Smart Poster. -/
inductive NdefCursor.Next (c : NdefCursor) : NdefCursor → Prop
  | record {r : NdefRecord} {rest : Bytes}
      (h : ndefParseRecord (c.data.drop c.pos) = some (r, rest)) (hme : r.me = false) :
      c.Next ⟨c.data, c.data.length - rest.length⟩
  | nested {r : NdefRecord} {rest : Bytes}
      (h : ndefParseRecord (c.data.drop c.pos) = some (r, rest)) (hsp : r.isSmartPoster = true) :
      c.Next ⟨r.payload, 0⟩

/-- The sums are compared rightly at every record from the cursor on, at all depths. -/
def NdefCursor.AllFit (w : ℕ) (c : NdefCursor) : Prop :=
  ∀ c', Relation.ReflTransGen NdefCursor.Next c c' → c'.Fits w

theorem NdefCursor.allFit_iff {w : ℕ} {c : NdefCursor} :
    c.AllFit w ↔ c.Fits w ∧ ∀ c', c.Next c' → c'.AllFit w := by
  constructor
  · intro h
    exact ⟨h c .refl, fun c' hnext c'' hreach => h c'' (.head hnext hreach)⟩
  · rintro ⟨hfits, hall⟩ c' hreach
    rcases Relation.ReflTransGen.cases_head hreach with rfl | ⟨d, hnext, hreach⟩
    · exact hfits
    · exact hall d hnext c' hreach

/-- Behind the last record there is nothing to compare. -/
theorem NdefCursor.allFit_of_end {w : ℕ} {c : NdefCursor} (h : c.data.length ≤ c.pos) :
    c.AllFit w := by
  have hdrop : c.data.drop c.pos = [] := List.drop_of_length_le h
  rw [NdefCursor.allFit_iff, NdefCursor.Fits, hdrop]
  refine ⟨⟨by simp, by simp [ndefDeclared]⟩, ?_⟩
  rintro c' (⟨h, -⟩ | ⟨h, -⟩) <;> simp [hdrop, ndefParseRecord] at h

/-- A record leaves room for its call and for all calls behind and inside it. -/
theorem ndefParseRecord_room {data rest : Bytes} {r : NdefRecord}
    (h : ndefParseRecord data = some (r, rest)) :
    3 + r.type.length + r.id.length + r.payload.length + rest.length ≤ data.length := by
  obtain ⟨-, rfl⟩ := ndefParseRecord_eq_some.mp h
  simp only [NdefRecord.encode, List.length_append, List.length_cons, payloadLenField]
  split <;> simp <;> omega

/-- How a walk over `room` bytes ends: with calls inside the data, at most one for every
three bytes, if the sums are compared rightly, and outside the data if not. -/
structure WalkEnds (result : Except NdefStop (List NdefCall)) (fits : Prop) (room : ℕ) : Prop where
  ok : fits → ∃ calls, result = .ok calls ∧ (∀ c ∈ calls, c.Inside) ∧ 3 * calls.length ≤ room
  outside : ¬ fits → result = .error .outside

theorem walkEnds_nil {fits : Prop} (h : fits) (room : ℕ) : WalkEnds (.ok []) fits room :=
  ⟨fun _ => ⟨[], rfl, by simp, Nat.zero_le _⟩, fun hno => absurd h hno⟩

section WalkEnds

variable {result : Except NdefStop (List NdefCall)} {fits : Prop} {room : ℕ}

/-- A walk that is made only under a condition. -/
theorem WalkEnds.onlyIf (h : WalkEnds result fits room) (b : Bool) :
    WalkEnds (if b then result else .ok []) (b = true → fits) room := by
  cases b with
  | true => simpa using h
  | false => exact walkEnds_nil (by simp) room

theorem WalkEnds.unless (h : WalkEnds result fits room) (b : Bool) :
    WalkEnds (if b then .ok [] else result) (b = false → fits) room := by
  cases b with
  | true => exact walkEnds_nil (by simp) room
  | false => simpa using h

/-- A call, the walk inside its record, and the walk behind it. -/
theorem WalkEnds.cons {c : NdefCall} (hc : c.Inside) (hnested : WalkEnds result fits room)
    {result' : Except NdefStop (List NdefCall)} {fits' : Prop} {room' total : ℕ}
    (hrest : WalkEnds result' fits' room') (htotal : 3 + room + room' ≤ total) :
    WalkEnds (do
      let nested ← result
      let rest ← result'
      return c :: (nested ++ rest)) (fits ∧ fits') total where
  ok := by
    rintro ⟨hf, hf'⟩
    obtain ⟨calls, rfl, hin, hcount⟩ := hnested.ok hf
    obtain ⟨calls', rfl, hin', hcount'⟩ := hrest.ok hf'
    refine ⟨c :: (calls ++ calls'), rfl, ?_, ?_⟩
    · intro d hd
      rcases List.mem_cons.mp hd with rfl | hd
      · exact hc
      · exact (List.mem_append.mp hd).elim (hin d) (hin' d)
    · simp only [List.length_cons, List.length_append]
      omega
  outside := by
    intro hno
    -- the record's own message is walked first, so its end decides
    by_cases hf : fits
    · obtain ⟨calls, rfl, -⟩ := hnested.ok hf
      rw [hrest.outside fun hf' => hno ⟨hf, hf'⟩]
      rfl
    · rw [hnested.outside hf]
      rfl

end WalkEnds

/-- The slices of a record the parser accepts lie in the message. -/
theorem ndefCallOf_inside {data rest : Bytes} {start : ℕ} {r : NdefRecord}
    (hstart : start < data.length) (h : ndefParseRecord (data.drop start) = some (r, rest)) :
    (ndefCallOf data.length start r rest).Inside := by
  have hroom := ndefParseRecord_room h
  rw [List.length_drop] at hroom
  constructor <;> simp only [ndefCallOf, Extent.Within] <;> omega

/-- All fit at a record exactly when it does, and all do inside and behind it. -/
theorem NdefCursor.allFit_record {w : ℕ} {data rest : Bytes} {pos : ℕ} {r : NdefRecord}
    (h : ndefParseRecord (data.drop pos) = some (r, rest))
    (hfits : NdefCursor.Fits w ⟨data, pos⟩) :
    NdefCursor.AllFit w ⟨data, pos⟩ ↔
      (r.isSmartPoster = true → NdefCursor.AllFit w ⟨r.payload, 0⟩) ∧
        (r.me = false → NdefCursor.AllFit w ⟨data, data.length - rest.length⟩) := by
  rw [NdefCursor.allFit_iff, and_iff_right hfits]
  constructor
  · intro hall
    exact ⟨fun hsp => hall _ (.nested h hsp), fun hme => hall _ (.record h hme)⟩
  · rintro ⟨hsp, hme⟩ c' (⟨h', hb⟩ | ⟨h', hb⟩) <;>
      obtain ⟨rfl, rfl⟩ := Prod.mk.inj (Option.some.inj (h.symm.trans h'))
    · exact hme hb
    · exact hsp hb

/-- **The walk from any cursor.** It ends, with a result that does not depend on the fuel
once that exceeds the bytes left. -/
theorem ndefWalk_ends {w : ℕ} (hw : 32 ≤ w) (n : ℕ) :
    ∀ (data : Bytes) (pos : ℕ), data.length < 2 ^ w → data.length - pos = n →
      ∃ result, (∀ fuel > n, ndefWalk w fuel data pos = result) ∧
        WalkEnds result (NdefCursor.AllFit w ⟨data, pos⟩) n := by
  induction n using Nat.strong_induction_on with
  | _ n ih =>
    -- the message inside a record and what is behind the record are both shorter
    intro data pos hlen hn
    -- whatever the fuel, there is enough for one turn
    have hturn : ∀ {result}, (∀ fuel ≥ n, ndefWalk w (fuel + 1) data pos = result) →
        ∀ fuel > n, ndefWalk w fuel data pos = result := by
      intro result h fuel hfuel
      obtain ⟨k, rfl⟩ : ∃ k, fuel = k + 1 := ⟨fuel - 1, by omega⟩
      exact h k (by omega)
    rcases Nat.lt_or_ge pos data.length with hpos | hpos
    · obtain ⟨hgood, hbad⟩ := ndefRecordAt_eq hlen hw hpos
      by_cases hfits : NdefCursor.Fits w ⟨data, pos⟩
      · cases hparse : ndefParseRecord (data.drop pos) with
        | none =>
          have hall : NdefCursor.AllFit w ⟨data, pos⟩ := by
            rw [NdefCursor.allFit_iff]
            refine ⟨hfits, ?_⟩
            rintro c' (⟨h, -⟩ | ⟨h, -⟩) <;> simp [hparse] at h
          refine ⟨.ok [], hturn fun fuel _ => ?_, walkEnds_nil hall n⟩
          rw [ndefWalk, if_pos hpos, hgood hfits, hparse]
          rfl
        | some parsed =>
          obtain ⟨r, rest⟩ := parsed
          have hroom := ndefParseRecord_room hparse
          rw [List.length_drop] at hroom
          obtain ⟨nested, hnested, hnestedEnds⟩ := ih r.payload.length (by omega) r.payload 0
            (by omega) (Nat.sub_zero _)
          obtain ⟨behind, hbehind, hbehindEnds⟩ := ih rest.length (by omega) data
            (data.length - rest.length) hlen (by omega)
          have hends : WalkEnds _ _ n := WalkEnds.cons (ndefCallOf_inside hpos hparse)
            (hnestedEnds.onlyIf r.isSmartPoster) (hbehindEnds.unless r.me) (by omega)
          rw [← NdefCursor.allFit_record hparse hfits] at hends
          refine ⟨_, hturn fun fuel hfuel => ?_, hends⟩
          rw [ndefWalk, if_pos hpos, hgood hfits, hparse]
          simp only [Option.map_some, ndefCallOf]
          rw [hnested fuel (by omega), hbehind fuel (by omega)]
          cases r.isSmartPoster <;> cases r.me <;> rfl
      · refine ⟨.error .outside, hturn fun fuel _ => ?_, ?_⟩
        · rw [ndefWalk, if_pos hpos, hbad hfits]
        · exact ⟨fun hall => absurd (hall _ .refl) hfits, fun _ => rfl⟩
    · refine ⟨.ok [], hturn fun fuel _ => ?_, walkEnds_nil (NdefCursor.allFit_of_end hpos) n⟩
      rw [ndefWalk, if_neg (by omega)]

/-- **Where NDEF parsing stays in bounds.** For every width of at least 32 bits and all
data a `gsize` can measure: the walk ends with calls whose slices lie in their message, the
cursor moving on with each, and at most one call for every three bytes, exactly when both
sums are compared rightly at every record it comes to. -/
theorem ndef_parse_inside_iff (w : ℕ) (hw : 32 ≤ w) (data : Bytes) (hlen : data.length < 2 ^ w) :
    (∃ calls, (∀ fuel > data.length, ndefWalk w fuel data 0 = .ok calls) ∧
        (∀ c ∈ calls, c.Inside) ∧ calls.length ≤ data.length / 3) ↔
      NdefCursor.AllFit w ⟨data, 0⟩ := by
  obtain ⟨result, hresult, hends⟩ := ndefWalk_ends hw data.length data 0 hlen (Nat.sub_zero _)
  constructor
  · rintro ⟨calls, hcalls, -⟩
    by_contra hno
    have h := hresult (data.length + 1) (Nat.lt_succ_self _)
    rw [hcalls _ (Nat.lt_succ_self _), hends.outside hno] at h
    cases h
  · intro hall
    obtain ⟨calls, rfl, hinside, hcount⟩ := hends.ok hall
    exact ⟨calls, hresult, hinside, by omega⟩

/-! ## A wide cursor -/

theorem ndefDeclared_lt {data : Bytes} {total left : ℕ}
    (h : ndefDeclared data = some (total, left)) :
    total < 2 ^ 32 + 2 ^ 9 ∧ left ≤ data.length := by
  unfold ndefDeclared at h
  split at h
  · next header typeLen afterType =>
    simp only [Option.bind_eq_bind, Option.bind_eq_some_iff, Prod.exists, Option.some.injEq,
      Prod.mk.injEq] at h
    obtain ⟨payloadLen, afterPayload, hpl, idLen, body, hil, rfl, rfl⟩ := h
    have hp := ndefPayloadLen_length hpl
    have hi := ndefIdLen_length hil
    have hpayload := (ndefPayloadLen_eq_some.mp hpl).1
    have hid := (ndefIdLen_eq_some.mp hil).1
    have htype := typeLen.toNat_lt
    have hpayload' : payloadLen < 2 ^ 32 := by
      unfold PayloadLenFits at hpayload
      split at hpayload <;> omega
    have hid' : idLen ≤ 255 := by
      unfold IdLenFits at hid
      split at hid <;> omega
    simp only [List.length_cons]
    omega
  · cases h

/-- The messages inside a message are no longer than it. -/
theorem NdefCursor.length_le_of_reach {c c' : NdefCursor}
    (h : Relation.ReflTransGen NdefCursor.Next c c') : c'.data.length ≤ c.data.length := by
  induction h with
  | refl => exact le_rfl
  | tail _ hnext ih =>
    rcases hnext with ⟨-, -⟩ | ⟨h, -⟩
    · exact ih
    · have hroom := ndefParseRecord_room h
      rw [List.length_drop] at hroom
      simp only
      omega

/-- **A 64-bit `gsize` is wide enough** for everything that fits into memory. -/
theorem NdefCursor.allFit_of_wide {w : ℕ} {data : Bytes}
    (h : data.length + 2 ^ 32 + 2 ^ 9 ≤ 2 ^ w) : NdefCursor.AllFit w ⟨data, 0⟩ := by
  intro c hreach
  have hle : c.data.length ≤ data.length := NdefCursor.length_le_of_reach hreach
  constructor
  · intro header typeLen rest hdrop _ hcheck
    have hlength := congrArg List.length hdrop
    simp only [List.length_drop, List.length_cons] at hlength
    rwa [Nat.mod_eq_of_lt (by omega)] at hcheck
  · intro total left hdeclared hcheck
    have hlt := ndefDeclared_lt hdeclared
    rw [List.length_drop] at hlt
    rw [Nat.mod_eq_of_lt (by omega)] at hcheck
    omega

/-- A Smart Poster around a title and a URI. -/
def posterMessage : Bytes :=
  [0xD1, 0x02, 0x0C, 0x53, 0x70, 0x91, 0x01, 0x03, 0x54, 0x01, 0x65, 0x61, 0x51, 0x01, 0x01, 0x55,
    0x04]

theorem ndef_parse_inside_iff_poster :
    ∃ calls, (∀ fuel > posterMessage.length, ndefWalk 64 fuel posterMessage 0 = .ok calls) ∧
      (∀ c ∈ calls, c.Inside) ∧ calls.length ≤ posterMessage.length / 3 :=
  (ndef_parse_inside_iff 64 (by decide) posterMessage (by decide)).mpr
    (NdefCursor.allFit_of_wide (by decide))

/-- A record of seven bytes that declares a payload of `2 ^ 32 - 1`. -/
def wrappingMessage : Bytes := [0xC1, 0x01, 0xFF, 0xFF, 0xFF, 0xFF, 0x55]

/-- With 32 bits the declared end wraps to 6, and the payload slice is 4 GiB behind it. -/
theorem wrappingMessage_leaves_data :
    (¬ ∃ calls, (∀ fuel > wrappingMessage.length, ndefWalk 32 fuel wrappingMessage 0 = .ok calls) ∧
      (∀ c ∈ calls, c.Inside) ∧ calls.length ≤ wrappingMessage.length / 3) ∧
    ndefWalk 64 8 wrappingMessage 0 = .ok [] := by
  have houtside : ndefWalk 32 8 wrappingMessage 0 = .error .outside := by decide +kernel
  refine ⟨?_, by decide +kernel⟩
  rintro ⟨calls, hcalls, -⟩
  rw [hcalls 8 (by decide)] at houtside
  cases houtside

end NfcAdapter
