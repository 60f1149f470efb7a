/-
# NDEF messages decode to the records they encode

The record format as a writer sees it, and the two directions between it and the parser:
an encoded message decodes to exactly its records, whatever follows the record with ME set,
and the parser accepts nothing else.
-/
import Mathlib.Data.List.Forall2
import NfcAdapter.ByteCounter
import NfcAdapter.Ndef

namespace NfcAdapter

open ByteCounter (beBytes)
open Json (text Value Object)

/-! ## The record format -/

/-- The payload length field: one byte in a short record, else four, big-endian. -/
def payloadLenField (header : UInt8) (n : ℕ) : Bytes :=
  if header &&& ndefHdrSr ≠ 0 then [n.toUInt8] else beBytes 4 n

/-- The lengths the payload length field can hold. -/
def PayloadLenFits (header : UInt8) (n : ℕ) : Prop :=
  if header &&& ndefHdrSr ≠ 0 then n ≤ 255 else n < 2 ^ 32

/-- The id length field, present when IL is set. -/
def idLenField (header : UInt8) (n : ℕ) : Bytes :=
  if header &&& ndefHdrIl ≠ 0 then [n.toUInt8] else []

/-- The id lengths a header allows: without IL there is no id. -/
def IdLenFits (header : UInt8) (n : ℕ) : Prop :=
  if header &&& ndefHdrIl ≠ 0 then n ≤ 255 else n = 0

namespace NdefRecord

/-- The record can be written under its header. -/
structure Valid (r : NdefRecord) : Prop where
  type_le : r.type.length ≤ 255
  payload_fits : PayloadLenFits r.header r.payload.length
  id_fits : IdLenFits r.header r.id.length

/-- The bytes of a record. -/
def encode (r : NdefRecord) : Bytes :=
  r.header :: r.type.length.toUInt8 ::
    (payloadLenField r.header r.payload.length ++ (idLenField r.header r.id.length ++
      (r.type ++ (r.id ++ r.payload))))

end NdefRecord

/-- The bytes of a sequence of records. -/
def encodeRecords (records : List NdefRecord) : Bytes := records.flatMap NdefRecord.encode

@[simp] theorem encodeRecords_nil : encodeRecords [] = [] := rfl

@[simp] theorem encodeRecords_cons (r : NdefRecord) (rs : List NdefRecord) :
    encodeRecords (r :: rs) = r.encode ++ encodeRecords rs := rfl

/-! ## The length fields -/

theorem toUInt8_toNat (b : UInt8) : b.toNat.toUInt8 = b := by
  apply UInt8.toNat_inj.mp
  rw [toNat_toUInt8 b.toNat_lt]

/-- Four big-endian bytes of a number below `2 ^ 32`. -/
theorem beBytes_four (n : ℕ) :
    beBytes 4 n = [(n / 2 ^ 24).toUInt8, (n / 2 ^ 16).toUInt8, (n / 2 ^ 8).toUInt8, n.toUInt8] := by
  simp only [beBytes, List.nil_append, List.cons_append, Nat.div_div_eq_div_mul]
  rfl

theorem toUInt8_toNat_mod (n : ℕ) : n.toUInt8.toNat = n % 256 := by
  simp [Nat.toUInt8, UInt8.toNat_ofNat']

theorem ndefPayloadLen_eq_some {header : UInt8} {data rest : Bytes} {n : ℕ} :
    ndefPayloadLen header data = some (n, rest) ↔
      PayloadLenFits header n ∧ data = payloadLenField header n ++ rest := by
  unfold ndefPayloadLen PayloadLenFits payloadLenField
  split
  · next hsr =>
    constructor
    · intro h
      split at h
      · next b tail =>
        simp only [Option.some.injEq, Prod.mk.injEq] at h
        obtain ⟨rfl, rfl⟩ := h
        have := b.toNat_lt
        exact ⟨by omega, by rw [toUInt8_toNat]; rfl⟩
      · cases h
    · rintro ⟨hn, rfl⟩
      simp only [List.cons_append, List.nil_append, toNat_toUInt8 (Nat.lt_succ_of_le hn)]
  · next hsr =>
    rw [beBytes_four]
    constructor
    · intro h
      split at h
      · next a b c d tail =>
        simp only [Option.some.injEq, Prod.mk.injEq] at h
        obtain ⟨rfl, rfl⟩ := h
        have ha := a.toNat_lt
        have hb := b.toNat_lt
        have hc := c.toNat_lt
        have hd := d.toNat_lt
        refine ⟨by omega, ?_⟩
        simp only [List.cons_append, List.nil_append, List.cons.injEq, and_true]
        refine ⟨?_, ?_, ?_, ?_⟩ <;>
          · apply UInt8.toNat_inj.mp
            rw [toUInt8_toNat_mod]
            omega
      · cases h
    · rintro ⟨hn, rfl⟩
      simp only [List.cons_append, List.nil_append, toUInt8_toNat_mod, Option.some.injEq,
        Prod.mk.injEq, and_true]
      omega

theorem ndefIdLen_eq_some {header : UInt8} {data rest : Bytes} {n : ℕ} :
    ndefIdLen header data = some (n, rest) ↔
      IdLenFits header n ∧ data = idLenField header n ++ rest := by
  unfold ndefIdLen IdLenFits idLenField
  split
  · next hil =>
    constructor
    · intro h
      split at h
      · next b tail =>
        simp only [Option.some.injEq, Prod.mk.injEq] at h
        obtain ⟨rfl, rfl⟩ := h
        have := b.toNat_lt
        exact ⟨by omega, by rw [toUInt8_toNat]; rfl⟩
      · cases h
    · rintro ⟨hn, rfl⟩
      simp only [List.cons_append, List.nil_append, toNat_toUInt8 (Nat.lt_succ_of_le hn)]
  · next hil =>
    simp only [Option.some.injEq, Prod.mk.injEq, List.nil_append]
    constructor
    · rintro ⟨rfl, rfl⟩
      exact ⟨rfl, rfl⟩
    · rintro ⟨rfl, rfl⟩
      exact ⟨rfl, rfl⟩

/-! ## One record -/

/-- **One record.** The parser reads a record exactly where the data starts with the
bytes of a valid one. -/
theorem ndefParseRecord_eq_some {data rest : Bytes} {r : NdefRecord} :
    ndefParseRecord data = some (r, rest) ↔ r.Valid ∧ data = r.encode ++ rest := by
  constructor
  · intro h
    unfold ndefParseRecord at h
    split at h
    · next header typeLen afterType =>
      simp only [Option.bind_eq_bind, Option.bind_eq_some_iff, Prod.exists] at h
      obtain ⟨payloadLen, afterPayload, hp, idLen, body, hi, h⟩ := h
      obtain ⟨hpfits, rfl⟩ := ndefPayloadLen_eq_some.mp hp
      obtain ⟨hifits, rfl⟩ := ndefIdLen_eq_some.mp hi
      split at h
      · cases h
      · next hlen =>
        simp only [Option.some.injEq, Prod.mk.injEq] at h
        obtain ⟨rfl, rfl⟩ := h
        have ht : (body.take typeLen.toNat).length = typeLen.toNat := by
          rw [List.length_take]; omega
        have hid : ((body.drop typeLen.toNat).take idLen).length = idLen := by
          rw [List.length_take, List.length_drop]; omega
        have hpl : ((body.drop (typeLen.toNat + idLen)).take payloadLen).length = payloadLen := by
          rw [List.length_take, List.length_drop]; omega
        have htype := typeLen.toNat_lt
        refine ⟨⟨by rw [ht]; omega, by rw [hpl]; exact hpfits, by rw [hid]; exact hifits⟩, ?_⟩
        -- type, id, payload and rest are four consecutive pieces of the body
        have hbody : body = body.take typeLen.toNat ++ ((body.drop typeLen.toNat).take idLen ++
            ((body.drop (typeLen.toNat + idLen)).take payloadLen ++
              (body.drop (typeLen.toNat + idLen)).drop payloadLen)) := by
          rw [List.take_append_drop, ← List.drop_drop, List.take_append_drop,
            List.take_append_drop]
        simp only [NdefRecord.encode, ht, hid, hpl, toUInt8_toNat, List.cons_append,
          List.append_assoc]
        rw [← hbody]
    · cases h
  · rintro ⟨hvalid, rfl⟩
    obtain ⟨header, type, id, payload⟩ := r
    obtain ⟨htype, hpayload, hid⟩ := hvalid
    simp only at htype hpayload hid
    simp only [NdefRecord.encode, List.cons_append, List.append_assoc, ndefParseRecord,
      Option.bind_eq_bind, ndefPayloadLen_eq_some.mpr ⟨hpayload, rfl⟩, Option.bind_some,
      ndefIdLen_eq_some.mpr ⟨hid, rfl⟩, toNat_toUInt8 (Nat.lt_succ_of_le htype)]
    -- the body is as long as the header says, or longer by what follows
    have hbody : ¬ type.length + id.length + payload.length
        > (type ++ (id ++ (payload ++ rest))).length := by
      simp only [List.length_append]
      omega
    rw [if_neg hbody, ← List.drop_drop, List.drop_left, List.drop_left, List.take_left,
      List.take_left, List.take_left, List.drop_left]

/-! ## What the rendering of a record shows -/

theorem toInt32_of_lt {n : ℕ} (h : n < 2 ^ 31) : toInt32 n = n := by
  rw [toInt32, BitVec.toInt_ofNat', Int.bmod_def]
  omega

/-- The raw members of a rendered record: its fields as they were encoded, the size as far
as a signed 32-bit number can hold it. -/
structure Renders (r : NdefRecord) (obj : Object) : Prop where
  tnf : obj.get? "tnf" = some (.number r.tnf)
  typeHex : obj.get? "typeHex" = some (.string (text (ndefBytesToHex r.type)))
  idHex : obj.get? "idHex"
    = if r.id = [] then none else some (.string (text (ndefBytesToHex r.id)))
  payloadHex : obj.get? "payloadHex" = some (.string (text (ndefBytesToHex r.payload)))
  payloadSize : r.payload.length < 2 ^ 31 →
    obj.get? "payloadSize" = some (.number r.payload.length)

/-- The members that `ndef_record_to_json` adds for the formats it understands. -/
def friendlyKeys : List String :=
  ["kind", "uri", "text", "language", "utf16", "records", "mediaType", "externalType"]

/-- The friendly members leave the raw ones alone. -/
theorem get?_ndefRecordToJson (glib : GlibText) (tnf : ℕ) (type id payload beyond : Bytes)
    {key : String} (hkey : key ∉ friendlyKeys) :
    (ndefRecordToJson glib tnf type id payload beyond).get? key
      = (ndefRawFields tnf type id payload).get? key := by
  simp only [friendlyKeys, List.mem_cons, List.not_mem_nil, or_false, not_or] at hkey
  obtain ⟨hkind, huri, htext, hlanguage, hutf16, hrecords, hmedia, hexternal⟩ := hkey
  unfold ndefRecordToJson
  simp only
  split_ifs
  · cases decodeUriPayload payload beyond <;> simp [hkind, huri]
  · cases decodeTextPayload glib payload <;> simp [hkind, htext, hlanguage, hutf16]
  · simp [hkind, hrecords]
  · rfl
  · cases typeToString type with
    | none => simp [hkind]
    | some mediaType =>
      simp only
      split_ifs <;> simp [hkind, hmedia, htext]
  · simp [hkind, huri]
  · simp [hkind, hexternal]
  · rfl

theorem NdefRecord.tnf_lt (r : NdefRecord) : r.tnf < 8 := by
  have h : (r.header &&& ndefHdrTnf).toNat ≤ ndefHdrTnf.toNat := by
    rw [UInt8.toNat_and]
    exact Nat.and_le_right
  exact Nat.lt_succ_of_le h

/-- **One record in JSON.** The raw members are the fields of the record. -/
theorem renders_ndefRecordToJson (glib : GlibText) (r : NdefRecord) (beyond : Bytes) :
    Renders r (ndefRecordToJson glib r.tnf r.type r.id r.payload beyond) := by
  have htnf := r.tnf_lt
  constructor
  · rw [get?_ndefRecordToJson _ _ _ _ _ _ (by decide)]
    unfold ndefRawFields
    rw [toInt32_of_lt (by omega)]
    split_ifs <;> simp
  · rw [get?_ndefRecordToJson _ _ _ _ _ _ (by decide)]
    unfold ndefRawFields
    split_ifs <;> simp
  · rw [get?_ndefRecordToJson _ _ _ _ _ _ (by decide)]
    unfold ndefRawFields
    split_ifs <;> simp
  · rw [get?_ndefRecordToJson _ _ _ _ _ _ (by decide)]
    simp [ndefRawFields]
  · intro hlen
    rw [get?_ndefRecordToJson _ _ _ _ _ _ (by decide)]
    simp [ndefRawFields, toInt32_of_lt hlen]

/-! ## The loop -/

theorem ndefMessageLoop_nil (glib : GlibText) (beyond : Bytes) (arr : List Value) :
    ndefMessageLoop glib [] beyond arr = some arr := by
  rw [ndefMessageLoop, if_pos rfl]

/-- The loop at a record: it appends the record and stops at ME. -/
theorem ndefMessageLoop_record {glib : GlibText} {data rest beyond : Bytes} {arr : List Value}
    {r : NdefRecord} (h : ndefParseRecord data = some (r, rest)) :
    ndefMessageLoop glib data beyond arr =
      let arr := arr ++
        [.object (ndefRecordToJson glib r.tnf r.type r.id r.payload (rest ++ beyond))]
      if r.me then some arr else ndefMessageLoop glib rest beyond arr := by
  -- no record starts in empty data
  have hne : data ≠ [] := by
    rintro rfl
    cases h
  rw [ndefMessageLoop, if_neg hne]
  split
  · next hnone =>
    rw [h] at hnone
    cases hnone
  · next r' rest' hsome =>
    rw [h] at hsome
    obtain ⟨rfl, rfl⟩ := Prod.mk.inj (Option.some.inj hsome)
    rfl

/-- The loop at anything else leaves for `malformed`. -/
theorem ndefMessageLoop_malformed {glib : GlibText} {data beyond : Bytes} {arr : List Value}
    (hne : data ≠ []) (h : ndefParseRecord data = none) :
    ndefMessageLoop glib data beyond arr = none := by
  rw [ndefMessageLoop, if_neg hne]
  split
  · rfl
  · next r rest hsome =>
    rw [h] at hsome
    cases hsome

/-- The value of a record in the array. -/
def RendersValue (r : NdefRecord) (v : Value) : Prop := ∃ obj, v = .object obj ∧ Renders r obj

/-- The loop runs through records without ME and appends one value for each. -/
theorem ndefMessageLoop_records (glib : GlibText) (beyond tail : Bytes) {rs : List NdefRecord}
    (hvalid : ∀ r ∈ rs, r.Valid) (hme : ∀ r ∈ rs, r.me = false) (arr : List Value) :
    ∃ shown, List.Forall₂ RendersValue rs shown ∧
      ndefMessageLoop glib (encodeRecords rs ++ tail) beyond arr
        = ndefMessageLoop glib tail beyond (arr ++ shown) := by
  induction rs generalizing arr with
  | nil => exact ⟨[], .nil, by simp⟩
  | cons r rs ih =>
    have hr : ndefParseRecord (encodeRecords (r :: rs) ++ tail)
        = some (r, encodeRecords rs ++ tail) := by
      apply ndefParseRecord_eq_some.mpr
      exact ⟨hvalid r List.mem_cons_self, by rw [encodeRecords_cons, List.append_assoc]⟩
    obtain ⟨shown, hshown, hloop⟩ := ih (fun r h => hvalid r (List.mem_cons_of_mem _ h))
      (fun r h => hme r (List.mem_cons_of_mem _ h)) (arr ++ [.object (ndefRecordToJson glib r.tnf
        r.type r.id r.payload (encodeRecords rs ++ tail ++ beyond))])
    refine ⟨_ :: shown, .cons ⟨_, rfl, renders_ndefRecordToJson glib r
      (encodeRecords rs ++ tail ++ beyond)⟩ hshown, ?_⟩
    rw [ndefMessageLoop_record hr]
    simp only [hme r List.mem_cons_self, Bool.false_eq_true, if_false]
    rw [hloop, List.append_assoc]
    rfl

/-- A record with ME ends the loop, whatever follows it. -/
theorem ndefMessageLoop_last (glib : GlibText) (beyond trailing : Bytes) {r : NdefRecord}
    (hvalid : r.Valid) (hme : r.me = true) (arr : List Value) :
    ∃ v, RendersValue r v ∧
      ndefMessageLoop glib (r.encode ++ trailing) beyond arr = some (arr ++ [v]) := by
  have hr : ndefParseRecord (r.encode ++ trailing) = some (r, trailing) :=
    ndefParseRecord_eq_some.mpr ⟨hvalid, rfl⟩
  refine ⟨_, ⟨_, rfl, renders_ndefRecordToJson glib r (trailing ++ beyond)⟩, ?_⟩
  rw [ndefMessageLoop_record hr]
  simp [hme]

/-! ## Messages -/

/-- A message as a writer ends it: ME on the last record and on no other. -/
structure EndsWithMe (records : List NdefRecord) : Prop where
  valid : ∀ r ∈ records, r.Valid
  ends : ∃ init last, records = init ++ [last] ∧ (∀ r ∈ init, r.me = false) ∧ last.me = true

/-- A sequence of records that no record ends. -/
structure LacksMe (records : List NdefRecord) : Prop where
  valid : ∀ r ∈ records, r.Valid
  nonempty : records ≠ []
  lacks : ∀ r ∈ records, r.me = false

theorem encode_ne_nil (r : NdefRecord) : r.encode ≠ [] := List.cons_ne_nil _ _

theorem encodeRecords_ne_nil {rs : List NdefRecord} (h : rs ≠ []) : encodeRecords rs ≠ [] := by
  cases rs with
  | nil => exact absurd rfl h
  | cons r rs => simp [encode_ne_nil]

theorem encodeRecords_append (as bs : List NdefRecord) :
    encodeRecords (as ++ bs) = encodeRecords as ++ encodeRecords bs := List.flatMap_append

/-- What the loop accepts. -/
theorem of_ndefMessageLoop_eq_some (glib : GlibText) (beyond : Bytes) {data : Bytes}
    {arr out : List Value} (hne : data ≠ []) (h : ndefMessageLoop glib data beyond arr = some out) :
    (∃ records trailing, EndsWithMe records ∧ data = encodeRecords records ++ trailing) ∨
      ∃ records, LacksMe records ∧ data = encodeRecords records := by
  induction hn : data.length using Nat.strong_induction_on generalizing data arr with
  | _ n ih =>
    -- induction on the length of the data: every record shortens it
    subst hn
    cases hparse : ndefParseRecord data with
    | none => rw [ndefMessageLoop_malformed hne hparse] at h; cases h
    | some parsed =>
      obtain ⟨r, rest⟩ := parsed
      have hlt := ndefParseRecord_length hparse
      rw [ndefMessageLoop_record hparse] at h
      obtain ⟨hvalid, rfl⟩ := ndefParseRecord_eq_some.mp hparse
      cases hme : r.me with
      | true =>
        refine Or.inl ⟨[r], rest, ⟨by simpa using hvalid, [], r, rfl, by simp, hme⟩, by simp⟩
      | false =>
        simp only [hme, Bool.false_eq_true, if_false] at h
        by_cases hrest : rest = []
        · subst hrest
          exact Or.inr ⟨[r], ⟨by simpa using hvalid, by simp, by simpa using hme⟩, by simp⟩
        · rcases ih rest.length (by omega) hrest h rfl with
            ⟨records, trailing, hends, rfl⟩ | ⟨records, hlacks, rfl⟩
          · obtain ⟨init, last, rfl, hinit, hlast⟩ := hends.ends
            refine Or.inl ⟨r :: (init ++ [last]), trailing, ⟨?_, r :: init, last, rfl, ?_, hlast⟩,
              by rw [encodeRecords_cons, List.append_assoc]⟩
            · simpa [hvalid] using hends.valid
            · simpa [hme] using hinit
          · exact Or.inr ⟨r :: records, ⟨by simpa [hvalid] using hlacks.valid, by simp,
              by simpa [hme] using hlacks.lacks⟩, by rw [encodeRecords_cons]⟩

/-- An encoded message, with anything behind it, decodes to its records. -/
theorem ndefMessageToJson_of_endsWithMe (glib : GlibText) (beyond trailing : Bytes)
    {records : List NdefRecord} (h : EndsWithMe records) :
    ∃ shown, ndefMessageToJson glib (encodeRecords records ++ trailing) beyond
        = some (.array shown) ∧ List.Forall₂ RendersValue records shown := by
  obtain ⟨hvalid, init, last, rfl, hinit, hlast⟩ := h
  have hlastValid : last.Valid := hvalid last (by simp)
  obtain ⟨shown, hshown, hloop⟩ := ndefMessageLoop_records glib beyond (last.encode ++ trailing)
    (fun r hr => hvalid r (List.mem_append_left _ hr)) hinit []
  -- the records before the last are run through, the last one ends the loop
  obtain ⟨v, hv, hend⟩ := ndefMessageLoop_last glib beyond trailing hlastValid hlast shown
  refine ⟨shown ++ [v], ?_, List.rel_append hshown (.cons hv .nil)⟩
  have hdata : encodeRecords (init ++ [last]) ++ trailing
      = encodeRecords init ++ (last.encode ++ trailing) := by
    rw [encodeRecords_append, encodeRecords_cons, encodeRecords_nil, List.append_nil,
      List.append_assoc]
  rw [ndefMessageToJson, hdata, if_neg (by simp [encode_ne_nil]), hloop, List.nil_append, hend]
  rfl

/-- A sequence of records without ME that ends with the data decodes as well. -/
theorem ndefMessageToJson_of_lacksMe (glib : GlibText) (beyond : Bytes)
    {records : List NdefRecord} (h : LacksMe records) :
    ∃ shown, ndefMessageToJson glib (encodeRecords records) beyond = some (.array shown) ∧
      List.Forall₂ RendersValue records shown := by
  obtain ⟨shown, hshown, hloop⟩ :=
    ndefMessageLoop_records glib beyond [] h.valid h.lacks []
  rw [List.append_nil, List.nil_append, ndefMessageLoop_nil] at hloop
  refine ⟨shown, ?_, hshown⟩
  rw [ndefMessageToJson, if_neg (encodeRecords_ne_nil h.nonempty), hloop]
  rfl

/-- **Decoding undoes encoding, and accepts nothing else.** A message with ME on its last
record decodes to exactly its records, whatever follows; and a byte string decodes to an
array exactly if it is such a message, or a sequence of records none of which has ME. -/
theorem ndef_decode_encode (glib : GlibText) (beyond : Bytes) :
    (∀ records trailing, EndsWithMe records →
      ∃ shown, ndefMessageToJson glib (encodeRecords records ++ trailing) beyond
          = some (.array shown) ∧ List.Forall₂ RendersValue records shown) ∧
    ∀ data, (ndefMessageToJson glib data beyond).isSome ↔
      (∃ records trailing, EndsWithMe records ∧ data = encodeRecords records ++ trailing) ∨
        ∃ records, LacksMe records ∧ data = encodeRecords records := by
  refine ⟨fun records trailing h => ndefMessageToJson_of_endsWithMe glib beyond trailing h,
    fun data => ⟨fun h => ?_, ?_⟩⟩
  · unfold ndefMessageToJson at h
    split at h
    · cases h
    · next hne =>
      obtain ⟨out, hloop⟩ := Option.isSome_iff_exists.mp (by simpa using h)
      exact of_ndefMessageLoop_eq_some glib beyond hne hloop
  · rintro (⟨records, trailing, h, rfl⟩ | ⟨records, h, rfl⟩)
    · obtain ⟨shown, hshown, -⟩ := ndefMessageToJson_of_endsWithMe glib beyond trailing h
      simp [hshown]
    · obtain ⟨shown, hshown, -⟩ := ndefMessageToJson_of_lacksMe glib beyond h
      simp [hshown]

/-- A short record and a long one, the second with an id and ME. -/
def twoRecords : List NdefRecord :=
  [⟨0x91, [0x55], [], [0x04, 0x61]⟩, ⟨0x4C, [0x61, 0x3A, 0x62], [0x07], [0x01, 0x02]⟩]

theorem endsWithMe_twoRecords : EndsWithMe twoRecords where
  valid := by
    intro r hr
    simp only [twoRecords, List.mem_cons, List.not_mem_nil, or_false] at hr
    rcases hr with rfl | rfl
    · exact ⟨by decide, (by decide : 2 ≤ 255), rfl⟩
    · exact ⟨by decide, (by decide : 2 < 2 ^ 32), (by decide : 1 ≤ 255)⟩
  ends := ⟨[⟨0x91, [0x55], [], [0x04, 0x61]⟩], ⟨0x4C, [0x61, 0x3A, 0x62], [0x07], [0x01, 0x02]⟩,
    rfl, by decide, rfl⟩

theorem ndef_decode_encode_twoRecords :
    ∃ shown, ndefMessageToJson asciiGlib (encodeRecords twoRecords ++ [0xFE]) []
        = some (.array shown) ∧ List.Forall₂ RendersValue twoRecords shown :=
  (ndef_decode_encode asciiGlib []).1 twoRecords [0xFE] endsWithMe_twoRecords

end NfcAdapter
