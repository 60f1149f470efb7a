/-
# The encodings of one URI

A URI is carried by a URI record, as the code of an abbreviation and the rest, or by an
absolute-URI record, whose type field it is.  The decoder of URI records undoes every
abbreviation and the builder picks one that makes the payload shortest; an absolute URI is
looked for in the payload of its record, where it need not be.
-/
import NfcAdapter.NdefBuild

namespace NfcAdapter

open Json (text)

/-! ## Payloads of URI records -/

/-- An abbreviation of the table and the rest of a URI. -/
structure UriPayload where
  code : ℕ
  rest : Bytes
  code_lt : code < uriPrefixes.length

namespace UriPayload

/-- The payload: the code, then the rest. -/
def bytes (p : UriPayload) : Bytes := p.code.toUInt8 :: p.rest

/-- The URI that is meant. -/
def uri (p : UriPayload) : Bytes := uriPrefix p.code ++ p.rest

/-- The decoder expands the payload to the URI, at some place in memory. -/
def Expands (p : UriPayload) (uri : Bytes) : Prop :=
  ∃ beyond, decodeUriPayload p.bytes beyond = some uri

@[simp] theorem length_bytes (p : UriPayload) : p.bytes.length = 1 + p.rest.length := by
  rw [bytes, List.length_cons, Nat.add_comm]

theorem notMem_rest {p : UriPayload} {uri : Bytes} (h : p.uri = uri) (hzero : (0 : UInt8) ∉ uri) :
    (0 : UInt8) ∉ p.rest := fun hmem => hzero (h ▸ List.mem_append_right _ hmem)

theorem toNat_code (p : UriPayload) : p.code.toUInt8.toNat = p.code :=
  toNat_toUInt8 (Nat.lt_trans p.code_lt (by decide))

end UriPayload

/-- What is printed of the remainder is no longer than the remainder, also where its length
is negative as an `int`: it is then `2 ^ 31` bytes at least. -/
theorem length_shown_le (rest beyond : Bytes) {shown : Bytes}
    (hshort : shown.length < 2 ^ 31)
    (h : (if toInt32 rest.length < 0 then cString (rest ++ beyond)
      else cString (rest.take (toInt32 rest.length).toNat)) = shown) :
    shown.length ≤ rest.length := by
  split at h
  · next hneg =>
    by_contra hlong
    have hlt : rest.length < 2 ^ 31 := by omega
    rw [toInt32_of_lt hlt] at hneg
    omega
  · rw [← h]
    exact (List.takeWhile_prefix _).length_le.trans (List.length_take_le' _ _)

namespace UriPayload

/-- What a payload expands to starts with its abbreviation, and what follows is no longer
than the remainder. -/
theorem Expands.spec {p : UriPayload} {uri : Bytes} (h : p.Expands uri) :
    uri.length < 2 ^ 31 ∧ uriPrefix p.code <+: uri ∧
      uri.length ≤ (uriPrefix p.code).length + p.rest.length := by
  obtain ⟨beyond, h⟩ := h
  simp only [bytes, decodeUriPayload, p.toNat_code, Option.ite_none_right_eq_some] at h
  obtain ⟨hlen, h⟩ := h
  obtain rfl := Option.some.inj h
  refine ⟨hlen, List.prefix_append _ _, ?_⟩
  rw [List.length_append] at hlen ⊢
  have hshown := length_shown_le p.rest beyond (by omega) rfl
  omega

/-- A payload without a zero byte decodes to what it means, if printf can print that. -/
theorem decode_eq_some_iff {p : UriPayload} (hzero : (0 : UInt8) ∉ p.rest) (beyond : Bytes) :
    decodeUriPayload p.bytes beyond = some p.uri ↔ p.uri.length < 2 ^ 31 := by
  constructor
  · intro h
    have hexpands : p.Expands p.uri := ⟨beyond, h⟩
    exact hexpands.spec.1
  · intro h
    exact decodeUriPayload_cons p.code_lt hzero h beyond

end UriPayload

/-! ## The payload that is built -/

/-- The payload `ndef_build_uri_message` makes. -/
def uriPayload (uri : Bytes) : Option Bytes :=
  let best := longestPrefix uri uriPrefixes.tail 1 (0, 0)
  byteArrayAppendSized [best.1.toUInt8] (uri.drop best.2)

/-- The rest of the builder. -/
theorem ndefBuildUriMessage_some (uri : Bytes) :
    ndefBuildUriMessage (some uri) = (uriPayload uri).bind fun payload =>
      buildSingleRecord ndefTnfWellKnown.toUInt8 (text "U") payload := rfl

/-- The URI with its longest abbreviation. -/
def shortestPayload (uri : Bytes) : UriPayload :=
  let best := longestPrefix uri uriPrefixes.tail 1 (0, 0)
  ⟨best.1, uri.drop best.2, (longestOf_builder uri).code_lt⟩

theorem uri_shortestPayload (uri : Bytes) : (shortestPayload uri).uri = uri := by
  have h := longestOf_builder uri
  simp only [UriPayload.uri, shortestPayload]
  have hjoin := List.prefix_iff_eq_append.mp h.isPrefix
  rwa [h.length_eq] at hjoin

/-- The builder makes this payload, less what GLib does not see of the rest. -/
theorem uriPayload_eq (uri : Bytes) :
    uriPayload uri =
      byteArrayAppendSized [(shortestPayload uri).code.toUInt8] (shortestPayload uri).rest := by
  simp only [uriPayload, shortestPayload]

/-- No abbreviation that fits leaves less of the URI. -/
theorem length_shortestPayload_le {uri : Bytes} {code : ℕ} (hcode : code < uriPrefixes.length)
    (h : uriPrefix code <+: uri) :
    (shortestPayload uri).rest.length ≤ uri.length - (uriPrefix code).length := by
  have htext : uriPrefix code = text uriPrefixes[code] := by
    rw [uriPrefix, List.getD_eq_getElem _ _ hcode]
  have hmem : uriPrefixes[code] ∈ uriPrefixes.take uriPrefixes.length := by
    rw [List.take_length]
    exact List.getElem_mem hcode
  have hlongest := (longestOf_builder uri).longest _ hmem (by rwa [← htext])
  have hrest := List.length_drop (i := (longestPrefix uri uriPrefixes.tail 1 (0, 0)).2) (l := uri)
  rw [htext, shortestPayload, hrest]
  omega

theorem decode_shortestPayload (uri : CString) (h : uri.1.length < 2 ^ 31) (beyond : Bytes) :
    decodeUriPayload (shortestPayload uri.1).bytes beyond = some uri.1 := by
  have hzero := UriPayload.notMem_rest (uri_shortestPayload uri.1) uri.2
  have hdecode := (UriPayload.decode_eq_some_iff hzero beyond).mpr (by
    rwa [uri_shortestPayload])
  rwa [uri_shortestPayload] at hdecode

/-- NULL means that not even this payload is a short one. -/
theorem long_of_refused {uri : Bytes} (h : ndefBuildUriMessage (some uri) = some none) :
    255 < (shortestPayload uri).bytes.length := by
  rw [ndefBuildUriMessage_some, uriPayload_eq, byteArrayAppendSized_eq] at h
  rw [UriPayload.length_bytes]
  split at h
  · have hmod := Nat.mod_le (shortestPayload uri).rest.length (2 ^ 32)
    by_contra hshort
    rw [Option.bind_some, buildSingleRecord_eq (by decide), if_neg] at h
    · simp at h
    · rw [List.length_append, List.length_singleton, List.length_take]
      omega
  · -- GLib aborts
    cases h

example : (shortestPayload (text "urn:epc:id:sgtin")).bytes = 30 :: text "sgtin" := by
  decide +kernel

/-! ## The records of one URI -/

/-- The records that stand for a URI: type name format, type and payload. -/
inductive EncodesUri (uri : Bytes) : ℕ → Bytes → Bytes → Prop
  /-- A URI record, under any abbreviation the URI starts with. -/
  | abbreviated (p : UriPayload) (h : p.uri = uri) :
    EncodesUri uri ndefTnfWellKnown (text "U") p.bytes
  /-- An absolute URI is the type of its record. -/
  | absolute (payload : Bytes) : EncodesUri uri ndefTnfAbsoluteUri uri payload

theorem get?_ndefRawFields_uri (tnf : ℕ) (type id payload : Bytes) :
    (ndefRawFields tnf type id payload).get? "uri" = none := by
  unfold ndefRawFields
  split_ifs <;> simp

/-- A URI record shows what its payload decodes to. -/
theorem showsUri_wellKnown_iff (glib : GlibText) (uri id payload beyond : Bytes) :
    ShowsUri uri (ndefRecordToJson glib ndefTnfWellKnown (text "U") id payload beyond) ↔
      decodeUriPayload payload beyond = some uri := by
  have hraw := get?_ndefRawFields_uri ndefTnfWellKnown (text "U") id payload
  constructor
  · intro h
    have huri := h.uri
    cases hdecode : decodeUriPayload payload beyond with
    | none => simp [ndefRecordToJson, hdecode, hraw] at huri
    | some shown => simpa [ndefRecordToJson, hdecode] using huri
  · intro h
    constructor <;> simp [ndefRecordToJson, h]

/-- An absolute-URI record shows its payload, up to a zero byte. -/
theorem showsUri_absolute_iff (glib : GlibText) (uri type id payload beyond : Bytes) :
    ShowsUri uri (ndefRecordToJson glib ndefTnfAbsoluteUri type id payload beyond) ↔
      cString payload = uri := by
  have hwellKnown : ndefTnfAbsoluteUri ≠ ndefTnfWellKnown := by decide
  have hmedia : ndefTnfAbsoluteUri ≠ ndefTnfMediaType := by decide
  constructor
  · intro h
    have huri := h.uri
    simpa [ndefRecordToJson, hwellKnown, hmedia] using huri
  · intro h
    constructor <;> simp [ndefRecordToJson, hwellKnown, hmedia, h]

theorem cString_append_zero {bytes : Bytes} (h : (0 : UInt8) ∉ bytes) (rest : Bytes) :
    cString (bytes ++ 0 :: rest) = bytes := by
  rw [cString, List.takeWhile_append_of_pos]
  · simp
  · intro b hb
    rw [decide_eq_true_iff]
    rintro rfl
    exact h hb

/-- A string is read from the bytes that are the string, or go on with a zero byte. -/
theorem cString_eq_iff {payload uri : Bytes} (hzero : (0 : UInt8) ∉ uri) :
    cString payload = uri ↔ payload = uri ∨ uri ++ [0] <+: payload := by
  constructor
  · intro h
    by_cases hmem : (0 : UInt8) ∈ payload
    · obtain ⟨before, rest, rfl, hbefore⟩ := List.eq_append_cons_of_mem hmem
      rw [cString_append_zero hbefore] at h
      subst h
      exact Or.inr ⟨rest, by rw [List.append_assoc, List.singleton_append]⟩
    · rw [cString_of_notMem hmem] at h
      exact Or.inl h
  · rintro (rfl | ⟨rest, rfl⟩)
    · exact cString_of_notMem hzero
    · rw [List.append_assoc, List.singleton_append, cString_append_zero hzero]

/-- What has to hold of a record for its URI to be shown: `printf` can count the URI of a URI
record, and an absolute URI is the payload as well as the type, or stands in the payload in
front of a zero byte. -/
structure Readable (uri : Bytes) (tnf : ℕ) (payload : Bytes) : Prop where
  wellKnown : tnf = ndefTnfWellKnown → uri.length < 2 ^ 31
  absolute : tnf = ndefTnfAbsoluteUri → payload = uri ∨ uri ++ [0] <+: payload

/-- **Encodings of one URI.** -/
theorem showsUri_iff (glib : GlibText) (uri : CString) (id beyond : Bytes) {tnf : ℕ}
    {type payload : Bytes} (h : EncodesUri uri.1 tnf type payload) :
    ShowsUri uri.1 (ndefRecordToJson glib tnf type id payload beyond) ↔
      Readable uri.1 tnf payload := by
  cases h with
  | abbreviated p h =>
    have hzero := UriPayload.notMem_rest h uri.2
    rw [showsUri_wellKnown_iff, ← h, UriPayload.decode_eq_some_iff hzero]
    exact ⟨fun hlen => ⟨fun _ => hlen, fun htnf => absurd htnf (by decide)⟩,
      fun hreadable => hreadable.wellKnown rfl⟩
  | absolute payload =>
    rw [showsUri_absolute_iff, cString_eq_iff uri.2]
    exact ⟨fun hpayload => ⟨fun htnf => absurd htnf (by decide), fun _ => hpayload⟩,
      fun hreadable => hreadable.absolute rfl⟩

/-- A web address, under the second abbreviation. -/
theorem showsUri_iff_webAddress :
    ShowsUri (text "https://www.a.example/")
        (ndefRecordToJson asciiGlib ndefTnfWellKnown (text "U") []
          (2 :: text "a.example/") []) ↔
      Readable (text "https://www.a.example/") ndefTnfWellKnown (2 :: text "a.example/") :=
  showsUri_iff asciiGlib ⟨text "https://www.a.example/", by decide⟩ [] []
    (.abbreviated ⟨2, text "a.example/", by decide⟩ (by decide))

/-- The payload of an absolute-URI record is shown for its URI. -/
theorem not_showsUri_payload :
    EncodesUri (text "https://a.example/") ndefTnfAbsoluteUri (text "https://a.example/")
        (text "page") ∧
      ShowsUri (text "page") (ndefRecordToJson asciiGlib ndefTnfAbsoluteUri
        (text "https://a.example/") [] (text "page") []) ∧
      ¬ ShowsUri (text "https://a.example/") (ndefRecordToJson asciiGlib ndefTnfAbsoluteUri
        (text "https://a.example/") [] (text "page") []) := by
  simp only [showsUri_absolute_iff]
  exact ⟨.absolute _, by decide⟩

end NfcAdapter
