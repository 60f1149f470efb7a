/-
# The strings of a record object (`ndef.c`)

Every argument `ndef_record_to_json` gives to `jstring_create`, in the order of the calls,
with `none` for a NULL pointer.  Hex digits, type names and validated payloads are
well-formed UTF-8; URIs, texts and languages are the tag's own bytes, and an empty payload
is a NULL pointer.
-/
import NfcAdapter.NdefBuild
import NfcAdapter.Utf8

namespace NfcAdapter

open Json (text)

/-! ## Pointers -/

/-- `g_variant_get_fixed_array` of a byte array: NULL when it is empty. -/
def fixedArray (bytes : Bytes) : Option Bytes := if bytes = [] then none else some bytes

/-- `g_strndup`: NULL for NULL. -/
def gStrndup (source : Option Bytes) : Option Bytes := source.map cString

/-! ## The arguments -/

/-- The arguments for the members every record has. -/
def ndefRawStrings (type id payload : Bytes) : List (Option Bytes) :=
  (typeToString type).toList.map some ++ [some (text (ndefBytesToHex type))] ++
    (if id = [] then [] else [some (text (ndefBytesToHex id))]) ++
    [some (text (ndefBytesToHex payload))]

mutual

/-- The arguments of one call of `ndef_record_to_json`, with `payload` as a pointer. -/
def ndefRecordStrings (glib : GlibText) (tnf : ℕ) (type id : Bytes) (payload : Option Bytes)
    (beyond : Bytes) : List (Option Bytes) :=
  let bytes := payload.getD []
  ndefRawStrings type id bytes ++
    if tnf = ndefTnfWellKnown then
      if type = text "U" then
        match decodeUriPayload bytes beyond with
        | some uri => [some (text "uri"), some uri]
        | none => []
      else if type = text "T" then
        match decodeTextPayload glib bytes with
        | some decoded => [some (text "text"), some decoded.text, some decoded.language]
        | none => []
      else if type = text "Sp" then
        ndefMessageStrings glib bytes beyond ++ [some (text "smartposter")]
      else []
    else if tnf = ndefTnfMediaType then
      some (text "media") ::
        match typeToString type with
        | some mediaType =>
          some mediaType ::
            if (text "text/").isPrefixOf mediaType ∧ glib.utf8Validate bytes then
              [gStrndup payload]
            else []
        | none => []
    else if tnf = ndefTnfAbsoluteUri then [some (text "uri"), gStrndup payload]
    else if tnf = ndefTnfExternal then
      some (text "external") :: (typeToString type).toList.map some
    else []
termination_by 2 * (payload.getD []).length + 1

/-- The arguments of the calls `ndef_message_to_json` makes.  Its slices are pointers into
the message, even when they are empty. -/
def ndefMessageStrings (glib : GlibText) (data beyond : Bytes) : List (Option Bytes) :=
  match h : ndefParseRecord data with
  | none => []
  | some (r, rest) =>
    have := ndefParseRecord_length h
    ndefRecordStrings glib r.tnf r.type r.id (some r.payload) (rest ++ beyond) ++
      if r.me then [] else ndefMessageStrings glib rest beyond
termination_by 2 * data.length
decreasing_by
  · simp only [Option.getD_some]
    omega
  · omega

end

/-! ## Which records have valid strings -/

/-- A string `jstring_create` can make a JSON string of. -/
def ValidString (s : Option Bytes) : Prop := ∃ bytes ∈ s, Utf8.Valid bytes

instance (s : Option Bytes) : Decidable (ValidString s) :=
  inferInstanceAs (Decidable (∃ bytes ∈ s, Utf8.Valid bytes))

/-- What GLib documents about its two conversions. -/
structure GlibText.Converts (glib : GlibText) : Prop where
  utf16 : ∀ units out, glib.utf16ToUtf8 units = some out → Utf8.Valid out
  validate : ∀ bytes, glib.utf8Validate bytes = true ↔ Utf8.Valid bytes ∧ (0 : UInt8) ∉ bytes

/-- The language and, unless it is converted from UTF-16, the text of a text record are
UTF-8 up to their first zero byte. -/
def TextPayloadValid (glib : GlibText) (payload : Bytes) : Prop :=
  match payload with
  | [] => True
  | status :: rest =>
    let langLen := (status &&& 0x3F).toNat
    langLen ≤ rest.length →
      if status &&& 0x80 ≠ 0 then
        (glib.utf16ToUtf8 ((rest.drop langLen).take ((rest.length - langLen) / 2 * 2))).isSome →
          Utf8.Valid (cString (rest.take langLen))
      else
        Utf8.Valid (cString (rest.drop langLen)) ∧ Utf8.Valid (cString (rest.take langLen))

instance (glib : GlibText) (payload : Bytes) : Decidable (TextPayloadValid glib payload) :=
  match payload with
  | [] => isTrue trivial
  | _ :: _ => inferInstanceAs (Decidable (_ → ite _ (_ → _) (_ ∧ _)))

/-- The strings that are the tag's own bytes are UTF-8, and none of them is NULL: the rest
of a URI, language and text, an absolute URI, and the text of a `text/` media record. -/
def RecordValid (glib : GlibText) (tnf : ℕ) (type : Bytes) (payload : Option Bytes) : Prop :=
  if tnf = ndefTnfWellKnown then
    (type = text "U" → Utf8.Valid (cString (payload.getD []).tail)) ∧
      (type = text "T" → TextPayloadValid glib (payload.getD []))
  else if tnf = ndefTnfMediaType then
    ∀ mediaType ∈ typeToString type, (text "text/").isPrefixOf mediaType → payload ≠ none
  else if tnf = ndefTnfAbsoluteUri then ValidString (gStrndup payload)
  else True

instance (glib : GlibText) (tnf : ℕ) (type : Bytes) (payload : Option Bytes) :
    Decidable (RecordValid glib tnf type payload) :=
  inferInstanceAs (Decidable (ite _ (_ ∧ _) (ite _ (∀ mediaType ∈ typeToString type, _ → _) _)))

/-- The records that are read from a message, at all depths. -/
inductive NdefNested : Bytes → NdefRecord → Prop
  | here {data rest : Bytes} {r : NdefRecord} (h : ndefParseRecord data = some (r, rest)) :
      NdefNested data r
  | next {data rest : Bytes} {r r' : NdefRecord} (h : ndefParseRecord data = some (r, rest))
      (hme : r.me = false) (hrest : NdefNested rest r') : NdefNested data r'
  | inside {data rest : Bytes} {r r' : NdefRecord} (h : ndefParseRecord data = some (r, rest))
      (hsp : r.isSmartPoster = true) (hpayload : NdefNested r.payload r') : NdefNested data r'

/-! ## One kind of record at a time -/

@[simp] theorem validString_some (bytes : Bytes) : ValidString (some bytes) ↔ Utf8.Valid bytes := by
  simp [ValidString]

@[simp] theorem not_validString_none : ¬ ValidString none := by simp [ValidString]

/-- A literal of the source is a JSON string, and can be dropped in front of other bytes. -/
theorem valid_text_append (s : String) (bytes : Bytes) :
    Utf8.Valid (text s ++ bytes) ↔ Utf8.Valid bytes := by
  rw [← String.ofList_toList (s := s), Json.text_ofList, Utf8.valid_encode_append]

@[simp] theorem valid_text (s : String) : Utf8.Valid (text s) := by
  have h := valid_text_append s []
  rw [List.append_nil] at h
  exact h.mpr Utf8.valid_nil

/-- A type name is printable ASCII. -/
theorem valid_typeToString {type name : Bytes} (h : typeToString type = some name) :
    Utf8.Valid name := by
  unfold typeToString at h
  split_ifs at h with hempty hprintable
  rw [← Option.some.inj h]
  refine Utf8.valid_of_ascii fun b hb => ?_
  simp only [List.any_eq_true, decide_eq_true_eq, not_exists, not_and, not_or] at hprintable
  have hle := (hprintable b hb).2
  rw [gt_iff_lt, UInt8.lt_iff_toNat_lt] at hle
  rw [UInt8.lt_iff_toNat_lt]
  exact lt_of_le_of_lt (Nat.not_lt.mp hle) (by decide)

theorem valid_ndefRawStrings (type id payload : Bytes) :
    ∀ s ∈ ndefRawStrings type id payload, ValidString s := by
  intro s hs
  simp only [ndefRawStrings, List.mem_append, List.mem_map, Option.mem_toList,
    List.mem_singleton] at hs
  rcases hs with ((⟨name, hname, rfl⟩ | rfl) | hs) | rfl
  · simpa using valid_typeToString hname
  · simp
  · split_ifs at hs
    · cases hs
    · rw [List.mem_singleton.mp hs]
      simp
  · simp

/-- A D-Bus array is at most 64 MiB long. -/
def dbusArrayMax : ℕ := 2 ^ 26

theorem decodeUriPayload_of_le {payload beyond : Bytes} (h : payload.length ≤ dbusArrayMax) :
    decodeUriPayload payload beyond =
      match payload with
      | [] => none
      | code :: rest => some (uriPrefix code.toNat ++ cString rest) := by
  cases payload with
  | nil => rfl
  | cons code rest =>
    have hrest : rest.length < 2 ^ 26 := by
      simp only [dbusArrayMax, List.length_cons] at h
      omega
    have hhead := length_uriPrefix_le code.toNat
    have hshown : (cString rest).length ≤ rest.length := (List.takeWhile_prefix _).length_le
    have hshort : (uriPrefix code.toNat ++ cString rest).length < 2 ^ 31 := by
      rw [List.length_append]
      omega
    rw [decodeUriPayload_eq _ (by omega), if_pos hshort]

/-- A URI record: the abbreviation is ASCII, so all depends on the bytes after its code. -/
theorem uri_strings_iff {payload beyond : Bytes} (h : payload.length ≤ dbusArrayMax) :
    (∀ s ∈ (match decodeUriPayload payload beyond with
        | some uri => [some (text "uri"), some uri]
        | none => []), ValidString s) ↔ Utf8.Valid (cString payload.tail) := by
  rw [decodeUriPayload_of_le h]
  cases payload with
  | nil => simp [cString]
  | cons code rest =>
    simp only [List.forall_mem_cons, validString_some, valid_text, true_and, List.tail_cons,
      List.not_mem_nil, false_imp_iff, implies_true, and_true]
    exact valid_text_append _ _

/-- A text record. -/
theorem text_strings_iff {glib : GlibText} (hglib : glib.Converts) (payload : Bytes) :
    (∀ s ∈ (match decodeTextPayload glib payload with
        | some decoded => [some (text "text"), some decoded.text, some decoded.language]
        | none => []), ValidString s) ↔ TextPayloadValid glib payload := by
  cases payload with
  | nil => simp [decodeTextPayload, TextPayloadValid]
  | cons status rest =>
    simp only [decodeTextPayload, TextPayloadValid]
    by_cases hlang : rest.length < (status &&& 0x3F).toNat
    · rw [if_pos hlang]
      exact ⟨fun _ hle => absurd hle (Nat.not_le.mpr hlang), fun _ => by simp⟩
    · rw [if_neg hlang]
      simp only [Nat.not_lt.mp hlang, forall_const]
      by_cases hutf16 : status &&& 0x80 ≠ 0
      · rw [if_pos hutf16, if_pos hutf16]
        cases hout : glib.utf16ToUtf8 ((rest.drop (status &&& 0x3F).toNat).take
            ((rest.length - (status &&& 0x3F).toNat) / 2 * 2)) with
        | none => simp
        | some out => simp [hglib.utf16 _ _ hout]
      · rw [if_neg hutf16, if_neg hutf16]
        simp

/-- The readable form of a media record. -/
theorem media_strings_iff {glib : GlibText} (hglib : glib.Converts) (type : Bytes)
    (payload : Option Bytes) :
    (∀ s ∈ (match typeToString type with
        | some mediaType =>
          some mediaType ::
            if (text "text/").isPrefixOf mediaType ∧ glib.utf8Validate (payload.getD []) then
              [gStrndup payload]
            else []
        | none => []), ValidString s) ↔
      ∀ mediaType ∈ typeToString type, (text "text/").isPrefixOf mediaType → payload ≠ none := by
  cases hname : typeToString type with
  | none => simp
  | some mediaType =>
    simp only [List.forall_mem_cons, validString_some, valid_typeToString hname, true_and,
      Option.mem_def, Option.some.injEq, forall_eq']
    by_cases hmedia : (text "text/").isPrefixOf mediaType
    · cases payload with
      | none =>
        -- GLib finds no invalid byte in an empty text, wherever it is
        have hempty : glib.utf8Validate [] = true :=
          (hglib.validate []).mpr ⟨Utf8.valid_nil, by simp⟩
        simp [hmedia, hempty, gStrndup]
      | some bytes =>
        simp only [hmedia, Option.getD_some, true_and]
        split_ifs with hvalidate
        · obtain ⟨hvalid, hzero⟩ := (hglib.validate bytes).mp hvalidate
          simp [gStrndup, cString_of_notMem hzero, hvalid]
        · simp
    · simp [hmedia]

/-! ## All records -/

/-- Every record of a message has valid strings. -/
def NestedValid (glib : GlibText) (data : Bytes) : Prop :=
  ∀ r, NdefNested data r → RecordValid glib r.tnf r.type (some r.payload)

/-- The first record of a message, and the records in it and behind it. -/
theorem nestedValid_iff {glib : GlibText} {data rest : Bytes} {r : NdefRecord}
    (h : ndefParseRecord data = some (r, rest)) :
    NestedValid glib data ↔
      (RecordValid glib r.tnf r.type (some r.payload) ∧
        (r.isSmartPoster = true → NestedValid glib r.payload)) ∧
        (r.me = false → NestedValid glib rest) := by
  constructor
  · intro hall
    exact ⟨⟨hall r (.here h), fun hsp r' hr' => hall r' (.inside h hsp hr')⟩,
      fun hme r' hr' => hall r' (.next h hme hr')⟩
  · rintro ⟨⟨hown, hinside⟩, hnext⟩ r' (h' | ⟨h', hme, hr'⟩ | ⟨h', hsp, hr'⟩) <;>
      obtain ⟨rfl, rfl⟩ := Prod.mk.inj (Option.some.inj (h.symm.trans h'))
    · exact hown
    · exact hnext hme r' hr'
    · exact hinside hsp r' hr'

/-- No record is read from a message that does not start with one. -/
theorem nestedValid_of_malformed {glib : GlibText} {data : Bytes}
    (h : ndefParseRecord data = none) : NestedValid glib data := by
  rintro r (h' | ⟨h', -, -⟩ | ⟨h', -, -⟩) <;> simp [h] at h'

section AllRecords

variable {glib : GlibText} (hglib : glib.Converts)

include hglib

/-- One record, given what holds of the message in it. -/
theorem record_strings_iff {tnf : ℕ} {type id beyond : Bytes} {payload : Option Bytes}
    (hlen : (payload.getD []).length ≤ dbusArrayMax)
    (hnested : (∀ s ∈ ndefMessageStrings glib (payload.getD []) beyond, ValidString s) ↔
      NestedValid glib (payload.getD [])) :
    (∀ s ∈ ndefRecordStrings glib tnf type id payload beyond, ValidString s) ↔
      RecordValid glib tnf type payload ∧
        (tnf = ndefTnfWellKnown ∧ type = text "Sp" → NestedValid glib (payload.getD [])) := by
  rw [ndefRecordStrings, List.forall_mem_append, and_iff_right (valid_ndefRawStrings _ _ _),
    RecordValid]
  have hU : ¬ text "U" = text "T" := by decide
  have hUS : ¬ text "U" = text "Sp" := by decide
  have hTS : ¬ text "T" = text "Sp" := by decide
  split_ifs with htnf htype htype' htype'' hmedia huri hexternal
  · rw [uri_strings_iff hlen]
    simp [htype, hU, hUS]
  · rw [text_strings_iff hglib]
    simp [htype', hTS, Ne.symm hU]
  · rw [List.forall_mem_append, hnested]
    simp [htnf, htype'', Ne.symm hUS, Ne.symm hTS]
  · simp [htype, htype', htype'']
  · rw [List.forall_mem_cons, media_strings_iff hglib]
    simp [htnf]
  · simp [htnf]
  · cases hname : typeToString type with
    | none => simp [htnf]
    | some name => simp [htnf, valid_typeToString hname]
  · simp [htnf]

/-- **The records of a message**, at all depths. -/
theorem message_strings_iff (data beyond : Bytes) (hlen : data.length ≤ dbusArrayMax) :
    (∀ s ∈ ndefMessageStrings glib data beyond, ValidString s) ↔ NestedValid glib data := by
  induction hn : data.length using Nat.strong_induction_on generalizing data beyond with
  | _ n ih =>
    -- induction on the length: what is behind a record and what is in it are shorter
    subst hn
    rw [ndefMessageStrings]
    split
    · next hparse => simp [nestedValid_of_malformed hparse]
    · next r rest hparse =>
      have hlt := ndefParseRecord_length hparse
      have hpayload : ((some r.payload).getD []).length ≤ dbusArrayMax := by
        rw [Option.getD_some]
        omega
      have hrecord : (∀ s ∈ ndefRecordStrings glib r.tnf r.type r.id (some r.payload)
          (rest ++ beyond), ValidString s) ↔ _ :=
        record_strings_iff hglib hpayload
          (ih r.payload.length (by omega) r.payload (rest ++ beyond) (by omega) rfl)
      have hrest := ih rest.length (by omega) rest beyond (by omega) rfl
      rw [List.forall_mem_append, hrecord, nestedValid_iff hparse]
      refine and_congr ?_ ?_
      · simp [NdefRecord.isSmartPoster]
      · cases r.me <;> simp [hrest]

end AllRecords

theorem getD_fixedArray (bytes : Bytes) : (fixedArray bytes).getD [] = bytes := by
  unfold fixedArray
  split_ifs with h
  · exact h.symm
  · rfl

/-- **Which records give valid JSON strings.** For every type name format and every three
arrays nfcd can deliver, all arguments of `jstring_create`, those for the records in a
Smart Poster included, are non-NULL and well-formed UTF-8 exactly when the tag's bytes that
are copied without a check are. -/
theorem ndef_strings_valid_iff (glib : GlibText) (hglib : glib.Converts) (tnf : ℕ)
    (type id payload beyond : Bytes) (hlen : payload.length ≤ dbusArrayMax) :
    (∀ s ∈ ndefRecordStrings glib tnf type id (fixedArray payload) beyond, ValidString s) ↔
      RecordValid glib tnf type (fixedArray payload) ∧
        (tnf = ndefTnfWellKnown ∧ type = text "Sp" → NestedValid glib payload) := by
  have hpayload := getD_fixedArray payload
  have hnested : (∀ s ∈ ndefMessageStrings glib ((fixedArray payload).getD []) beyond,
      ValidString s) ↔ NestedValid glib ((fixedArray payload).getD []) := by
    rw [hpayload]
    exact message_strings_iff hglib payload beyond hlen
  rw [record_strings_iff hglib (by rw [hpayload]; exact hlen) hnested, hpayload]

/-- The conversions where no text is UTF-16. -/
def utf8Glib : GlibText :=
  ⟨fun _ => none, fun bytes => decide (Utf8.Valid bytes ∧ (0 : UInt8) ∉ bytes)⟩

theorem utf8Glib_converts : utf8Glib.Converts where
  utf16 := by
    intro units out h
    cases h
  validate := fun bytes => by simp [utf8Glib]

/-- A title in English and a URI, as a Smart Poster holds them. -/
def posterPayload : Bytes :=
  [0x91, 0x01, 0x05, 0x54, 0x02, 0x65, 0x6E, 0xC3, 0xA9, 0x51, 0x01, 0x03, 0x55, 0x04, 0x61, 0x2E]

theorem ndef_strings_valid_iff_poster : posterPayload.length ≤ dbusArrayMax ∧
    ∀ s ∈ ndefRecordStrings utf8Glib ndefTnfWellKnown (text "Sp") [] (fixedArray posterPayload) [],
      ValidString s := by
  have htitle : ndefParseRecord posterPayload = some (⟨0x91, [0x54], [],
      [0x02, 0x65, 0x6E, 0xC3, 0xA9]⟩, posterPayload.drop 9) := by decide
  have huri : ndefParseRecord (posterPayload.drop 9) = some (⟨0x51, [0x55], [],
      [0x04, 0x61, 0x2E]⟩, []) := by decide
  have hnested : NestedValid utf8Glib posterPayload := by
    rw [nestedValid_iff htitle, nestedValid_iff huri]
    refine ⟨⟨by decide +kernel, fun hsp => absurd hsp (by decide)⟩, fun _ => ⟨⟨by decide +kernel,
      fun hsp => absurd hsp (by decide)⟩, fun hme => absurd hme (by decide)⟩⟩
  have hlen : posterPayload.length ≤ dbusArrayMax := by decide
  exact ⟨hlen, (ndef_strings_valid_iff utf8Glib utf8Glib_converts ndefTnfWellKnown (text "Sp") []
    posterPayload [] hlen).mpr ⟨by decide, fun _ => hnested⟩⟩

/-- A URI record with the byte `FF`, and an absolute URI record without a payload. -/
theorem uri_bytes_are_not_checked :
    (¬ ∀ s ∈ ndefRecordStrings utf8Glib ndefTnfWellKnown (text "U") [] (fixedArray [0x04, 0xFF]) [],
      ValidString s) ∧
    ¬ ∀ s ∈ ndefRecordStrings utf8Glib ndefTnfAbsoluteUri [] [] (fixedArray []) [],
      ValidString s := by
  constructor
  · intro h
    rw [ndefRecordStrings] at h
    have hbad := h (some (text "https://" ++ [0xFF])) (by decide)
    rw [validString_some, valid_text_append] at hbad
    exact absurd hbad (by decide +kernel)
  · intro h
    rw [ndefRecordStrings] at h
    exact not_validString_none (h none (by decide))

end NfcAdapter
