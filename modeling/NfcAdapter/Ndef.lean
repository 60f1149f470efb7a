/-
# NDEF records and messages (`ndef.c`)

The parser of NDEF messages and its JSON rendering, and the builders of the messages
`writeTag` writes.  C strings are byte strings without a zero byte; a NULL pointer is
`none`.  A read position in a buffer is the part of the buffer that is still to be read.
On a 64-bit `gsize` no sum of lengths wraps, so they are natural numbers.
-/
import Mathlib.Tactic.Ring
import NfcAdapter.CardEmulation
import NfcAdapter.Json
import NfcAdapter.PassportRead

namespace NfcAdapter

open Json (text Value Object)

/-! ## Header bits, type names and abbreviations -/

/-- `NDEF_HDR_MB`. -/
def ndefHdrMb : UInt8 := 0x80
/-- `NDEF_HDR_ME`. -/
def ndefHdrMe : UInt8 := 0x40
/-- `NDEF_HDR_SR`. -/
def ndefHdrSr : UInt8 := 0x10
/-- `NDEF_HDR_IL`. -/
def ndefHdrIl : UInt8 := 0x08
/-- `NDEF_HDR_TNF`. -/
def ndefHdrTnf : UInt8 := 0x07

/-- `NDEF_TNF_WELL_KNOWN`. -/
def ndefTnfWellKnown : ℕ := 1
/-- `NDEF_TNF_MEDIA_TYPE`. -/
def ndefTnfMediaType : ℕ := 2
/-- `NDEF_TNF_ABSOLUTE_URI`. -/
def ndefTnfAbsoluteUri : ℕ := 3
/-- `NDEF_TNF_EXTERNAL`. -/
def ndefTnfExternal : ℕ := 4

/-- `uri_prefixes`. -/
def uriPrefixes : List String :=
  ["", "http://www.", "https://www.", "http://", "https://", "tel:", "mailto:",
    "ftp://anonymous:anonymous@", "ftp://ftp.", "ftps://", "sftp://", "smb://", "nfs://",
    "ftp://", "dav://", "news:", "telnet://", "imap:", "rtsp://", "urn:", "pop:", "sip:",
    "sips:", "tftp:", "btspp://", "btl2cap://", "btgoep://", "tcpobex://", "irdaobex://",
    "file://", "urn:epc:id:", "urn:epc:tag:", "urn:epc:pat:", "urn:epc:raw:", "urn:epc:",
    "urn:nfc:"]

/-- `uri_prefixes[code]`, and the empty string past the end of the table. -/
def uriPrefix (code : ℕ) : Bytes := text (uriPrefixes.getD code "")

/-! ## Payload decoders -/

/-- The two GLib conversions the decoders use: `g_utf16_to_utf8` on code units in memory
order (`none` for an invalid sequence) and `g_utf8_validate`. -/
structure GlibText where
  utf16ToUtf8 : Bytes → Option Bytes
  utf8Validate : Bytes → Bool

/-- The two GLib conversions on plain ASCII. -/
def asciiGlib : GlibText :=
  ⟨fun _ => none, fun bytes => bytes.all fun b => 0 < b ∧ b < 0x80⟩

/-- What a C string function sees of some bytes: they end at the first zero byte. -/
def cString (bytes : Bytes) : Bytes := bytes.takeWhile (· ≠ 0)

/-- The conversion of a length to `int`. -/
def toInt32 (n : ℕ) : ℤ := (BitVec.ofNat 32 n).toInt

/-- `type_to_string`. -/
def typeToString (type : Bytes) : Option Bytes :=
  if type = [] then none
  else if type.any fun b => b < 0x20 ∨ b > 0x7E then none
  else some type

/-- `decode_uri_payload`.  A negative precision means none at all to `printf`, which then
reads up to the next zero byte: `beyond` is what memory holds after the payload.  A text of
`2 ^ 31` bytes or more cannot be printed. -/
def decodeUriPayload (payload beyond : Bytes) : Option Bytes :=
  match payload with
  | [] => none
  | code :: rest =>
    let precision := toInt32 rest.length
    let shown :=
      if precision < 0 then cString (rest ++ beyond) else cString (rest.take precision.toNat)
    let uri := uriPrefix code.toNat ++ shown
    if uri.length < 2 ^ 31 then some uri else none

/-- What `decode_text_payload` hands out. -/
structure TextPayload where
  text : Bytes
  language : Bytes
  utf16 : Bool
  deriving DecidableEq, Repr

/-- `decode_text_payload`. -/
def decodeTextPayload (glib : GlibText) (payload : Bytes) : Option TextPayload :=
  match payload with
  | [] => none
  | status :: rest =>
    let utf16 := status &&& 0x80 ≠ 0
    let langLen := (status &&& 0x3F).toNat
    if rest.length < langLen then none
    else if utf16 then
      -- an odd byte at the end is left over
      let units := (rest.drop langLen).take ((rest.length - langLen) / 2 * 2)
      (glib.utf16ToUtf8 units).map fun text => ⟨text, cString (rest.take langLen), true⟩
    else some ⟨cString (rest.drop langLen), cString (rest.take langLen), false⟩

/-! ## Records -/

/-- The parts of one record. -/
structure NdefRecord where
  header : UInt8
  type : Bytes
  id : Bytes
  payload : Bytes
  deriving DecidableEq, Repr

namespace NdefRecord

/-- The message ends with this record. -/
def me (r : NdefRecord) : Bool := r.header &&& ndefHdrMe ≠ 0

/-- The payload length takes one byte. -/
def sr (r : NdefRecord) : Bool := r.header &&& ndefHdrSr ≠ 0

/-- The record has an id length field. -/
def il (r : NdefRecord) : Bool := r.header &&& ndefHdrIl ≠ 0

/-- The type name format. -/
def tnf (r : NdefRecord) : ℕ := (r.header &&& ndefHdrTnf).toNat

/-- The record wraps an NDEF message of its own. -/
def isSmartPoster (r : NdefRecord) : Bool := r.tnf = ndefTnfWellKnown ∧ r.type = text "Sp"

end NdefRecord

/-- The payload length field: its value and what follows it. -/
def ndefPayloadLen (header : UInt8) (data : Bytes) : Option (ℕ × Bytes) :=
  if header &&& ndefHdrSr ≠ 0 then
    match data with
    | n :: rest => some (n.toNat, rest)
    | [] => none
  else
    match data with
    | a :: b :: c :: d :: rest =>
      some (a.toNat * 2 ^ 24 + b.toNat * 2 ^ 16 + c.toNat * 2 ^ 8 + d.toNat, rest)
    | _ => none

/-- The id length field, which is there if the header says so. -/
def ndefIdLen (header : UInt8) (data : Bytes) : Option (ℕ × Bytes) :=
  if header &&& ndefHdrIl ≠ 0 then
    match data with
    | n :: rest => some (n.toNat, rest)
    | [] => none
  else some (0, data)

/-- One turn of the loop of `ndef_message_to_json`: the record at the read position and
the data behind it, `none` where the loop leaves for `malformed`. -/
def ndefParseRecord (data : Bytes) : Option (NdefRecord × Bytes) :=
  match data with
  | header :: typeLen :: afterType => do
    let (payloadLen, afterPayload) ← ndefPayloadLen header afterType
    let (idLen, body) ← ndefIdLen header afterPayload
    if typeLen.toNat + idLen + payloadLen > body.length then none
    else
      let afterId := body.drop (typeLen.toNat + idLen)
      some (⟨header, body.take typeLen.toNat, (body.drop typeLen.toNat).take idLen,
        afterId.take payloadLen⟩, afterId.drop payloadLen)
  | _ => none

theorem ndefPayloadLen_length {header : UInt8} {data rest : Bytes} {n : ℕ}
    (h : ndefPayloadLen header data = some (n, rest)) : rest.length ≤ data.length := by
  unfold ndefPayloadLen at h
  split at h
  · split at h
    · simp only [Option.some.injEq, Prod.mk.injEq] at h
      simp [← h.2]
    · cases h
  · split at h
    · simp only [Option.some.injEq, Prod.mk.injEq] at h
      simp only [← h.2, List.length_cons]
      omega
    · cases h

theorem ndefIdLen_length {header : UInt8} {data rest : Bytes} {n : ℕ}
    (h : ndefIdLen header data = some (n, rest)) : rest.length ≤ data.length := by
  unfold ndefIdLen at h
  split at h
  · split at h
    · simp only [Option.some.injEq, Prod.mk.injEq] at h
      simp [← h.2]
    · cases h
  · simp only [Option.some.injEq, Prod.mk.injEq] at h
    simp [← h.2]

/-- A record takes at least its two first bytes. -/
theorem ndefParseRecord_length {data rest : Bytes} {r : NdefRecord}
    (h : ndefParseRecord data = some (r, rest)) :
    r.payload.length + rest.length < data.length := by
  unfold ndefParseRecord at h
  split at h
  · next header typeLen afterType =>
    simp only [Option.bind_eq_bind, Option.bind_eq_some_iff, Prod.exists] at h
    obtain ⟨payloadLen, afterPayload, hp, idLen, body, hi, h⟩ := h
    have hpl := ndefPayloadLen_length hp
    have hil := ndefIdLen_length hi
    split at h
    · cases h
    · simp only [Option.some.injEq, Prod.mk.injEq] at h
      obtain ⟨rfl, rfl⟩ := h
      simp only [List.length_take, List.length_drop, List.length_cons]
      omega
  · cases h

/-- The members `ndef_record_to_json` puts whatever the type name format. -/
def ndefRawFields (tnf : ℕ) (type id payload : Bytes) : Object :=
  let obj := Object.put [] "tnf" (.number (toInt32 tnf))
  let obj := obj.put? "type" ((typeToString type).map .string)
  let obj := obj.put "typeHex" (.string (text (ndefBytesToHex type)))
  let obj := if id = [] then obj else obj.put "idHex" (.string (text (ndefBytesToHex id)))
  let obj := obj.put "payloadHex" (.string (text (ndefBytesToHex payload)))
  obj.put "payloadSize" (.number (toInt32 payload.length))

mutual

/-- `ndef_record_to_json`; `beyond` is what memory holds after the payload. -/
def ndefRecordToJson (glib : GlibText) (tnf : ℕ) (type id payload beyond : Bytes) : Object :=
  let obj := ndefRawFields tnf type id payload
  if tnf = ndefTnfWellKnown then
    if type = text "U" then
      match decodeUriPayload payload beyond with
      | some uri => (obj.put "kind" (.string (text "uri"))).put "uri" (.string uri)
      | none => obj
    else if type = text "T" then
      match decodeTextPayload glib payload with
      | some decoded =>
        (((obj.put "kind" (.string (text "text"))).put "text" (.string decoded.text)).put
          "language" (.string decoded.language)).put "utf16" (.boolean decoded.utf16)
      | none => obj
    else if type = text "Sp" then
      -- a Smart Poster wraps a whole NDEF message of its own
      (obj.put "kind" (.string (text "smartposter"))).put? "records"
        (ndefMessageToJson glib payload beyond)
    else obj
  else if tnf = ndefTnfMediaType then
    let obj := obj.put "kind" (.string (text "media"))
    match typeToString type with
    | some mediaType =>
      let obj := obj.put "mediaType" (.string mediaType)
      if (text "text/").isPrefixOf mediaType ∧ glib.utf8Validate payload then
        obj.put "text" (.string (cString payload))
      else obj
    | none => obj
  else if tnf = ndefTnfAbsoluteUri then
    (obj.put "kind" (.string (text "uri"))).put "uri" (.string (cString payload))
  else if tnf = ndefTnfExternal then
    (obj.put "kind" (.string (text "external"))).put? "externalType"
      ((typeToString type).map .string)
  else obj
termination_by 3 * payload.length + 2

/-- `ndef_message_to_json` on the bytes `data`, with `beyond` after them in memory. -/
def ndefMessageToJson (glib : GlibText) (data beyond : Bytes) : Option Value :=
  if data = [] then none else (ndefMessageLoop glib data beyond []).map .array
termination_by 3 * data.length + 1

/-- The loop of `ndef_message_to_json`. -/
def ndefMessageLoop (glib : GlibText) (data beyond : Bytes) (arr : List Value) :
    Option (List Value) :=
  if data = [] then some arr
  else
    match h : ndefParseRecord data with
    | none => none
    | some (r, rest) =>
      have := ndefParseRecord_length h
      let arr := arr ++
        [.object (ndefRecordToJson glib r.tnf r.type r.id r.payload (rest ++ beyond))]
      if r.me then some arr else ndefMessageLoop glib rest beyond arr
termination_by 3 * data.length

end

/-! ## The builders -/

/-- What a builder returns: `none` when GLib aborts, else the pointer. -/
abbrev BuildResult := Option (Option Bytes)

/-- `g_byte_array_append` of a C string given with its `gsize` length, which the parameter
of type `guint` receives modulo `2 ^ 32`. -/
def byteArrayAppendSized (array bytes : Bytes) : Option Bytes :=
  byteArrayAppend array (bytes.take (bytes.length % 2 ^ 32))

/-- `build_single_record`. -/
def buildSingleRecord (tnf : UInt8) (type payload : Bytes) : BuildResult :=
  if payload.length > 0xFF then some none
  else
    let header := ndefHdrMb ||| ndefHdrMe ||| ndefHdrSr ||| (tnf &&& ndefHdrTnf)
    let typeLen := type.length.toUInt8
    (byteArrayAppend [header, typeLen, payload.length.toUInt8]
      (type.take typeLen.toNat)).bind fun message =>
        (byteArrayAppend message payload).map some

/-- The choice of the abbreviation: the code and length of the longest match among the
entries from number `n` on, if it is longer than the best so far. -/
def longestPrefix (uri : Bytes) : List String → ℕ → ℕ × ℕ → ℕ × ℕ
  | [], _, best => best
  | p :: ps, n, best =>
    longestPrefix uri ps (n + 1)
      (if (text p).length > best.2 ∧ (text p).isPrefixOf uri then (n, (text p).length) else best)

/-- `ndef_build_uri_message`. -/
def ndefBuildUriMessage (uri : Option Bytes) : BuildResult :=
  match uri with
  | none => some none
  | some uri =>
    let best := longestPrefix uri uriPrefixes.tail 1 (0, 0)
    (byteArrayAppendSized [best.1.toUInt8] (uri.drop best.2)).bind fun payload =>
      buildSingleRecord ndefTnfWellKnown.toUInt8 (text "U") payload

/-- The language of a text record: NULL and the empty string stand for `en`. -/
def textLanguage (language : Option Bytes) : Bytes :=
  match language with
  | none => text "en"
  | some language => if language = [] then text "en" else language

/-- `ndef_build_text_message`. -/
def ndefBuildTextMessage (content language : Option Bytes) : BuildResult :=
  match content with
  | none => some none
  | some content =>
    let language := textLanguage language
    if language.length > 0x3F then some none
    else
      (byteArrayAppendSized [language.length.toUInt8] language).bind fun payload =>
        (byteArrayAppendSized payload content).bind fun payload =>
          buildSingleRecord ndefTnfWellKnown.toUInt8 (text "T") payload

/-- `ndef_wrap_type2_tlv`. -/
def ndefWrapType2Tlv (message : Option Bytes) : BuildResult :=
  match message with
  | none => some none
  | some message =>
    let n := message.length
    let head :=
      if n < 0xFF then [0x03, n.toUInt8]
      else [0x03, 0xFF, (n / 256).toUInt8, (n % 256).toUInt8]
    (byteArrayAppend head message).bind fun tlv => (byteArrayAppend tlv [0xFE]).map some

end NfcAdapter
