/-
# What is written to a tag is what is read from it

The URI and text messages `writeTag` builds, wrapped for a Type 2 tag and read back by the
parser of messages.  GLib takes the length of an append as a 32-bit number, so a string of
`2 ^ 32` bytes or more is appended only in part: that is the one way in which a message can
differ from the request, and the condition below says exactly when it does.
-/
import Mathlib.Data.Finset.Lattice.Fold
import Mathlib.Data.List.GetD
import Mathlib.Order.Lattice.Nat
import NfcAdapter.NdefMessage

namespace NfcAdapter

open Json (text Value Object)

/-- A C string: bytes without a zero byte. -/
abbrev CString := { bytes : Bytes // 0 ∉ bytes }

theorem cString_eq_self_iff {bytes : Bytes} : cString bytes = bytes ↔ (0 : UInt8) ∉ bytes := by
  rw [cString, List.takeWhile_eq_self_iff]
  constructor
  · intro h hzero
    exact absurd (h 0 hzero) (by decide)
  · intro h b hb
    rw [decide_eq_true_iff]
    rintro rfl
    exact h hb

theorem cString_of_notMem {bytes : Bytes} (h : (0 : UInt8) ∉ bytes) : cString bytes = bytes :=
  cString_eq_self_iff.mpr h

/-! ## The longest abbreviation -/

/-- The length of the longest abbreviation the URI starts with. -/
def abbreviationLength (uri : Bytes) : ℕ :=
  (uriPrefixes.toFinset.filter fun p => text p <+: uri).sup fun p => (text p).length

/-- What the choice has established about the first `n` entries. -/
structure LongestOf (uri : Bytes) (n : ℕ) (best : ℕ × ℕ) : Prop where
  code_lt : best.1 < uriPrefixes.length
  isPrefix : uriPrefix best.1 <+: uri
  length_eq : (uriPrefix best.1).length = best.2
  longest : ∀ p ∈ uriPrefixes.take n, text p <+: uri → (text p).length ≤ best.2

theorem longestOf_longestPrefix {uri : Bytes} :
    ∀ {ps : List String} {n : ℕ} {best : ℕ × ℕ}, ps = uriPrefixes.drop n → LongestOf uri n best →
      LongestOf uri uriPrefixes.length (longestPrefix uri ps n best)
  | [], n, best, hps, h => by
    have hn : uriPrefixes.length ≤ n := List.drop_eq_nil_iff.mp hps.symm
    rw [longestPrefix]
    refine ⟨h.code_lt, h.isPrefix, h.length_eq, fun p hp => h.longest p ?_⟩
    rwa [List.take_of_length_le hn, ← List.take_length (l := uriPrefixes)]
  | p :: ps, n, best, hps, h => by
    have hn : n < uriPrefixes.length := by
      by_contra hge
      rw [List.drop_eq_nil_of_le (by omega)] at hps
      cases hps
    rw [List.drop_eq_getElem_cons hn] at hps
    obtain ⟨rfl, rfl⟩ := List.cons.inj hps
    have hcode : uriPrefix n = text uriPrefixes[n] := by
      rw [uriPrefix, List.getD_eq_getElem _ _ hn]
    have htake : uriPrefixes.take (n + 1) = uriPrefixes.take n ++ [uriPrefixes[n]] :=
      List.take_succ_eq_append_getElem hn
    rw [longestPrefix]
    apply longestOf_longestPrefix rfl
    split
    · next hbetter =>
      refine ⟨hn, ?_, by rw [hcode], fun q hq hpre => ?_⟩
      · rw [hcode]
        exact List.isPrefixOf_iff_prefix.mp hbetter.2
      · rw [htake, List.mem_append, List.mem_singleton] at hq
        rcases hq with hq | rfl
        · exact (h.longest q hq hpre).trans (Nat.le_of_lt hbetter.1)
        · exact Nat.le_refl _
    · next hworse =>
      refine ⟨h.code_lt, h.isPrefix, h.length_eq, fun q hq hpre => ?_⟩
      rw [htake, List.mem_append, List.mem_singleton] at hq
      rcases hq with hq | rfl
      · exact h.longest q hq hpre
      · by_contra hlt
        exact hworse ⟨by omega, List.isPrefixOf_iff_prefix.mpr hpre⟩

/-- The abbreviation the builder chooses. -/
theorem longestOf_builder (uri : Bytes) :
    LongestOf uri uriPrefixes.length (longestPrefix uri uriPrefixes.tail 1 (0, 0)) := by
  have hzero : uriPrefix 0 = [] := by decide
  apply longestOf_longestPrefix (by decide)
  refine ⟨by decide, ?_, ?_, fun p hp _ => ?_⟩
  · rw [hzero]
    exact List.nil_prefix
  · rw [hzero]
    rfl
  · have hp : p = "" := by simpa [uriPrefixes] using hp
    subst hp
    decide

/-- It is the longest there is. -/
theorem longestPrefix_snd (uri : Bytes) :
    (longestPrefix uri uriPrefixes.tail 1 (0, 0)).2 = abbreviationLength uri := by
  have h := longestOf_builder uri
  apply Nat.le_antisymm
  -- the abbreviation chosen is one of those that fit
  · rw [← h.length_eq, uriPrefix, List.getD_eq_getElem _ _ h.code_lt]
    apply Finset.le_sup (f := fun p => (text p).length)
    have hpre := h.isPrefix
    rw [uriPrefix, List.getD_eq_getElem _ _ h.code_lt] at hpre
    simp only [Finset.mem_filter, List.mem_toFinset]
    exact ⟨List.getElem_mem h.code_lt, hpre⟩
  -- and none that fits is longer
  · apply Finset.sup_le
    intro p hp
    simp only [Finset.mem_filter, List.mem_toFinset] at hp
    exact h.longest p (by rw [List.take_length]; exact hp.1) hp.2

/-! ## The NDEF TLV -/

/-- The value of a TLV whose length has been read: `n` bytes, then the terminator. -/
def tlvValue (n : ℕ) (rest : Bytes) : Option Bytes :=
  if rest[n]? = some 0xFE then some (rest.take n) else none

/-- The value of the NDEF TLV a data area starts with: tag 03, a length of one byte below
FF or FF and two bytes, the value, the terminator FE. -/
def readNdefTlv (tlv : Bytes) : Option Bytes :=
  match tlv with
  | tag :: n :: rest =>
    if tag ≠ 0x03 then none
    else if n < 0xFF then tlvValue n.toNat rest
    else
      match rest with
      | hi :: lo :: rest => tlvValue (hi.toNat * 256 + lo.toNat) rest
      | _ => none
  | _ => none

theorem tlvValue_append (message : Bytes) :
    tlvValue message.length (message ++ [0xFE]) = some message := by
  simp [tlvValue]

/-- A wrapped message reads back, in either form of the length. -/
theorem readNdefTlv_wrap {message : Bytes} (h : message.length < 2 ^ 16) :
    ∃ tlv, ndefWrapType2Tlv (some message) = some (some tlv) ∧
      readNdefTlv tlv = some message := by
  unfold ndefWrapType2Tlv
  simp only
  -- two forms of the length field, one below FF and one from it on
  by_cases hshort : message.length < 0xFF
  · refine ⟨[0x03, message.length.toUInt8] ++ message ++ [0xFE], ?_, ?_⟩
    · simp only [if_pos hshort, byteArrayAppend, List.length_cons, List.length_nil]
      rw [if_pos (by omega), Option.bind_some, List.length_append, List.length_cons,
        List.length_cons, List.length_nil, if_pos (by omega)]
      rfl
    · have hlt : message.length.toUInt8 < 0xFF := by
        rw [UInt8.lt_iff_toNat_lt, toNat_toUInt8 (by omega)]
        exact hshort
      simp only [List.cons_append, List.nil_append, readNdefTlv, ne_eq, not_true_eq_false,
        if_false, if_pos hlt, toNat_toUInt8 (Nat.lt_succ_of_lt hshort)]
      exact tlvValue_append message
  · refine ⟨[0x03, 0xFF, (message.length / 256).toUInt8, (message.length % 256).toUInt8]
      ++ message ++ [0xFE], ?_, ?_⟩
    · simp only [if_neg hshort, byteArrayAppend, List.length_cons, List.length_nil]
      rw [if_pos (by omega), Option.bind_some]
      simp only [List.length_append, List.length_cons, List.length_nil]
      rw [if_pos (by omega)]
      rfl
    · have hvalue : (message.length / 256).toUInt8.toNat * 256
          + (message.length % 256).toUInt8.toNat = message.length := by
        rw [toNat_toUInt8 (by omega), toNat_toUInt8 (by omega)]
        omega
      simp only [List.cons_append, List.nil_append, readNdefTlv, ne_eq, not_true_eq_false,
        if_false, UInt8.lt_irrefl, hvalue]
      exact tlvValue_append message

/-! ## One request -/

/-- A message reads back: out of its TLV, and through the parser as one record with the
members asked for. -/
structure ReadsBack (glib : GlibText) (beyond message : Bytes) (shows : Object → Prop) :
    Prop where
  tlv : ∃ tlv, ndefWrapType2Tlv (some message) = some (some tlv) ∧
    readNdefTlv tlv = some message
  record : ∃ obj, ndefMessageToJson glib message beyond = some (.array [.object obj]) ∧ shows obj

/-- A builder meets its request: it returns NULL exactly if the request is too long, and
what else it returns reads back. -/
structure RequestMet (glib : GlibText) (beyond : Bytes) (build : BuildResult) (tooLong : Prop)
    (shows : Object → Prop) : Prop where
  null_iff : build = some none ↔ tooLong
  reads_back : ∀ message, build = some (some message) → ReadsBack glib beyond message shows

/-- The string of `n` bytes behind `before` bytes of payload arrives whole or makes the
payload too long all the same: with its length taken modulo `2 ^ 32` the payload stays below
`2 ^ 32` bytes, and is a short one only if nothing was cut off. -/
def LengthSurvives (before n : ℕ) : Prop :=
  before + n % 2 ^ 32 < 2 ^ 32 ∧ (before + n % 2 ^ 32 ≤ 255 → n < 2 ^ 32)

theorem byteArrayAppendSized_eq (array bytes : Bytes) :
    byteArrayAppendSized array bytes =
      if array.length + bytes.length % 2 ^ 32 < 2 ^ 32 then
        some (array ++ bytes.take (bytes.length % 2 ^ 32))
      else none := by
  have hlen : (bytes.take (bytes.length % 2 ^ 32)).length = bytes.length % 2 ^ 32 := by
    rw [List.length_take, Nat.min_eq_left (Nat.mod_le _ _)]
  rw [byteArrayAppendSized, byteArrayAppend, hlen]

section ShortRecord

variable {header : UInt8} (hsr : header &&& ndefHdrSr ≠ 0) (hil : ¬ header &&& ndefHdrIl ≠ 0)

include hsr hil

/-- A short record without an id. -/
theorem encode_short (type payload : Bytes) :
    NdefRecord.encode ⟨header, type, [], payload⟩ =
      header :: type.length.toUInt8 :: payload.length.toUInt8 :: (type ++ payload) := by
  have hlen : payloadLenField header payload.length = [payload.length.toUInt8] := if_pos hsr
  have hid : idLenField header ([] : Bytes).length = [] := if_neg hil
  simp only [NdefRecord.encode, hlen, hid, List.cons_append, List.nil_append]

theorem valid_short {type payload : Bytes} (htype : type.length ≤ 255)
    (hpayload : payload.length ≤ 255) : NdefRecord.Valid ⟨header, type, [], payload⟩ := by
  refine ⟨htype, ?_, ?_⟩
  · rw [PayloadLenFits, if_pos hsr]
    exact hpayload
  · rw [IdLenFits, if_neg hil]
    rfl

/-- What `build_single_record` returns under a type name format. -/
theorem buildSingleRecord_short {tnf : UInt8} {type payload : Bytes}
    (hheader : ndefHdrMb ||| ndefHdrMe ||| ndefHdrSr ||| (tnf &&& ndefHdrTnf) = header)
    (htype : type.length ≤ 255) :
    buildSingleRecord tnf type payload =
      some (if 255 < payload.length then none
        else some (NdefRecord.encode ⟨header, type, [], payload⟩)) := by
  unfold buildSingleRecord
  by_cases hlong : payload.length > 0xFF
  · rw [if_pos hlong, if_pos hlong]
  · have htake : type.take type.length.toUInt8.toNat = type := by
      rw [toNat_toUInt8 (by omega), List.take_length]
    rw [if_neg hlong, if_neg hlong]
    simp only [hheader, htake, byteArrayAppend, List.length_cons, List.length_nil]
    rw [if_pos (by omega), Option.bind_some]
    simp only [List.length_append, List.length_cons, List.length_nil]
    rw [if_pos (by omega), encode_short hsr hil]
    rfl

end ShortRecord

/-- The record `build_single_record` makes of a well-known type. -/
def singleRecord (type payload : Bytes) : NdefRecord := ⟨0xD1, type, [], payload⟩

theorem encode_singleRecord (type payload : Bytes) :
    (singleRecord type payload).encode =
      0xD1 :: type.length.toUInt8 :: payload.length.toUInt8 :: (type ++ payload) :=
  encode_short (by decide) (by decide) type payload

theorem valid_singleRecord {type payload : Bytes} (htype : type.length ≤ 255)
    (hpayload : payload.length ≤ 255) : (singleRecord type payload).Valid :=
  valid_short (by decide) (by decide) htype hpayload

theorem buildSingleRecord_eq {type payload : Bytes} (htype : type.length ≤ 255) :
    buildSingleRecord ndefTnfWellKnown.toUInt8 type payload =
      some (if 255 < payload.length then none else some (singleRecord type payload).encode) :=
  buildSingleRecord_short (by decide) (by decide) (by decide) htype

/-- The single record comes back as the one element of the array. -/
theorem ndefMessageToJson_singleRecord (glib : GlibText) (beyond : Bytes) {type payload : Bytes}
    (htype : type.length ≤ 255) (hpayload : payload.length ≤ 255) :
    ndefMessageToJson glib (singleRecord type payload).encode beyond =
      some (.array [.object (ndefRecordToJson glib ndefTnfWellKnown type [] payload beyond)]) := by
  have hparse : ndefParseRecord (singleRecord type payload).encode
      = some (singleRecord type payload, []) :=
    ndefParseRecord_eq_some.mpr ⟨valid_singleRecord htype hpayload, by rw [List.append_nil]⟩
  have hme : (singleRecord type payload).me = true :=
    (by decide : decide ((0xD1 : UInt8) &&& ndefHdrMe ≠ 0) = true)
  have htnf : (singleRecord type payload).tnf = ndefTnfWellKnown :=
    (by decide : ((0xD1 : UInt8) &&& ndefHdrTnf).toNat = ndefTnfWellKnown)
  rw [ndefMessageToJson, if_neg (encode_ne_nil _), ndefMessageLoop_record hparse]
  simp only [hme, htnf, if_true, List.nil_append, Option.map_some]
  rfl

/-- **One builder.** A record made of `before` and a string meets its request exactly if
the length of the string survives. -/
theorem requestMet_iff (glib : GlibText) (beyond before content type : Bytes)
    (shows : Object → Prop) (htype : type.length ≤ 255)
    (hshows : before.length + content.length ≤ 255 →
      shows (ndefRecordToJson glib ndefTnfWellKnown type [] (before ++ content) beyond)) :
    RequestMet glib beyond ((byteArrayAppendSized before content).bind fun payload =>
        buildSingleRecord ndefTnfWellKnown.toUInt8 type payload)
      (255 < before.length + content.length) shows ↔
        LengthSurvives before.length content.length := by
  rw [byteArrayAppendSized_eq]
  by_cases hfits : before.length + content.length % 2 ^ 32 < 2 ^ 32
  · have hlen : (before ++ content.take (content.length % 2 ^ 32)).length
        = before.length + content.length % 2 ^ 32 := by
      rw [List.length_append, List.length_take, Nat.min_eq_left (Nat.mod_le _ _)]
    rw [if_pos hfits, Option.bind_some, buildSingleRecord_eq htype, hlen]
    by_cases hlong : 255 < before.length + content.length % 2 ^ 32
    · -- refused, as it has to be: the whole string is no shorter
      rw [if_pos hlong]
      refine iff_of_true ⟨iff_of_true rfl (by omega), fun message h => ?_⟩ ⟨hfits, by omega⟩
      cases h
    · rw [if_neg hlong]
      by_cases hwhole : content.length < 2 ^ 32
      · rw [Nat.mod_eq_of_lt hwhole] at hlong ⊢
        rw [List.take_length]
        refine iff_of_true ⟨iff_of_false (by simp) hlong, fun message h => ?_⟩
          ⟨by omega, fun _ => hwhole⟩
        obtain rfl := Option.some.inj (Option.some.inj h)
        have hpayload : (before ++ content).length ≤ 255 := by
          rw [List.length_append]
          omega
        refine ⟨readNdefTlv_wrap ?_, _, ndefMessageToJson_singleRecord glib beyond htype hpayload,
          hshows (by omega)⟩
        rw [encode_singleRecord]
        simp only [List.length_cons, List.length_append] at hpayload ⊢
        omega
      · -- the part that arrived fits, the request did not
        refine iff_of_false (fun h => ?_) (fun h => hwhole (h.2 (by omega)))
        have hnull := h.null_iff.mpr (by omega)
        simp at hnull
  · -- GLib aborts
    rw [if_neg hfits, Option.bind_none]
    refine iff_of_false (fun h => ?_) (fun h => hfits h.1)
    have hnull := h.null_iff.mpr (by omega)
    cases hnull

/-! ## URI requests -/

/-- The members of a URI record. -/
structure ShowsUri (uri : Bytes) (obj : Object) : Prop where
  kind : obj.get? "kind" = some (.string (text "uri"))
  uri : obj.get? "uri" = some (.string uri)

theorem length_uriPrefix_le (code : ℕ) : (uriPrefix code).length ≤ 27 := by
  by_cases hcode : code < uriPrefixes.length
  · have hall : ∀ p ∈ uriPrefixes, (text p).length ≤ 27 := by decide
    rw [uriPrefix, List.getD_eq_getElem _ _ hcode]
    exact hall _ (List.getElem_mem hcode)
  · rw [uriPrefix, List.getD_eq_default _ _ (by omega)]
    decide

/-- A remainder whose length is an `int` is read up to its first zero byte. -/
theorem decodeUriPayload_eq (code : UInt8) {rest : Bytes} (h : rest.length < 2 ^ 31)
    (beyond : Bytes) :
    decodeUriPayload (code :: rest) beyond =
      if (uriPrefix code.toNat ++ cString rest).length < 2 ^ 31 then
        some (uriPrefix code.toNat ++ cString rest)
      else none := by
  have hprecision : ¬ (rest.length : ℤ) < 0 := by omega
  simp only [decodeUriPayload, toInt32_of_lt h, if_neg hprecision, Int.toNat_natCast,
    List.take_length]

/-- The decoder puts the abbreviation back in front of the remainder. -/
theorem decodeUriPayload_cons {code : ℕ} {rest : Bytes} (hcode : code < uriPrefixes.length)
    (hzero : (0 : UInt8) ∉ rest) (hlen : (uriPrefix code ++ rest).length < 2 ^ 31)
    (beyond : Bytes) :
    decodeUriPayload (code.toUInt8 :: rest) beyond = some (uriPrefix code ++ rest) := by
  have hbyte : code.toUInt8.toNat = code :=
    toNat_toUInt8 (Nat.lt_trans hcode (by decide))
  have hrest : rest.length < 2 ^ 31 := by
    rw [List.length_append] at hlen
    omega
  rw [decodeUriPayload_eq _ hrest, hbyte, cString_of_notMem hzero, if_pos hlen]

theorem decodeUriPayload_of_longestOf {uri : Bytes} {n : ℕ} {best : ℕ × ℕ}
    (h : LongestOf uri n best) (hzero : (0 : UInt8) ∉ uri) (hlen : uri.length < 2 ^ 31)
    (beyond : Bytes) :
    decodeUriPayload (best.1.toUInt8 :: uri.drop best.2) beyond = some uri := by
  have hjoin : uriPrefix best.1 ++ uri.drop best.2 = uri := by
    rw [← h.length_eq]
    exact (List.prefix_iff_eq_append.mp h.isPrefix)
  have hrest : (0 : UInt8) ∉ uri.drop best.2 := fun hmem => hzero (List.mem_of_mem_drop hmem)
  rw [decodeUriPayload_cons h.code_lt hrest (by rwa [hjoin]), hjoin]

theorem showsUri_of_decode (glib : GlibText) {payload beyond uri : Bytes}
    (h : decodeUriPayload payload beyond = some uri) :
    ShowsUri uri (ndefRecordToJson glib ndefTnfWellKnown (text "U") [] payload beyond) := by
  constructor <;> simp [ndefRecordToJson, h]

/-- **URI requests.** -/
theorem uriRequestMet_iff (glib : GlibText) (beyond : Bytes) (uri : CString) :
    RequestMet glib beyond (ndefBuildUriMessage (some uri.1))
        (255 < 1 + (uri.1.length - abbreviationLength uri.1)) (ShowsUri uri.1) ↔
      LengthSurvives 1 (uri.1.length - abbreviationLength uri.1) := by
  have hbest := longestOf_builder uri.1
  have hlen : (uri.1.drop (longestPrefix uri.1 uriPrefixes.tail 1 (0, 0)).2).length
      = uri.1.length - abbreviationLength uri.1 := by
    rw [List.length_drop, longestPrefix_snd]
  simp only [ndefBuildUriMessage]
  generalize longestPrefix uri.1 uriPrefixes.tail 1 (0, 0) = best at hbest hlen ⊢
  have hshows (hshort : [best.1.toUInt8].length + (uri.1.drop best.2).length ≤ 255) :
      ShowsUri uri.1 (ndefRecordToJson glib ndefTnfWellKnown (text "U") []
        ([best.1.toUInt8] ++ uri.1.drop best.2) beyond) := by
    rw [List.length_singleton, List.length_drop, ← hbest.length_eq] at hshort
    have hprefix := length_uriPrefix_le best.1
    apply showsUri_of_decode
    exact decodeUriPayload_of_longestOf hbest uri.2 (by omega) beyond
  have h := requestMet_iff glib beyond [best.1.toUInt8] (uri.1.drop best.2) (text "U")
    (ShowsUri uri.1) (by decide) hshows
  rw [List.length_singleton, hlen] at h
  exact h

/-! ## Text requests -/

/-- The members of a text record. -/
structure ShowsText (content language : Bytes) (obj : Object) : Prop where
  kind : obj.get? "kind" = some (.string (text "text"))
  text : obj.get? "text" = some (.string content)
  language : obj.get? "language" = some (.string language)
  utf16 : obj.get? "utf16" = some (.boolean false)

/-- The status byte of a UTF-8 text gives the language length back. -/
theorem status_byte : ∀ n < 64,
    ¬ (n.toUInt8 &&& 0x80 ≠ 0) ∧ (n.toUInt8 &&& 0x3F).toNat = n := by decide

theorem decodeTextPayload_of_build (glib : GlibText) {content language : Bytes}
    (hcontent : (0 : UInt8) ∉ content) (hlanguage : (0 : UInt8) ∉ language)
    (hlen : language.length < 64) :
    decodeTextPayload glib (language.length.toUInt8 :: (language ++ content))
      = some ⟨content, language, false⟩ := by
  obtain ⟨hutf16, hlang⟩ := status_byte _ hlen
  have hfits : ¬ (language ++ content).length < language.length := by
    rw [List.length_append]
    omega
  simp only [decodeTextPayload, hlang, if_neg hfits, if_neg hutf16, List.drop_left, List.take_left,
    cString_of_notMem hcontent, cString_of_notMem hlanguage]

theorem showsText_of_decode (glib : GlibText) {payload beyond content language : Bytes}
    (h : decodeTextPayload glib payload = some ⟨content, language, false⟩) :
    ShowsText content language
      (ndefRecordToJson glib ndefTnfWellKnown (text "T") [] payload beyond) := by
  have htype : text "T" ≠ text "U" := by decide
  constructor <;> simp [ndefRecordToJson, h, htype]

theorem notMem_textLanguage (language : Option CString) :
    (0 : UInt8) ∉ textLanguage (language.map Subtype.val) := by
  cases language with
  | none => decide
  | some language =>
    rw [Option.map_some, textLanguage]
    split
    · decide
    · exact language.2

/-- **Text requests.** -/
theorem textRequestMet_iff (glib : GlibText) (beyond : Bytes) (content : CString)
    (language : Option CString) :
    RequestMet glib beyond (ndefBuildTextMessage (some content.1) (language.map Subtype.val))
        (63 < (textLanguage (language.map Subtype.val)).length ∨
          255 < 1 + (textLanguage (language.map Subtype.val)).length + content.1.length)
        (ShowsText content.1 (textLanguage (language.map Subtype.val))) ↔
      63 < (textLanguage (language.map Subtype.val)).length ∨
        LengthSurvives (1 + (textLanguage (language.map Subtype.val)).length)
          content.1.length := by
  have hzero := notMem_textLanguage language
  unfold ndefBuildTextMessage
  generalize textLanguage (language.map Subtype.val) = lang at hzero ⊢
  simp only
  by_cases hlang : 63 < lang.length
  · rw [if_pos hlang]
    refine iff_of_true ⟨iff_of_true rfl (Or.inl hlang), fun message h => ?_⟩ (Or.inl hlang)
    cases h
  · have hstatus : byteArrayAppendSized [lang.length.toUInt8] lang
        = some (lang.length.toUInt8 :: lang) := by
      rw [byteArrayAppendSized_eq, Nat.mod_eq_of_lt (by omega), List.length_singleton,
        if_pos (by omega), List.take_length]
      rfl
    -- the status byte and the language are short, only the text can be cut
    rw [if_neg hlang, hstatus, Option.bind_some]
    have h := requestMet_iff glib beyond (lang.length.toUInt8 :: lang) content.1 (text "T")
      (ShowsText content.1 lang) (by decide) fun _ => showsText_of_decode glib
        (decodeTextPayload_of_build glib content.2 hzero (by omega))
    rw [List.length_cons, Nat.add_comm lang.length 1] at h
    simpa only [hlang, false_or] using h

/-! ## Both kinds of request -/

/-- **What is written is what is read, while its length survives.** For every URI and every
text and language the builder refuses exactly what is too long, and what it builds reads
back as the request, exactly if the length of the string survives the append. -/
theorem written_message_reads_back (glib : GlibText) (beyond : Bytes) :
    (∀ uri : CString,
      RequestMet glib beyond (ndefBuildUriMessage (some uri.1))
          (255 < 1 + (uri.1.length - abbreviationLength uri.1)) (ShowsUri uri.1) ↔
        LengthSurvives 1 (uri.1.length - abbreviationLength uri.1)) ∧
    ∀ (content : CString) (language : Option CString),
      RequestMet glib beyond (ndefBuildTextMessage (some content.1) (language.map Subtype.val))
          (63 < (textLanguage (language.map Subtype.val)).length ∨
            255 < 1 + (textLanguage (language.map Subtype.val)).length + content.1.length)
          (ShowsText content.1 (textLanguage (language.map Subtype.val))) ↔
        63 < (textLanguage (language.map Subtype.val)).length ∨
          LengthSurvives (1 + (textLanguage (language.map Subtype.val)).length)
            content.1.length :=
  ⟨uriRequestMet_iff glib beyond, textRequestMet_iff glib beyond⟩

/-- A text of `n` letters. -/
def repeated (n : ℕ) : CString := ⟨List.replicate n 0x61, by simp [List.mem_replicate]⟩

/-- A text whose length is small only modulo `2 ^ 32` is built in part. -/
theorem repeated_is_cut {n : ℕ} (hlong : 2 ^ 32 ≤ n) (hshort : n % 2 ^ 32 ≤ 252) :
    ¬ RequestMet asciiGlib [] (ndefBuildTextMessage (some (repeated n).1) none)
        (63 < (textLanguage none).length ∨
          255 < 1 + (textLanguage none).length + (repeated n).1.length)
        (ShowsText (repeated n).1 (textLanguage none)) := by
  have hen : (textLanguage none).length = 2 := by decide
  have hlen : (repeated n).1.length = n := List.length_replicate
  intro h
  rcases (textRequestMet_iff asciiGlib [] (repeated n) none).mp h with hlang | ⟨-, hsurvives⟩
  · rw [Option.map_none, hen] at hlang
    omega
  · rw [Option.map_none, hen, hlen] at hsurvives
    omega

/-- The length of `2 ^ 32` letters is zero for GLib: the builder returns the message of the
empty text. -/
theorem huge_text_is_cut :
    ¬ RequestMet asciiGlib [] (ndefBuildTextMessage (some (repeated (2 ^ 32)).1) none)
        (63 < (textLanguage none).length ∨
          255 < 1 + (textLanguage none).length + (repeated (2 ^ 32)).1.length)
        (ShowsText (repeated (2 ^ 32)).1 (textLanguage none)) :=
  repeated_is_cut (Nat.le_refl _) (by rw [Nat.mod_self]; omega)

end NfcAdapter
