/-
# UTF-16 text records

The RTD of text records puts the higher byte of a unit first unless a byte-order mark says
otherwise, and the mark is not part of the text.  `decode_text_payload` hands the bytes to
GLib as they are, which reads units as the host does and keeps a mark.
-/
import NfcAdapter.NdefBuild
import NfcAdapter.Utf16

namespace NfcAdapter

open Json (text text_injective)

/-! ## The text of a record -/

/-- The three ways to write UTF-16 in a text record. -/
inductive Utf16Form
  | unmarked
  | markedBigEndian
  | markedLittleEndian
  deriving DecidableEq

/-- The bytes of a text. -/
def Utf16Form.bytes (form : Utf16Form) (content : String) : Bytes :=
  match form with
  | .unmarked => Utf16.bigEndian (Utf16.encode content.toList)
  | .markedBigEndian => Utf16.bigEndian (0xFEFF :: Utf16.encode content.toList)
  | .markedLittleEndian => Utf16.littleEndian (0xFEFF :: Utf16.encode content.toList)

/-- A text record in UTF-16. -/
structure Utf16Text where
  status : UInt8
  language : Bytes
  form : Utf16Form
  content : String
  status_utf16 : status &&& 0x80 ≠ 0
  status_length : (status &&& 0x3F).toNat = language.length
  notMem_zero : ∀ c ∈ content.toList, c.toNat ≠ 0
  /-- What starts like a mark needs one in front of it. -/
  head_unmarked : form = .unmarked → ∀ c ∈ content.toList.head?, c.toNat ∉ [0xFEFF, 0xFFFE]

namespace Utf16Text

/-- The payload of the record. -/
def payload (r : Utf16Text) : Bytes :=
  r.status :: (r.language ++ r.form.bytes r.content)

/-- The units a little-endian host finds in the text. -/
def hostUnits (r : Utf16Text) : List UInt16 :=
  match r.form with
  | .unmarked => (Utf16.encode r.content.toList).map Utf16.swap
  | .markedBigEndian => (0xFEFF :: Utf16.encode r.content.toList).map Utf16.swap
  | .markedLittleEndian => 0xFEFF :: Utf16.encode r.content.toList

theorem bytes_eq_hostUnits (r : Utf16Text) :
    r.form.bytes r.content = Utf16.littleEndian r.hostUnits := by
  unfold hostUnits
  cases r.form with
  | unmarked => exact Utf16.bigEndian_eq_littleEndian _
  | markedBigEndian => exact Utf16.bigEndian_eq_littleEndian _
  | markedLittleEndian => rfl

theorem zero_notMem_hostUnits (r : Utf16Text) : (0 : UInt16) ∉ r.hostUnits := by
  have hunits := Utf16.zero_notMem_encode r.notMem_zero
  have hmarked : (0 : UInt16) ∉ 0xFEFF :: Utf16.encode r.content.toList :=
    List.not_mem_cons_of_ne_of_not_mem (by decide) hunits
  unfold hostUnits
  cases r.form with
  | unmarked => exact Utf16.zero_notMem_map_swap hunits
  | markedBigEndian => exact Utf16.zero_notMem_map_swap hmarked
  | markedLittleEndian => exact hmarked

/-- The host finds the units of the text exactly if there is no mark and no unit changes
when its bytes are exchanged: a mark is one unit more. -/
theorem hostUnits_eq_iff (r : Utf16Text) :
    Utf16.encode r.content.toList = r.hostUnits ↔
      r.form = .unmarked ∧ ∀ u ∈ Utf16.encode r.content.toList, Utf16.swap u = u := by
  have hlonger : ∀ units : List UInt16, units.length = (Utf16.encode r.content.toList).length + 1 →
      Utf16.encode r.content.toList ≠ units := by
    intro units hlen heq
    rw [← heq] at hlen
    omega
  unfold hostUnits
  cases r.form with
  | unmarked =>
    simp only [true_and]
    exact eq_comm.trans Utf16.map_swap_eq_self_iff
  | markedBigEndian =>
    refine iff_of_false (hlonger _ ?_) fun h => nomatch h.1
    rw [List.length_map, List.length_cons]
  | markedLittleEndian =>
    exact iff_of_false (hlonger _ List.length_cons) fun h => nomatch h.1

end Utf16Text

/-! ## What is decoded -/

/-- `g_utf16_to_utf8` as GLib documents it, on a little-endian host: it reads units in the
byte order of the host, gives a mark no meaning and stops at a zero. -/
structure GlibText.LittleEndian (glib : GlibText) : Prop where
  utf16 : ∀ units : List UInt16, glib.utf16ToUtf8 (Utf16.littleEndian units) =
    (Utf16.decode (units.takeWhile (· ≠ 0))).map fun cs => text (String.ofList cs)

/-- GLib is given every unit of the text, whatever the length of the language. -/
theorem decodeTextPayload_utf16 (glib : GlibText) (r : Utf16Text) :
    decodeTextPayload glib r.payload =
      (glib.utf16ToUtf8 (Utf16.littleEndian r.hostUnits)).map fun content =>
        ⟨content, cString r.language, true⟩ := by
  rw [Utf16Text.payload, r.bytes_eq_hostUnits]
  have hfits : ¬ (r.language ++ Utf16.littleEndian r.hostUnits).length < r.language.length := by
    rw [List.length_append]
    omega
  have heven : ((r.language ++ Utf16.littleEndian r.hostUnits).length - r.language.length) / 2 * 2
      = (Utf16.littleEndian r.hostUnits).length := by
    rw [List.length_append, Utf16.length_littleEndian]
    omega
  simp only [decodeTextPayload, r.status_length, if_neg hfits, if_pos r.status_utf16,
    List.drop_left, List.take_left, heven, List.take_length]

/-- A converted text is the one whose units were given. -/
theorem utf16ToUtf8_eq_some_iff {glib : GlibText} (hglib : glib.LittleEndian)
    {units : List UInt16} (hzero : (0 : UInt16) ∉ units) (content : String) :
    glib.utf16ToUtf8 (Utf16.littleEndian units) = some (text content) ↔
      Utf16.encode content.toList = units := by
  have hall : units.takeWhile (· ≠ 0) = units := by
    apply List.takeWhile_eq_self_iff.mpr
    intro u hu
    rw [decide_eq_true_iff]
    rintro rfl
    exact hzero hu
  rw [hglib.utf16, hall, Option.map_eq_some_iff, ← Utf16.decode_eq_some_iff]
  constructor
  · rintro ⟨cs, hdecode, htext⟩
    rw [hdecode, ← text_injective htext, String.toList_ofList]
  · intro hdecode
    exact ⟨content.toList, hdecode, by rw [String.ofList_toList]⟩

/-- **UTF-16 text records.** On a little-endian host the text, its language and the encoding
are decoded exactly if the language has no zero byte, there is no mark and both bytes of
each unit are equal. -/
theorem decodeTextPayload_utf16_iff {glib : GlibText} (hglib : glib.LittleEndian)
    (r : Utf16Text) :
    decodeTextPayload glib r.payload = some ⟨text r.content, r.language, true⟩ ↔
      (0 : UInt8) ∉ r.language ∧ r.form = .unmarked ∧
        ∀ u ∈ Utf16.encode r.content.toList, u.toNat / 256 = u.toNat % 256 := by
  have hunits := utf16ToUtf8_eq_some_iff hglib r.zero_notMem_hostUnits r.content
  rw [r.hostUnits_eq_iff] at hunits
  simp only [Utf16.swap_eq_self_iff] at hunits
  rw [decodeTextPayload_utf16, Option.map_eq_some_iff, ← cString_eq_self_iff, ← hunits]
  constructor
  · rintro ⟨content, hcontent, heq⟩
    simp only [TextPayload.mk.injEq, and_true] at heq
    obtain ⟨rfl, hlanguage⟩ := heq
    exact ⟨hlanguage, hcontent⟩
  · rintro ⟨hlanguage, hcontent⟩
    exact ⟨_, hcontent, by rw [hlanguage]⟩

/-! ## Two texts -/

/-- The conversion on a little-endian host. -/
def littleEndianGlib : GlibText :=
  { asciiGlib with
    utf16ToUtf8 := fun bytes =>
      (Utf16.decode ((Utf16.ofLittleEndian bytes).takeWhile (· ≠ 0))).map fun cs =>
        text (String.ofList cs) }

theorem littleEndian_littleEndianGlib : littleEndianGlib.LittleEndian :=
  ⟨fun units => by simp only [littleEndianGlib, Utf16.ofLittleEndian_littleEndian]⟩

/-- Two letters of two equal bytes each, in English. -/
def equalBytesText : Utf16Text :=
  ⟨0x82, text "en", .unmarked, "\u0202\u0202", by decide, by decide, by simp, by simp⟩

theorem decodeTextPayload_utf16_iff_equalBytes :
    decodeTextPayload littleEndianGlib equalBytesText.payload =
        some ⟨text "\u0202\u0202", text "en", true⟩ ↔
      (0 : UInt8) ∉ text "en" ∧ equalBytesText.form = .unmarked ∧
        ∀ u ∈ Utf16.encode "\u0202\u0202".toList, u.toNat / 256 = u.toNat % 256 :=
  decodeTextPayload_utf16_iff littleEndian_littleEndianGlib equalBytesText

/-- A greeting. -/
def hiText : Utf16Text :=
  ⟨0x82, text "en", .unmarked, "hi", by decide, by decide, by simp, by simp⟩

/-- Written as the RTD wants it, it is decoded to U+6800 and U+6900. -/
theorem decodeTextPayload_hi :
    hiText.payload = [0x82, 0x65, 0x6E, 0x00, 0x68, 0x00, 0x69] ∧
      decodeTextPayload littleEndianGlib hiText.payload =
        some ⟨text "\u6800\u6900", text "en", true⟩ ∧
      decodeTextPayload littleEndianGlib hiText.payload ≠
        some ⟨text hiText.content, hiText.language, true⟩ := by
  decide +kernel

end NfcAdapter
