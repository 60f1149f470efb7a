/-
# From a parsed zone back to the access key

The reader reports the fields of the zone it has read; BAC and PACE want the document
number and the two dates typed in.  Here is when the reported fields make the key of the
document again: the digest is over the 24 characters the zone carries for them.
-/
import NfcAdapter.Mrz
import NfcAdapter.FillField
import NfcAdapter.Json

namespace NfcAdapter

open FillField Json

/-! ## The MRZ alphabet -/

/-- Digits, capital letters and the fill character are their own capitals. -/
theorem asciiToUpper_of_mrzCharValue {c : UInt8} (h : mrzCharValue c ≠ none) :
    asciiToUpper c = c := by
  unfold mrzCharValue at h
  rw [asciiToUpper, if_neg]
  intro hlower
  simp only [UInt8.le_iff_toNat_le, UInt8.ext_iff] at *
  split_ifs at h <;> simp_all <;> omega

/-- A field with a check digit is in the alphabet. -/
theorem map_asciiToUpper_of_mrzWeightedSum {n : ℕ} {field : Bytes} {sum : ℕ}
    (h : mrzWeightedSum n field = some sum) : field.map asciiToUpper = field := by
  induction field generalizing n sum with
  | nil => rfl
  | cons c cs ih =>
    simp only [mrzWeightedSum, Option.bind_eq_bind, Option.bind_eq_some_iff] at h
    obtain ⟨v, hv, rest, hrest, -⟩ := h
    rw [List.map_cons, asciiToUpper_of_mrzCharValue (by simp [hv]), ih hrest]

theorem map_asciiToUpper_of_mrzCheckDigit {field : Bytes} {digit : UInt8}
    (h : mrzCheckDigit field = some digit) : field.map asciiToUpper = field := by
  obtain ⟨sum, hsum, -⟩ := Option.map_eq_some_iff.mp h
  exact map_asciiToUpper_of_mrzWeightedSum hsum

theorem asciiToUpper_of_mrzCheckDigit {field : Bytes} {digit : UInt8}
    (h : mrzCheckDigit field = some digit) : asciiToUpper digit = digit := by
  obtain ⟨sum, -, rfl⟩ := Option.map_eq_some_iff.mp h
  have hdigit : ∀ d < 10, asciiToUpper (0x30 + d).toUInt8 = (0x30 + d).toUInt8 := by decide
  exact hdigit _ (Nat.mod_lt _ (by decide))

/-! ## Where a zone carries the key -/

/-- The offsets of the document number and the two dates, each followed by its check
digit. -/
structure MrzLayout where
  number : ℕ
  birth : ℕ
  expiry : ℕ
  deriving DecidableEq, Repr

/-- Three lines of 30. -/
def td1Layout : MrzLayout := ⟨5, 30, 38⟩

/-- Two lines of 44. -/
def td3Layout : MrzLayout := ⟨44, 57, 65⟩

/-- The layout of a zone. -/
def mrzLayout (mrz : Bytes) : MrzLayout := if mrz.length = mrzTd1Len then td1Layout else td3Layout

namespace MrzLayout

variable (L : MrzLayout) (mrz : Bytes)

/-- The nine characters of the document number. -/
def numberField : Bytes := slice mrz L.number mrzDocNumberLen

/-- The six characters of the birth date. -/
def birthField : Bytes := slice mrz L.birth mrzDateLen

/-- The six characters of the expiry date. -/
def expiryField : Bytes := slice mrz L.expiry mrzDateLen

/-- The 24 characters a zone carries for the key: the three fields, each with its check
digit. -/
def carried : Bytes :=
  slice mrz L.number (mrzDocNumberLen + 1) ++ slice mrz L.birth (mrzDateLen + 1) ++
    slice mrz L.expiry (mrzDateLen + 1)

end MrzLayout

theorem mrzTrimCopy_eq_trim (mrz : Bytes) (pos len : ℕ) :
    mrzTrimCopy (mrz.drop pos) len (len + 1) = trim 0x3C (slice mrz pos len) := by
  rw [mrzTrimCopy, Nat.add_sub_cancel, Nat.min_self]
  rfl

/-- What the parser gives for the fields of the key. -/
theorem bacParseMrzFields_key {mrz : Bytes} {f : MrzFields} (h : bacParseMrzFields mrz = some f) :
    f.documentNumber = trim 0x3C ((mrzLayout mrz).numberField mrz) ∧
    f.dateOfBirth = trim 0x3C ((mrzLayout mrz).birthField mrz) ∧
    f.dateOfExpiry = trim 0x3C ((mrzLayout mrz).expiryField mrz) ∧
    f.documentNumberCheckOk = mrzCheckOk mrz (mrzLayout mrz).number mrzDocNumberLen ∧
    f.dateOfBirthCheckOk = mrzCheckOk mrz (mrzLayout mrz).birth mrzDateLen ∧
    f.dateOfExpiryCheckOk = mrzCheckOk mrz (mrzLayout mrz).expiry mrzDateLen ∧
    (mrzLayout mrz).number + 9 ≤ mrz.length ∧ (mrzLayout mrz).birth + 6 ≤ mrz.length ∧
    (mrzLayout mrz).expiry + 6 ≤ mrz.length := by
  unfold bacParseMrzFields at h
  split_ifs at h with htd1 htd3
  · rw [Option.some.injEq] at h
    subst h
    rw [mrzLayout, if_pos htd1, htd1]
    exact ⟨mrzTrimCopy_eq_trim mrz 5 9, mrzTrimCopy_eq_trim mrz 30 6, mrzTrimCopy_eq_trim mrz 38 6,
      rfl, rfl, rfl, by decide, by decide, by decide⟩
  · rw [Option.some.injEq] at h
    subst h
    rw [mrzLayout, if_neg htd1, htd3]
    exact ⟨mrzTrimCopy_eq_trim mrz 44 9, mrzTrimCopy_eq_trim mrz 57 6,
      mrzTrimCopy_eq_trim mrz 65 6, rfl, rfl, rfl, by decide, by decide, by decide⟩

/-- A field whose check is fine stands in the zone with the digit computed from it. -/
theorem mrzCheckOk_iff {mrz : Bytes} {pos len : ℕ} :
    mrzCheckOk mrz pos len = true ↔
      ∃ digit, mrzCheckDigit (slice mrz pos len) = some digit ∧ mrz[pos + len]? = some digit := by
  rw [mrzCheckOk, show (mrz.drop pos).take len = slice mrz pos len from rfl]
  rcases mrzCheckDigit (slice mrz pos len) with _ | digit <;> simp

/-! ## The way back -/

/-- The parsed fields make the key of the zone: `bac_mrz_sha1` takes them and hashes what
the zone carries, up to upper case. -/
def LeadsBack (mrz : Bytes) (f : MrzFields) : Prop :=
  ∃ info, mrzInformation (some f.documentNumber) (some f.dateOfBirth) (some f.dateOfExpiry)
      = some info ∧
    info.map asciiToUpper = ((mrzLayout mrz).carried mrz).map asciiToUpper ∧
    ∀ ssl, bacMrzSha1 ssl (some f.documentNumber) (some f.dateOfBirth) (some f.dateOfExpiry)
      = some (ssl.sha1 info)

/-- Fill characters stand only behind the document number, which is not empty. -/
structure FillBehind (mrz : Bytes) : Prop where
  number : ∃ number, number ≠ [] ∧ 0x3C ∉ number ∧
    (mrzLayout mrz).numberField mrz = pad 0x3C mrzDocNumberLen number
  birth : 0x3C ∉ (mrzLayout mrz).birthField mrz
  expiry : 0x3C ∉ (mrzLayout mrz).expiryField mrz

/-- The fields of a zone with their check digits. -/
structure CheckedFields (mrz : Bytes) (L : MrzLayout) (numberDigit birthDigit expiryDigit : UInt8) :
    Prop where
  number : mrzCheckDigit (L.numberField mrz) = some numberDigit
  birth : mrzCheckDigit (L.birthField mrz) = some birthDigit
  expiry : mrzCheckDigit (L.expiryField mrz) = some expiryDigit
  length_number : (L.numberField mrz).length = mrzDocNumberLen
  length_birth : (L.birthField mrz).length = mrzDateLen
  length_expiry : (L.expiryField mrz).length = mrzDateLen
  carried : L.carried mrz = L.numberField mrz ++ [numberDigit] ++ L.birthField mrz ++ [birthDigit]
    ++ L.expiryField mrz ++ [expiryDigit]

theorem bacParseMrzFields_checked {mrz : Bytes} {f : MrzFields}
    (h : bacParseMrzFields mrz = some f) (hnumber : f.documentNumberCheckOk = true)
    (hbirth : f.dateOfBirthCheckOk = true) (hexpiry : f.dateOfExpiryCheckOk = true) :
    ∃ nd bd ed, CheckedFields mrz (mrzLayout mrz) nd bd ed := by
  obtain ⟨-, -, -, hn, hb, he, hnlen, hblen, helen⟩ := bacParseMrzFields_key h
  rw [hn, mrzCheckOk_iff] at hnumber
  rw [hb, mrzCheckOk_iff] at hbirth
  rw [he, mrzCheckOk_iff] at hexpiry
  obtain ⟨nd, hnd, hnat⟩ := hnumber
  obtain ⟨bd, hbd, hbat⟩ := hbirth
  obtain ⟨ed, hed, heat⟩ := hexpiry
  refine ⟨nd, bd, ed, hnd, hbd, hed, length_slice hnlen, length_slice hblen, length_slice helen, ?_⟩
  rw [MrzLayout.carried, slice_succ hnat, slice_succ hbat, slice_succ heat]
  simp only [MrzLayout.numberField, MrzLayout.birthField, MrzLayout.expiryField,
    List.append_assoc]

namespace CheckedFields

variable {mrz : Bytes} {L : MrzLayout} {nd bd ed : UInt8} (h : CheckedFields mrz L nd bd ed)
include h

/-- What the zone carries is in upper case. -/
theorem map_carried : (L.carried mrz).map asciiToUpper = L.carried mrz := by
  rw [h.carried]
  simp only [List.map_append, List.map_cons, List.map_nil,
    map_asciiToUpper_of_mrzCheckDigit h.number, map_asciiToUpper_of_mrzCheckDigit h.birth,
    map_asciiToUpper_of_mrzCheckDigit h.expiry, asciiToUpper_of_mrzCheckDigit h.number,
    asciiToUpper_of_mrzCheckDigit h.birth, asciiToUpper_of_mrzCheckDigit h.expiry]

/-- Filling the cut document number up again needs no upper-casing. -/
theorem mrzDocField_trim :
    mrzDocField (trim 0x3C (L.numberField mrz))
      = pad 0x3C mrzDocNumberLen (trim 0x3C (L.numberField mrz)) := by
  have hupper : (trim 0x3C (L.numberField mrz)).map asciiToUpper
      = trim 0x3C (L.numberField mrz) := by
    have hfield := map_asciiToUpper_of_mrzCheckDigit h.number
    have hsplit := List.takeWhile_append_dropWhile (p := (· != 0x3C)) (l := L.numberField mrz)
    rw [← hsplit, List.map_append] at hfield
    exact (List.append_inj hfield (List.length_map _)).1
  rw [mrzDocField, hupper, pad]

/-- The fields come back where fill characters stand only behind the document number. -/
theorem mrzInformation_trim (hnumber : trim 0x3C (L.numberField mrz) ≠ [])
    (hpad : pad 0x3C mrzDocNumberLen (trim 0x3C (L.numberField mrz)) = L.numberField mrz)
    (hbirth : 0x3C ∉ L.birthField mrz) (hexpiry : 0x3C ∉ L.expiryField mrz) :
    mrzInformation (some (trim 0x3C (L.numberField mrz))) (some (trim 0x3C (L.birthField mrz)))
      (some (trim 0x3C (L.expiryField mrz))) = some (L.carried mrz) := by
  have hlen : (trim 0x3C (L.numberField mrz)).length ≤ mrzDocNumberLen :=
    (length_trim_le _).trans_eq h.length_number
  have hpos : (trim 0x3C (L.numberField mrz)).length ≠ 0 := by
    rwa [ne_eq, List.length_eq_zero_iff]
  rw [trim_of_not_mem hbirth, trim_of_not_mem hexpiry]
  simp only [mrzInformation, Option.bind_eq_bind, Option.bind_some]
  rw [if_neg (by omega), if_neg (by simp [h.length_birth, h.length_expiry]), h.mrzDocField_trim,
    hpad, h.number, h.birth, h.expiry, h.carried]
  rfl

/-- What is hashed can only be what the zone carries where nothing was cut off. -/
theorem fill_of_mrzInformation {info : Bytes}
    (hinfo : mrzInformation (some (trim 0x3C (L.numberField mrz)))
      (some (trim 0x3C (L.birthField mrz))) (some (trim 0x3C (L.expiryField mrz))) = some info)
    (hcarried : info.map asciiToUpper = (L.carried mrz).map asciiToUpper) :
    trim 0x3C (L.numberField mrz) ≠ [] ∧
      pad 0x3C mrzDocNumberLen (trim 0x3C (L.numberField mrz)) = L.numberField mrz ∧
      0x3C ∉ L.birthField mrz ∧ 0x3C ∉ L.expiryField mrz := by
  simp only [mrzInformation, Option.bind_eq_bind, Option.bind_some] at hinfo
  split_ifs at hinfo with hnumber hdates
  push Not at hnumber hdates
  obtain ⟨nd', hnd', hinfo⟩ := Option.bind_eq_some_iff.mp hinfo
  obtain ⟨bd', -, hinfo⟩ := Option.bind_eq_some_iff.mp hinfo
  obtain ⟨ed', -, hinfo⟩ := Option.bind_eq_some_iff.mp hinfo
  rw [Option.pure_def, Option.some.injEq] at hinfo
  refine ⟨?_, ?_, ?_, ?_⟩
  · intro hnil
    rw [hnil] at hnumber
    exact hnumber.1 rfl
  · have hupper := map_asciiToUpper_of_mrzCheckDigit hnd'
    have hlen : (mrzDocField (trim 0x3C (L.numberField mrz))).length = mrzDocNumberLen := by
      rw [h.mrzDocField_trim, length_pad hnumber.2]
    rw [h.map_carried, h.carried, ← hinfo] at hcarried
    simp only [List.map_append, hupper, List.append_assoc] at hcarried
    have hhead := (List.append_inj hcarried (hlen.trans h.length_number.symm)).1
    rwa [h.mrzDocField_trim] at hhead
  · rw [← length_trim_eq_iff, h.length_birth]
    exact hdates.1
  · rw [← length_trim_eq_iff, h.length_expiry]
    exact hdates.2

end CheckedFields

/-- The parsed fields of a zone whose checks are fine make its key exactly where fill
characters stand only behind a document number. -/
theorem leadsBack_iff {mrz : Bytes} {f : MrzFields} (h : bacParseMrzFields mrz = some f)
    (hnumber : f.documentNumberCheckOk = true) (hbirth : f.dateOfBirthCheckOk = true)
    (hexpiry : f.dateOfExpiryCheckOk = true) : LeadsBack mrz f ↔ FillBehind mrz := by
  obtain ⟨nd, bd, ed, hfields⟩ := bacParseMrzFields_checked h hnumber hbirth hexpiry
  obtain ⟨hn, hb, he, -⟩ := bacParseMrzFields_key h
  have hwidth := hfields.length_number
  rw [LeadsBack, hn, hb, he]
  constructor
  · rintro ⟨info, hinfo, hcarried, -⟩
    obtain ⟨hne, hpad, hbirth, hexpiry⟩ := hfields.fill_of_mrzInformation hinfo hcarried
    exact ⟨⟨_, hne, not_mem_trim _, hpad.symm⟩, hbirth, hexpiry⟩
  · rintro ⟨⟨number, hne, hclear, hfield⟩, hbirth, hexpiry⟩
    have htrim : trim 0x3C ((mrzLayout mrz).numberField mrz) = number := by
      rw [hfield, trim_pad hclear]
    have hinfo := hfields.mrzInformation_trim (by rwa [htrim]) (by rw [htrim, ← hfield]) hbirth
      hexpiry
    exact ⟨_, hinfo, rfl, fun ssl => by rw [bacMrzSha1, hinfo, Option.map_some]⟩

/-! ### Two passports -/

/-- A passport whose document number fills its field. -/
def fullNumberZone : Bytes :=
  text "P<UTOERIKSSON<<ANNA<MARIA<<<<<<<<<<<<<<<<<<<" ++
    text "L898902C36UTO7408122F1204159ZE184226B<<<<<10"

theorem leadsBack_iff_fullNumber :
    LeadsBack fullNumberZone (parseTd3 fullNumberZone) ↔ FillBehind fullNumberZone :=
  leadsBack_iff (by decide +kernel) (by decide +kernel) (by decide +kernel) (by decide +kernel)

/-- The same passport with a sign in its number that the zone writes as a fill character. -/
def fillInsideZone : Bytes :=
  text "P<UTOERIKSSON<<ANNA<MARIA<<<<<<<<<<<<<<<<<<<" ++
    text "L89<902C30UTO7408122F1204159ZE184226B<<<<<10"

/-- All three checks are fine, three characters of the number are reported, and their key
is another one. -/
theorem not_leadsBack_fillInside :
    bacParseMrzFields fillInsideZone = some (parseTd3 fillInsideZone) ∧
    (parseTd3 fillInsideZone).documentNumberCheckOk = true ∧
    (parseTd3 fillInsideZone).dateOfBirthCheckOk = true ∧
    (parseTd3 fillInsideZone).dateOfExpiryCheckOk = true ∧
    (parseTd3 fillInsideZone).documentNumber = text "L89" ∧
    ¬ LeadsBack fillInsideZone (parseTd3 fillInsideZone) := by
  refine ⟨by decide +kernel, by decide +kernel, by decide +kernel, by decide +kernel,
    by decide +kernel, ?_⟩
  rintro ⟨info, hinfo, hcarried, -⟩
  have hother : (mrzInformation (some (parseTd3 fillInsideZone).documentNumber)
      (some (parseTd3 fillInsideZone).dateOfBirth)
      (some (parseTd3 fillInsideZone).dateOfExpiry)).map (List.map asciiToUpper)
        ≠ some (((mrzLayout fillInsideZone).carried fillInsideZone).map asciiToUpper) := by
    decide +kernel
  exact hother (by rw [hinfo, Option.map_some, hcarried])

end NfcAdapter
