/-
# The machine-readable zone (`bac.c`)

Check digits, the MRZ information whose digest keys BAC and PACE, and the fields of
a TD1 or TD3 zone.  C strings are byte strings without a zero byte, a NULL pointer is
`none`.
-/
import NfcAdapter.OpenSsl

namespace NfcAdapter

/-! ## Check digits -/

/-- `mrz_char_value`: `0`-`9` at face value, `A`-`Z` as 10-35, `<` as 0. -/
def mrzCharValue (c : UInt8) : Option ℕ :=
  if 0x30 ≤ c ∧ c ≤ 0x39 then some (c.toNat - 0x30)
  else if 0x41 ≤ c ∧ c ≤ 0x5A then some (c.toNat - 0x41 + 10)
  else if c = 0x3C then some 0
  else none

/-- The weight of the character at position `n`. -/
def mrzWeight (n : ℕ) : ℕ := [7, 3, 1].getD (n % 3) 0

/-- The weighted sum of a field whose first character stands at position `n`. -/
def mrzWeightedSum : ℕ → Bytes → Option ℕ
  | _, [] => some 0
  | n, c :: cs => do
    let v ← mrzCharValue c
    let sum ← mrzWeightedSum (n + 1) cs
    return v * mrzWeight n + sum

/-- `mrz_check_digit`: the digit as a character, `none` when the field holds a character
outside the MRZ alphabet. -/
def mrzCheckDigit (field : Bytes) : Option UInt8 :=
  (mrzWeightedSum 0 field).map fun sum => (0x30 + sum % 10).toUInt8

/-! ## The MRZ information -/

/-- `MRZ_DOC_NUMBER_LEN`. -/
def mrzDocNumberLen : ℕ := 9

/-- `MRZ_DATE_LEN`. -/
def mrzDateLen : ℕ := 6

/-- `g_ascii_toupper`. -/
def asciiToUpper (c : UInt8) : UInt8 := if 0x61 ≤ c ∧ c ≤ 0x7A then c - 0x20 else c

/-- The document number in upper case, filled with `<` to its nine characters. -/
def mrzDocField (documentNumber : Bytes) : Bytes :=
  documentNumber.map asciiToUpper ++ List.replicate (mrzDocNumberLen - documentNumber.length) 0x3C

/-- What `bac_mrz_sha1` hashes: three fields, each followed by its check digit. -/
def mrzInformation (documentNumber dateOfBirth dateOfExpiry : Option Bytes) : Option Bytes := do
  let number ← documentNumber
  let birth ← dateOfBirth
  let expiry ← dateOfExpiry
  if number.length = 0 ∨ number.length > mrzDocNumberLen then none
  else if birth.length ≠ mrzDateLen ∨ expiry.length ≠ mrzDateLen then none
  else
    let docDigit ← mrzCheckDigit (mrzDocField number)
    let birthDigit ← mrzCheckDigit birth
    let expiryDigit ← mrzCheckDigit expiry
    return mrzDocField number ++ [docDigit] ++ birth ++ [birthDigit] ++ expiry ++ [expiryDigit]

/-- `bac_mrz_sha1`. -/
def bacMrzSha1 (ssl : OpenSsl) (documentNumber dateOfBirth dateOfExpiry : Option Bytes) :
    Option (FixedBytes 20) :=
  (mrzInformation documentNumber dateOfBirth dateOfExpiry).map ssl.sha1

/-! ## Fields of a zone -/

/-- `MrzFields`, every character array up to its terminating zero. -/
structure MrzFields where
  documentType : Bytes
  issuingState : Bytes
  surname : Bytes
  givenNames : Bytes
  documentNumber : Bytes
  nationality : Bytes
  dateOfBirth : Bytes
  sex : Bytes
  dateOfExpiry : Bytes
  documentNumberCheckOk : Bool
  dateOfBirthCheckOk : Bool
  dateOfExpiryCheckOk : Bool
  deriving DecidableEq, Repr

/-- `mrz_trim_copy`: up to `len` bytes, and no more than fit in `outCap` with the
terminating zero, stopping at the first `<`. -/
def mrzTrimCopy (src : Bytes) (len outCap : ℕ) : Bytes :=
  (src.take (min len (outCap - 1))).takeWhile (· != 0x3C)

/-- `g_ascii_isspace`. -/
def asciiIsSpace (c : UInt8) : Bool :=
  c == 0x20 || c == 0x09 || c == 0x0A || c == 0x0C || c == 0x0D

/-- `g_strchomp`. -/
def strChomp (s : Bytes) : Bytes := s.rdropWhile asciiIsSpace

/-- Fill characters within a name are spaces. -/
def mrzNameText (field : Bytes) : Bytes := field.map fun c => if c = 0x3C then 0x20 else c

/-- The first position of `<<`, the length of the field when there is none. -/
def mrzNameSeparator : Bytes → ℕ
  | a :: b :: rest => if a = 0x3C ∧ b = 0x3C then 0 else 1 + mrzNameSeparator (b :: rest)
  | rest => rest.length

/-- `mrz_decode_name`: surname and given names. -/
def mrzDecodeName (field : Bytes) (surnameCap givenCap : ℕ) : Bytes × Bytes :=
  let sep := mrzNameSeparator field
  let surname := strChomp (mrzNameText (field.take (min sep (surnameCap - 1))))
  let given :=
    if sep + 2 < field.length then
      strChomp (mrzNameText
        ((field.drop (sep + 2)).take (min (field.length - (sep + 2)) (givenCap - 1))))
    else []
  (surname, given)

/-- The check of one field: the digit the zone carries is the computed one. -/
def mrzCheckOk (mrz : Bytes) (pos len : ℕ) : Bool :=
  match mrzCheckDigit ((mrz.drop pos).take len) with
  | none => false
  | some digit => mrz[pos + len]? == some digit

/-- `MRZ_TD1_LEN`. -/
def mrzTd1Len : ℕ := 90

/-- `MRZ_TD3_LEN`. -/
def mrzTd3Len : ℕ := 88

/-- `bac_parse_mrz_fields` on a zone of three lines of 30. -/
def parseTd1 (mrz : Bytes) : MrzFields :=
  let name := mrzDecodeName ((mrz.drop 60).take 30) 64 64
  { documentType := mrzTrimCopy mrz 2 3
    issuingState := mrzTrimCopy (mrz.drop 2) 3 4
    surname := name.1
    givenNames := name.2
    documentNumber := mrzTrimCopy (mrz.drop 5) 9 10
    nationality := mrzTrimCopy (mrz.drop 45) 3 4
    dateOfBirth := mrzTrimCopy (mrz.drop 30) 6 7
    sex := (mrz.drop 37).take 1
    dateOfExpiry := mrzTrimCopy (mrz.drop 38) 6 7
    documentNumberCheckOk := mrzCheckOk mrz 5 9
    dateOfBirthCheckOk := mrzCheckOk mrz 30 6
    dateOfExpiryCheckOk := mrzCheckOk mrz 38 6 }

/-- `bac_parse_mrz_fields` on a zone of two lines of 44. -/
def parseTd3 (mrz : Bytes) : MrzFields :=
  let name := mrzDecodeName ((mrz.drop 5).take 39) 64 64
  { documentType := mrzTrimCopy mrz 2 3
    issuingState := mrzTrimCopy (mrz.drop 2) 3 4
    surname := name.1
    givenNames := name.2
    documentNumber := mrzTrimCopy (mrz.drop 44) 9 10
    nationality := mrzTrimCopy (mrz.drop 54) 3 4
    dateOfBirth := mrzTrimCopy (mrz.drop 57) 6 7
    sex := (mrz.drop 64).take 1
    dateOfExpiry := mrzTrimCopy (mrz.drop 65) 6 7
    documentNumberCheckOk := mrzCheckOk mrz 44 9
    dateOfBirthCheckOk := mrzCheckOk mrz 57 6
    dateOfExpiryCheckOk := mrzCheckOk mrz 65 6 }

/-- `bac_parse_mrz_fields`. -/
def bacParseMrzFields (mrz : Bytes) : Option MrzFields :=
  if mrz.length = mrzTd1Len then some (parseTd1 mrz)
  else if mrz.length = mrzTd3Len then some (parseTd3 mrz)
  else none

end NfcAdapter
