/-
# Formatting a machine-readable zone

What a document is, how it is written as a TD1 or TD3 zone, and that the parser reads
exactly the document again: values up to their fill, names with spaces between the words,
and every check digit fine.
-/
import NfcAdapter.Mrz
import NfcAdapter.FillField
import NfcAdapter.Json

namespace NfcAdapter

open FillField

/-! ## Check digits, by the alphabet -/

/-- The characters of a zone in the order of their values. -/
def mrzAlphabet : Bytes := Json.text "0123456789ABCDEFGHIJKLMNOPQRSTUVWXYZ"

/-- The place in the alphabet; the fill character counts nothing. -/
def mrzPlace (c : UInt8) : ℕ := if c = 0x3C then 0 else mrzAlphabet.idxOf c

/-- The 7-3-1 check digit. -/
def checkDigit731 (field : Bytes) : UInt8 :=
  (0x30 + (field.mapIdx fun i c => mrzPlace c * [7, 3, 1].getD (i % 3) 0).sum % 10).toUInt8

/-- The characters a zone may hold. -/
def MrzChar (c : UInt8) : Prop := c ∈ mrzAlphabet ∨ c = 0x3C

theorem mrzCharValue_of_mrzChar {c : UInt8} (h : MrzChar c) :
    mrzCharValue c = some (mrzPlace c) := by
  have hall : ∀ c ∈ 0x3C :: mrzAlphabet, mrzCharValue c = some (mrzPlace c) := by decide +kernel
  rcases h with h | rfl
  · exact hall c (List.mem_cons_of_mem _ h)
  · exact hall 0x3C List.mem_cons_self

theorem mrzWeightedSum_of_mrzChar {field : Bytes} (h : ∀ c ∈ field, MrzChar c) (n : ℕ) :
    mrzWeightedSum n field
      = some (field.mapIdx fun i c => mrzPlace c * [7, 3, 1].getD ((n + i) % 3) 0).sum := by
  induction field generalizing n with
  | nil => rfl
  | cons c cs ih =>
      obtain ⟨hc, hcs⟩ := List.forall_mem_cons.mp h
      have hshift : (fun i c => mrzPlace c * [7, 3, 1].getD ((n + (i + 1)) % 3) 0)
          = fun i c => mrzPlace c * [7, 3, 1].getD ((n + 1 + i) % 3) 0 := by
        funext i c
        rw [Nat.add_comm i 1, ← Nat.add_assoc]
      rw [mrzWeightedSum, mrzCharValue_of_mrzChar hc, ih hcs, List.mapIdx_cons, List.sum_cons,
        hshift]
      rfl

/-- `mrz_check_digit` computes the 7-3-1 digit. -/
theorem mrzCheckDigit_of_mrzChar {field : Bytes} (h : ∀ c ∈ field, MrzChar c) :
    mrzCheckDigit field = some (checkDigit731 field) := by
  rw [mrzCheckDigit, mrzWeightedSum_of_mrzChar h 0]
  simp only [Nat.zero_add, Option.map_some]
  rfl

/-! ## Documents -/

/-- A capital letter. -/
def IsCapital (c : UInt8) : Prop := 0x41 ≤ c ∧ c ≤ 0x5A

/-- A decimal digit. -/
def IsDecimal (c : UInt8) : Prop := 0x30 ≤ c ∧ c ≤ 0x39

instance : DecidablePred IsCapital := fun _ => inferInstanceAs (Decidable (_ ∧ _))

instance : DecidablePred IsDecimal := fun _ => inferInstanceAs (Decidable (_ ∧ _))

/-- A text of `lo` to `hi` characters of one kind. -/
abbrev MrzText (kind : UInt8 → Prop) (lo hi : ℕ) :=
  { bs : Bytes // lo ≤ bs.length ∧ bs.length ≤ hi ∧ ∀ c ∈ bs, kind c }

/-- A word of a name. -/
abbrev MrzWord := { bs : Bytes // bs ≠ [] ∧ ∀ c ∈ bs, IsCapital c }

/-- What is printed in the zone of a document of either size. -/
structure MrzDocument where
  documentType : MrzText IsCapital 1 2
  issuingState : MrzText IsCapital 1 3
  documentNumber : MrzText (fun c => IsCapital c ∨ IsDecimal c) 1 9
  nationality : MrzText IsCapital 1 3
  dateOfBirth : MrzText IsDecimal 6 6
  sex : { c : UInt8 // c ≠ 0 }
  dateOfExpiry : MrzText IsDecimal 6 6
  surname : List MrzWord
  givenNames : List MrzWord
  surname_ne : surname ≠ []

/-- Bytes that a C string may hold, up to a width. -/
abbrev MrzFree (width : ℕ) := { bs : Bytes // bs.length ≤ width ∧ 0 ∉ bs }

/-- Words with a separator between them. -/
def joinWords (sep : UInt8) (words : List MrzWord) : Bytes :=
  [sep].intercalate (words.map (·.1))

namespace MrzDocument

variable (doc : MrzDocument)

/-- The name as it is written: words joined by one fill character, the two parts by two. -/
def name : Bytes :=
  joinWords 0x3C doc.surname ++
    if doc.givenNames = [] then [] else [0x3C, 0x3C] ++ joinWords 0x3C doc.givenNames

/-- The document number as it is written. -/
def numberField : Bytes := pad 0x3C 9 doc.documentNumber.1

/-- The birth date as it is written. -/
def birthField : Bytes := pad 0x3C 6 doc.dateOfBirth.1

/-- The expiry date as it is written. -/
def expiryField : Bytes := pad 0x3C 6 doc.dateOfExpiry.1

/-- A zone of three lines of 30. -/
def td1 (optional1 : MrzFree 15) (optional2 : MrzFree 11) (composite : MrzFree 1) : Bytes :=
  [pad 0x3C 2 doc.documentType.1, pad 0x3C 3 doc.issuingState.1, doc.numberField,
    [checkDigit731 doc.numberField], pad 0x3C 15 optional1.1,
    doc.birthField, [checkDigit731 doc.birthField], [doc.sex.1],
    doc.expiryField, [checkDigit731 doc.expiryField], pad 0x3C 3 doc.nationality.1,
    pad 0x3C 11 optional2.1, pad 0x3C 1 composite.1,
    pad 0x3C 30 doc.name].flatten

/-- A zone of two lines of 44. -/
def td3 (optional : MrzFree 14) (optionalCheck composite : MrzFree 1) : Bytes :=
  [pad 0x3C 2 doc.documentType.1, pad 0x3C 3 doc.issuingState.1, pad 0x3C 39 doc.name,
    doc.numberField, [checkDigit731 doc.numberField], pad 0x3C 3 doc.nationality.1,
    doc.birthField, [checkDigit731 doc.birthField], [doc.sex.1],
    doc.expiryField, [checkDigit731 doc.expiryField],
    pad 0x3C 14 optional.1, pad 0x3C 1 optionalCheck.1, pad 0x3C 1 composite.1].flatten

/-- The document as the parser reports it. -/
def fields : MrzFields where
  documentType := doc.documentType.1
  issuingState := doc.issuingState.1
  surname := joinWords 0x20 doc.surname
  givenNames := joinWords 0x20 doc.givenNames
  documentNumber := doc.documentNumber.1
  nationality := doc.nationality.1
  dateOfBirth := doc.dateOfBirth.1
  sex := [doc.sex.1]
  dateOfExpiry := doc.dateOfExpiry.1
  documentNumberCheckOk := true
  dateOfBirthCheckOk := true
  dateOfExpiryCheckOk := true

end MrzDocument

/-! ## Names -/

theorem fill_not_mem_of_isCapital {w : Bytes} (h : ∀ c ∈ w, IsCapital c) : 0x3C ∉ w := by
  intro hmem
  exact absurd (h _ hmem) (by decide)

/-- The separator is not inside a word. -/
theorem mrzNameSeparator_word {w : Bytes} (h : 0x3C ∉ w) (rest : Bytes) :
    mrzNameSeparator (w ++ rest) = w.length + mrzNameSeparator rest := by
  induction w with
  | nil => simp
  | cons a w ih =>
      have ha : a ≠ 0x3C := fun heq => h (heq ▸ List.mem_cons_self)
      have ih := ih fun hmem => h (List.mem_cons_of_mem _ hmem)
      have hstep : mrzNameSeparator (a :: (w ++ rest)) = 1 + mrzNameSeparator (w ++ rest) := by
        rcases w ++ rest with _ | ⟨b, bs⟩
        · rfl
        · rw [mrzNameSeparator, if_neg fun hboth => ha hboth.1]
      rw [List.cons_append, hstep, ih, List.length_cons]
      omega

/-- One fill character in front of a word separates nothing. -/
theorem mrzNameSeparator_fill {b : UInt8} (h : b ≠ 0x3C) (rest : Bytes) :
    mrzNameSeparator (0x3C :: b :: rest) = 1 + mrzNameSeparator (b :: rest) := by
  rw [mrzNameSeparator, if_neg fun hboth => h hboth.2]

theorem joinWords_cons (sep : UInt8) (w w' : MrzWord) (words : List MrzWord) :
    joinWords sep (w :: w' :: words) = w.1 ++ sep :: joinWords sep (w' :: words) := by
  simp [joinWords, List.intercalate]

theorem joinWords_singleton (sep : UInt8) (w : MrzWord) : joinWords sep [w] = w.1 := by
  simp [joinWords, List.intercalate]

theorem joinWords_head {words : List MrzWord} (hne : words ≠ []) (sep : UInt8) :
    ∃ b rest, joinWords sep words = b :: rest ∧ IsCapital b := by
  rcases words with _ | ⟨w, words⟩
  · exact absurd rfl hne
  obtain ⟨b, bs, hw⟩ := List.exists_cons_of_ne_nil w.2.1
  have hb : IsCapital b := w.2.2 b (by rw [hw]; exact List.mem_cons_self)
  rcases words with _ | ⟨w', words⟩
  · exact ⟨b, bs, by rw [joinWords_singleton, hw], hb⟩
  · exact ⟨b, bs ++ sep :: joinWords sep (w' :: words), by rw [joinWords_cons, hw]; rfl, hb⟩

theorem joinWords_last {words : List MrzWord} (hne : words ≠ []) (sep : UInt8) :
    ∃ init b, joinWords sep words = init ++ [b] ∧ IsCapital b := by
  induction words with
  | nil => exact absurd rfl hne
  | cons w words ih =>
      rcases words with _ | ⟨w', words⟩
      · obtain ⟨init, b, hw⟩ := (List.eq_nil_or_concat w.1).resolve_left w.2.1
        rw [List.concat_eq_append] at hw
        exact ⟨init, b, by rw [joinWords_singleton, hw], w.2.2 b (by simp [hw])⟩
      · obtain ⟨init, b, hjoin, hb⟩ := ih (by simp)
        exact ⟨w.1 ++ sep :: init, b, by rw [joinWords_cons, hjoin]; simp, hb⟩

/-- The separator of a name is behind its first part. -/
theorem mrzNameSeparator_joinWords {words : List MrzWord} (hne : words ≠ []) (rest : Bytes) :
    mrzNameSeparator (joinWords 0x3C words ++ rest)
      = (joinWords 0x3C words).length + mrzNameSeparator rest := by
  induction words with
  | nil => exact absurd rfl hne
  | cons w words ih =>
      have hw := fill_not_mem_of_isCapital w.2.2
      rcases words with _ | ⟨w', words⟩
      · rw [joinWords_singleton, mrzNameSeparator_word hw]
      · have ih := ih (by simp)
        obtain ⟨b, bs, hjoin, hb⟩ := joinWords_head (List.cons_ne_nil w' words) 0x3C
        have hne : b ≠ 0x3C := by
          rintro rfl
          exact absurd hb (by decide)
        rw [joinWords_cons, List.append_assoc, List.cons_append, mrzNameSeparator_word hw, hjoin,
          List.cons_append, mrzNameSeparator_fill hne, ← List.cons_append, ← hjoin, ih,
          List.length_append, List.length_cons]
        omega

theorem mrzNameText_append (a b : Bytes) : mrzNameText (a ++ b) = mrzNameText a ++ mrzNameText b :=
  List.map_append

theorem mrzNameText_word {w : Bytes} (h : 0x3C ∉ w) : mrzNameText w = w := by
  rw [mrzNameText, List.map_congr_left (g := id), List.map_id]
  intro c hc
  rw [if_neg]
  · rfl
  · rintro rfl
    exact h hc

/-- The fill characters between the words become spaces. -/
theorem mrzNameText_joinWords (words : List MrzWord) :
    mrzNameText (joinWords 0x3C words) = joinWords 0x20 words := by
  induction words with
  | nil => rfl
  | cons w words ih =>
      have hw := mrzNameText_word (fill_not_mem_of_isCapital w.2.2)
      rcases words with _ | ⟨w', words⟩
      · rw [joinWords_singleton, joinWords_singleton, hw]
      · rw [joinWords_cons, joinWords_cons, ← ih, mrzNameText_append, hw]
        rfl

/-- Fill characters behind a name are cut off again. -/
theorem strChomp_mrzNameText (words : List MrzWord) (k : ℕ) :
    strChomp (mrzNameText (joinWords 0x3C words ++ List.replicate k 0x3C))
      = joinWords 0x20 words := by
  have hfill : mrzNameText (List.replicate k 0x3C) = List.replicate k 0x20 := List.map_replicate
  rw [mrzNameText_append, mrzNameText_joinWords, hfill]
  induction k with
  | zero =>
      rw [List.replicate_zero, List.append_nil]
      by_cases hne : words = []
      · subst hne
        rfl
      · obtain ⟨init, b, hjoin, hb⟩ := joinWords_last hne 0x20
        have hspace : ∀ b, IsCapital b → ¬ asciiIsSpace b := by
          intro b hb
          have hlow : 0x41 ≤ b.toNat := UInt8.le_iff_toNat_le.mp hb.1
          intro hsp
          simp only [asciiIsSpace, Bool.or_eq_true, beq_iff_eq] at hsp
          rcases hsp with (((rfl | rfl) | rfl) | rfl) | rfl <;> simp at hlow
        rw [hjoin, strChomp, List.rdropWhile_concat_neg _ _ _ (hspace b hb)]
  | succ k ih =>
      rw [List.replicate_succ', ← List.append_assoc, strChomp,
        List.rdropWhile_concat_pos _ _ _ (by decide)]
      exact ih List.map_replicate

theorem mrzNameSeparator_le (field : Bytes) : mrzNameSeparator field ≤ field.length := by
  induction field with
  | nil => exact Nat.le_refl 0
  | cons a field ih =>
      rcases field with _ | ⟨b, rest⟩
      · exact Nat.le_refl 1
      · rw [mrzNameSeparator]
        split_ifs with hsep
        · omega
        · rw [List.length_cons]
          omega

/-- The name fields are too short for the capacities of `MrzFields` to matter. -/
theorem mrzDecodeName_of_length {field : Bytes} (h : field.length ≤ 63) :
    mrzDecodeName field 64 64
      = (strChomp (mrzNameText (field.take (mrzNameSeparator field))),
        strChomp (mrzNameText (field.drop (mrzNameSeparator field + 2)))) := by
  have hsep := mrzNameSeparator_le field
  rw [mrzDecodeName]
  rw [Nat.min_eq_left (by omega)]
  congr 1
  split_ifs with hgiven
  · rw [Nat.min_eq_left (by omega), ← List.length_drop, List.take_length]
  · rw [List.drop_of_length_le (by omega)]
    rfl

/-- The name field gives both parts of the name, whether it is full or not. -/
theorem mrzDecodeName_name (doc : MrzDocument) {width : ℕ} (hfits : doc.name.length ≤ width)
    (hwidth : width ≤ 63) :
    mrzDecodeName (pad 0x3C width doc.name) 64 64
      = (joinWords 0x20 doc.surname, joinWords 0x20 doc.givenNames) := by
  have hlen : (pad 0x3C width doc.name).length = width := length_pad hfits
  rw [mrzDecodeName_of_length (by omega), pad]
  by_cases hgiven : doc.givenNames = []
  · -- one part: the separator is at its end, or behind a single fill character
    have hname : doc.name = joinWords 0x3C doc.surname := by
      rw [MrzDocument.name, if_pos hgiven, List.append_nil]
    rw [hname, mrzNameSeparator_joinWords doc.surname_ne, List.take_length_add_append,
      Nat.add_assoc, List.drop_length_add_append, List.take_replicate, List.drop_replicate,
      strChomp_mrzNameText, hgiven]
    exact congrArg _ (strChomp_mrzNameText [] _)
  · -- two parts with two fill characters between them
    have hname : doc.name = joinWords 0x3C doc.surname ++
        ([0x3C, 0x3C] ++ joinWords 0x3C doc.givenNames) := by
      rw [MrzDocument.name, if_neg hgiven]
    have hsep : ∀ rest, mrzNameSeparator ([0x3C, 0x3C] ++ rest) = 0 := fun _ => rfl
    have hfirst := strChomp_mrzNameText doc.surname 0
    rw [List.replicate_zero, List.append_nil] at hfirst
    rw [hname, List.append_assoc, mrzNameSeparator_joinWords doc.surname_ne, List.append_assoc,
      hsep, Nat.add_zero, List.take_left, List.drop_length_add_append, hfirst]
    exact congrArg _ (strChomp_mrzNameText doc.givenNames _)

/-! ## The zones -/

/-- A value of the MRZ alphabet is read back from its field. -/
theorem mrzTrimCopy_of_slice {mrz value : Bytes} {pos width : ℕ}
    (hslice : slice mrz pos width = pad 0x3C width value) (hvalue : 0x3C ∉ value) :
    mrzTrimCopy (mrz.drop pos) width (width + 1) = value := by
  rw [mrzTrimCopy, Nat.add_sub_cancel, Nat.min_self]
  exact (congrArg (trim 0x3C) hslice).trans (trim_pad hvalue)

/-- A value with its check digit behind it is checked to be fine. -/
theorem mrzCheckOk_of_slice {mrz value : Bytes} {pos width : ℕ}
    (hslice : slice mrz pos width = pad 0x3C width value)
    (hdigit : slice mrz (pos + width) 1 = [checkDigit731 (pad 0x3C width value)])
    (hvalue : ∀ c ∈ value, MrzChar c) : mrzCheckOk mrz pos width = true := by
  have hchars : ∀ c ∈ pad 0x3C width value, MrzChar c := by
    intro c hc
    rcases mem_pad hc with hc | rfl
    · exact hvalue c hc
    · exact Or.inr rfl
  have hat : mrz[pos + width]? = some (checkDigit731 (pad 0x3C width value)) := by
    rw [slice, List.take_one, List.head?_drop] at hdigit
    rcases hbyte : mrz[pos + width]? with _ | b
    · simp [hbyte] at hdigit
    · rw [hbyte] at hdigit
      simpa using hdigit
  rw [mrzCheckOk, show (mrz.drop pos).take width = _ from hslice, mrzCheckDigit_of_mrzChar hchars,
    hat]
  exact beq_self_eq_true _

theorem mem_mrzAlphabet {c : UInt8} (h : IsCapital c ∨ IsDecimal c) : c ∈ mrzAlphabet := by
  have hall : ∀ n < 256, IsCapital n.toUInt8 ∨ IsDecimal n.toUInt8 → n.toUInt8 ∈ mrzAlphabet := by
    decide +kernel
  simpa using hall c.toNat c.toNat_lt (by simpa using h)

theorem fill_not_mem_mrzAlphabet : 0x3C ∉ mrzAlphabet := by decide +kernel

theorem zero_not_mem_mrzAlphabet : 0 ∉ mrzAlphabet := by decide +kernel

theorem fill_not_mem_of_alphabet {value : Bytes} (h : ∀ c ∈ value, c ∈ mrzAlphabet) :
    0x3C ∉ value :=
  fun hmem => fill_not_mem_mrzAlphabet (h _ hmem)

@[simp] theorem length_pad_mrzText {kind : UInt8 → Prop} {lo width : ℕ}
    (t : MrzText kind lo width) : (pad 0x3C width t.1).length = width :=
  length_pad t.2.2.1

@[simp] theorem length_pad_mrzFree {width : ℕ} (t : MrzFree width) :
    (pad 0x3C width t.1).length = width :=
  length_pad t.2.1

theorem capital_alphabet {lo hi : ℕ} (t : MrzText IsCapital lo hi) :
    ∀ c ∈ t.1, c ∈ mrzAlphabet :=
  fun c hc => mem_mrzAlphabet (Or.inl (t.2.2.2 c hc))

theorem decimal_alphabet {lo hi : ℕ} (t : MrzText IsDecimal lo hi) :
    ∀ c ∈ t.1, c ∈ mrzAlphabet :=
  fun c hc => mem_mrzAlphabet (Or.inr (t.2.2.2 c hc))

namespace MrzDocument

variable (doc : MrzDocument)

theorem documentNumber_alphabet : ∀ c ∈ doc.documentNumber.1, c ∈ mrzAlphabet :=
  fun c hc => mem_mrzAlphabet (doc.documentNumber.2.2.2 c hc)

@[simp] theorem length_numberField : doc.numberField.length = 9 := length_pad_mrzText _

@[simp] theorem length_birthField : doc.birthField.length = 6 := length_pad_mrzText _

@[simp] theorem length_expiryField : doc.expiryField.length = 6 := length_pad_mrzText _

/-- What has to stand where in a zone for the document to be read from it. -/
structure WrittenIn (mrz : Bytes) (typeAt stateAt numberAt birthAt sexAt expiryAt nationalityAt
    nameAt width : ℕ) : Prop where
  documentType : slice mrz typeAt 2 = pad 0x3C 2 doc.documentType.1
  issuingState : slice mrz stateAt 3 = pad 0x3C 3 doc.issuingState.1
  number : slice mrz numberAt 9 = doc.numberField
  numberDigit : slice mrz (numberAt + 9) 1 = [checkDigit731 doc.numberField]
  birth : slice mrz birthAt 6 = doc.birthField
  birthDigit : slice mrz (birthAt + 6) 1 = [checkDigit731 doc.birthField]
  sex : slice mrz sexAt 1 = [doc.sex.1]
  expiry : slice mrz expiryAt 6 = doc.expiryField
  expiryDigit : slice mrz (expiryAt + 6) 1 = [checkDigit731 doc.expiryField]
  nationality : slice mrz nationalityAt 3 = pad 0x3C 3 doc.nationality.1
  name : slice mrz nameAt width = pad 0x3C width doc.name

section Zones

variable {doc}

theorem alphabet_mrzChar {value : Bytes} (h : ∀ c ∈ value, c ∈ mrzAlphabet) :
    ∀ c ∈ value, MrzChar c :=
  fun c hc => Or.inl (h c hc)

/-- The parser's steps at these offsets read the document. -/
theorem WrittenIn.read {mrz : Bytes}
    {typeAt stateAt numberAt birthAt sexAt expiryAt nationalityAt nameAt width : ℕ}
    (h : doc.WrittenIn mrz typeAt stateAt numberAt birthAt sexAt expiryAt nationalityAt nameAt
      width) (hname : doc.name.length ≤ width) (hwidth : width ≤ 63) :
    { documentType := mrzTrimCopy (mrz.drop typeAt) 2 3
      issuingState := mrzTrimCopy (mrz.drop stateAt) 3 4
      surname := (mrzDecodeName ((mrz.drop nameAt).take width) 64 64).1
      givenNames := (mrzDecodeName ((mrz.drop nameAt).take width) 64 64).2
      documentNumber := mrzTrimCopy (mrz.drop numberAt) 9 10
      nationality := mrzTrimCopy (mrz.drop nationalityAt) 3 4
      dateOfBirth := mrzTrimCopy (mrz.drop birthAt) 6 7
      sex := (mrz.drop sexAt).take 1
      dateOfExpiry := mrzTrimCopy (mrz.drop expiryAt) 6 7
      documentNumberCheckOk := mrzCheckOk mrz numberAt 9
      dateOfBirthCheckOk := mrzCheckOk mrz birthAt 6
      dateOfExpiryCheckOk := mrzCheckOk mrz expiryAt 6 : MrzFields } = doc.fields := by
  have htype := capital_alphabet doc.documentType
  have hstate := capital_alphabet doc.issuingState
  have hnumber := doc.documentNumber_alphabet
  have hnation := capital_alphabet doc.nationality
  have hbirth := decimal_alphabet doc.dateOfBirth
  have hexpiry := decimal_alphabet doc.dateOfExpiry
  have hdecode : mrzDecodeName ((mrz.drop nameAt).take width) 64 64
      = (joinWords 0x20 doc.surname, joinWords 0x20 doc.givenNames) := by
    rw [← mrzDecodeName_name doc hname hwidth, ← h.name, slice]
  have hsex : (mrz.drop sexAt).take 1 = [doc.sex.1] := h.sex
  rw [hdecode, hsex,
    mrzTrimCopy_of_slice h.documentType (fill_not_mem_of_alphabet htype),
    mrzTrimCopy_of_slice h.issuingState (fill_not_mem_of_alphabet hstate),
    mrzTrimCopy_of_slice h.number (fill_not_mem_of_alphabet hnumber),
    mrzTrimCopy_of_slice h.nationality (fill_not_mem_of_alphabet hnation),
    mrzTrimCopy_of_slice h.birth (fill_not_mem_of_alphabet hbirth),
    mrzTrimCopy_of_slice h.expiry (fill_not_mem_of_alphabet hexpiry),
    mrzCheckOk_of_slice h.number h.numberDigit (alphabet_mrzChar hnumber),
    mrzCheckOk_of_slice h.birth h.birthDigit (alphabet_mrzChar hbirth),
    mrzCheckOk_of_slice h.expiry h.expiryDigit (alphabet_mrzChar hexpiry)]
  rfl

theorem length_td1 {optional1 : MrzFree 15} {optional2 : MrzFree 11} {composite : MrzFree 1}
    (hname : doc.name.length ≤ 30) :
    (doc.td1 optional1 optional2 composite).length = mrzTd1Len := by
  simp [td1, length_pad hname, mrzTd1Len]

theorem length_td3 {optional : MrzFree 14} {optionalCheck composite : MrzFree 1}
    (hname : doc.name.length ≤ 39) :
    (doc.td3 optional optionalCheck composite).length = mrzTd3Len := by
  simp [td3, length_pad hname, mrzTd3Len]

theorem writtenIn_td1 {optional1 : MrzFree 15} {optional2 : MrzFree 11} {composite : MrzFree 1}
    (hname : doc.name.length ≤ 30) :
    doc.WrittenIn (doc.td1 optional1 optional2 composite) 0 2 5 30 37 38 45 60 30 where
  documentType := slice_flatten [] _ _ (by simp) (by simp)
  issuingState := slice_flatten [_] _ _ (by simp) (by simp)
  number := slice_flatten [_, _] _ _ (by simp) (by simp)
  numberDigit := slice_flatten [_, _, _] _ _ (by simp) (by simp)
  birth := slice_flatten [_, _, _, _, _] _ _ (by simp) (by simp)
  birthDigit := slice_flatten [_, _, _, _, _, _] _ _ (by simp) (by simp)
  sex := slice_flatten [_, _, _, _, _, _, _] _ _ (by simp) (by simp)
  expiry := slice_flatten [_, _, _, _, _, _, _, _] _ _ (by simp) (by simp)
  expiryDigit := slice_flatten [_, _, _, _, _, _, _, _, _] _ _ (by simp) (by simp)
  nationality := slice_flatten [_, _, _, _, _, _, _, _, _, _] _ _ (by simp) (by simp)
  name := slice_flatten [_, _, _, _, _, _, _, _, _, _, _, _, _] _ _ (by simp) (length_pad hname)

theorem writtenIn_td3 {optional : MrzFree 14} {optionalCheck composite : MrzFree 1}
    (hname : doc.name.length ≤ 39) :
    doc.WrittenIn (doc.td3 optional optionalCheck composite) 0 2 44 57 64 65 54 5 39 where
  documentType := slice_flatten [] _ _ (by simp) (by simp)
  issuingState := slice_flatten [_] _ _ (by simp) (by simp)
  name := slice_flatten [_, _] _ _ (by simp) (length_pad hname)
  number := slice_flatten [_, _, _] _ _ (by simp [length_pad hname]) (by simp)
  numberDigit := slice_flatten [_, _, _, _] _ _ (by simp [length_pad hname]) (by simp)
  nationality := slice_flatten [_, _, _, _, _] _ _ (by simp [length_pad hname]) (by simp)
  birth := slice_flatten [_, _, _, _, _, _] _ _ (by simp [length_pad hname]) (by simp)
  birthDigit := slice_flatten [_, _, _, _, _, _, _] _ _ (by simp [length_pad hname]) (by simp)
  sex := slice_flatten [_, _, _, _, _, _, _, _] _ _ (by simp [length_pad hname]) (by simp)
  expiry := slice_flatten [_, _, _, _, _, _, _, _, _] _ _ (by simp [length_pad hname]) (by simp)
  expiryDigit := slice_flatten [_, _, _, _, _, _, _, _, _, _] _ _ (by simp [length_pad hname])
    (by simp)

/-! ### The zone is a C string -/

theorem zero_not_mem_pad {width : ℕ} {value : Bytes} (h : 0 ∉ value) :
    0 ∉ pad 0x3C width value := by
  intro hmem
  rcases mem_pad hmem with hmem | hfill
  · exact h hmem
  · exact absurd hfill (by decide)

theorem zero_not_mem_of_alphabet {value : Bytes} (h : ∀ c ∈ value, c ∈ mrzAlphabet) : 0 ∉ value :=
  fun hmem => zero_not_mem_mrzAlphabet (h _ hmem)

theorem checkDigit731_ne_zero (field : Bytes) : checkDigit731 field ≠ 0 := by
  have hdigit : ∀ d < 10, (0x30 + d).toUInt8 ≠ 0 := by decide
  exact hdigit _ (Nat.mod_lt _ (by decide))

theorem zero_not_mem_joinWords (words : List MrzWord) : 0 ∉ joinWords 0x3C words := by
  induction words with
  | nil => exact List.not_mem_nil
  | cons w words ih =>
      have hw : 0 ∉ w.1 := by
        intro hmem
        exact absurd (w.2.2 _ hmem) (by decide)
      rcases words with _ | ⟨w', words⟩
      · rwa [joinWords_singleton]
      · rw [joinWords_cons]
        simp [hw, ih]

theorem zero_not_mem_name : 0 ∉ doc.name := by
  unfold name
  split_ifs
  · simpa using zero_not_mem_joinWords doc.surname
  · simp [zero_not_mem_joinWords]

/-- The pieces both layouts have in common. -/
theorem zero_not_mem_fields :
    0 ∉ pad 0x3C 2 doc.documentType.1 ∧ 0 ∉ pad 0x3C 3 doc.issuingState.1 ∧
    0 ∉ pad 0x3C 3 doc.nationality.1 ∧ 0 ∉ doc.numberField ∧ 0 ∉ doc.birthField ∧
    0 ∉ doc.expiryField :=
  ⟨zero_not_mem_pad (zero_not_mem_of_alphabet (capital_alphabet doc.documentType)),
    zero_not_mem_pad (zero_not_mem_of_alphabet (capital_alphabet doc.issuingState)),
    zero_not_mem_pad (zero_not_mem_of_alphabet (capital_alphabet doc.nationality)),
    zero_not_mem_pad (zero_not_mem_of_alphabet doc.documentNumber_alphabet),
    zero_not_mem_pad (zero_not_mem_of_alphabet (decimal_alphabet doc.dateOfBirth)),
    zero_not_mem_pad (zero_not_mem_of_alphabet (decimal_alphabet doc.dateOfExpiry))⟩

theorem zero_not_mem_td1 {optional1 : MrzFree 15} {optional2 : MrzFree 11}
    {composite : MrzFree 1} : 0 ∉ doc.td1 optional1 optional2 composite := by
  obtain ⟨htype, hstate, hnation, hnumber, hbirth, hexpiry⟩ := doc.zero_not_mem_fields
  simp [td1, htype, hstate, hnation, hnumber, hbirth, hexpiry, doc.sex.2.symm,
    (checkDigit731_ne_zero _).symm, zero_not_mem_pad optional1.2.2,
    zero_not_mem_pad optional2.2.2, zero_not_mem_pad composite.2.2,
    zero_not_mem_pad zero_not_mem_name]

theorem zero_not_mem_td3 {optional : MrzFree 14} {optionalCheck composite : MrzFree 1} :
    0 ∉ doc.td3 optional optionalCheck composite := by
  obtain ⟨htype, hstate, hnation, hnumber, hbirth, hexpiry⟩ := doc.zero_not_mem_fields
  simp [td3, htype, hstate, hnation, hnumber, hbirth, hexpiry, doc.sex.2.symm,
    (checkDigit731_ne_zero _).symm, zero_not_mem_pad optional.2.2,
    zero_not_mem_pad optionalCheck.2.2, zero_not_mem_pad composite.2.2,
    zero_not_mem_pad zero_not_mem_name]

end Zones

/-- A document whose name fits is read again from either zone, whatever stands in the
optional data and the composite digit. -/
theorem bacParseMrzFields_format :
    (∀ optional1 optional2 composite, doc.name.length ≤ 30 →
      0 ∉ doc.td1 optional1 optional2 composite ∧
      bacParseMrzFields (doc.td1 optional1 optional2 composite) = some doc.fields) ∧
    (∀ optional optionalCheck composite, doc.name.length ≤ 39 →
      0 ∉ doc.td3 optional optionalCheck composite ∧
      bacParseMrzFields (doc.td3 optional optionalCheck composite) = some doc.fields) := by
  constructor
  · intro optional1 optional2 composite hname
    refine ⟨zero_not_mem_td1, ?_⟩
    rw [bacParseMrzFields, if_pos (length_td1 hname)]
    exact congrArg some ((writtenIn_td1 hname).read hname (by decide))
  · intro optional optionalCheck composite hname
    refine ⟨zero_not_mem_td3, ?_⟩
    have hlen : (doc.td3 optional optionalCheck composite).length = mrzTd3Len := length_td3 hname
    rw [bacParseMrzFields, if_neg (by rw [hlen]; decide), if_pos hlen]
    exact congrArg some ((writtenIn_td3 hname).read hname (by decide))

end MrzDocument

/-! ### A specimen -/

/-- A name of one word and a name of two. -/
def specimenDocument : MrzDocument where
  documentType := ⟨Json.text "P", by decide +kernel⟩
  issuingState := ⟨Json.text "UTO", by decide +kernel⟩
  documentNumber := ⟨Json.text "L898902C3", by decide +kernel⟩
  nationality := ⟨Json.text "UTO", by decide +kernel⟩
  dateOfBirth := ⟨Json.text "740812", by decide +kernel⟩
  sex := ⟨0x46, by decide⟩
  dateOfExpiry := ⟨Json.text "120415", by decide +kernel⟩
  surname := [⟨Json.text "ERIKSSON", by decide +kernel⟩]
  givenNames := [⟨Json.text "ANNA", by decide +kernel⟩, ⟨Json.text "MARIA", by decide +kernel⟩]
  surname_ne := by simp

theorem bacParseMrzFields_format_specimen :
    bacParseMrzFields (specimenDocument.td3 ⟨Json.text "ZE184226B", by decide +kernel⟩
        ⟨Json.text "1", by decide +kernel⟩ ⟨Json.text "0", by decide +kernel⟩)
      = some specimenDocument.fields ∧
    bacParseMrzFields (specimenDocument.td1 ⟨[], by decide⟩ ⟨[], by decide⟩
        ⟨Json.text "6", by decide +kernel⟩) = some specimenDocument.fields :=
  ⟨((specimenDocument.bacParseMrzFields_format).2 _ _ _ (by decide +kernel)).2,
    ((specimenDocument.bacParseMrzFields_format).1 _ _ _ (by decide +kernel)).2⟩

/-- The zone printed in the specimen. -/
example : specimenDocument.td3 ⟨Json.text "ZE184226B", by decide +kernel⟩
      ⟨Json.text "1", by decide +kernel⟩ ⟨Json.text "0", by decide +kernel⟩
    = Json.text "P<UTOERIKSSON<<ANNA<MARIA<<<<<<<<<<<<<<<<<<<" ++
      Json.text "L898902C36UTO7408122F1204159ZE184226B<<<<<10" := by
  decide +kernel

end NfcAdapter
