/-
# Contact records (`ndef.c`)

`ndef_build_vcard_message` prints name, phone and email into a vCard as they are.  A vCard
is a list of lines with values in which some characters have to be escaped; what the
record says is what was asked for exactly if none of these characters occurs.
-/
import NfcAdapter.Delimited
import NfcAdapter.NdefBuild

namespace NfcAdapter

open Json (text)
open Delimited

/-! ## The builder -/

/-- `g_string_append_printf`: a text that `printf` cannot count is not appended. -/
def gStringAppendPrintf (string printed : Bytes) : Bytes :=
  if printed.length < 2 ^ 31 then string ++ printed else string

/-- The text of the record. -/
def vcardText (name phone email : Bytes) : Bytes :=
  let vcard := text "BEGIN:VCARD\r\nVERSION:3.0\r\n"
  let vcard := gStringAppendPrintf vcard (text "N:;" ++ name ++ text ";;;\r\n")
  let vcard := gStringAppendPrintf vcard (text "FN:" ++ name ++ text "\r\n")
  let vcard :=
    if phone ≠ [] then gStringAppendPrintf vcard (text "TEL:" ++ phone ++ text "\r\n") else vcard
  let vcard :=
    if email ≠ [] then gStringAppendPrintf vcard (text "EMAIL:" ++ email ++ text "\r\n") else vcard
  vcard ++ text "END:VCARD\r\n"

/-- `ndef_build_vcard_message`; a NULL phone or email is treated like an empty one. -/
def ndefBuildVcardMessage (name phone email : Option Bytes) : BuildResult :=
  match name with
  | none => some none
  | some name =>
    if name = [] then some none
    else
      buildSingleRecord ndefTnfMediaType.toUInt8 (text "text/vcard")
        (vcardText name (phone.getD []) (email.getD []))

/-! ## What a contact record says -/

/-- The text behind a value: a backslash makes a backslash, a semicolon or a comma of the
same character behind it, and a line break of an `n`. -/
def vcardUnescape : Bytes → Option Bytes
  | [] => some []
  | [c] => if c = 0x5C then none else some [c]
  | c :: d :: rest =>
    if c = 0x5C then
      if d = 0x5C ∨ d = 0x3B ∨ d = 0x2C then (vcardUnescape rest).map (d :: ·)
      else if d = 0x6E ∨ d = 0x4E then (vcardUnescape rest).map (0x0A :: ·)
      else none
    else (vcardUnescape (d :: rest)).map (c :: ·)

/-- One line for a field, and none for an empty one. -/
def FieldLine (key field : Bytes) (lines : List Bytes) : Prop :=
  if field = [] then lines = []
  else ∃ value, lines = [key ++ value] ∧ vcardUnescape value = some field

/-- A vCard with this name, phone and email: its lines in their order, a structured name of
five components, and the fields behind their escapes. -/
def VcardShows (name phone email payload : Bytes) : Prop :=
  ∃ structured formatted tel mail,
    splitPair 0x0D 0x0A payload =
      [text "BEGIN:VCARD", text "VERSION:3.0", text "N:" ++ structured, text "FN:" ++ formatted] ++
        tel ++ mail ++ [text "END:VCARD", []] ∧
    (splitUnescaped 0x5C 0x3B structured).length = 5 ∧
    vcardUnescape formatted = some name ∧
    FieldLine (text "TEL:") phone tel ∧ FieldLine (text "EMAIL:") email mail

/-- Nothing that means something in a vCard stands in the fields, and they are short
enough to be printed. -/
structure PlainFields (name phone email : Bytes) : Prop where
  line : ∀ field ∈ [name, phone, email], ¬ [0x0D, 0x0A] <:+: field
  escape : ∀ field ∈ [name, phone, email], 0x5C ∉ field
  separator : 0x3B ∉ name
  printed : ∀ field ∈ [name, phone, email], field.length < 2 ^ 31 - 8

/-! ## Escapes -/

theorem vcardUnescape_plain {value : Bytes} (h : 0x5C ∉ value) :
    vcardUnescape value = some value := by
  induction value with
  | nil => rfl
  | cons c value ih =>
      obtain ⟨hc, hvalue⟩ := List.ne_and_not_mem_of_not_mem_cons h
      rcases value with _ | ⟨d, rest⟩
      · rw [vcardUnescape, if_neg hc.symm]
      · rw [vcardUnescape, if_neg hc.symm, ih hvalue, Option.map_some]

/-- Every escape makes the text shorter than the value. -/
theorem length_vcardUnescape {value field : Bytes} (h : vcardUnescape value = some field) :
    field.length ≤ value.length ∧ (0x5C ∈ value → field.length < value.length) := by
  induction hn : value.length using Nat.strong_induction_on generalizing value field with
  | _ n ih =>
      subst hn
      rcases value with _ | ⟨c, _ | ⟨d, rest⟩⟩
      · cases h
        simp
      · rw [vcardUnescape] at h
        split_ifs at h with hc
        cases h
        simp [Ne.symm hc]
      · rw [vcardUnescape] at h
        split_ifs at h with hc hd hbreak
        · obtain ⟨tail, htail, rfl⟩ := Option.map_eq_some_iff.mp h
          obtain ⟨hle, -⟩ := ih rest.length (by simp only [List.length_cons]; omega) htail rfl
          simp only [List.length_cons]
          omega
        · obtain ⟨tail, htail, rfl⟩ := Option.map_eq_some_iff.mp h
          obtain ⟨hle, -⟩ := ih rest.length (by simp only [List.length_cons]; omega) htail rfl
          simp only [List.length_cons]
          omega
        · obtain ⟨tail, htail, rfl⟩ := Option.map_eq_some_iff.mp h
          obtain ⟨hle, hlt⟩ := ih (d :: rest).length (by simp only [List.length_cons]; omega) htail
            rfl
          refine ⟨by simpa only [List.length_cons, Nat.add_le_add_iff_right] using hle, ?_⟩
          intro hmem
          have hmem : 0x5C ∈ d :: rest := (List.mem_cons.mp hmem).resolve_left (Ne.symm hc)
          have hlt := hlt hmem
          simp only [List.length_cons] at hlt ⊢
          omega

/-- A field is its own value only without a backslash. -/
theorem vcardUnescape_self_iff {field : Bytes} :
    vcardUnescape field = some field ↔ 0x5C ∉ field := by
  constructor
  · intro h hmem
    exact absurd ((length_vcardUnescape h).2 hmem) (Nat.lt_irrefl _)
  · exact vcardUnescape_plain

/-! ## The lines of the record -/

/-- The line of a field as it is printed. -/
def printedLine (key field : Bytes) : List Bytes := if field = [] then [] else [key ++ field]

/-- The lines as they are printed. -/
def vcardLines (name phone email : Bytes) : List Bytes :=
  [text "BEGIN:VCARD", text "VERSION:3.0", text "N:" ++ (text ";" ++ name ++ text ";;;"),
    text "FN:" ++ name] ++ printedLine (text "TEL:") phone ++ printedLine (text "EMAIL:") email ++
    [text "END:VCARD"]

/-- A line between two texts, printed. -/
theorem gStringAppendPrintf_of_length {string before field after : Bytes}
    (h : before.length + after.length ≤ 8) (hfield : field.length < 2 ^ 31 - 8) :
    gStringAppendPrintf string (before ++ field ++ after)
      = string ++ (before ++ field ++ after) := by
  rw [gStringAppendPrintf, if_pos]
  rw [List.length_append, List.length_append]
  omega

theorem printed_printedLine {string key field : Bytes} (hkey : key.length ≤ 6)
    (hfield : field.length < 2 ^ 31 - 8) :
    (if field ≠ [] then gStringAppendPrintf string (key ++ field ++ text "\r\n") else string)
      = string ++ (printedLine key field).flatMap fun line => line ++ [0x0D, 0x0A] := by
  have hcrlf : text "\r\n" = [0x0D, 0x0A] := by decide
  by_cases hempty : field = []
  · rw [if_neg (not_not.mpr hempty), printedLine, if_pos hempty]
    exact (List.append_nil string).symm
  · rw [if_pos hempty, printedLine, if_neg hempty, List.flatMap_singleton, hcrlf]
    exact gStringAppendPrintf_of_length (Nat.add_le_add_right hkey 2) hfield

/-- Where every line can be printed, the text is these lines. -/
theorem vcardText_eq {name phone email : Bytes}
    (h : ∀ field ∈ [name, phone, email], field.length < 2 ^ 31 - 8) :
    vcardText name phone email
      = (vcardLines name phone email).flatMap fun line => line ++ [0x0D, 0x0A] := by
  simp only [List.forall_mem_cons, List.not_mem_nil, false_imp_iff, implies_true, and_true] at h
  obtain ⟨hname, hphone, hemail⟩ := h
  have hhead : text "BEGIN:VCARD\r\nVERSION:3.0\r\n"
      = text "BEGIN:VCARD" ++ [0x0D, 0x0A] ++ (text "VERSION:3.0" ++ [0x0D, 0x0A]) := by decide
  have hn : text "N:;" = text "N:" ++ text ";" := by decide
  have hbehind : text ";;;\r\n" = text ";;;" ++ [0x0D, 0x0A] := by decide
  have hcrlf : text "\r\n" = [0x0D, 0x0A] := by decide
  have hend : text "END:VCARD\r\n" = text "END:VCARD" ++ [0x0D, 0x0A] := by decide
  rw [vcardText, gStringAppendPrintf_of_length (by decide) hname,
    gStringAppendPrintf_of_length (by decide) hname, printed_printedLine (by decide) hphone,
    printed_printedLine (by decide) hemail, vcardLines, hhead, hn, hbehind, hcrlf, hend]
  simp only [List.flatMap_append, List.flatMap_cons, List.flatMap_nil, List.append_assoc,
    List.append_nil]

/-! ## When the record says what was asked for -/

theorem not_infix_printedLine {key field : Bytes} (hkey : 0x0D ∉ key) :
    (∀ line ∈ printedLine key field, ¬ [0x0D, 0x0A] <:+: line) ↔ ¬ [0x0D, 0x0A] <:+: field := by
  rw [printedLine]
  split_ifs with hempty
  · simp [hempty]
  · simp [pair_infix_append_left hkey]

/-- The lines hold a line end only where a field does. -/
theorem not_infix_vcardLines {name phone email : Bytes} :
    (∀ line ∈ vcardLines name phone email, ¬ [0x0D, 0x0A] <:+: line) ↔
      ∀ field ∈ [name, phone, email], ¬ [0x0D, 0x0A] <:+: field := by
  have hn : [0x0D, 0x0A] <:+: text "N:" ++ (text ";" ++ name ++ text ";;;") ↔
      [0x0D, 0x0A] <:+: name := by
    rw [pair_infix_append_left (by decide), pair_infix_append_right (by decide),
      pair_infix_append_left (by decide)]
  have hfn : [0x0D, 0x0A] <:+: text "FN:" ++ name ↔ [0x0D, 0x0A] <:+: name :=
    pair_infix_append_left (by decide)
  have hbegin : ¬ [0x0D, 0x0A] <:+: text "BEGIN:VCARD" := by decide
  have hversion : ¬ [0x0D, 0x0A] <:+: text "VERSION:3.0" := by decide
  have hend : ¬ [0x0D, 0x0A] <:+: text "END:VCARD" := by decide
  have htel := @not_infix_printedLine (text "TEL:") phone (by decide)
  have hmail := @not_infix_printedLine (text "EMAIL:") email (by decide)
  simp only [vcardLines, List.forall_mem_append, List.forall_mem_cons, htel, hmail, hn, hfn,
    hbegin, hversion, hend, List.not_mem_nil, false_imp_iff, implies_true, not_false_eq_true,
    true_and, and_true]
  tauto

/-- What a field line says is what is printed, where the value is the field itself. -/
theorem fieldLine_printedLine {key field : Bytes} (h : 0x5C ∉ field) :
    FieldLine key field (printedLine key field) := by
  rw [FieldLine, printedLine]
  split_ifs
  · rfl
  · exact ⟨field, rfl, vcardUnescape_plain h⟩

theorem length_of_fieldLine {key field : Bytes} {lines : List Bytes}
    (h : FieldLine key field lines) : lines.length = (printedLine key field).length := by
  rw [FieldLine] at h
  rw [printedLine]
  split_ifs at h ⊢
  · rw [h]
  · obtain ⟨value, rfl, -⟩ := h
    rfl

/-- The fields in the record are as short as the record. -/
theorem length_le_of_fieldLine {key field : Bytes} {lines : List Bytes} {n : ℕ}
    (h : FieldLine key field lines) (hlines : ∀ line ∈ lines, line.length ≤ n) :
    field.length ≤ n := by
  rw [FieldLine] at h
  split_ifs at h with hempty
  · rw [hempty]
    exact Nat.zero_le n
  · obtain ⟨value, rfl, hvalue⟩ := h
    have hline := hlines _ (List.mem_singleton_self _)
    rw [List.length_append] at hline
    have hfield := (length_vcardUnescape hvalue).1
    omega

/-- A field line that is what is printed has no escapes. -/
theorem escape_of_fieldLine {key field : Bytes} (h : FieldLine key field (printedLine key field)) :
    0x5C ∉ field := by
  rw [FieldLine, printedLine] at h
  split_ifs at h with hempty
  · simp [hempty]
  · obtain ⟨value, hline, hvalue⟩ := h
    rw [List.cons.injEq] at hline
    obtain rfl := List.append_cancel_left hline.1
    exact vcardUnescape_self_iff.mp hvalue

theorem length_splitUnescaped_name {name : Bytes} (h : 0x5C ∉ name) :
    (splitUnescaped 0x5C 0x3B (text ";" ++ name ++ text ";;;")).length = 5 ↔ 0x3B ∉ name := by
  have hescape : 0x5C ∉ text ";" ++ name ++ text ";;;" := by
    have hone : 0x5C ∉ text ";" := by decide
    have hthree : 0x5C ∉ text ";;;" := by decide
    simp [h, hone, hthree]
  have hcount : (text ";" ++ name ++ text ";;;").count 0x3B = name.count 0x3B + 4 := by
    have hone : (text ";").count 0x3B = 1 := by decide
    have hthree : (text ";;;").count 0x3B = 3 := by decide
    rw [List.count_append, List.count_append, hone, hthree]
    omega
  rw [length_splitUnescaped hescape, hcount, ← List.count_eq_zero]
  omega

/-- A text of plain fields says what was asked for. -/
theorem vcardShows_of_plainFields {name phone email : Bytes} (h : PlainFields name phone email) :
    VcardShows name phone email (vcardText name phone email) := by
  have hescape := h.escape
  simp only [List.forall_mem_cons, List.not_mem_nil, false_imp_iff, implies_true, and_true]
    at hescape
  obtain ⟨hname, hphone, hemail⟩ := hescape
  refine ⟨text ";" ++ name ++ text ";;;", name, printedLine (text "TEL:") phone,
    printedLine (text "EMAIL:") email, ?_, (length_splitUnescaped_name hname).mpr h.separator,
    vcardUnescape_plain hname, fieldLine_printedLine hphone, fieldLine_printedLine hemail⟩
  rw [vcardText_eq h.printed, splitPair_lines (by decide) (not_infix_vcardLines.mpr h.line),
    vcardLines, List.append_assoc, List.append_assoc]
  simp only [List.append_assoc]
  rfl

/-- A short text that says what was asked for was made of plain fields. -/
theorem plainFields_of_vcardShows {name phone email : Bytes}
    (hshort : (vcardText name phone email).length ≤ 255)
    (h : VcardShows name phone email (vcardText name phone email)) :
    PlainFields name phone email := by
  obtain ⟨structured, formatted, tel, mail, hsplit, hfive, hformatted, htel, hmail⟩ := h
  -- every value in a short record is short, and the fields are no longer than their values
  have hlines : ∀ line ∈ splitPair 0x0D 0x0A (vcardText name phone email), line.length ≤ 255 :=
    fun line hline => (length_le_of_mem_splitPair hline).trans hshort
  rw [hsplit] at hlines
  have hname : name.length ≤ 255 := by
    have hline := hlines (text "FN:" ++ formatted) (by simp)
    rw [List.length_append] at hline
    have hle := (length_vcardUnescape hformatted).1
    omega
  have hphone : phone.length ≤ 255 :=
    length_le_of_fieldLine htel fun line hline => hlines line (by simp [hline])
  have hemail : email.length ≤ 255 :=
    length_le_of_fieldLine hmail fun line hline => hlines line (by simp [hline])
  have hprinted : ∀ field ∈ [name, phone, email], field.length < 2 ^ 31 - 8 := by
    simp only [List.forall_mem_cons, List.not_mem_nil, false_imp_iff, implies_true, and_true]
    omega
  -- as many lines are read as were printed, so no field holds a line end
  have hlength : ((vcardLines name phone email).flatMap (splitPair 0x0D 0x0A)).length
      = (vcardLines name phone email).length := by
    have hcount := congrArg List.length hsplit
    rw [vcardText_eq hprinted, splitPair_flatMap (by decide)] at hcount
    simp only [List.length_append, List.length_cons, List.length_nil, length_of_fieldLine htel,
      length_of_fieldLine hmail] at hcount
    have hlen : (vcardLines name phone email).length
        = 4 + (printedLine (text "TEL:") phone).length
          + (printedLine (text "EMAIL:") email).length + 1 := by
      simp only [vcardLines, List.length_append, List.length_cons, List.length_nil]
    rw [hlen]
    omega
  have hline := not_infix_vcardLines.mp (not_infix_of_length (by decide) hlength)
  -- the lines that are read are the lines that were printed
  have hsame : vcardLines name phone email ++ [[]] =
      [text "BEGIN:VCARD", text "VERSION:3.0", text "N:" ++ structured, text "FN:" ++ formatted] ++
        tel ++ mail ++ [text "END:VCARD", []] := by
    rw [← hsplit, vcardText_eq hprinted,
      splitPair_lines (by decide) (not_infix_vcardLines.mpr hline)]
  simp only [vcardLines, List.append_assoc] at hsame
  obtain ⟨hhead, hbehind⟩ := List.append_inj hsame (by rfl)
  obtain ⟨htels, hmails⟩ := List.append_inj hbehind (length_of_fieldLine htel).symm
  have hmails := (List.append_inj hmails (length_of_fieldLine hmail).symm).1
  simp only [List.cons.injEq, true_and, and_true] at hhead
  obtain rfl := List.append_cancel_left hhead.1
  obtain rfl := List.append_cancel_left hhead.2
  have hescape : 0x5C ∉ name := vcardUnescape_self_iff.mp hformatted
  refine ⟨hline, ?_, (length_splitUnescaped_name hescape).mp hfive, hprinted⟩
  simp only [List.forall_mem_cons, List.not_mem_nil, false_imp_iff, implies_true, and_true]
  exact ⟨hescape, escape_of_fieldLine (htels ▸ htel), escape_of_fieldLine (hmails ▸ hmail)⟩

/-! ## Contact requests -/

/-- The record with a text. -/
def vcardRecord (vcard : Bytes) : NdefRecord := ⟨0xD2, text "text/vcard", [], vcard⟩

/-- A message that is returned is one short record with the text. -/
theorem ndefBuildVcardMessage_eq_some {name : Bytes} {phone email : Option Bytes} {message : Bytes}
    (h : ndefBuildVcardMessage (some name) phone email = some (some message)) :
    (vcardText name (phone.getD []) (email.getD [])).length ≤ 255 ∧
      ndefParseRecord message
        = some (vcardRecord (vcardText name (phone.getD []) (email.getD [])), []) := by
  have htype : (text "text/vcard").length ≤ 255 := by decide
  have hsr : (0xD2 : UInt8) &&& ndefHdrSr ≠ 0 := by decide
  have hil : ¬ ((0xD2 : UInt8) &&& ndefHdrIl ≠ 0) := by decide
  rw [ndefBuildVcardMessage, buildSingleRecord_short hsr hil (by decide) htype] at h
  by_cases hempty : name = []
  · rw [if_pos hempty] at h
    cases h
  rw [if_neg hempty, Option.some.injEq] at h
  split_ifs at h with hlong
  have hfits := Nat.not_lt.mp hlong
  rw [Option.some.injEq] at h
  refine ⟨hfits, ndefParseRecord_eq_some.mpr ⟨valid_short hsr hil htype hfits, ?_⟩⟩
  rw [List.append_nil]
  exact h.symm

/-- The message is one contact record that says what was asked for. -/
def ContactRequestMet (name phone email message : Bytes) : Prop :=
  ∃ r, ndefParseRecord message = some (r, []) ∧ r.tnf = ndefTnfMediaType ∧
    r.type = text "text/vcard" ∧ VcardShows name phone email r.payload

/-- A message that is returned says what was asked for exactly if nothing in the three
fields means something in a vCard. -/
theorem contact_request_met_iff (name : CString) (phone email : Option CString) {message : Bytes}
    (h : ndefBuildVcardMessage (some name.1) (phone.map (·.1)) (email.map (·.1))
      = some (some message)) :
    ContactRequestMet name.1 ((phone.map (·.1)).getD []) ((email.map (·.1)).getD []) message ↔
      PlainFields name.1 ((phone.map (·.1)).getD []) ((email.map (·.1)).getD []) := by
  obtain ⟨hshort, hparse⟩ := ndefBuildVcardMessage_eq_some h
  constructor
  · rintro ⟨r, hr, -, -, hshows⟩
    rw [hparse, Option.some.injEq, Prod.mk.injEq] at hr
    obtain ⟨rfl, -⟩ := hr
    exact plainFields_of_vcardShows hshort hshows
  · intro hplain
    have htnf : ((0xD2 : UInt8) &&& ndefHdrTnf).toNat = ndefTnfMediaType := by decide
    exact ⟨_, hparse, htnf, rfl, vcardShows_of_plainFields hplain⟩

/-- A contact with a phone and no email. -/
def plainContact : CString × CString := (⟨text "Anna", by decide⟩, ⟨text "+15551234", by decide⟩)

theorem contact_request_met_iff_plain :
    ∃ message, ndefBuildVcardMessage (some plainContact.1.1) (some plainContact.2.1) none
        = some (some message) ∧
      (ContactRequestMet plainContact.1.1 plainContact.2.1 [] message ↔
        PlainFields plainContact.1.1 plainContact.2.1 []) :=
  ⟨_, rfl, contact_request_met_iff plainContact.1 (some plainContact.2) none rfl⟩

/-- A name with a line end in it brings lines of its own. -/
def injectedName : CString := ⟨text "Anna\r\nTEL:+15559999", by decide⟩

/-- The record of that name has a phone that was not asked for. -/
theorem not_contactRequestMet_injected :
    ∃ message, ndefBuildVcardMessage (some injectedName.1) none none = some (some message) ∧
      text "TEL:+15559999" ∈ splitPair 0x0D 0x0A (vcardText injectedName.1 [] []) ∧
      ¬ ContactRequestMet injectedName.1 [] [] message := by
  refine ⟨_, rfl, by decide +kernel, ?_⟩
  rintro ⟨r, hr, -, -, hshows⟩
  obtain ⟨hshort, hparse⟩ := @ndefBuildVcardMessage_eq_some injectedName.1 none none _ rfl
  rw [hparse, Option.some.injEq, Prod.mk.injEq] at hr
  obtain ⟨rfl, -⟩ := hr
  have hplain := plainFields_of_vcardShows hshort hshows
  exact hplain.line injectedName.1 (by simp) (by decide)

end NfcAdapter
