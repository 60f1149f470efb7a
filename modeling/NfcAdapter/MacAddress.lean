/-
# The address string

`parse_mac_address` leaves the reading to `sscanf`, whose `%x` takes blanks, a sign, a
`0x` and any number of digits, and which does not look behind the last one.  The words it
reads are a language of their own; the parser is exact on a text unless the text is
spelled with one of these liberties.
-/
import NfcAdapter.NdefBluetooth

namespace NfcAdapter

open Json (text)

/-! ## The words of `%x` -/

/-- A hexadecimal digit. -/
def isHexDigit (c : UInt8) : Bool := (asciiXdigitValue c).isSome

/-- What one `%x` reads. -/
structure HexWord where
  blanks : Bytes
  sign : Bytes
  base : Bytes
  digits : Bytes
  blanks_space : ∀ c ∈ blanks, isSpace c = true
  sign_mem : sign ∈ [[], text "+", text "-"]
  base_mem : base ∈ [[], text "0x", text "0X"]
  digits_hex : ∀ c ∈ digits, isHexDigit c = true
  digits_ne : digits ≠ []

namespace HexWord

/-- The characters of the word. -/
def spell (w : HexWord) : Bytes := w.blanks ++ (w.sign ++ (w.base ++ w.digits))

/-- The number stored for the word. -/
def value (longBits : ℕ) (w : HexWord) : ℕ :=
  strtoulValue longBits (w.sign = text "-") (hexNumber w.digits) % 2 ^ 32

/-- The word cannot be read on into `rest`: no digit follows, and no `x` behind a first
zero. -/
structure EndsAt (w : HexWord) (rest : Bytes) : Prop where
  digits : ∀ c ∈ rest.head?, isHexDigit c = false
  base : w.base = [] → w.digits = [0x30] → ∀ c ∈ rest.head?, c ≠ 0x78 ∧ c ≠ 0x58

/-- Two digits and nothing else. -/
def Plain (w : HexWord) : Prop :=
  w.blanks = [] ∧ w.sign = [] ∧ w.base = [] ∧ w.digits.length = 2

end HexWord

/-! ## `%x` reads words -/

theorem isSpace_of_isHexDigit {c : UInt8} (h : isHexDigit c = true) : isSpace c = false := by
  have hall : ∀ n < 256, isHexDigit n.toUInt8 = true → isSpace n.toUInt8 = false := by
    decide +kernel
  simpa using hall c.toNat c.toNat_lt (by simpa using h)

theorem sign_of_isHexDigit {c : UInt8} (h : isHexDigit c = true) : c ≠ 0x2B ∧ c ≠ 0x2D := by
  constructor <;> rintro rfl <;> exact absurd h (by decide)

theorem takeWhile_isHexDigit {digits rest : Bytes} (hdigits : ∀ c ∈ digits, isHexDigit c = true)
    (hrest : ∀ c ∈ rest.head?, isHexDigit c = false) :
    (digits ++ rest).takeWhile isHexDigit = digits := by
  rw [List.takeWhile_append_of_pos hdigits]
  rcases rest with _ | ⟨c, rest⟩
  · exact List.append_nil digits
  · rw [List.takeWhile_cons_of_neg (by simp [hrest c rfl]), List.append_nil]

/-- A `0x` that is there is taken, and no other. -/
theorem dropHexPrefix_spell {w : HexWord} {rest : Bytes} (h : w.EndsAt rest) :
    dropHexPrefix (w.base ++ (w.digits ++ rest)) = w.digits ++ rest := by
  have hbase := w.base_mem
  simp only [List.mem_cons, List.not_mem_nil, or_false] at hbase
  rcases hbase with hbase | hbase | hbase
  · obtain ⟨d, ds, hdigits⟩ := List.exists_cons_of_ne_nil w.digits_ne
    have hnext : ∀ x ∈ (ds ++ rest).head?, d = 0x30 → ¬ (x = 0x78 ∨ x = 0x58) := by
      rintro x hx rfl
      rcases ds with _ | ⟨e, ds⟩
      · have hx := h.base hbase hdigits x hx
        simp [hx.1, hx.2]
      · obtain rfl : e = x := by simpa using hx
        have he := w.digits_hex e (by simp [hdigits])
        rintro (rfl | rfl)
        · exact absurd he (by decide)
        · exact absurd he (by decide)
    rw [hbase, hdigits, List.nil_append, List.cons_append]
    generalize ds ++ rest = tail at hnext
    unfold dropHexPrefix
    split
    · next x rest' heq =>
        rw [List.cons.injEq] at heq
        obtain ⟨hd, rfl⟩ := heq
        rw [if_neg (hnext x rfl hd)]
    · rfl
  · rw [hbase]
    rfl
  · rw [hbase]
    rfl

/-- Behind the sign stands a digit, be it the zero of a `0x`. -/
theorem HexWord.body_head (w : HexWord) (rest : Bytes) :
    ∃ c tail, w.base ++ (w.digits ++ rest) = c :: tail ∧ isHexDigit c = true := by
  have hbase := w.base_mem
  simp only [List.mem_cons, List.not_mem_nil, or_false] at hbase
  rcases hbase with hbase | hbase | hbase
  · obtain ⟨d, ds, hdigits⟩ := List.exists_cons_of_ne_nil w.digits_ne
    exact ⟨d, ds ++ rest, by rw [hbase, hdigits]; rfl, w.digits_hex d (by simp [hdigits])⟩
  · exact ⟨0x30, 0x78 :: (w.digits ++ rest), by rw [hbase]; rfl, by decide⟩
  · exact ⟨0x30, 0x58 :: (w.digits ++ rest), by rw [hbase]; rfl, by decide⟩

/-- What is left of `%x` behind the sign. -/
def scanDigits (longBits : ℕ) (negative : Bool) (input : Bytes) : Option (ℕ × Bytes) :=
  let input := dropHexPrefix input
  let digits := input.takeWhile isHexDigit
  if digits = [] then none
  else
    some (strtoulValue longBits negative (hexNumber digits) % 2 ^ 32, input.drop digits.length)

theorem scanHex_eq (longBits : ℕ) (input : Bytes) :
    scanHex longBits input =
      if (input.dropWhile isSpace).head? = some 0x2D then
        scanDigits longBits true (input.dropWhile isSpace).tail
      else if (input.dropWhile isSpace).head? = some 0x2B then
        scanDigits longBits false (input.dropWhile isSpace).tail
      else scanDigits longBits false (input.dropWhile isSpace) := by
  unfold scanHex
  split_ifs with hminus hplus
  · simp only [hminus, true_or, if_true, decide_true]
    rfl
  · simp only [hplus, or_true, if_true]
    rfl
  · simp only [hplus, hminus, or_false, if_false]
    rfl

/-- `%x` reads a word that ends there. -/
theorem scanHex_spell (longBits : ℕ) {w : HexWord} {rest : Bytes} (h : w.EndsAt rest) :
    scanHex longBits (w.spell ++ rest) = some (w.value longBits, rest) := by
  obtain ⟨c, tail, hbody, hc⟩ := w.body_head rest
  have hspell : w.spell ++ rest = w.blanks ++ (w.sign ++ (w.base ++ (w.digits ++ rest))) := by
    simp only [HexWord.spell, List.append_assoc]
  have hdigits : ∀ negative, scanDigits longBits negative (w.base ++ (w.digits ++ rest))
      = some (strtoulValue longBits negative (hexNumber w.digits) % 2 ^ 32, rest) := by
    intro negative
    rw [scanDigits, dropHexPrefix_spell h, takeWhile_isHexDigit w.digits_hex h.digits,
      if_neg w.digits_ne, List.drop_left]
  have hspace : isSpace c = false := isSpace_of_isHexDigit hc
  have hsign := w.sign_mem
  simp only [List.mem_cons, List.not_mem_nil, or_false] at hsign
  rw [scanHex_eq, hspell, List.dropWhile_append_of_pos w.blanks_space, HexWord.value]
  rcases hsign with hsign | hsign | hsign
  · have hplain : (w.base ++ (w.digits ++ rest)).dropWhile isSpace
        = w.base ++ (w.digits ++ rest) := by
      rw [hbody, List.dropWhile_cons_of_neg (by simp [hspace])]
    have hhead : (w.base ++ (w.digits ++ rest)).head? = some c := by rw [hbody]; rfl
    have hc' := sign_of_isHexDigit hc
    rw [hsign, List.nil_append, hplain, hhead, if_neg (by simp [hc'.2]), if_neg (by simp [hc'.1]),
      hdigits]
    rfl
  · have hplus : (text "+" ++ (w.base ++ (w.digits ++ rest))).dropWhile isSpace
        = 0x2B :: (w.base ++ (w.digits ++ rest)) :=
      List.dropWhile_cons_of_neg (by decide)
    rw [hsign, hplus, List.head?_cons, if_neg (by decide), if_pos rfl, List.tail_cons, hdigits]
    rfl
  · have hminus : (text "-" ++ (w.base ++ (w.digits ++ rest))).dropWhile isSpace
        = 0x2D :: (w.base ++ (w.digits ++ rest)) :=
      List.dropWhile_cons_of_neg (by decide)
    rw [hsign, hminus, List.head?_cons, if_pos rfl, List.tail_cons, hdigits]
    rfl

theorem exists_dropHexPrefix (input : Bytes) :
    ∃ base ∈ [[], text "0x", text "0X"], input = base ++ dropHexPrefix input ∧
      (base = [] → ∀ x rest, input = 0x30 :: x :: rest → x ≠ 0x78 ∧ x ≠ 0x58) := by
  unfold dropHexPrefix
  split
  · next x rest =>
      by_cases hx : x = 0x78 ∨ x = 0x58
      · rw [if_pos hx]
        rcases hx with rfl | rfl
        · exact ⟨text "0x", by simp, rfl, fun h => absurd h (by decide)⟩
        · exact ⟨text "0X", by simp, rfl, fun h => absurd h (by decide)⟩
      · rw [if_neg hx]
        refine ⟨[], by simp, rfl, ?_⟩
        intro _ x' rest' heq
        obtain ⟨rfl, rfl⟩ : x = x' ∧ rest = rest' := by simpa using heq
        exact not_or.mp hx
  · next hno =>
      exact ⟨[], by simp, rfl, fun _ x rest heq => absurd heq (hno x rest)⟩

theorem drop_length_takeWhile {α : Type} (p : α → Bool) (l : List α) :
    l.drop (l.takeWhile p).length = l.dropWhile p := by
  induction l with
  | nil => rfl
  | cons a l ih =>
    by_cases ha : p a = true
    · rw [List.takeWhile_cons_of_pos ha, List.dropWhile_cons_of_pos ha]
      exact ih
    · rw [List.takeWhile_cons_of_neg ha, List.dropWhile_cons_of_neg ha]
      rfl

/-- What stands behind the sign of a word. -/
theorem exists_of_scanDigits {longBits : ℕ} {negative : Bool} {input rest : Bytes} {v : ℕ}
    (h : scanDigits longBits negative input = some (v, rest)) :
    ∃ base ∈ [[], text "0x", text "0X"], ∃ digits, input = base ++ (digits ++ rest) ∧
      (∀ c ∈ digits, isHexDigit c = true) ∧ digits ≠ [] ∧
      (∀ c ∈ rest.head?, isHexDigit c = false) ∧
      (base = [] → digits = [0x30] → ∀ c ∈ rest.head?, c ≠ 0x78 ∧ c ≠ 0x58) ∧
      v = strtoulValue longBits negative (hexNumber digits) % 2 ^ 32 := by
  obtain ⟨base, hmem, hinput, hbase⟩ := exists_dropHexPrefix input
  rw [scanDigits] at h
  split_ifs at h with hne
  simp only [Option.some.injEq, Prod.mk.injEq] at h
  obtain ⟨rfl, hrest⟩ := h
  have hdrop : (dropHexPrefix input).dropWhile isHexDigit = rest := by
    rw [← hrest, drop_length_takeWhile]
  have hsplit : (dropHexPrefix input).takeWhile isHexDigit ++ rest = dropHexPrefix input := by
    rw [← hdrop, List.takeWhile_append_dropWhile]
  refine ⟨base, hmem, _, by rw [hsplit]; exact hinput,
    fun c hc => List.mem_takeWhile_imp hc, hne, ?_, ?_, rfl⟩
  · intro c hc
    rw [← hdrop] at hc
    have hnot := List.head?_dropWhile_not isHexDigit (dropHexPrefix input)
    rw [Option.mem_def.mp hc] at hnot
    exact hnot
  · intro hnil hzero c hc
    obtain ⟨tail, rfl⟩ : ∃ tail, rest = c :: tail := by
      rcases rest with _ | ⟨c', tail⟩
      · cases hc
      · exact ⟨tail, by simpa using hc⟩
    refine hbase hnil c tail ?_
    rw [hinput, ← hsplit, hzero, hnil]
    rfl

/-- What `%x` reads is a word, and it reads as far as it can. -/
theorem exists_of_scanHex {longBits : ℕ} {input rest : Bytes} {v : ℕ}
    (h : scanHex longBits input = some (v, rest)) :
    ∃ w : HexWord, input = w.spell ++ rest ∧ w.EndsAt rest ∧ v = w.value longBits := by
  have hblanks : ∀ c ∈ input.takeWhile isSpace, isSpace c = true :=
    fun c hc => List.mem_takeWhile_imp hc
  have hinput := (List.takeWhile_append_dropWhile (p := isSpace) (l := input)).symm
  -- the word is put together from the sign that stands there and what follows it
  have word : ∀ sign (hsign : sign ∈ [[], text "+", text "-"]) behind,
      input.dropWhile isSpace = sign ++ behind →
      scanDigits longBits (sign = text "-") behind = some (v, rest) →
      ∃ w : HexWord, input = w.spell ++ rest ∧ w.EndsAt rest ∧ v = w.value longBits := by
    intro sign hsign behind hbehind hscan
    obtain ⟨base, hbase, digits, rfl, hhex, hne, hend, hx, rfl⟩ := exists_of_scanDigits hscan
    refine ⟨⟨input.takeWhile isSpace, sign, base, digits, hblanks, hsign, hbase, hhex, hne⟩, ?_,
      ⟨hend, hx⟩, rfl⟩
    rw [hbehind] at hinput
    simpa only [HexWord.spell, List.append_assoc] using hinput
  rw [scanHex_eq] at h
  split_ifs at h with hminus hplus
  · exact word (text "-") (by simp) _ (List.eq_cons_of_mem_head? hminus) h
  · exact word (text "+") (by simp) _ (List.eq_cons_of_mem_head? hplus) h
  · exact word [] (by simp) _ rfl h

/-! ## Six words -/

/-- A text read as words with colons between them, up to a rest. -/
inductive ReadsAs : Bytes → List HexWord → Bytes → Prop
  | last (w : HexWord) (rest : Bytes) (h : w.EndsAt rest) : ReadsAs (w.spell ++ rest) [w] rest
  | colon (w : HexWord) {input : Bytes} {words : List HexWord} {rest : Bytes}
      (h : ReadsAs input words rest) : ReadsAs (w.spell ++ 0x3A :: input) (w :: words) rest

/-- A colon ends every word. -/
theorem HexWord.endsAt_colon (w : HexWord) (input : Bytes) : w.EndsAt (0x3A :: input) where
  digits := by
    rintro c ⟨⟩
    decide
  base := by
    rintro - - c ⟨⟩
    decide

/-- `sscanf` stores the values of the words. -/
theorem scanHexGroups_of_readsAs (longBits : ℕ) {input rest : Bytes} {words : List HexWord}
    (h : ReadsAs input words rest) :
    scanHexGroups longBits words.length input = words.map (HexWord.value longBits) := by
  induction h with
  | last w rest hend =>
      rw [List.length_singleton, scanHexGroups, scanHex_spell longBits hend]
      split
      · next heq => cases heq
      · next heq =>
          cases heq
          rfl
      · next heq =>
          cases heq
          rfl
  | colon w _ ih =>
      rw [List.length_cons, scanHexGroups, scanHex_spell longBits (w.endsAt_colon _), List.map_cons]
      exact congrArg _ ih

/-- Where as many values as asked for are stored, there are that many words. -/
theorem exists_readsAs {longBits n : ℕ} {input : Bytes} (hn : 0 < n)
    (h : (scanHexGroups longBits n input).length = n) :
    ∃ words rest, words.length = n ∧ ReadsAs input words rest := by
  induction n generalizing input with
  | zero => exact absurd hn (by decide)
  | succ n ih =>
      rw [scanHexGroups] at h
      split at h
      · cases h
      · next value input' hscan =>
          obtain ⟨w, rfl, hend, -⟩ := exists_of_scanHex hscan
          rcases Nat.eq_zero_or_pos n with rfl | hpos
          · exact ⟨[w], _, rfl, .last w _ hend⟩
          · rw [List.length_cons] at h
            obtain ⟨words, rest, hlen, hreads⟩ := ih hpos (Nat.succ.inj h)
            exact ⟨w :: words, rest, by rw [List.length_cons, hlen], .colon w hreads⟩
      · next value rest hno hscan =>
          obtain ⟨w, rfl, hend, -⟩ := exists_of_scanHex hscan
          have hn : n = 0 := by simpa using h.symm
          subst hn
          exact ⟨[w], _, rfl, .last w _ hend⟩

/-- `parse_mac_address` accepts six words whose values are bytes. -/
theorem parseMacAddress_of_readsAs {longBits : ℕ} {input rest : Bytes} {words : List HexWord}
    (h : ReadsAs input words rest) (hlen : words.length = 6)
    (hbyte : ∀ w ∈ words, w.value longBits ≤ 0xFF) :
    ∃ mac, parseMacAddress longBits (some input) = some mac ∧
      mac.1 = words.map fun w => (w.value longBits).toUInt8 := by
  have hgroups := scanHexGroups_of_readsAs longBits h
  rw [hlen] at hgroups
  have hvalues : (scanHexGroups longBits 6 input).length = 6 ∧
      ∀ value ∈ scanHexGroups longBits 6 input, value ≤ 0xFF := by
    rw [hgroups, List.length_map]
    exact ⟨hlen, by simpa using hbyte⟩
  refine ⟨_, by rw [parseMacAddress]; exact dif_pos hvalues, ?_⟩
  simp only [hgroups, List.map_map]
  rfl

/-- It accepts nothing else. -/
theorem readsAs_of_parseMacAddress {longBits : ℕ} {input : Bytes} {mac : FixedBytes 6}
    (h : parseMacAddress longBits (some input) = some mac) :
    ∃ words rest, ReadsAs input words rest ∧ words.length = 6 ∧
      (∀ w ∈ words, w.value longBits ≤ 0xFF) ∧
      mac.1 = words.map fun w => (w.value longBits).toUInt8 := by
  rw [parseMacAddress] at h
  split_ifs at h with hvalues
  rw [Option.some.injEq] at h
  subst h
  obtain ⟨words, rest, hlen, hreads⟩ := exists_readsAs (by decide) hvalues.1
  have hgroups := scanHexGroups_of_readsAs longBits hreads
  rw [hlen] at hgroups
  rw [hgroups] at hvalues
  refine ⟨words, rest, hreads, hlen, by simpa using hvalues.2, ?_⟩
  simp only [hgroups, List.map_map]
  rfl

/-! ## The grammar of an address -/

/-- Two hexadecimal digits and the byte they spell. -/
inductive HexPair : Bytes → UInt8 → Prop
  | mk {hi lo h l : UInt8} (hhi : asciiXdigitValue hi = some h)
      (hlo : asciiXdigitValue lo = some l) : HexPair [hi, lo] (16 * h + l)

/-- Six groups of two hexadecimal digits with colons between them, and the bytes they
spell. -/
def IsMacText (input : Bytes) (mac : FixedBytes 6) : Prop :=
  ∃ groups : List Bytes, List.Forall₂ HexPair groups mac.1 ∧ input = [0x3A].intercalate groups

theorem hexPair_inv {group : Bytes} {b : UInt8} (h : HexPair group b) :
    ∃ hi lo, group = [hi, lo] ∧ isHexDigit hi = true ∧ isHexDigit lo = true := by
  obtain ⟨hhi, hlo⟩ := h
  exact ⟨_, _, rfl, by rw [isHexDigit, hhi]; rfl, by rw [isHexDigit, hlo]; rfl⟩

/-- Where two digits stand and no third one, the word is these two digits. -/
theorem HexWord.plain_of_spell {w : HexWord} {rest tail : Bytes} {hi lo : UInt8}
    (hend : w.EndsAt rest) (h : w.spell ++ rest = hi :: lo :: tail)
    (hhi : isHexDigit hi = true) (hlo : isHexDigit lo = true)
    (htail : ∀ c ∈ tail.head?, isHexDigit c = false) : w.Plain ∧ rest = tail := by
  have hspell : w.blanks ++ (w.sign ++ (w.base ++ (w.digits ++ rest))) = hi :: lo :: tail := by
    rw [← h]
    simp only [spell, List.append_assoc]
  have hblanks : w.blanks = [] := by
    rcases hb : w.blanks with _ | ⟨c, cs⟩
    · rfl
    · obtain rfl : c = hi := by
        rw [hb] at hspell
        simpa using congrArg List.head? hspell
      have hspace := w.blanks_space c (by simp [hb])
      rw [isSpace_of_isHexDigit hhi] at hspace
      cases hspace
  have hsign : w.sign = [] := by
    have hmem := w.sign_mem
    simp only [List.mem_cons, List.not_mem_nil, or_false] at hmem
    rw [hblanks, List.nil_append] at hspell
    rcases hmem with hs | hs | hs
    · exact hs
    · rw [hs] at hspell
      exact absurd (List.cons.inj hspell).1.symm (sign_of_isHexDigit hhi).1
    · rw [hs] at hspell
      exact absurd (List.cons.inj hspell).1.symm (sign_of_isHexDigit hhi).2
  rw [hblanks, hsign, List.nil_append, List.nil_append] at hspell
  have hbase : w.base = [] := by
    have hmem := w.base_mem
    simp only [List.mem_cons, List.not_mem_nil, or_false] at hmem
    rcases hmem with hs | hs | hs
    · exact hs
    · rw [hs] at hspell
      have hx := (List.cons.inj (List.cons.inj hspell).2).1
      rw [← hx] at hlo
      exact absurd hlo (by decide)
    · rw [hs] at hspell
      have hx := (List.cons.inj (List.cons.inj hspell).2).1
      rw [← hx] at hlo
      exact absurd hlo (by decide)
  rw [hbase, List.nil_append] at hspell
  have hdigits : w.digits = [hi, lo] := by
    have hleft := takeWhile_isHexDigit w.digits_hex hend.digits
    have hright := @takeWhile_isHexDigit [hi, lo] tail (by simp [hhi, hlo]) htail
    rw [hspell] at hleft
    exact hleft.symm.trans hright
  rw [hdigits] at hspell
  exact ⟨⟨hblanks, hsign, hbase, by rw [hdigits]; rfl⟩, List.append_cancel_left hspell⟩

theorem intercalate_colon (g g' : Bytes) (groups : List Bytes) :
    [0x3A].intercalate (g :: g' :: groups) = g ++ 0x3A :: [0x3A].intercalate (g' :: groups) := by
  simp [List.intercalate]

/-- An address read as as many words as it has groups is read to its end, as two digits
each time. -/
theorem plain_of_readsAs {groups : List Bytes} {bytes : Bytes} {words : List HexWord}
    {rest : Bytes} (hgroups : List.Forall₂ HexPair groups bytes)
    (hreads : ReadsAs ([0x3A].intercalate groups) words rest)
    (hlen : words.length = groups.length) : rest = [] ∧ ∀ w ∈ words, w.Plain := by
  induction hgroups generalizing words with
  | nil =>
      rw [List.length_nil, List.length_eq_zero_iff] at hlen
      subst hlen
      generalize [0x3A].intercalate ([] : List Bytes) = input at hreads
      cases hreads
  | @cons g b groups bytes hg hgroups ih =>
      obtain ⟨hi, lo, rfl, hhi, hlo⟩ := hexPair_inv hg
      rcases groups with _ | ⟨g', groups⟩
      · generalize hinput : [0x3A].intercalate [[hi, lo]] = input at hreads
        rw [show [0x3A].intercalate [[hi, lo]] = [hi, lo] from rfl] at hinput
        cases hreads with
        | last w rest hend =>
            obtain ⟨hplain, hrest⟩ := HexWord.plain_of_spell hend hinput.symm hhi hlo (by simp)
            exact ⟨hrest, by simpa using hplain⟩
        | colon w hreads =>
            cases hreads <;> simp at hlen
      · generalize hinput : [0x3A].intercalate ([hi, lo] :: g' :: groups) = input at hreads
        rw [intercalate_colon, List.cons_append, List.cons_append, List.nil_append] at hinput
        cases hreads with
        | last w rest hend => simp at hlen
        | colon w hreads =>
            obtain ⟨hplain, hrest⟩ := HexWord.plain_of_spell (w.endsAt_colon _) hinput.symm hhi hlo
              (by rintro c ⟨⟩; decide)
            rw [List.cons.injEq] at hrest
            rw [hrest.2] at hreads
            obtain ⟨hnil, hwords⟩ := ih hreads (by simpa using hlen)
            exact ⟨hnil, List.forall_mem_cons.mpr ⟨hplain, hwords⟩⟩

theorem asciiXdigitValue_lt {c v : UInt8} (h : asciiXdigitValue c = some v) : v.toNat < 16 := by
  have hall : ∀ n < 256, (asciiXdigitValue n.toUInt8).all (·.toNat < 16) = true := by
    decide +kernel
  have hv := hall c.toNat c.toNat_lt
  simpa [h] using hv

/-- A word of two digits is stored as the byte they spell. -/
theorem HexWord.Plain.hexPair {longBits : ℕ} (hlong : 32 ≤ longBits) {w : HexWord}
    (hplain : w.Plain) :
    w.spell = w.digits ∧ w.value longBits ≤ 0xFF ∧
      HexPair w.digits (w.value longBits).toUInt8 := by
  obtain ⟨hblanks, hsign, hbase, hlen⟩ := hplain
  obtain ⟨hi, lo, hdigits⟩ := List.length_eq_two.mp hlen
  obtain ⟨h, hhi⟩ := Option.isSome_iff_exists.mp (w.digits_hex hi (by simp [hdigits]))
  obtain ⟨l, hlo⟩ := Option.isSome_iff_exists.mp (w.digits_hex lo (by simp [hdigits]))
  have hh := asciiXdigitValue_lt hhi
  have hl := asciiXdigitValue_lt hlo
  have hnumber : hexNumber w.digits = 16 * h.toNat + l.toNat := by
    rw [hdigits]
    simp [hexNumber, hhi, hlo]
    omega
  have hbig : 2 ^ 32 ≤ 2 ^ longBits := Nat.pow_le_pow_right (by decide) hlong
  have hvalue : w.value longBits = 16 * h.toNat + l.toNat := by
    rw [value, hsign, hnumber, strtoulValue, if_neg (by omega), if_neg (by decide)]
    omega
  refine ⟨by rw [spell, hblanks, hsign, hbase]; rfl, by omega, ?_⟩
  have hbyte : (w.value longBits).toUInt8 = 16 * h + l := by
    rw [← UInt8.toNat_inj, hvalue, UInt8.toNat_add, UInt8.toNat_mul, Nat.toUInt8_eq,
      UInt8.toNat_ofNat']
    simp
  rw [hdigits, hbyte]
  exact .mk hhi hlo

/-- Two digits are a word. -/
theorem exists_plain {longBits : ℕ} (hlong : 32 ≤ longBits) {group : Bytes} {b : UInt8}
    (h : HexPair group b) :
    ∃ w : HexWord, w.Plain ∧ w.spell = group ∧ (w.value longBits).toUInt8 = b := by
  obtain ⟨hi, lo, rfl, hhi, hlo⟩ := hexPair_inv h
  let w : HexWord := ⟨[], [], [], [hi, lo], by simp, by simp, by simp, by simp [hhi, hlo], by simp⟩
  have hplain : w.Plain := ⟨rfl, rfl, rfl, rfl⟩
  obtain ⟨hspell, -, hpair⟩ := hplain.hexPair hlong
  refine ⟨w, hplain, hspell, ?_⟩
  rcases h with ⟨hhi, hlo⟩
  generalize (w.value longBits).toUInt8 = b at hpair
  have hpair : HexPair [hi, lo] b := hpair
  rcases hpair with ⟨hhi', hlo'⟩
  rw [hhi, Option.some.injEq] at hhi'
  rw [hlo, Option.some.injEq] at hlo'
  rw [hhi', hlo']

/-- An address is read as words of two digits, up to its end. -/
theorem exists_readsAs_of_groups {longBits : ℕ} (hlong : 32 ≤ longBits) {groups : List Bytes}
    {bytes : Bytes} (hgroups : List.Forall₂ HexPair groups bytes) (hne : groups ≠ []) :
    ∃ words, ReadsAs ([0x3A].intercalate groups) words [] ∧ (∀ w ∈ words, w.Plain) ∧
      (words.map fun w => (w.value longBits).toUInt8) = bytes := by
  induction hgroups with
  | nil => exact absurd rfl hne
  | @cons g b groups bytes hg hgroups ih =>
      obtain ⟨w, hplain, rfl, rfl⟩ := exists_plain hlong hg
      rcases groups with _ | ⟨g', groups⟩
      · cases hgroups
        have hend : w.EndsAt [] := ⟨by simp, by simp⟩
        refine ⟨[w], ?_, by simpa using hplain, rfl⟩
        have hlast := ReadsAs.last w [] hend
        rw [List.append_nil] at hlast
        simpa [List.intercalate] using hlast
      · obtain ⟨words, hreads, hwords, rfl⟩ := ih (by simp)
        refine ⟨w :: words, ?_, List.forall_mem_cons.mpr ⟨hplain, hwords⟩, rfl⟩
        rw [intercalate_colon]
        exact .colon w hreads

/-- A text read as words of two digits, up to its end, is an address. -/
theorem groups_of_readsAs {longBits : ℕ} (hlong : 32 ≤ longBits) {input : Bytes}
    {words : List HexWord} {rest : Bytes} (hreads : ReadsAs input words rest) (hrest : rest = [])
    (hplain : ∀ w ∈ words, w.Plain) :
    input = [0x3A].intercalate (words.map HexWord.digits) ∧
      List.Forall₂ HexPair (words.map HexWord.digits)
        (words.map fun w => (w.value longBits).toUInt8) := by
  induction hreads with
  | last w rest hend =>
      subst hrest
      obtain ⟨hspell, -, hpair⟩ := (hplain w (by simp)).hexPair hlong
      refine ⟨?_, .cons hpair .nil⟩
      rw [List.append_nil, hspell]
      simp [List.intercalate]
  | @colon w input words rest hreads ih =>
      obtain ⟨hw, hwords⟩ := List.forall_mem_cons.mp hplain
      obtain ⟨hspell, -, hpair⟩ := hw.hexPair hlong
      obtain ⟨hinput, hpairs⟩ := ih hrest hwords
      refine ⟨?_, .cons hpair hpairs⟩
      rcases words with _ | ⟨w', words⟩
      · cases hreads
      · rw [hspell, hinput]
        simp only [List.map_cons, intercalate_colon]

/-- On this text the parser is exact: it accepts it as an address, and as that one, if and
only if it is one. -/
def ParsesExactly (longBits : ℕ) (input : Bytes) : Prop :=
  ∀ mac, parseMacAddress longBits (some input) = some mac ↔ IsMacText input mac

/-- The parser is exact on a text unless the text can be read as six words of `%x` that
are bytes, and one of them has a blank, a sign, a `0x` or another number of digits than two,
or something follows the last. -/
theorem parsesExactly_iff (longBits : ℕ) (hlong : 32 ≤ longBits) (input : CString) :
    ParsesExactly longBits input.1 ↔
      ∀ words rest, ReadsAs input.1 words rest → words.length = 6 →
        (∀ w ∈ words, w.value longBits ≤ 0xFF) → rest = [] ∧ ∀ w ∈ words, w.Plain := by
  constructor
  · intro hexact words rest hreads hlen hbyte
    obtain ⟨mac, hparse, -⟩ := parseMacAddress_of_readsAs hreads hlen hbyte
    obtain ⟨groups, hgroups, hinput⟩ := (hexact mac).mp hparse
    rw [hinput] at hreads
    exact plain_of_readsAs hgroups hreads (by rw [hgroups.length_eq, mac.2, hlen])
  · intro hplain mac
    constructor
    · intro hparse
      obtain ⟨words, rest, hreads, hlen, hbyte, hmac⟩ := readsAs_of_parseMacAddress hparse
      obtain ⟨hrest, hwords⟩ := hplain words rest hreads hlen hbyte
      obtain ⟨hinput, hgroups⟩ := groups_of_readsAs hlong hreads hrest hwords
      exact ⟨_, hmac ▸ hgroups, hinput⟩
    · rintro ⟨groups, hgroups, hinput⟩
      have hne : groups ≠ [] := by
        rintro rfl
        have hlen := hgroups.length_eq
        rw [mac.2] at hlen
        cases hlen
      obtain ⟨words, hreads, hwords, hvalues⟩ := exists_readsAs_of_groups hlong hgroups hne
      have hlen : words.length = 6 := by
        rw [← mac.2, ← hvalues, List.length_map]
      rw [← hinput] at hreads
      obtain ⟨mac', hparse, hmac'⟩ := parseMacAddress_of_readsAs hreads hlen
        fun w hw => ((hwords w hw).hexPair hlong).2.1
      have hsame : mac' = mac := Subtype.ext (hmac'.trans hvalues)
      rw [hparse, hsame]

theorem parsesExactly_iff_headset :
    ParsesExactly 64 headsetAddress.1 ↔
      ∀ words rest, ReadsAs headsetAddress.1 words rest → words.length = 6 →
        (∀ w ∈ words, w.value 64 ≤ 0xFF) → rest = [] ∧ ∀ w ∈ words, w.Plain :=
  parsesExactly_iff 64 (by decide) headsetAddress

/-- An address with one digit in a group, a sign, a `0x` and more text behind it is
accepted. -/
theorem not_parsesExactly_loose :
    parseMacAddress 64 (some (text " 0:+1A:0x7D:DA:71:13 (headset)"))
        = some ⟨[0x00, 0x1A, 0x7D, 0xDA, 0x71, 0x13], rfl⟩ ∧
      ¬ ParsesExactly 64 (text " 0:+1A:0x7D:DA:71:13 (headset)") := by
  have hparse : parseMacAddress 64 (some (text " 0:+1A:0x7D:DA:71:13 (headset)"))
      = some ⟨[0x00, 0x1A, 0x7D, 0xDA, 0x71, 0x13], rfl⟩ := by decide +kernel
  refine ⟨hparse, ?_⟩
  intro hexact
  obtain ⟨groups, hgroups, hinput⟩ := (hexact _).mp hparse
  -- an address starts with a digit, this text with a blank
  rcases hgroups with _ | ⟨hg, hgroups⟩
  obtain ⟨hi, lo, rfl, hhi, -⟩ := hexPair_inv hg
  have hhead : hi = 0x20 := by
    rcases hgroups with _ | ⟨-, hgroups⟩
    rw [intercalate_colon] at hinput
    exact (List.cons.inj hinput).1.symm
  subst hhead
  exact absurd hhi (by decide)

end NfcAdapter
