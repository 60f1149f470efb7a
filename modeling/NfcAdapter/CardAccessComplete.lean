/-
# Well-formed EF.CardAccess files (`pace.c`)

A file as the DER rules write it: a SET OF SecurityInfo, each a SEQUENCE of an OID and
further elements.  The parser finds the PACEInfos of such a file, whatever stands between
them.
-/
import Mathlib.Data.Nat.Size
import NfcAdapter.CardAccess

namespace NfcAdapter

open ByteCounter

/-! ## DER -/

/-- The shortest form of a length. -/
def derForm (n : ℕ) : LengthForm :=
  if n < 0x80 then .short else if n < 0x100 then .one else .two

/-- The form holds every length the parser's three forms hold. -/
theorem fits_derForm {n : ℕ} (h : n < 65536) : (derForm n).Fits n := by
  unfold derForm
  split_ifs with hshort hone
  · exact hshort
  · exact hone
  · exact h

/-- An element: tag, length in its shortest form, content. -/
def der (tag : UInt8) (content : Bytes) : Bytes := berTlv tag (derForm content.length) content

/-- The bytes before the content of an element with `n` bytes of content. -/
def derHeaderLen (n : ℕ) : ℕ := 1 + ((derForm n).encode n).length

/-- The content of a non-negative INTEGER: big-endian, with room for the sign bit. -/
def derNatural (n : ℕ) : Bytes := beBytes (n.size / 8 + 1) n

/-! ## Security infos -/

/-- A PACEInfo.  The version may be any INTEGER. -/
structure PaceInfo where
  oid : Bytes
  version : Bytes
  parameterId : Option ℕ
  oid_length : oid.length ≤ 16
  oid_prefix : idPacePrefix <+: oid
  parameterId_lt : ∀ n ∈ parameterId, n < 2 ^ 31

/-- A SecurityInfo of another protocol, with whatever its definition puts behind the
OID. -/
structure OtherInfo where
  oid : Bytes
  further : Bytes
  not_pace : ¬ idPacePrefix <+: oid

inductive CardAccessInfo where
  | pace (info : PaceInfo)
  | other (info : OtherInfo)

/-- The elements of the SEQUENCE. -/
def CardAccessInfo.elements : CardAccessInfo → Bytes
  | .pace info => der 0x06 info.oid ++ (der 0x02 info.version ++
      info.parameterId.elim [] fun n => der 0x02 (derNatural n))
  | .other info => der 0x06 info.oid ++ info.further

def CardAccessInfo.encode (info : CardAccessInfo) : Bytes := der 0x30 info.elements

/-- The file. -/
def cardAccessFile (infos : List CardAccessInfo) : Bytes :=
  der 0x31 (infos.flatMap CardAccessInfo.encode)

/-- What the parser has to report of a SecurityInfo. -/
def CardAccessInfo.entry : CardAccessInfo → Option PaceInfoEntry
  | .pace info => some ⟨info.oid, info.parameterId.elim (-1) fun n => (n : ℤ)⟩
  | .other _ => none

/-! ## Lengths -/

@[simp] theorem length_der (tag : UInt8) (content : Bytes) :
    (der tag content).length = derHeaderLen content.length + content.length :=
  length_berTlv tag _ content

theorem derHeaderLen_pos (n : ℕ) : 2 ≤ derHeaderLen n := by
  have hpos := length_encode_pos (derForm n) n
  unfold derHeaderLen
  omega

/-- The content of an element stands behind its header. -/
theorem drop_der (tag : UInt8) (content rest : Bytes) :
    (der tag content ++ rest).drop (derHeaderLen content.length) = content ++ rest := by
  have hsplit : der tag content ++ rest
      = (tag :: (derForm content.length).encode content.length) ++ (content ++ rest) := by
    simp [der, berTlv]
  have hlen : derHeaderLen content.length
      = (tag :: (derForm content.length).encode content.length).length := by
    rw [List.length_cons, derHeaderLen]
    omega
  rw [hsplit, hlen, List.drop_left]

/-- The header of an element is parsed back. -/
theorem bacBerTlvHeader_der {tag : UInt8} {content : Bytes} (h : content.length < 65536)
    (rest : Bytes) :
    bacBerTlvHeader (der tag content ++ rest)
      = some (derHeaderLen content.length, content.length) :=
  bacBerTlvHeader_berTlv tag _ content (fits_derForm h) rest

/-- A non-negative `gint` takes one to four bytes. -/
theorem length_derNatural {n : ℕ} (h : n < 2 ^ 31) :
    1 ≤ (derNatural n).length ∧ (derNatural n).length ≤ 4 := by
  have hsize : n.size ≤ 31 := Nat.size_le.mpr h
  rw [derNatural, length_beBytes]
  omega

/-- Its bytes hold the number. -/
theorem beValue_derNatural (n : ℕ) : beValue (derNatural n) = n := by
  have hfits : n < 256 ^ (n.size / 8 + 1) := by
    calc n < 2 ^ (8 * (n.size / 8 + 1)) := Nat.size_le.mp (by omega)
      _ = 256 ^ (n.size / 8 + 1) := by rw [pow_mul]; rfl
  exact beValue_beBytes hfits

/-- The four bytes accumulate to the number. -/
theorem gintOf_derNatural {n : ℕ} (h : n < 2 ^ 31) : gintOf (derNatural n) = n := by
  unfold gintOf
  rw [beValue_derNatural]
  exact Int.bmod_eq_of_le_mul_two (by omega) (by omega)

/-! ## Reading one element of a SEQUENCE -/

/-- The first bytes of an element's content are read behind its header. -/
theorem readBytes_der {before content rest : Bytes} {tag : UInt8} {n : ℕ}
    (hn : n ≤ content.length) :
    readBytes (before ++ (der tag content ++ rest)) (before.length + derHeaderLen content.length) n
      = some (content.take n) := by
  have hfits : before.length + derHeaderLen content.length + n
      ≤ (before ++ (der tag content ++ rest)).length := by
    simp only [List.length_append, length_der]
    omega
  rw [readBytes, if_pos hfits, ← List.drop_drop, List.drop_left, drop_der,
    List.take_append_of_le_length hn]

/-- An element is found where it starts. -/
theorem elementAt_der {before content behind trailing : Bytes} {tag : UInt8} {seqLen : ℕ}
    (hlen : seqLen = (before ++ (der tag content ++ behind)).length)
    (hcontent : content.length < 65536) :
    elementAt (before ++ (der tag content ++ behind) ++ trailing) seqLen before.length tag
      = some (derHeaderLen content.length, content.length) := by
  have hlt : before.length < seqLen := by
    have hpos := derHeaderLen_pos content.length
    rw [hlen]
    simp only [List.length_append, length_der]
    omega
  have hget : (before ++ (der tag content ++ behind) ++ trailing)[before.length]? = some tag := by
    rw [List.append_assoc, List.getElem?_append_right (le_refl _), Nat.sub_self]
    rfl
  rw [elementAt, if_pos ⟨hlt, hget⟩, hlen, List.take_left, List.drop_left,
    bacBerTlvHeader_der hcontent]

/-- Behind the last element there is none. -/
theorem elementAt_end (seq : Bytes) (seqLen : ℕ) (tag : UInt8) :
    elementAt seq seqLen seqLen tag = none := by
  rw [elementAt, if_neg (fun h => lt_irrefl _ h.1)]

/-- The parameterId is read behind the version. -/
theorem paceParameterId_der {before version trailing : Bytes} {parameterId : Option ℕ}
    {seqLen : ℕ} (hversion : version.length < 65536) (hlt : ∀ n ∈ parameterId, n < 2 ^ 31)
    (hlen : seqLen = (before ++ (der 0x02 version ++
      parameterId.elim [] fun n => der 0x02 (derNatural n))).length) :
    paceParameterId (before ++ (der 0x02 version ++
        parameterId.elim [] fun n => der 0x02 (derNatural n)) ++ trailing) seqLen before.length
      = some (parameterId.elim (-1) fun n => (n : ℤ)) := by
  rw [paceParameterId, elementAt_der hlen hversion]
  simp only
  have hp : before.length + derHeaderLen version.length + version.length
      = (before ++ der 0x02 version).length := by
    rw [List.length_append, length_der]
    omega
  rw [hp, ← List.append_assoc before]
  cases parameterId with
  | none =>
      have hend : seqLen = (before ++ der 0x02 version).length := by
        rw [hlen, Option.elim_none, List.append_nil]
      rw [← hend, elementAt_end]
      rfl
  | some n =>
      have hn : n < 2 ^ 31 := hlt n rfl
      obtain ⟨hone, hfour⟩ := length_derNatural hn
      -- the integer is the last element, with nothing behind it
      have hend : seqLen
          = (before ++ der 0x02 version ++ (der 0x02 (derNatural n) ++ [])).length := by
        rw [hlen, Option.elim_some, List.append_nil, List.append_assoc]
      have hread := @readBytes_der (before ++ der 0x02 version) (derNatural n) trailing 0x02 _
        (le_refl _)
      rw [List.take_length, ← List.append_assoc] at hread
      rw [Option.elim_some, ← List.append_nil (der 0x02 (derNatural n)),
        elementAt_der hend (by omega)]
      simp only [hone, hfour, and_self, if_true, List.append_nil]
      rw [hread, Option.map_some, gintOf_derNatural hn]
      rfl

/-! ## One SecurityInfo -/

theorem CardAccessInfo.elements_lt {info : CardAccessInfo} (h : info.encode.length < 65536) :
    info.elements.length < 65536 := by
  rw [CardAccessInfo.encode, length_der] at h
  omega

/-- The header of an element, apart from its content. -/
theorem der_eq (tag : UInt8) (content : Bytes) :
    ∃ header, header.length = derHeaderLen content.length ∧ der tag content = header ++ content :=
  ⟨tag :: (derForm content.length).encode content.length, by
    rw [List.length_cons, derHeaderLen]
    omega, rfl⟩

/-- The parser reports a PACEInfo and skips the others. -/
theorem paceInfoEntry_encode {info : CardAccessInfo} (h : info.encode.length < 65536)
    (trailing : Bytes) :
    paceInfoEntry (info.encode ++ trailing) (derHeaderLen info.elements.length)
      info.encode.length = some info.entry := by
  have helements := CardAccessInfo.elements_lt h
  obtain ⟨header, hheader, hsplit⟩ := der_eq 0x30 info.elements
  rw [CardAccessInfo.encode, ← hheader, hsplit]
  cases info with
  | pace info =>
      simp only [CardAccessInfo.elements, List.length_append, length_der] at helements
      have hprefix := info.oid_prefix.length_le
      rw [paceInfoEntry, CardAccessInfo.elements, elementAt_der rfl (by omega)]
      simp only [lt_of_lt_of_le (show 0 < idPacePrefix.length by decide) hprefix, info.oid_length,
        hprefix, and_self, if_true]
      have hp : header.length + derHeaderLen info.oid.length + info.oid.length
          = (header ++ der 0x06 info.oid).length := by
        rw [List.length_append, length_der]
        omega
      rw [hp, List.append_assoc header, List.append_assoc (der 0x06 info.oid),
        readBytes_der hprefix, readBytes_der (le_refl _), ← List.append_assoc header,
        ← List.append_assoc (header ++ _),
        paceParameterId_der (by omega) info.parameterId_lt (by simp only [List.append_assoc]),
        ← List.prefix_iff_eq_take.mp info.oid_prefix, List.take_length]
      rfl
  | other info =>
      simp only [CardAccessInfo.elements, List.length_append, length_der] at helements
      rw [paceInfoEntry, CardAccessInfo.elements, elementAt_der rfl (by omega)]
      simp only
      split_ifs with hlen
      · have hne : info.oid.take idPacePrefix.length ≠ idPacePrefix := by
          intro heq
          exact info.not_pace (List.prefix_iff_eq_take.mpr heq.symm)
        rw [List.append_assoc header, List.append_assoc (der 0x06 info.oid),
          readBytes_der hlen.2.2]
        simp only [Option.bind_eq_bind, Option.bind_some]
        rw [if_pos hne]
        rfl
      · rfl

/-! ## The whole file -/

/-- The loop reports the first PACEInfos in their order. -/
theorem paceParseLoop_encode {infos : List CardAccessInfo} (trailing : Bytes) {fuel : ℕ}
    (maxEntries : ℕ) (hsize : (infos.flatMap CardAccessInfo.encode).length < 65536)
    (hfuel : (infos.flatMap CardAccessInfo.encode).length ≤ fuel) :
    paceParseLoop fuel (infos.flatMap CardAccessInfo.encode ++ trailing)
        (infos.flatMap CardAccessInfo.encode).length maxEntries
      = some ((infos.filterMap CardAccessInfo.entry).take maxEntries) := by
  induction infos generalizing fuel maxEntries with
  | nil => cases fuel <;> cases maxEntries <;> simp [paceParseLoop]
  | cons info infos ih =>
      rw [List.flatMap_cons, List.length_append] at hsize hfuel
      rw [List.flatMap_cons]
      cases maxEntries with
      | zero => cases fuel <;> simp [paceParseLoop]
      | succ maxEntries =>
          have hlen : info.encode.length
              = derHeaderLen info.elements.length + info.elements.length := length_der 0x30 _
          have hpos := derHeaderLen_pos info.elements.length
          obtain ⟨fuel, rfl⟩ : ∃ n, fuel = n + 1 := ⟨fuel - 1, by omega⟩
          have hstart : ((info.encode ++ infos.flatMap CardAccessInfo.encode) ++ trailing)[0]?
              = some 0x30 := rfl
          have hheader : bacBerTlvHeader (info.encode ++ infos.flatMap CardAccessInfo.encode)
              = some (derHeaderLen info.elements.length, info.elements.length) :=
            bacBerTlvHeader_der (CardAccessInfo.elements_lt (by omega)) _
          have hrest : ((info.encode ++ infos.flatMap CardAccessInfo.encode) ++ trailing).drop
              info.encode.length = infos.flatMap CardAccessInfo.encode ++ trailing := by
            rw [List.append_assoc, List.drop_left]
          have havail : info.encode.length + (infos.flatMap CardAccessInfo.encode).length
              - info.encode.length = (infos.flatMap CardAccessInfo.encode).length := by
            omega
          have hmore : ¬ ((info.encode ++ infos.flatMap CardAccessInfo.encode).length = 0 ∨
              some (0x30 : UInt8) ≠ some 0x30) := by
            rw [List.length_append, hlen]
            rintro (hzero | hne)
            · omega
            · exact hne rfl
          rw [paceParseLoop, hstart, if_neg hmore, List.take_left, hheader]
          simp only
          rw [if_neg (by rw [List.length_append]; omega), ← hlen, hrest, List.length_append, havail,
            List.append_assoc, paceInfoEntry_encode (by omega), Option.bind_eq_bind,
            Option.bind_some]
          cases info with
          | pace info =>
              simp only [CardAccessInfo.entry]
              rw [ih maxEntries (by omega) (by omega)]
              rfl
          | other info =>
              simp only [CardAccessInfo.entry]
              rw [ih (maxEntries + 1) (by omega) (by omega)]
              rfl

/-- **Well-formed files are read completely.**  For every list of SecurityInfos whose file
is shorter than 65536 bytes, the parser returns the first `maxEntries` PACEInfos in the
order of the file, each with its OID and its parameterId, −1 where it has none. -/
theorem paceParseCardAccess_file (infos : List CardAccessInfo) (maxEntries : ℕ)
    (hsize : (cardAccessFile infos).length < 65536) :
    paceParseCardAccess (cardAccessFile infos) maxEntries
      = some ((infos.filterMap CardAccessInfo.entry).take maxEntries) := by
  have hlen := length_der 0x31 (infos.flatMap CardAccessInfo.encode)
  have hpos := derHeaderLen_pos (infos.flatMap CardAccessInfo.encode).length
  rw [cardAccessFile] at hsize ⊢
  have hheader := @bacBerTlvHeader_der 0x31 (infos.flatMap CardAccessInfo.encode) (by omega) []
  have hcontent := drop_der 0x31 (infos.flatMap CardAccessInfo.encode) []
  rw [List.append_nil] at hheader hcontent
  have hstart : (der 0x31 (infos.flatMap CardAccessInfo.encode))[0]? = some 0x31 := rfl
  have hlong : ¬ ((der 0x31 (infos.flatMap CardAccessInfo.encode)).length < 2 ∨
      some (0x31 : UInt8) ≠ some 0x31) := by
    rintro (hshort | hne)
    · omega
    · exact hne rfl
  rw [paceParseCardAccess, hstart, if_neg hlong, hheader]
  simp only
  rw [if_neg (by omega), hcontent]
  exact paceParseLoop_encode [] maxEntries (by omega) (le_refl _)

/-- A file with Chip Authentication before two PACEInfos, one of them with a parameterId of
two bytes. -/
theorem paceParseCardAccess_file_three :
    paceParseCardAccess (cardAccessFile
      [.other ⟨[0x04, 0x00, 0x7F, 0x00, 0x07, 0x02, 0x02, 0x03, 0x02, 0x02],
          der 0x02 [0x01], by decide⟩,
        .pace ⟨paceOidAes128, [0x02], some 200, by decide, by decide, by decide⟩,
        .pace ⟨paceOidAes256, [0x02], none, by decide, by decide, by decide⟩]) 8
      = some [⟨paceOidAes128, 200⟩, ⟨paceOidAes256, -1⟩] :=
  paceParseCardAccess_file _ 8 (by decide +kernel)

end NfcAdapter
