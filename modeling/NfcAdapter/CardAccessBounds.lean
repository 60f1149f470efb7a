/-
# Reads of the EF.CardAccess parser (`pace.c`)

`pace_parse_card_access` once more, with every byte it looks at read through a checked
index and with each entry carrying the place it was taken from.  The walk checks every
SEQUENCE against the SET, and the OID header and the INTEGER headers against the
SEQUENCE; it does not check the content of the OID and of the parameterId, so it stays
inside exactly when the chip's lengths happen to.
-/
import NfcAdapter.CardAccess

namespace NfcAdapter

open ByteCounter

/-! ## Checked reads

In what follows an outer `none` is a read outside `data`. -/

/-- `n` bytes from offset `p` on, one after the other. -/
def bytesAt (data : Bytes) : ℕ → ℕ → Option Bytes
  | _, 0 => some []
  | p, n + 1 => do
    let b ← data[p]?
    let rest ← bytesAt data (p + 1) n
    some (b :: rest)

/-- `ber_length` at offset `p`; an inner `none` is FALSE. -/
def berLengthAt (data : Bytes) (p avail : ℕ) : Option (Option (ℕ × ℕ)) :=
  if avail < 1 then some none
  else do
    let b ← data[p]?
    if b < 0x80 then some (some (1, b.toNat))
    else if b = 0x81 then
      if avail < 2 then some none
      else do
        let c ← data[p + 1]?
        some (some (2, c.toNat))
    else if b = 0x82 then
      if avail < 3 then some none
      else do
        let c ← data[p + 1]?
        let d ← data[p + 2]?
        some (some (3, c.toNat * 256 + d.toNat))
    else some none

/-- `bac_ber_tlv_header` at offset `p`. -/
def tlvHeaderAt (data : Bytes) (p avail : ℕ) : Option (Option (ℕ × ℕ)) :=
  if avail < 2 then some none
  else (berLengthAt data (p + 1) (avail - 1)).map (Option.map fun r => (1 + r.1, r.2))

theorem bytesAt_eq_some {data : Bytes} {p n : ℕ} (h : p + n ≤ data.length) :
    bytesAt data p n = some ((data.drop p).take n) := by
  induction n generalizing p with
  | zero => rfl
  | succ n ih =>
    have hp : p < data.length := by omega
    rw [bytesAt, List.getElem?_eq_getElem hp, ih (by omega), List.drop_eq_getElem_cons hp,
      List.take_succ_cons]
    rfl

theorem bytesAt_eq_none {data : Bytes} {p n : ℕ} (hn : 0 < n) (h : data.length < p + n) :
    bytesAt data p n = none := by
  induction n generalizing p with
  | zero => omega
  | succ n ih =>
    rw [bytesAt]
    rcases Nat.lt_or_ge p data.length with hp | hp
    · rw [ih (by omega) (by omega), List.getElem?_eq_getElem hp]
      rfl
    · rw [List.getElem?_eq_none hp]
      rfl

/-- Bytes read one after the other are the bytes read at once. -/
theorem bytesAt_eq_readBytes {data : Bytes} {p n : ℕ} (hn : 0 < n) :
    bytesAt data p n = readBytes data p n := by
  rw [readBytes]
  split_ifs with h
  · exact bytesAt_eq_some h
  · exact bytesAt_eq_none hn (by omega)

/-- The code's pointer `seq` and the offsets of this file read the same bytes. -/
theorem bytesAt_drop (data : Bytes) (pos i : ℕ) {n : ℕ} (hn : 0 < n) :
    bytesAt data (pos + i) n = readBytes (data.drop pos) i n := by
  rw [bytesAt_eq_readBytes hn, readBytes, readBytes, List.length_drop, List.drop_drop]
  exact if_congr (by omega) rfl rfl

/-- Within its `avail` bytes the length parser reads nothing it was not given. -/
theorem berLengthAt_eq {data : Bytes} {p avail : ℕ} (h : p + avail ≤ data.length) :
    berLengthAt data p avail = some (berLength ((data.drop p).take avail)) := by
  rw [berLengthAt]
  rcases avail with - | - | - | avail
  · rfl
  · rw [List.drop_eq_getElem_cons (show p < data.length from by omega),
      List.getElem?_eq_getElem (show p < data.length from by omega)]
    simp only [berLength, Option.bind_eq_bind, Option.bind_some, List.take_succ_cons,
      List.take_zero]
    split_ifs <;> first | rfl | omega
  · rw [List.drop_eq_getElem_cons (show p < data.length from by omega),
      List.drop_eq_getElem_cons (show p + 1 < data.length from by omega),
      List.getElem?_eq_getElem (show p < data.length from by omega),
      List.getElem?_eq_getElem (show p + 1 < data.length from by omega)]
    simp only [berLength, Option.bind_eq_bind, Option.bind_some, List.take_succ_cons,
      List.take_zero]
    split_ifs <;> first | rfl | omega
  · rw [List.drop_eq_getElem_cons (show p < data.length from by omega),
      List.drop_eq_getElem_cons (show p + 1 < data.length from by omega),
      List.drop_eq_getElem_cons (show p + 2 < data.length from by omega),
      List.getElem?_eq_getElem (show p < data.length from by omega),
      List.getElem?_eq_getElem (show p + 1 < data.length from by omega),
      List.getElem?_eq_getElem (show p + 2 < data.length from by omega)]
    simp only [berLength, Option.bind_eq_bind, Option.bind_some, List.take_succ_cons]
    split_ifs <;> first | rfl | omega

theorem tlvHeaderAt_eq {data : Bytes} {p avail : ℕ} (h : p + avail ≤ data.length) :
    tlvHeaderAt data p avail = some (bacBerTlvHeader ((data.drop p).take avail)) := by
  have hlen : ((data.drop p).take avail).length = avail := by
    rw [List.length_take, List.length_drop]
    omega
  rw [tlvHeaderAt, bacBerTlvHeader, hlen]
  split_ifs with hlt
  · rfl
  · obtain ⟨avail, rfl⟩ : ∃ k, avail = k + 1 := ⟨avail - 1, by omega⟩
    have hp : p < data.length := by omega
    rw [List.drop_eq_getElem_cons hp, List.take_succ_cons, List.tail_cons, Nat.add_sub_cancel,
      berLengthAt_eq (by omega)]
    rfl

/-! ## The parser with places -/

/-- A SEQUENCE of the SET: where it starts in the file, and the two lengths of its
header.  Extents inside it count from its first byte, as the code does with `seq`. -/
structure SecurityInfo where
  pos : ℕ
  header : ℕ
  contentLen : ℕ
  deriving DecidableEq, Repr

/-- `seq_len`. -/
def SecurityInfo.len (info : SecurityInfo) : ℕ := info.header + info.contentLen

def SecurityInfo.content (info : SecurityInfo) : Extent := ⟨info.header, info.contentLen⟩

/-- An entry, the SEQUENCE it was parsed from, and the bytes it was taken from. -/
structure CardAccessEntry where
  info : SecurityInfo
  entry : PaceInfoEntry
  oid : Extent
  parameterId : Option Extent
  deriving DecidableEq, Repr

/-- The bytes of the entry come from the content of its SEQUENCE. -/
def CardAccessEntry.Inside (e : CardAccessEntry) : Prop :=
  e.oid.Within e.info.content ∧ ∀ extent ∈ e.parameterId, extent.Within e.info.content

/-- `p < seq_len && seq[p] == tag && bac_ber_tlv_header(seq + p, seq_len - p, ..)`. -/
def elementHeaderAt (data : Bytes) (info : SecurityInfo) (p : ℕ) (tag : UInt8) :
    Option (Option (ℕ × ℕ)) :=
  if p < info.len then do
    let b ← data[info.pos + p]?
    if b = tag then tlvHeaderAt data (info.pos + p) (info.len - p) else some none
  else some none

/-- The parameterId behind the OID and where it was read. -/
def paceParameterIdAt (data : Bytes) (info : SecurityInfo) (p : ℕ) :
    Option (ℤ × Option Extent) := do
  let version ← elementHeaderAt data info p 0x02
  let p := match version with
    | some (vh, vc) => p + vh + vc
    | none => p
  match ← elementHeaderAt data info p 0x02 with
  | some (ih, ic) =>
    if 1 ≤ ic ∧ ic ≤ 4 then do
      let bytes ← bytesAt data (info.pos + (p + ih)) ic
      some (gintOf bytes, some ⟨p + ih, ic⟩)
    else some (-1, none)
  | none => some (-1, none)

/-- The entry of one SecurityInfo, if it is a PACEInfo. -/
def cardAccessEntryAt (data : Bytes) (info : SecurityInfo) : Option (Option CardAccessEntry) := do
  match ← elementHeaderAt data info info.header 0x06 with
  | none => some none
  | some (oidHdr, oidContent) =>
    if 0 < oidContent ∧ oidContent ≤ 16 ∧ idPacePrefix.length ≤ oidContent then do
      -- memcmp may look at all of its bytes
      let start ← bytesAt data (info.pos + (info.header + oidHdr)) idPacePrefix.length
      if start ≠ idPacePrefix then some none
      else do
        let oid ← bytesAt data (info.pos + (info.header + oidHdr)) oidContent
        let (parameterId, extent) ← paceParameterIdAt data info (info.header + oidHdr + oidContent)
        some (some ⟨info, ⟨oid, parameterId⟩, ⟨info.header + oidHdr, oidContent⟩, extent⟩)
    else some none

/-- The loop over the SET, which ends before offset `stop`. -/
def cardAccessLoop (data : Bytes) (stop : ℕ) : ℕ → ℕ → ℕ → Option (List CardAccessEntry)
  | fuel + 1, pos, maxEntries + 1 =>
    if pos < stop then do
      let b ← data[pos]?
      if b ≠ 0x30 then some []
      else
        match ← tlvHeaderAt data pos (stop - pos) with
        | none => some []
        | some (h, c) =>
          if pos + (h + c) > stop then some []
          else do
            match ← cardAccessEntryAt data ⟨pos, h, c⟩ with
            | none => cardAccessLoop data stop fuel (pos + (h + c)) (maxEntries + 1)
            | some entry =>
              let rest ← cardAccessLoop data stop fuel (pos + (h + c)) maxEntries
              some (entry :: rest)
    else some []
  | _, _, _ => some []

/-- `pace_parse_card_access`, each entry with its places. -/
def cardAccessEntries (data : Bytes) (maxEntries : ℕ) : Option (List CardAccessEntry) :=
  if data.length < 2 then some []
  else do
    let b ← data[0]?
    if b ≠ 0x31 then some []
    else
      match ← tlvHeaderAt data 0 data.length with
      | none => some []
      | some (h, c) =>
        if h + c > data.length then some [] else cardAccessLoop data (h + c) c h maxEntries

/-! ## One SecurityInfo -/

/-- The OID of an element that could be a PACEInfo, as far as its header tells. -/
def SecurityInfo.oid (data : Bytes) (info : SecurityInfo) : Option Extent :=
  match elementAt (data.drop info.pos) info.len info.header 0x06 with
  | some (oidHdr, n) =>
    if 0 < n ∧ n ≤ 16 ∧ idPacePrefix.length ≤ n then some ⟨info.header + oidHdr, n⟩ else none
  | none => none

/-- The parameterId of such an element, as far as its header tells; `p` is the offset
behind the OID. -/
def SecurityInfo.parameterId (data : Bytes) (info : SecurityInfo) (p : ℕ) : Option Extent :=
  let p := match elementAt (data.drop info.pos) info.len p 0x02 with
    | some (vh, vc) => p + vh + vc
    | none => p
  match elementAt (data.drop info.pos) info.len p 0x02 with
  | some (ih, ic) => if 1 ≤ ic ∧ ic ≤ 4 then some ⟨p + ih, ic⟩ else none
  | none => none

/-- The OID starts like a PACE protocol. -/
def SecurityInfo.StartsPace (data : Bytes) (info : SecurityInfo) (oid : Extent) : Prop :=
  (data.drop (info.pos + oid.start)).take idPacePrefix.length = idPacePrefix

instance (data : Bytes) (info : SecurityInfo) (oid : Extent) :
    Decidable (info.StartsPace data oid) := inferInstanceAs (Decidable (_ = _))

/-- The element yields an entry, wherever its content ends. -/
def SecurityInfo.NamesPace (data : Bytes) (info : SecurityInfo) : Prop :=
  ∃ oid ∈ info.oid data, info.StartsPace data oid

instance (data : Bytes) (info : SecurityInfo) : Decidable (info.NamesPace data) :=
  inferInstanceAs (Decidable (∃ oid ∈ info.oid data, info.StartsPace data oid))

/-- The lengths the code does not check: the bytes compared with the prefix lie in the
file, and where they are the prefix, the OID and the parameterId lie in the SEQUENCE. -/
def SecurityInfo.Fits (data : Bytes) (info : SecurityInfo) : Prop :=
  ∀ oid ∈ info.oid data,
    info.pos + (oid.start + idPacePrefix.length) ≤ data.length ∧
    (info.StartsPace data oid →
      oid.Within info.content ∧
        ∀ extent ∈ info.parameterId data (oid.start + oid.length), extent.Within info.content)

instance SecurityInfo.decidableFits (data : Bytes) (info : SecurityInfo) :
    Decidable (info.Fits data) :=
  inferInstanceAs (Decidable (∀ oid ∈ info.oid data, _ ∧ (_ → _ ∧ _)))

section OneInfo

variable {data : Bytes} {info : SecurityInfo} (hfile : info.pos + info.len ≤ data.length)

include hfile

/-- The headers of a SEQUENCE that lies in the file are read inside the file. -/
theorem elementHeaderAt_eq (p : ℕ) (tag : UInt8) :
    elementHeaderAt data info p tag
      = some (elementAt (data.drop info.pos) info.len p tag) := by
  rw [elementHeaderAt, elementAt]
  by_cases hp : p < info.len
  · have hlt : info.pos + p < data.length := by omega
    rw [if_pos hp, List.getElem?_drop, List.getElem?_eq_getElem hlt, List.drop_take,
      List.drop_drop]
    simp only [Option.bind_eq_bind, Option.bind_some, Option.some.injEq, hp, true_and]
    split_ifs
    · exact tlvHeaderAt_eq (by omega)
    · rfl
  · rw [if_neg hp, if_neg (fun h => hp h.1)]

theorem paceParameterIdAt_eq (p : ℕ) :
    paceParameterIdAt data info p =
      match info.parameterId data p with
      | none => some (-1, none)
      | some extent => (bytesAt data (info.pos + extent.start) extent.length).map fun bytes =>
          (gintOf bytes, some extent) := by
  rw [paceParameterIdAt, elementHeaderAt_eq hfile, SecurityInfo.parameterId]
  simp only [Option.bind_eq_bind, Option.bind_some]
  rw [elementHeaderAt_eq hfile, Option.bind_some]
  generalize elementAt (data.drop info.pos) info.len _ 0x02 = header
  rcases header with - | ⟨ih, ic⟩
  · rfl
  · simp only
    split_ifs
    · simp only
      cases bytesAt data _ ic <;> rfl
    · rfl

/-- The entry read from an element, by what its headers say. -/
theorem cardAccessEntryAt_eq :
    cardAccessEntryAt data info =
      match info.oid data with
      | none => some none
      | some oid =>
        if data.length < info.pos + (oid.start + idPacePrefix.length) then none
        else if ¬ info.StartsPace data oid then some none
        else (bytesAt data (info.pos + oid.start) oid.length).bind fun bytes =>
          (paceParameterIdAt data info (oid.start + oid.length)).map fun r =>
            some ⟨info, ⟨bytes, r.1⟩, oid, r.2⟩ := by
  rw [cardAccessEntryAt, elementHeaderAt_eq hfile, SecurityInfo.oid]
  simp only [Option.bind_eq_bind, Option.bind_some]
  rcases elementAt (data.drop info.pos) info.len info.header 0x06 with - | ⟨oidHdr, n⟩
  · rfl
  · by_cases hn : 0 < n ∧ n ≤ 16 ∧ idPacePrefix.length ≤ n
    · simp only [if_pos hn]
      split_ifs with hlt hstart
      · rw [bytesAt_eq_none (by decide) (by omega)]
        rfl
      · rw [bytesAt_eq_some (by omega), Option.bind_some, if_neg (fun h => h hstart)]
        cases bytesAt data _ n with
        | none => rfl
        | some bytes => cases paceParameterIdAt data info _ <;> rfl
      · rw [bytesAt_eq_some (by omega), Option.bind_some]
        exact if_pos hstart
    · simp only [if_neg hn]

/-- **One element.** It is read inside the file, and an entry taken from it inside the
element, exactly when the unchecked lengths fit. -/
theorem cardAccessEntryAt_inside_iff :
    (∃ r, cardAccessEntryAt data info = some r ∧ ∀ e ∈ r, e.Inside) ↔ info.Fits data := by
  rw [cardAccessEntryAt_eq hfile, SecurityInfo.Fits]
  cases info.oid data with
  | none => simp
  | some oid =>
    simp only [Option.mem_def, Option.some.injEq, forall_eq']
    split_ifs with hlt hstart
    · simp [Nat.not_le.mpr hlt]
    · -- a PACE protocol: the OID and the parameterId are read too
      simp only [hstart, Nat.not_lt.mp hlt, true_and, forall_const]
      constructor
      · rintro ⟨r, hr, hinside⟩
        obtain ⟨bytes, -, hr⟩ := Option.bind_eq_some_iff.mp hr
        obtain ⟨⟨parameterId, extent⟩, hparam, rfl⟩ := Option.map_eq_some_iff.mp hr
        obtain ⟨hoid, hextent⟩ := hinside _ rfl
        refine ⟨hoid, fun extent' hextent' => hextent extent' ?_⟩
        rw [paceParameterIdAt_eq hfile, Option.mem_def.mp hextent'] at hparam
        obtain ⟨bytes, -, hpair⟩ := Option.map_eq_some_iff.mp hparam
        exact (Prod.mk.inj hpair).2.symm
      · rintro ⟨hoid, hextent⟩
        -- what lies in the element lies in the file
        have hread : ∀ extent : Extent, extent.Within info.content →
            info.pos + extent.start + extent.length ≤ data.length := by
          rintro extent ⟨-, hle⟩
          have : info.content.start + info.content.length = info.len := rfl
          omega
        rw [bytesAt_eq_some (hread oid hoid), Option.bind_some, paceParameterIdAt_eq hfile]
        cases hparam : info.parameterId data (oid.start + oid.length) with
        | none => exact ⟨_, rfl, fun e he => by cases he; exact ⟨hoid, by simp⟩⟩
        | some extent =>
          have hin := hextent extent hparam
          simp only
          rw [bytesAt_eq_some (hread extent hin)]
          refine ⟨_, rfl, fun e he => ?_⟩
          cases he
          exact ⟨hoid, fun extent' h => by cases h; exact hin⟩
    · simp [hstart, Nat.not_lt.mp hlt]

theorem isSome_cardAccessEntryAt {r : Option CardAccessEntry}
    (h : cardAccessEntryAt data info = some r) : r.isSome ↔ info.NamesPace data := by
  rw [cardAccessEntryAt_eq hfile] at h
  rw [SecurityInfo.NamesPace]
  cases hoid : info.oid data with
  | none =>
    simp only [hoid, Option.some.injEq] at h
    simp [← h]
  | some oid =>
    simp only [hoid] at h
    split_ifs at h with hlt hstart
    · obtain ⟨bytes, -, h⟩ := Option.bind_eq_some_iff.mp h
      obtain ⟨q, -, rfl⟩ := Option.map_eq_some_iff.mp h
      simp [hstart]
    · simp only [Option.some.injEq] at h
      simp [← h, hstart]

theorem paceParameterIdAt_fst (p : ℕ) :
    (paceParameterIdAt data info p).map (·.1)
      = paceParameterId (data.drop info.pos) info.len p := by
  rw [paceParameterIdAt, elementHeaderAt_eq hfile, paceParameterId]
  simp only [Option.bind_eq_bind, Option.bind_some, elementHeaderAt_eq hfile]
  -- both look at the INTEGER behind the version, if there is one
  have hinteger : ∀ p' : ℕ,
      Option.map Prod.fst (match elementAt (data.drop info.pos) info.len p' 0x02 with
        | some (ih, ic) =>
          if 1 ≤ ic ∧ ic ≤ 4 then (bytesAt data (info.pos + (p' + ih)) ic).bind fun bytes =>
            some (gintOf bytes, some (⟨p' + ih, ic⟩ : Extent))
          else some (-1, none)
        | none => some (-1, none))
      = match elementAt (data.drop info.pos) info.len p' 0x02 with
        | some (ih, ic) =>
          if 1 ≤ ic ∧ ic ≤ 4 then (readBytes (data.drop info.pos) (p' + ih) ic).map gintOf
          else some (-1)
        | none => some (-1) := by
    intro p'
    rcases elementAt (data.drop info.pos) info.len p' 0x02 with - | ⟨ih, ic⟩
    · rfl
    · simp only
      split_ifs with hic
      · rw [bytesAt_drop _ _ _ hic.1]
        cases readBytes (data.drop info.pos) (p' + ih) ic <;> simp
      · rfl
  cases elementAt (data.drop info.pos) info.len p 0x02 with
  | none => exact hinteger p
  | some header => exact hinteger (p + header.1 + header.2)

/-- Without its places, the entry is the one of `paceInfoEntry`. -/
theorem cardAccessEntryAt_entry :
    (cardAccessEntryAt data info).map (Option.map (·.entry))
      = paceInfoEntry (data.drop info.pos) info.header info.len := by
  rw [cardAccessEntryAt, elementHeaderAt_eq hfile, paceInfoEntry]
  simp only [Option.bind_eq_bind, Option.bind_some]
  rcases elementAt (data.drop info.pos) info.len info.header 0x06 with - | ⟨oidHdr, n⟩
  · rfl
  · simp only
    split_ifs with hn
    · rw [bytesAt_drop _ _ _ (by decide), bytesAt_drop _ _ _ hn.1]
      cases readBytes (data.drop info.pos) (info.header + oidHdr) idPacePrefix.length with
      | none => rfl
      | some start =>
        simp only [Option.bind_some]
        split_ifs
        · rfl
        · cases readBytes (data.drop info.pos) (info.header + oidHdr) n with
          | none => rfl
          | some oid =>
            simp only [Option.bind_some, ← paceParameterIdAt_fst hfile]
            cases paceParameterIdAt data info (info.header + oidHdr + n) <;> rfl
    · rfl

end OneInfo

/-! ## The walk over the SET -/

/-- The SEQUENCE at offset `pos`, if a whole one starts there before `stop`. -/
def nextInfo (data : Bytes) (stop pos : ℕ) : Option SecurityInfo :=
  if pos < stop ∧ data[pos]? = some 0x30 then
    match bacBerTlvHeader ((data.drop pos).take (stop - pos)) with
    | some (h, c) => if pos + (h + c) ≤ stop then some ⟨pos, h, c⟩ else none
    | none => none
  else none

/-- The SEQUENCEs from `pos` on, up to the first that is not whole. -/
def securityInfos (data : Bytes) (stop : ℕ) : ℕ → ℕ → List SecurityInfo
  | 0, _ => []
  | fuel + 1, pos =>
    match nextInfo data stop pos with
    | none => []
    | some info => info :: securityInfos data stop fuel (pos + info.len)

/-- The elements of the file's SET. -/
def setInfos (data : Bytes) : List SecurityInfo :=
  if data[0]? = some 0x31 then
    match bacBerTlvHeader data with
    | some (h, c) => if h + c ≤ data.length then securityInfos data (h + c) c h else []
    | none => []
  else []

/-- The elements the loop looks at before it has `maxEntries` entries. -/
def reachedInfos (data : Bytes) : ℕ → List SecurityInfo → List SecurityInfo
  | maxEntries + 1, info :: infos =>
    info :: reachedInfos data (if info.NamesPace data then maxEntries else maxEntries + 1) infos
  | _, _ => []

theorem nextInfo_eq_some {data : Bytes} {stop pos : ℕ} {info : SecurityInfo}
    (h : nextInfo data stop pos = some info) :
    info.pos = pos ∧ pos + info.len ≤ stop ∧ 2 ≤ info.len := by
  unfold nextInfo at h
  split_ifs at h
  split at h
  · next hl c hd =>
    split_ifs at h with hle
    simp only [Option.some.injEq] at h
    subst h
    exact ⟨rfl, hle, (bacBerTlvHeader_bounds hd).1.trans (Nat.le_add_right _ _)⟩
  · simp at h

/-- One turn of the loop. -/
theorem cardAccessLoop_succ {data : Bytes} {stop : ℕ} (hstop : stop ≤ data.length)
    (fuel pos maxEntries : ℕ) :
    cardAccessLoop data stop (fuel + 1) pos (maxEntries + 1) =
      match nextInfo data stop pos with
      | none => some []
      | some info => (cardAccessEntryAt data info).bind fun r =>
          match r with
          | none => cardAccessLoop data stop fuel (pos + info.len) (maxEntries + 1)
          | some entry =>
            (cardAccessLoop data stop fuel (pos + info.len) maxEntries).map (entry :: ·) := by
  rw [cardAccessLoop, nextInfo]
  by_cases hpos : pos < stop
  · have hlt : pos < data.length := by omega
    rw [if_pos hpos, List.getElem?_eq_getElem hlt]
    simp only [Option.bind_eq_bind, Option.bind_some, Option.some.injEq, hpos, true_and]
    by_cases htag : data[pos] = 0x30
    · rw [if_neg (fun h => h htag), if_pos htag, tlvHeaderAt_eq (by omega), Option.bind_some]
      rcases bacBerTlvHeader ((data.drop pos).take (stop - pos)) with - | ⟨h, c⟩
      · rfl
      · simp only
        by_cases hle : pos + (h + c) ≤ stop
        · rw [if_neg (by omega), if_pos hle]
          simp only [SecurityInfo.len]
          congr 1
          funext r
          cases r with
          | none => rfl
          | some entry => cases cardAccessLoop data stop fuel _ maxEntries <;> rfl
        · rw [if_pos (by omega), if_neg hle]
    · rw [if_pos htag, if_neg htag]
  · rw [if_neg hpos, if_neg (fun h => hpos h.1)]

/-- The loop ends by itself: more fuel than bytes changes nothing. -/
theorem cardAccessLoop_fuel {data : Bytes} {stop : ℕ} (hstop : stop ≤ data.length)
    (fuel pos maxEntries : ℕ) (h : stop ≤ pos + fuel) :
    cardAccessLoop data stop (fuel + 1) pos maxEntries
      = cardAccessLoop data stop fuel pos maxEntries := by
  induction fuel generalizing pos maxEntries with
  | zero =>
    cases maxEntries with
    | zero => rfl
    | succ maxEntries => rw [cardAccessLoop, if_neg (by omega), cardAccessLoop]; simp
  | succ fuel ih =>
    cases maxEntries with
    | zero => rfl
    | succ maxEntries =>
      rw [cardAccessLoop_succ hstop, cardAccessLoop_succ hstop]
      cases hnext : nextInfo data stop pos with
      | none => rfl
      | some info =>
        obtain ⟨-, hle, hlen⟩ := nextInfo_eq_some hnext
        simp only [ih (pos + info.len) maxEntries (by omega),
          ih (pos + info.len) (maxEntries + 1) (by omega)]

/-- **The loop.** All its reads are in the file and all its entries inside their elements
exactly when every element it looks at fits. -/
theorem cardAccessLoop_inside_iff {data : Bytes} {stop : ℕ} (hstop : stop ≤ data.length)
    (fuel pos maxEntries : ℕ) :
    (∃ entries, cardAccessLoop data stop fuel pos maxEntries = some entries ∧
        ∀ e ∈ entries, e.Inside) ↔
      ∀ info ∈ reachedInfos data maxEntries (securityInfos data stop fuel pos), info.Fits data := by
  induction fuel generalizing pos maxEntries with
  | zero => cases maxEntries <;> simp [cardAccessLoop, securityInfos, reachedInfos]
  | succ fuel ih =>
    cases maxEntries with
    | zero => simp [cardAccessLoop, reachedInfos]
    | succ maxEntries =>
      rw [cardAccessLoop_succ hstop, securityInfos]
      cases hnext : nextInfo data stop pos with
      | none => simp [reachedInfos]
      | some info =>
        obtain ⟨hpos, hle, -⟩ := nextInfo_eq_some hnext
        have hfile : info.pos + info.len ≤ data.length := by omega
        simp only [reachedInfos, List.forall_mem_cons]
        rw [← cardAccessEntryAt_inside_iff hfile, ← ih]
        cases hr : cardAccessEntryAt data info with
        | none => simp
        | some r =>
          -- only an element that names a PACE protocol counts towards `max_entries`
          have hnames := isSome_cardAccessEntryAt hfile hr
          cases r with
          | none =>
            have hno : ¬ info.NamesPace data := fun h => by simpa using hnames.mpr h
            simp [hno]
          | some entry =>
            have hyes : info.NamesPace data := hnames.mp rfl
            simp only [Option.bind_some, hyes, if_true]
            constructor
            · rintro ⟨entries, hentries, hall⟩
              obtain ⟨rest, hrest, rfl⟩ := Option.map_eq_some_iff.mp hentries
              rw [List.forall_mem_cons] at hall
              exact ⟨⟨some entry, rfl, fun e he => by cases he; exact hall.1⟩, rest, hrest, hall.2⟩
            · rintro ⟨⟨r, hr', hentry⟩, rest, hrest, hall⟩
              cases hr'
              rw [hrest]
              exact ⟨entry :: rest, rfl, List.forall_mem_cons.mpr ⟨hentry entry rfl, hall⟩⟩

/-- Without the places, the loop is that of `pace_parse_card_access`. -/
theorem cardAccessLoop_entries {data : Bytes} {stop : ℕ} (hstop : stop ≤ data.length)
    (fuel pos maxEntries : ℕ) :
    (cardAccessLoop data stop fuel pos maxEntries).map (List.map (·.entry))
      = paceParseLoop fuel (data.drop pos) (stop - pos) maxEntries := by
  induction fuel generalizing pos maxEntries with
  | zero => cases maxEntries <;> rfl
  | succ fuel ih =>
    cases maxEntries with
    | zero => rfl
    | succ maxEntries =>
      rw [cardAccessLoop_succ hstop, paceParseLoop, nextInfo, List.getElem?_drop]
      by_cases hpos : pos < stop ∧ data[pos]? = some 0x30
      · rw [if_pos hpos, if_neg (by rw [Nat.add_zero, hpos.2]; simp; omega)]
        cases hd : bacBerTlvHeader ((data.drop pos).take (stop - pos)) with
        | none => rfl
        | some header =>
          obtain ⟨h, c⟩ := header
          simp only
          by_cases hle : pos + (h + c) ≤ stop
          · rw [if_pos hle, if_neg (by omega)]
            have hinfo : (⟨pos, h, c⟩ : SecurityInfo).pos + (⟨pos, h, c⟩ : SecurityInfo).len
                ≤ data.length := hle.trans hstop
            have hentry := cardAccessEntryAt_entry hinfo
            simp only [SecurityInfo.len] at hentry
            simp only [List.drop_drop, ← Nat.sub_add_eq, ← hentry, ← ih, SecurityInfo.len]
            cases cardAccessEntryAt data ⟨pos, h, c⟩ with
            | none => rfl
            | some r =>
              cases r with
              | none => rfl
              | some entry => cases cardAccessLoop data stop fuel (pos + (h + c)) maxEntries <;> rfl
          · rw [if_neg hle, if_pos (by omega)]
            rfl
      · rw [if_neg hpos, if_pos (by
          rw [not_and_or] at hpos
          rw [Nat.add_zero]
          exact hpos.imp (by omega) id)]
        rfl

/-- The parser with places is `pace_parse_card_access`. -/
theorem cardAccessEntries_entries (data : Bytes) (maxEntries : ℕ) :
    (cardAccessEntries data maxEntries).map (List.map (·.entry))
      = paceParseCardAccess data maxEntries := by
  rw [cardAccessEntries, paceParseCardAccess]
  by_cases hlen : data.length < 2
  · rw [if_pos hlen, if_pos (.inl hlen)]
    rfl
  · have h0 : 0 < data.length := by omega
    rw [if_neg hlen, List.getElem?_eq_getElem h0]
    simp only [Option.bind_eq_bind, Option.bind_some]
    by_cases htag : data[0] = 0x31
    · rw [if_neg (fun h => h htag), if_neg (by simp [hlen, htag]), tlvHeaderAt_eq (by omega),
        List.drop_zero, List.take_length, Option.bind_some]
      rcases bacBerTlvHeader data with - | ⟨h, c⟩
      · rfl
      · simp only
        split_ifs with hlt
        · rfl
        · rw [cardAccessLoop_entries (by omega), Nat.add_sub_cancel_left]
    · rw [if_pos htag, if_pos (.inr (by simpa using htag))]
      rfl

/-- **Where EF.CardAccess parsing stays inside.** For every file and every `max_entries`,
all reads of the parser are in the file, and the OID and parameterId of every entry in the
content of its SEQUENCE, exactly when the unchecked lengths of every SEQUENCE it looks at
fit. -/
theorem card_access_inside_iff (data : Bytes) (maxEntries : ℕ) :
    (∃ entries, cardAccessEntries data maxEntries = some entries ∧
        paceParseCardAccess data maxEntries = some (entries.map (·.entry)) ∧
        ∀ e ∈ entries, e.Inside) ↔
      ∀ info ∈ reachedInfos data maxEntries (setInfos data), info.Fits data := by
  have hsame : (∃ entries, cardAccessEntries data maxEntries = some entries ∧
        paceParseCardAccess data maxEntries = some (entries.map (·.entry)) ∧
        ∀ e ∈ entries, e.Inside) ↔
      ∃ entries, cardAccessEntries data maxEntries = some entries ∧ ∀ e ∈ entries, e.Inside := by
    refine exists_congr fun entries => and_congr_right fun hentries => and_iff_right ?_
    rw [← cardAccessEntries_entries, hentries]
    rfl
  have hnil : ∀ entries : Option (List CardAccessEntry), entries = some [] →
      ((∃ l, entries = some l ∧ ∀ e ∈ l, e.Inside) ↔
        ∀ info ∈ reachedInfos data maxEntries [], info.Fits data) := by
    rintro _ rfl
    cases maxEntries <;> simp [reachedInfos]
  rw [hsame, cardAccessEntries, setInfos]
  by_cases hlen : data.length < 2
  · have hshort : bacBerTlvHeader data = none := by rw [bacBerTlvHeader, if_pos hlen]
    rw [if_pos hlen, hshort]
    split_ifs <;> exact hnil _ rfl
  · have h0 : 0 < data.length := by omega
    rw [if_neg hlen, List.getElem?_eq_getElem h0]
    simp only [Option.bind_eq_bind, Option.bind_some, Option.some.injEq]
    by_cases htag : data[0] = 0x31
    · rw [if_neg (fun h => h htag), if_pos htag, tlvHeaderAt_eq (by omega), List.drop_zero,
        List.take_length, Option.bind_some]
      rcases bacBerTlvHeader data with - | ⟨h, c⟩
      · exact hnil _ rfl
      · simp only
        by_cases hle : h + c ≤ data.length
        · rw [if_neg (by omega), if_pos hle]
          exact cardAccessLoop_inside_iff hle c h maxEntries
        · rw [if_pos (by omega), if_neg hle]
          exact hnil _ rfl
    · rw [if_pos htag, if_neg htag]
      exact hnil _ rfl

/-- A PACEInfo whose OID claims ten bytes, of which the file holds eight. -/
def overrunCardAccess : Bytes :=
  [0x31, 0x0C, 0x30, 0x0A, 0x06, 0x0A, 0x04, 0x00, 0x7F, 0x00, 0x07, 0x02, 0x02, 0x04]

/-- `memcpy` reads the last two from behind the file. -/
theorem overrunCardAccess_reads_outside :
    ¬ ∃ entries, cardAccessEntries overrunCardAccess 8 = some entries ∧
        ∀ e ∈ entries, e.Inside := by
  have hfault : cardAccessEntries overrunCardAccess 8 = none := by decide
  rintro ⟨entries, hentries, -⟩
  rw [hfault] at hentries
  cases hentries

/-- The same OID cut off by its SEQUENCE, with another element behind it. -/
example : ∃ e, cardAccessEntries
      [0x31, 0x0E, 0x30, 0x0A, 0x06, 0x0A, 0x04, 0x00, 0x7F, 0x00, 0x07, 0x02, 0x02, 0x04,
        0x02, 0x02] 8 = some [e] ∧ paceOidSupported e.entry.oid ∧ ¬ e.Inside := by
  refine ⟨_, rfl, by decide, ?_⟩
  rintro ⟨h, -⟩
  revert h
  decide

end NfcAdapter
