/-
# EF.CardAccess and the PACE variants (`pace.c`)

The file is a DER SET OF SecurityInfo the chip serves in the clear.  The parser below
reads through a pointer into it: reads within the file are `some`, a read behind its last
byte is `none`, since the program then reads memory that is not the file's.
-/
import NfcAdapter.ByteCounter
import NfcAdapter.BerTlv

namespace NfcAdapter

open ByteCounter

/-! ## Protocols and curves -/

/-- `pace_oid_aes128`: id-PACE-ECDH-GM-AES-CBC-CMAC-128. -/
def paceOidAes128 : Bytes := [0x04, 0x00, 0x7F, 0x00, 0x07, 0x02, 0x02, 0x04, 0x02, 0x02]

/-- `pace_oid_aes256`: id-PACE-ECDH-GM-AES-CBC-CMAC-256. -/
def paceOidAes256 : Bytes := [0x04, 0x00, 0x7F, 0x00, 0x07, 0x02, 0x02, 0x04, 0x02, 0x04]

/-- `id_pace_prefix`: every PACE protocol starts with it. -/
def idPacePrefix : Bytes := [0x04, 0x00, 0x7F, 0x00, 0x07, 0x02, 0x02, 0x04]

/-- `pace_key_len_for_oid`: 0 for a protocol that is not implemented. -/
def paceKeyLenForOid (oid : Bytes) : ℕ :=
  if oid = paceOidAes128 then 16 else if oid = paceOidAes256 then 32 else 0

/-- `pace_oid_supported`. -/
def paceOidSupported (oid : Bytes) : Bool := paceKeyLenForOid oid != 0

/-- The supported protocols. -/
theorem paceOidSupported_cases {oid : Bytes} (h : paceOidSupported oid = true) :
    oid = paceOidAes128 ∨ oid = paceOidAes256 := by
  by_contra hne
  rw [not_or] at hne
  simp [paceOidSupported, paceKeyLenForOid, hne.1, hne.2] at h

/-- The curves the adapter asks OpenSSL for, by their `NID`. -/
inductive Curve where
  | prime256v1
  | brainpoolP256r1
  | brainpoolP320r1
  deriving DecidableEq, Repr

/-- `pace_ec_curve_for_parameter_id`, with `none` for its 0. -/
def paceEcCurveForParameterId (parameterId : ℤ) : Option Curve :=
  if parameterId = 12 then some .prime256v1
  else if parameterId = 13 then some .brainpoolP256r1
  else if parameterId = 14 then some .brainpoolP320r1
  else none

/-! ## The parser -/

/-- `PaceInfoEntry`. -/
structure PaceInfoEntry where
  oid : Bytes
  parameterId : ℤ
  deriving DecidableEq, Repr

/-- A read of `n` bytes at offset `i` from a pointer behind which `bytes` are left of the
file. -/
def readBytes (bytes : Bytes) (i n : ℕ) : Option Bytes :=
  if i + n ≤ bytes.length then some ((bytes.drop i).take n) else none

/-- The header of the element at offset `p` of a SEQUENCE of `seqLen` bytes, if one of the
given tag starts there. -/
def elementAt (seq : Bytes) (seqLen p : ℕ) (tag : UInt8) : Option (ℕ × ℕ) :=
  if p < seqLen ∧ seq[p]? = some tag then bacBerTlvHeader ((seq.take seqLen).drop p) else none

/-- The big-endian INTEGER of at most four bytes, as it accumulates in a `gint`. -/
def gintOf (bytes : Bytes) : ℤ := Int.bmod (beValue bytes) (2 ^ 32)

/-- The parameterId behind the OID, −1 when there is none; `p` is the offset behind the
OID. -/
def paceParameterId (seq : Bytes) (seqLen p : ℕ) : Option ℤ :=
  let p := match elementAt seq seqLen p 0x02 with
    | some (vh, vc) => p + vh + vc
    | none => p
  match elementAt seq seqLen p 0x02 with
  | some (ih, ic) =>
    if 1 ≤ ic ∧ ic ≤ 4 then (readBytes seq (p + ih) ic).map gintOf else some (-1)
  | none => some (-1)

/-- The entry of one SecurityInfo, if it is a PACEInfo.  `seq` is the file from the
SEQUENCE on, `seqHeader` and `seqLen` its header and total length. -/
def paceInfoEntry (seq : Bytes) (seqHeader seqLen : ℕ) : Option (Option PaceInfoEntry) :=
  match elementAt seq seqLen seqHeader 0x06 with
  | none => some none
  | some (oidHdr, oidContent) =>
    if 0 < oidContent ∧ oidContent ≤ 16 ∧ idPacePrefix.length ≤ oidContent then do
      -- memcmp and memcpy both start behind the OID's header, wherever that is
      let start ← readBytes seq (seqHeader + oidHdr) idPacePrefix.length
      if start ≠ idPacePrefix then some none
      else
        let oid ← readBytes seq (seqHeader + oidHdr) oidContent
        let parameterId ← paceParameterId seq seqLen (seqHeader + oidHdr + oidContent)
        some (some ⟨oid, parameterId⟩)
    else some none

/-- The loop of `pace_parse_card_access`.  `avail` bytes are left of the SET's content,
`maxEntries` entries may still be stored; every SEQUENCE takes at least two bytes, so
`avail` is enough fuel. -/
def paceParseLoop : ℕ → Bytes → ℕ → ℕ → Option (List PaceInfoEntry)
  | fuel + 1, seq, avail, maxEntries + 1 =>
    if avail = 0 ∨ seq[0]? ≠ some 0x30 then some []
    else
      match bacBerTlvHeader (seq.take avail) with
      | none => some []
      | some (h, c) =>
        if h + c > avail then some []
        else do
          match ← paceInfoEntry seq h (h + c) with
          | none => paceParseLoop fuel (seq.drop (h + c)) (avail - (h + c)) (maxEntries + 1)
          | some entry =>
            let rest ← paceParseLoop fuel (seq.drop (h + c)) (avail - (h + c)) maxEntries
            some (entry :: rest)
  | _, _, _, _ => some []

/-- `pace_parse_card_access`. -/
def paceParseCardAccess (data : Bytes) (maxEntries : ℕ) : Option (List PaceInfoEntry) :=
  if data.length < 2 ∨ data[0]? ≠ some 0x31 then some []
  else
    match bacBerTlvHeader data with
    | none => some []
    | some (h, c) =>
      if h + c > data.length then some []
      else paceParseLoop c (data.drop h) c maxEntries

/-- More fuel than bytes changes nothing. -/
theorem paceParseLoop_fuel (fuel : ℕ) (seq : Bytes) (avail maxEntries : ℕ) (h : avail ≤ fuel) :
    paceParseLoop (fuel + 1) seq avail maxEntries = paceParseLoop fuel seq avail maxEntries := by
  induction fuel generalizing seq avail maxEntries with
  | zero =>
    rw [Nat.le_zero.mp h]
    cases maxEntries with
    | zero => rfl
    | succ maxEntries => simp [paceParseLoop]
  | succ fuel ih =>
    cases maxEntries with
    | zero => rfl
    | succ maxEntries =>
      rw [paceParseLoop, paceParseLoop]
      split
      · rfl
      · cases hd : bacBerTlvHeader (seq.take avail) with
        | none => rfl
        | some r =>
          obtain ⟨hl, c⟩ := r
          have hb := bacBerTlvHeader_bounds hd
          simp only
          split
          · rfl
          · rw [ih _ _ (maxEntries + 1) (by omega)]
            congr 1
            funext entry
            cases entry with
            | none => rfl
            | some entry => rw [ih _ _ maxEntries (by omega)]

/-- The stored OIDs fit their array. -/
theorem paceInfoEntry_oid_length {seq : Bytes} {seqHeader seqLen : ℕ} {entry : PaceInfoEntry}
    (h : paceInfoEntry seq seqHeader seqLen = some (some entry)) : entry.oid.length ≤ 16 := by
  unfold paceInfoEntry at h
  split at h
  · simp at h
  · next oidHdr oidContent _ =>
    split_ifs at h with hlen
    · simp only [Option.bind_eq_bind, Option.bind_eq_some_iff] at h
      obtain ⟨start, -, h⟩ := h
      split_ifs at h
      · simp at h
      · simp only [Option.bind_eq_some_iff, Option.some.injEq] at h
        obtain ⟨oid, hoid, -, -, rfl⟩ := h
        unfold readBytes at hoid
        split_ifs at hoid
        simp only [Option.some.injEq] at hoid
        have htake := List.length_take_le oidContent (seq.drop (seqHeader + oidHdr))
        rw [hoid] at htake
        exact htake.trans hlen.2.1
    · simp at h

end NfcAdapter
