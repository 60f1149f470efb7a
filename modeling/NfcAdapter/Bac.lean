/-
# Basic Access Control (`bac.c`)

Static keys from the MRZ, the MUTUAL AUTHENTICATE handshake with the session it opens,
and what is taken out of the data groups once they are read: the MRZ of DG1 and the
photo of DG2.
-/
import NfcAdapter.Mrz
import NfcAdapter.SecureMessaging

namespace NfcAdapter

open ByteCounter

/-! ## Keys -/

/-- `BacStaticKeys`. -/
structure BacStaticKeys where
  kenc : FixedBytes 16
  kmac : FixedBytes 16
  deriving DecidableEq

/-- `BacChallenge`. -/
structure BacChallenge where
  rndIfd : FixedBytes 8
  kIfd : FixedBytes 16
  deriving DecidableEq

/-- How many of the eight bits of a byte are set. -/
def onesOf (v : UInt8) : ℕ := ((List.range 8).filter fun b => v.toNat.testBit b).length

/-- `set_key_parity`, on one byte: the lowest bit makes the number of ones odd. -/
def setKeyParity (key : UInt8) : UInt8 :=
  (key &&& 0xFE) ||| (if onesOf (key &&& 0xFE) % 2 = 1 then 0 else 1)

/-- `kdf`: sixteen bytes of `SHA-1(Kseed || c)` with DES parity. -/
def bacKdf (ssl : OpenSsl) (kseed : FixedBytes 16) (c : ℕ) : FixedBytes 16 :=
  .copy 16 (((ssl.sha1 (kseed.1 ++ beBytes 4 c)).1.take 16).map setKeyParity)

/-- `bac_derive_static_keys`. -/
def bacDeriveStaticKeys (ssl : OpenSsl) (documentNumber dateOfBirth dateOfExpiry : Option Bytes) :
    Option BacStaticKeys :=
  (bacMrzSha1 ssl documentNumber dateOfBirth dateOfExpiry).map fun digest =>
    let kseed := FixedBytes.copy 16 (digest.1.take 16)
    ⟨bacKdf ssl kseed 1, bacKdf ssl kseed 2⟩

/-! ## The handshake -/

/-- The eMRTD application identifier. -/
def emrtdAid : Bytes := [0xA0, 0x00, 0x00, 0x02, 0x47, 0x10, 0x01]

/-- `bac_build_select_aid`. -/
def bacBuildSelectAid : Bytes := [0x00, 0xA4, 0x04, 0x0C, emrtdAid.length.toUInt8] ++ emrtdAid

/-- `bac_build_get_challenge`. -/
def bacBuildGetChallenge : Bytes := [0x00, 0x84, 0x00, 0x00, 0x08]

/-- `bac_build_mutual_authenticate`.  `random` is what RAND_bytes delivers for RND.IFD and
K.IFD, `none` when it fails. -/
def bacBuildMutualAuthenticate (ssl : OpenSsl) (keys : BacStaticKeys) (rndIcc : FixedBytes 8)
    (random : Option BacChallenge) : Option (BacChallenge × Bytes) := do
  let challenge ← random
  let s := challenge.rndIfd.1 ++ rndIcc.1 ++ challenge.kIfd.1
  let eifd ← des3Cbc ssl true keys.kenc.1 (zeroIv 8) s
  let mifd ← retailMac ssl keys.kmac.1 eifd
  return (challenge, [0x00, 0x82, 0x00, 0x00, 0x28] ++ eifd ++ mifd ++ [0x28])

/-- `bac_process_mutual_authenticate_response`: the session, `none` where it returns
FALSE. -/
def bacProcessMutualAuthenticateResponse (ssl : OpenSsl) (keys : BacStaticKeys)
    (challenge : BacChallenge) (rndIcc : FixedBytes 8) (response : Bytes) : Option BacSession :=
  if response.length ≠ 40 then none
  else do
    let eicc := response.take 32
    let micExpect ← retailMac ssl keys.kmac.1 eicc
    if bytesEqual micExpect (response.drop 32) 8 = false then none
    else
      let r ← des3Cbc ssl false keys.kenc.1 (zeroIv 8) eicc
      -- both randoms must be the ones this handshake is about
      if bytesEqual r rndIcc.1 8 = false then none
      else if bytesEqual (r.drop 8) challenge.rndIfd.1 8 = false then none
      else
        let kseed := FixedBytes.copy 16 (List.zipWith (· ^^^ ·) challenge.kIfd.1 (r.drop 16))
        return { ksEnc := bacKdf ssl kseed 1
                 ksMac := bacKdf ssl kseed 2
                 ssc := .copy 8 (rndIcc.1.drop 4 ++ challenge.rndIfd.1.drop 4) }

/-! ## EF.DG1 -/

/-- `g_strndup` of the first `n` bytes: it stops at a zero byte. -/
def strndup (bs : Bytes) (n : ℕ) : Bytes := (bs.take n).takeWhile (· != 0)

/-- `bac_parse_dg1_mrz`. -/
def bacParseDg1Mrz (dg1 : Bytes) : Option Bytes :=
  if dg1.length < 2 ∨ dg1[0]? ≠ some 0x61 then none
  else do
    let (outerHeader, outerContent) ← bacBerTlvHeader dg1
    if outerHeader + outerContent > dg1.length then none
    else if dg1[outerHeader]? ≠ some 0x5F ∨ dg1[outerHeader + 1]? ≠ some 0x1F then none
    else
      let (innerHeader, innerContent) ← berLength (dg1.drop (outerHeader + 2))
      let pos := outerHeader + 2 + innerHeader
      if pos + innerContent > dg1.length then none
      else return strndup (dg1.drop pos) innerContent

/-! ## EF.DG2 -/

/-- The image formats a photo is reported in. -/
inductive PhotoFormat where
  | jpeg
  | jpeg2000
  | bmp
  deriving DecidableEq, Repr

/-- The `photo_format` string. -/
def PhotoFormat.text : PhotoFormat → String
  | .jpeg => "jpeg"
  | .jpeg2000 => "jpeg2000"
  | .bmp => "bmp"

/-- `jpeg_magic`. -/
def jpegMagic : Bytes := [0xFF, 0xD8, 0xFF]

/-- `jp2_magic`. -/
def jp2Magic : Bytes :=
  [0x00, 0x00, 0x00, 0x0C, 0x6A, 0x50, 0x20, 0x20, 0x0D, 0x0A, 0x87, 0x0A]

/-- `jp2_codestream_magic`. -/
def jp2CodestreamMagic : Bytes := [0xFF, 0x4F, 0xFF, 0x51]

/-- `find_bytes`: the first position of a non-empty needle. -/
def findBytes (needle : Bytes) : Bytes → Option ℕ
  | [] => none
  | b :: rest =>
    if needle = [] then none
    else if needle.isPrefixOf (b :: rest) then some 0
    else (findBytes needle rest).map (· + 1)

/-- The array `bac_extract_dg2_photo` returns: from `pos` on, with the length cast to a
guint. -/
def dg2PhotoBytes (dg2 : Bytes) (pos : ℕ) : Bytes :=
  (dg2.drop pos).take ((dg2.length - pos) % 2 ^ 32)

/-- `bac_extract_dg2_photo`: the three searches, one after the other. -/
def bacExtractDg2Photo (dg2 : Bytes) : Option (Bytes × PhotoFormat) :=
  match findBytes jpegMagic dg2 with
  | some pos => some (dg2PhotoBytes dg2 pos, .jpeg)
  | none =>
    match findBytes jp2Magic dg2 with
    | some pos => some (dg2PhotoBytes dg2 pos, .jpeg2000)
    | none =>
      (findBytes jp2CodestreamMagic dg2).map fun pos => (dg2PhotoBytes dg2 pos, .jpeg2000)

@[simp] theorem bacExtractDg2Photo_nil : bacExtractDg2Photo [] = none := rfl

end NfcAdapter
