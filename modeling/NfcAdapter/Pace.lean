/-
# Password Authenticated Connection Establishment (`pace.c`)

Generic mapping over elliptic curves: an encrypted nonce, two ephemeral key
agreements, and the exchange of authentication tokens.  OpenSSL's curve arithmetic is a
record of functions over arbitrary types of groups and points; a call that can fail
there returns an option here.
-/
import NfcAdapter.Bac
import NfcAdapter.CardAccess

namespace NfcAdapter

open ByteCounter

/-! ## The curve interface -/

/-- The part of OpenSSL's EC interface the exchange uses; big numbers are naturals. -/
structure EcApi (G P : Type) where
  groupNewByCurveName : Curve → Option G
  getDegree : G → ℕ
  getOrder : G → ℕ
  getCofactor : G → ℕ
  mulGenerator : G → ℕ → Option P
  mul : G → P → ℕ → Option P
  add : G → P → P → Option P
  getCurve : G → Option (ℕ × ℕ × ℕ)
  groupNewCurveGFp : ℕ × ℕ × ℕ → Option G
  setGenerator : G → P → ℕ → ℕ → Option G
  point2oct : G → P → Option Bytes
  oct2point : G → Bytes → Option P
  getAffineX : G → P → Option ℕ

/-- The interface when every call fails. -/
def EcApi.failing (G P : Type) : EcApi G P where
  groupNewByCurveName := fun _ => none
  getDegree := fun _ => 0
  getOrder := fun _ => 0
  getCofactor := fun _ => 0
  mulGenerator := fun _ _ => none
  mul := fun _ _ _ => none
  add := fun _ _ _ => none
  getCurve := fun _ => none
  groupNewCurveGFp := fun _ => none
  setGenerator := fun _ _ _ _ => none
  point2oct := fun _ _ => none
  oct2point := fun _ _ => none
  getAffineX := fun _ _ => none

/-- `BN_bn2binpad`. -/
def bn2binpad (x len : ℕ) : Option Bytes := if x < 256 ^ len then some (beBytes len x) else none

/-- `random_scalar`; `random` is what BN_rand_range delivers, which is below its bound. -/
def randomScalar (order : ℕ) (random : Option ℕ) : Option ℕ := random.filter fun r => r < order

/-! ## Key derivation -/

/-- `pace_kdf`: SHA-1 for 16-byte keys, SHA-256 for longer ones. -/
def paceKdf (ssl : OpenSsl) (k : Bytes) (c keyLen : ℕ) : FixedBytes 32 :=
  if keyLen = 16 then .copy 32 ((ssl.sha1 (k ++ beBytes 4 c)).1.take 16)
  else .copy 32 ((ssl.sha256 (k ++ beBytes 4 c)).1.take (min keyLen 32))

/-- `pace_derive_k_can`. -/
def paceDeriveKCan (can : Option Bytes) : Option Bytes := can.filter fun digits => digits ≠ []

/-- `pace_derive_k_mrz`. -/
def paceDeriveKMrz (ssl : OpenSsl) (documentNumber dateOfBirth dateOfExpiry : Option Bytes) :
    Option Bytes :=
  (bacMrzSha1 ssl documentNumber dateOfBirth dateOfExpiry).map (·.1)

/-! ## Dynamic authentication data -/

/-- `wrap_7c`. -/
def wrap7c (innerTag : UInt8) (data : Bytes) : Bytes :=
  [0x7C, (data.length + 2).toUInt8, innerTag, data.length.toUInt8] ++ data

/-- The walk of `find_in_7c` over the content of the 7C object. -/
def findInContent : ℕ → Bytes → UInt8 → Option Bytes
  | fuel + 1, t :: l :: rest, tag =>
    if l ≥ 0x80 ∨ rest.length < l.toNat then none
    else if t = tag then some (rest.take l.toNat)
    else findInContent fuel (rest.drop l.toNat) tag
  | _, _, _ => none

/-- `find_in_7c`. -/
def findIn7c (resp : Bytes) (tag : UInt8) : Option Bytes :=
  match resp with
  | outer :: l :: rest =>
    if outer ≠ 0x7C ∨ l ≥ 0x80 then none
    else if rest.length < l.toNat then none
    else findInContent l.toNat (rest.take l.toNat) tag
  | _ => none

/-- `pace_build_mse_set_at`. -/
def paceBuildMseSetAt (oid : Bytes) (useCan : Bool) : Bytes :=
  [0x00, 0x22, 0xC1, 0xA4] ++ [(2 + oid.length + 3).toUInt8] ++ [0x80, oid.length.toUInt8] ++ oid ++
    [0x83, 0x01, if useCan then 0x02 else 0x01]

/-- `build_ga`: a GENERAL AUTHENTICATE with command chaining. -/
def buildGa (innerTag : UInt8) (data : Bytes) : Bytes :=
  [0x10, 0x86, 0x00, 0x00] ++ [(wrap7c innerTag data).length.toUInt8] ++ wrap7c innerTag data ++
    [0x00]

/-- `pace_build_get_nonce`. -/
def paceBuildGetNonce : Bytes := [0x10, 0x86, 0x00, 0x00, 0x02, 0x7C, 0x00, 0x00]

/-! ## The exchange -/

/-- `PaceExchange`; of each buffer, the bytes that have been written. -/
structure PaceExchange (G : Type) where
  oid : Bytes
  keyLen : ℕ
  kpi : FixedBytes 32
  nonceS : Bytes
  coordLen : ℕ
  group : G
  priv1 : Option ℕ
  group2 : Option G
  priv2 : Option ℕ
  myPub2 : Bytes
  chipPub2 : Bytes
  session : PaceSession

variable {G P : Type}

/-- `pub_len`: an uncompressed point, `04 || x || y`. -/
def PaceExchange.pubLen (pace : PaceExchange G) : ℕ := 1 + 2 * pace.coordLen

/-- `PACE_COORD_LEN_MAX`. -/
def paceCoordLenMax : ℕ := 40

/-- `PACE_NONCE_LEN_MAX`. -/
def paceNonceLenMax : ℕ := 64

/-- A `PaceSession` of zeros. -/
def PaceSession.zero : PaceSession := ⟨.copy 32 [], .copy 32 [], .copy 16 [], 0⟩

section Exchange

variable (ssl : OpenSsl) (ec : EcApi G P)

/-- `pace_exchange_new`. -/
def paceExchangeNew (k : Bytes) (curve : Curve) (oid : Bytes) : Option (PaceExchange G) :=
  if paceKeyLenForOid oid = 0 ∨ oid.length > 16 then none
  else do
    let group ← ec.groupNewByCurveName curve
    -- a coordinate takes as many bytes as the field
    let coordLen := (ec.getDegree group + 7) / 8
    if coordLen = 0 ∨ coordLen > paceCoordLenMax then none
    else
      return { oid := oid
               keyLen := paceKeyLenForOid oid
               kpi := paceKdf ssl k 3 (paceKeyLenForOid oid)
               nonceS := []
               coordLen := coordLen
               group := group
               priv1 := none
               group2 := none
               priv2 := none
               myPub2 := []
               chipPub2 := []
               session := .zero }

/-- `pace_process_nonce_response`. -/
def paceProcessNonceResponse (pace : PaceExchange G) (resp : Bytes) : Option (PaceExchange G) := do
  let z ← findIn7c resp 0x80
  if z.length = 0 ∨ z.length % 16 ≠ 0 ∨ z.length > paceNonceLenMax then none
  else
    let nonce ← aesCbc ssl false pace.kpi.1 pace.keyLen (zeroIv 16) z
    return { pace with nonceS := nonce }

/-- `point_to_bytes`. -/
def pointToBytes (group : G) (point : P) (pubLen : ℕ) : Option Bytes :=
  (ec.point2oct group point).filter fun bytes => bytes.length = pubLen

/-- `point_from_bytes`. -/
def pointFromBytes (group : G) (data : Bytes) (expectPubLen : ℕ) : Option P :=
  if data.length ≠ expectPubLen ∨ data[0]? ≠ some 0x04 then none else ec.oct2point group data

/-- `pace_build_map_nonce`. -/
def paceBuildMapNonce (pace : PaceExchange G) (random : Option ℕ) :
    Option (PaceExchange G × Bytes) := do
  let priv1 ← randomScalar (ec.getOrder pace.group) random
  let pub1 ← ec.mulGenerator pace.group priv1
  let pub1Bytes ← pointToBytes ec pace.group pub1 pace.pubLen
  return ({ pace with priv1 := some priv1 }, buildGa 0x81 pub1Bytes)

/-- `pace_process_map_nonce_response`: `G~ = s*G + H` on the same curve. -/
def paceProcessMapNonceResponse (pace : PaceExchange G) (resp : Bytes) :
    Option (PaceExchange G) := do
  let chipPub1Bytes ← findIn7c resp 0x82
  let chipPub1 ← pointFromBytes ec pace.group chipPub1Bytes pace.pubLen
  let priv1 ← pace.priv1
  -- H = r1 PK, and G~ = s G + H
  let h ← ec.mul pace.group chipPub1 priv1
  let sg ← ec.mulGenerator pace.group (beValue pace.nonceS)
  let gtilde ← ec.add pace.group sg h
  let curve ← ec.getCurve pace.group
  let plain ← ec.groupNewCurveGFp curve
  let group2 ← ec.setGenerator plain gtilde (ec.getOrder pace.group) (ec.getCofactor pace.group)
  return { pace with group2 := some group2 }

/-- `pace_build_key_agreement`. -/
def paceBuildKeyAgreement (pace : PaceExchange G) (random : Option ℕ) :
    Option (PaceExchange G × Bytes) := do
  let group2 ← pace.group2
  let priv2 ← randomScalar (ec.getOrder group2) random
  let pub2 ← ec.mulGenerator group2 priv2
  let myPub2 ← pointToBytes ec group2 pub2 pace.pubLen
  return ({ pace with priv2 := some priv2, myPub2 := myPub2 }, buildGa 0x83 myPub2)

/-- The session of a shared secret `k`, with its counter at zero. -/
def paceSessionOf (k : Bytes) (keyLen : ℕ) : PaceSession :=
  { ksEnc := paceKdf ssl k 1 keyLen
    ksMac := paceKdf ssl k 2 keyLen
    ssc := .copy 16 []
    keyLen := keyLen }

/-- `pace_process_key_agreement_response`; `*session_out` is the session of the result. -/
def paceProcessKeyAgreementResponse (pace : PaceExchange G) (resp : Bytes) :
    Option (PaceExchange G) := do
  let chipPub2Bytes ← findIn7c resp 0x84
  if chipPub2Bytes.length ≠ pace.pubLen then none
  else
    let group2 ← pace.group2
    let chipPub2 ← pointFromBytes ec group2 chipPub2Bytes pace.pubLen
    let priv2 ← pace.priv2
    let shared ← ec.mul group2 chipPub2 priv2
    let x ← ec.getAffineX group2 shared
    let k ← bn2binpad x pace.coordLen
    return { pace with chipPub2 := chipPub2Bytes, session := paceSessionOf ssl k pace.keyLen }

/-! ## Mutual authentication -/

/-- `encode_token_input`: the OID and a round-3 public key in a 7F49 template. -/
def encodeTokenInput (pace : PaceExchange G) (pub2 : Bytes) : Bytes :=
  [0x7F, 0x49, (2 + pace.oid.length + 2 + pace.pubLen).toUInt8] ++
    [0x06, pace.oid.length.toUInt8] ++ pace.oid ++ [0x86, pace.pubLen.toUInt8] ++ pub2

/-- `compute_token`. -/
def computeToken (pace : PaceExchange G) (pub2 : Bytes) : Option Bytes :=
  (aesCmac ssl pace.session.ksMac.1 pace.keyLen (encodeTokenInput pace pub2)).map (List.take 8)

/-- `pace_build_mutual_auth`: our token is over the chip's key. -/
def paceBuildMutualAuth (pace : PaceExchange G) : Option Bytes :=
  (computeToken ssl pace pace.chipPub2).map fun token =>
    [0x00, 0x86, 0x00, 0x00] ++ [(wrap7c 0x85 token).length.toUInt8] ++ wrap7c 0x85 token ++ [0x00]

/-- `pace_verify_mutual_auth_response`: the chip's token is over our key. -/
def paceVerifyMutualAuthResponse (pace : PaceExchange G) (resp : Bytes) : Bool :=
  match findIn7c resp 0x86 with
  | none => false
  | some chipToken =>
    -- a token of another length is refused before it is compared
    if chipToken.length ≠ 8 then false
    else
      match computeToken ssl pace pace.myPub2 with
      | none => false
      | some expect => bytesEqual expect chipToken 8

end Exchange

/-! ## Small facts about the rounds -/

/-- A token is eight bytes. -/
theorem length_computeToken {ssl : OpenSsl} {pace : PaceExchange G} {pub2 token : Bytes}
    (h : computeToken ssl pace pub2 = some token) : token.length = 8 := by
  obtain ⟨mac, hmac, rfl⟩ := Option.map_eq_some_iff.mp h
  rw [List.length_take, length_aesCmac ssl hmac]
  rfl

/-- The token input determines the public key in it. -/
theorem encodeTokenInput_injective (pace : PaceExchange G) :
    Function.Injective (encodeTokenInput pace) := by
  intro p q h
  exact List.append_cancel_left h

/-- Acceptance of the chip's token, as one condition. -/
theorem paceVerify_iff {ssl : OpenSsl} {pace : PaceExchange G} {resp : Bytes} :
    paceVerifyMutualAuthResponse ssl pace resp = true ↔
      ∃ token, findIn7c resp 0x86 = some token ∧
        computeToken ssl pace pace.myPub2 = some token := by
  unfold paceVerifyMutualAuthResponse
  constructor
  · intro h
    split at h
    · simp at h
    · next chipToken hfind =>
      split_ifs at h with hlen
      split at h
      · simp at h
      · next expect hexpect =>
        refine ⟨chipToken, hfind, ?_⟩
        rw [hexpect, (bytesEqual_iff (length_computeToken hexpect) (by simpa using hlen)).mp h]
  · rintro ⟨token, hfind, htoken⟩
    have hlen := length_computeToken htoken
    simp only [hfind, htoken, hlen]
    exact (bytesEqual_iff hlen hlen).mpr rfl

end NfcAdapter
