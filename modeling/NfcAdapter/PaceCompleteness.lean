/-
# PACE with an honest chip

The chip's side of the exchange, stated from what it has to do and not from `pace.c`: it
enciphers a nonce, maps the generator to `s*G + H`, agrees on a key over the mapped
generator, and exchanges tokens.  In each round a side multiplies the point it receives
with its own scalar; the two agree because the points form a commutative group.
-/
import NfcAdapter.PaceObjects
import NfcAdapter.PaceReflection
import NfcAdapter.SmTotal
import Mathlib.Data.ZMod.Basic

namespace NfcAdapter

open ByteCounter

/-! ## Curves as groups -/

section Curves

variable {P : Type} [AddCommGroup P]

/-- The generic mapping `s*G + H`, where `H` is one's own scalar times the other side's
point. -/
def genericMap (g : P) (s scalar : ℕ) (peer : P) : P := s • g + scalar • peer

/-- The two sides of a mapping, each with the other's multiple of the generator, find one
point. -/
theorem genericMap_exchange (g : P) (s a b : ℕ) :
    genericMap g s a (b • g) = genericMap g s b (a • g) := by
  rw [genericMap, genericMap, smul_comm]

/-- The points of a curve with a generator, their uncompressed encodings `04 || x || y`
and their x-coordinates.  The point at infinity, the group's zero, has neither. -/
structure CurveGroup (P : Type) [AddCommGroup P] where
  generator : P
  coordLen : ℕ
  encode : P → Bytes
  decode : Bytes → Option P
  x : P → ℕ
  length_encode : ∀ q, q ≠ 0 → (encode q).length = 1 + 2 * coordLen
  head_encode : ∀ q, q ≠ 0 → (encode q)[0]? = some 0x04
  decode_encode : ∀ q, q ≠ 0 → decode (encode q) = some q
  x_lt : ∀ q, q ≠ 0 → x q < 256 ^ coordLen

/-- The bytes of a coordinate. -/
def Curve.coordLen : Curve → ℕ
  | .prime256v1 | .brainpoolP256r1 => 32
  | .brainpoolP320r1 => 40

/-- On `group`, OpenSSL calculates in the curve `E`, with `base` for the generator. -/
structure EcApi.Computes {G : Type} (ec : EcApi G P) (E : CurveGroup P) (group : G)
    (base : P) : Prop where
  mulGenerator : ∀ n, ec.mulGenerator group n = some (n • base)
  mul : ∀ q n, ec.mul group q n = some (n • q)
  add : ∀ p q, ec.add group p q = some (p + q)
  point2oct : ∀ q, q ≠ 0 → ec.point2oct group q = some (E.encode q)
  oct2point : ∀ q, q ≠ 0 → ec.oct2point group (E.encode q) = some q
  getAffineX : ∀ q, q ≠ 0 → ec.getAffineX group q = some (E.x q)

/-- OpenSSL's calls are those of the curve `E`: `named` is the group it has under the
curve's name, `mapped q` the one a caller makes of its parameters and the generator `q`. -/
structure EcApi.Implements {G : Type} (ec : EcApi G P) (curve : Curve) (E : CurveGroup P)
    (named : G) (mapped : P → G) : Prop where
  coordLen : E.coordLen = curve.coordLen
  groupNewByCurveName : ec.groupNewByCurveName curve = some named
  getDegree : ec.getDegree named = 8 * curve.coordLen
  computes_named : ec.Computes E named E.generator
  setGenerator : ∀ q, q ≠ 0 → ∃ params plain, ec.getCurve named = some params ∧
    ec.groupNewCurveGFp params = some plain ∧
    ec.setGenerator plain q (ec.getOrder named) (ec.getCofactor named) = some (mapped q)
  getOrder_mapped : ∀ q, q ≠ 0 → ec.getOrder (mapped q) = ec.getOrder named
  computes_mapped : ∀ q, q ≠ 0 → ec.Computes E (mapped q) q

end Curves

/-! ## The chip -/

/-- A short-form TLV. -/
def shortTlv (tag : UInt8) (data : Bytes) : Bytes := [tag, data.length.toUInt8] ++ data

/-- The object of a GENERAL AUTHENTICATE command, as the chip takes it out of the 7C. -/
def receivedObject (tag : UInt8) : Bytes → Option Bytes
  | _ :: 0x86 :: 0x00 :: 0x00 :: lc :: 0x7C :: l :: t :: n :: rest =>
    if lc.toNat = l.toNat + 2 ∧ l.toNat = n.toNat + 2 ∧ t = tag ∧ rest.length = n.toNat + 1 then
      some (rest.take n.toNat)
    else none
  | _ => none

/-- A chip with the password, the protocol, the nonce and the two ephemeral keys of one
exchange.  `trailer` is what stands behind the 7C of a response. -/
structure HonestChip where
  password : Bytes
  oid : Bytes
  nonce : Bytes
  mapKey : ℕ
  agreeKey : ℕ
  trailer : UInt8 → Bytes

namespace HonestChip

variable (chip : HonestChip) (ssl : OpenSsl) {P : Type} [AddCommGroup P] (E : CurveGroup P)

/-- The last arc of a PACE protocol's OID is its cipher: 2 for AES-128, 4 for AES-256. -/
def cipher : EvpCipher := if chip.oid.getLast? = some 0x04 then .aes256Cbc else .aes128Cbc

/-- Key derivation: 16 bytes of a SHA-1 digest, or a whole SHA-256 digest. -/
def kdf (secret : Bytes) (c : UInt8) : Bytes :=
  if chip.cipher = .aes256Cbc then (ssl.sha256 (secret ++ [0, 0, 0, c])).1
  else (ssl.sha1 (secret ++ [0, 0, 0, c])).1.take 16

/-- A response: the object in a short-form 7C. -/
def respond (tag : UInt8) (data : Bytes) : Bytes :=
  shortTlv 0x7C (shortTlv tag data) ++ chip.trailer tag

/-- Round 1: the nonce, enciphered under the password's key. -/
def sendNonce : Option Bytes :=
  (ssl.cipher chip.cipher true (chip.kdf ssl chip.password 3) (zeroIv 16) chip.nonce).map
    (chip.respond 0x80)

/-- Round 2: the mapping key. -/
def sendMapKey : Bytes := chip.respond 0x82 (E.encode (chip.mapKey • E.generator))

/-- The mapped generator, from the reader's mapping key. -/
def mapped (readerPub1 : P) : P :=
  genericMap E.generator (beValue chip.nonce) chip.mapKey readerPub1

/-- The chip's key over the mapped generator. -/
def pub2 (readerPub1 : P) : P := chip.agreeKey • chip.mapped E readerPub1

/-- Round 3: the key agreement key. -/
def sendAgreeKey (readerPub1 : P) : Bytes := chip.respond 0x84 (E.encode (chip.pub2 E readerPub1))

/-- The shared secret, from the reader's key agreement key. -/
def secret (readerPub2 : P) : Bytes := beBytes E.coordLen (E.x (chip.agreeKey • readerPub2))

/-- A token: eight bytes of the CMAC over the OID and the receiver's public key. -/
def token (secret : Bytes) (pub : P) : Option Bytes :=
  let template := shortTlv 0x06 chip.oid ++ shortTlv 0x86 (E.encode pub)
  (ssl.cmac chip.cipher (chip.kdf ssl secret 2) ([0x7F] ++ shortTlv 0x49 template)).map
    (List.take 8)

end HonestChip

/-! ## The exchange of the two sides -/

/-- What an exchange ends with: the reader's session, the token the chip has received, the
chip's session keys, the token it expects, and whether the reader accepts the chip's. -/
structure PaceOutcome where
  session : PaceSession
  readerToken : Bytes
  chipKsEnc : Bytes
  chipKsMac : Bytes
  expectedToken : Bytes
  accepted : Bool

variable {G P : Type} [AddCommGroup P]

/-- The first three rounds of a reader that draws `r1` and `r2` with a chip on one curve:
the reader's state and the two points the chip has received.  `none` when a step of either
side fails. -/
def paceRounds (ssl : OpenSsl) (ec : EcApi G P) (E : CurveGroup P) (curve : Curve)
    (chip : HonestChip) (r1 r2 : ℕ) : Option (PaceExchange G × P × P) := do
  let pace ← paceExchangeNew ssl ec chip.password curve chip.oid
  let pace ← paceProcessNonceResponse ssl pace (← chip.sendNonce ssl)
  let (pace, apdu) ← paceBuildMapNonce ec pace (some r1)
  let pub1 ← (receivedObject 0x81 apdu).bind E.decode
  let pace ← paceProcessMapNonceResponse ec pace (chip.sendMapKey E)
  let (pace, apdu) ← paceBuildKeyAgreement ec pace (some r2)
  let pub2 ← (receivedObject 0x83 apdu).bind E.decode
  let pace ← paceProcessKeyAgreementResponse ssl ec pace (chip.sendAgreeKey E pub1)
  return (pace, pub1, pub2)

/-- The whole exchange, with the tokens of both sides. -/
def paceWithChip (ssl : OpenSsl) (ec : EcApi G P) (E : CurveGroup P) (curve : Curve)
    (chip : HonestChip) (r1 r2 : ℕ) : Option PaceOutcome := do
  let (pace, pub1, pub2) ← paceRounds ssl ec E curve chip r1 r2
  let secret := chip.secret E pub2
  let readerToken ← (paceBuildMutualAuth ssl pace).bind (receivedObject 0x85)
  let expectedToken ← chip.token ssl E secret (chip.pub2 E pub1)
  let chipToken ← chip.token ssl E secret pub2
  return { session := pace.session
           readerToken := readerToken
           chipKsEnc := chip.kdf ssl secret 1
           chipKsMac := chip.kdf ssl secret 2
           expectedToken := expectedToken
           accepted := paceVerifyMutualAuthResponse ssl pace (chip.respond 0x86 chipToken) }

/-! ## What stands on the wire -/

/-- The reader finds the object of a chip's response. -/
theorem findIn7c_respond (chip : HonestChip) (tag : UInt8) {data : Bytes}
    (hlen : data.length ≤ 125) : findIn7c (chip.respond tag data) tag = some data :=
  (findIn7c_wrap7c hlen tag (chip.trailer tag)).2

/-- The chip takes the object out of a command that carries one. -/
theorem receivedObject_wrap7c (cla tag : UInt8) {data : Bytes} (hlen : data.length ≤ 125) :
    receivedObject tag ([cla, 0x86, 0x00, 0x00] ++ [(wrap7c tag data).length.toUInt8] ++
      wrap7c tag data ++ [0x00]) = some data := by
  have hinner : data.length.toUInt8.toNat = data.length := toNat_toUInt8 (by omega)
  have houter : (data.length + 2).toUInt8.toNat = data.length + 2 := toNat_toUInt8 (by omega)
  have hlc : (wrap7c tag data).length.toUInt8.toNat = data.length + 2 + 2 := by
    have hwrap : (wrap7c tag data).length = data.length + 2 + 2 := by simp [wrap7c]
    rw [hwrap, toNat_toUInt8 (by omega)]
  show receivedObject tag (cla :: 0x86 :: 0x00 :: 0x00 :: (wrap7c tag data).length.toUInt8 ::
    0x7C :: (data.length + 2).toUInt8 :: tag :: data.length.toUInt8 :: (data ++ [0x00]))
      = some data
  simp only [receivedObject, hlc, houter, hinner, List.length_append, List.length_singleton,
    and_self, if_true, List.take_left]

/-! ## The protocol's keys -/

section Keys

variable {chip : HonestChip} (hoid : paceOidSupported chip.oid = true)

/-- The chip's cipher is one of the two AES modes. -/
theorem HonestChip.cipher_cases (chip : HonestChip) :
    chip.cipher = .aes128Cbc ∨ chip.cipher = .aes256Cbc := by
  unfold HonestChip.cipher
  split_ifs
  · right; rfl
  · left; rfl

include hoid in
theorem paceKeyLenForOid_honest : paceKeyLenForOid chip.oid = chip.cipher.keyLen := by
  rcases paceOidSupported_cases hoid with h | h <;> simp only [HonestChip.cipher, h] <;> rfl

include hoid in
theorem length_oid_honest : chip.oid.length = 10 := by
  rcases paceOidSupported_cases hoid with h | h <;> rw [h] <;> rfl

/-- The reader picks the chip's cipher by the key length. -/
theorem cipher_of_keyLen (chip : HonestChip) :
    (if chip.cipher.keyLen = 32 then EvpCipher.aes256Cbc else .aes128Cbc) = chip.cipher := by
  rcases chip.cipher_cases with h | h <;> rw [h] <;> rfl

theorem keyLen_cipher_le (chip : HonestChip) : chip.cipher.keyLen ≤ 32 := by
  rcases chip.cipher_cases with h | h <;> rw [h] <;> decide

theorem length_kdf (chip : HonestChip) (ssl : OpenSsl) (secret : Bytes) (c : UInt8) :
    (chip.kdf ssl secret c).length = chip.cipher.keyLen := by
  rcases chip.cipher_cases with h | h
  · rw [HonestChip.kdf, h, if_neg (by decide), List.length_take, (ssl.sha1 _).2]
    rfl
  · rw [HonestChip.kdf, h, if_pos rfl, (ssl.sha256 _).2]
    rfl

/-- Both sides derive one key; in the reader's buffer zeros follow a short one. -/
theorem paceKdf_eq_copy (chip : HonestChip) (ssl : OpenSsl) (secret : Bytes) {c : ℕ} {d : UInt8}
    (hc : beBytes 4 c = [0, 0, 0, d]) :
    paceKdf ssl secret c chip.cipher.keyLen = .copy 32 (chip.kdf ssl secret d) := by
  rcases chip.cipher_cases with h | h
  · have h16 : EvpCipher.aes128Cbc.keyLen = 16 := rfl
    rw [paceKdf, HonestChip.kdf, h, if_pos h16, if_neg (by decide), hc]
  · rw [paceKdf, HonestChip.kdf, h, if_neg (by decide), if_pos rfl, hc]
    congr 1
    exact List.take_of_length_le (by rw [(ssl.sha256 _).2]; decide)

theorem take_copy {n : ℕ} {bs : Bytes} (h : bs.length ≤ n) :
    (FixedBytes.copy n bs).1.take bs.length = bs := by
  show ((bs ++ List.replicate n 0).take n).take bs.length = bs
  rw [List.take_take, Nat.min_eq_left h, List.take_left]

/-- The key the reader hands to a cipher or a CMAC is the chip's. -/
theorem take_paceKdf (chip : HonestChip) (ssl : OpenSsl) (secret : Bytes) {c : ℕ} {d : UInt8}
    (hc : beBytes 4 c = [0, 0, 0, d]) :
    (paceKdf ssl secret c chip.cipher.keyLen).1.take chip.cipher.keyLen
      = chip.kdf ssl secret d := by
  rw [paceKdf_eq_copy chip ssl secret hc, ← length_kdf chip ssl secret d]
  exact take_copy (by rw [length_kdf]; exact keyLen_cipher_le chip)

end Keys

/-! ## The rounds -/

section Rounds

variable {ssl : OpenSsl} {ec : EcApi G P} {E : CurveGroup P} {curve : Curve} {named : G}
  {mapped : P → G} {chip : HonestChip}

/-- What no round changes: the two sides are in one exchange. -/
structure PaceExchange.Fits (pace : PaceExchange G) (chip : HonestChip) (E : CurveGroup P)
    (named : G) : Prop where
  oid : pace.oid = chip.oid
  keyLen : pace.keyLen = chip.cipher.keyLen
  coordLen : pace.coordLen = E.coordLen
  group : pace.group = named

theorem PaceExchange.Fits.pubLen {pace : PaceExchange G} (h : pace.Fits chip E named) :
    pace.pubLen = 1 + 2 * E.coordLen := by
  rw [PaceExchange.pubLen, h.coordLen]

variable (hE : ec.Implements curve E named mapped)

include hE in
/-- A point's encoding fits into a short-form object. -/
theorem length_encode_le {q : P} (hq : q ≠ 0) : (E.encode q).length ≤ 81 := by
  rw [E.length_encode q hq, hE.coordLen]
  cases curve <;> decide

/-- A point goes through OpenSSL's encoding and back. -/
theorem pointToBytes_encode {group : G} {base q : P} (hgroup : ec.Computes E group base)
    (hq : q ≠ 0) : pointToBytes ec group q (1 + 2 * E.coordLen) = some (E.encode q) := by
  rw [pointToBytes, hgroup.point2oct q hq, Option.filter_some,
    if_pos (by simpa using E.length_encode q hq)]

theorem pointFromBytes_encode {group : G} {base q : P} (hgroup : ec.Computes E group base)
    (hq : q ≠ 0) : pointFromBytes ec group (E.encode q) (1 + 2 * E.coordLen) = some q := by
  have hlen := E.length_encode q hq
  have hhead := E.head_encode q hq
  rw [pointFromBytes, if_neg (not_or.mpr ⟨not_not.mpr hlen, not_not.mpr hhead⟩),
    hgroup.oct2point q hq]

variable (ssl) in
include hE in
/-- The reader opens the exchange on the negotiated curve. -/
theorem paceExchangeNew_honest (hoid : paceOidSupported chip.oid = true) :
    ∃ pace, paceExchangeNew ssl ec chip.password curve chip.oid = some pace ∧
      pace.Fits chip E named ∧
      pace.kpi = paceKdf ssl chip.password 3 chip.cipher.keyLen := by
  have hkey : paceKeyLenForOid chip.oid = chip.cipher.keyLen := paceKeyLenForOid_honest hoid
  have hsupported : ¬ (chip.cipher.keyLen = 0 ∨ chip.oid.length > 16) := by
    rw [length_oid_honest hoid]
    rcases chip.cipher_cases with h | h <;> rw [h] <;> decide
  have hcoord : (ec.getDegree named + 7) / 8 = curve.coordLen := by
    rw [hE.getDegree]
    omega
  have hfits : ¬ (curve.coordLen = 0 ∨ curve.coordLen > paceCoordLenMax) := by
    cases curve <;> decide
  simp only [paceExchangeNew, hkey, hsupported, if_false, Option.bind_eq_bind,
    hE.groupNewByCurveName, Option.bind_some, hcoord, hfits, Option.pure_def, Option.some.injEq,
    exists_eq_left', and_true]
  exact ⟨rfl, rfl, hE.coordLen.symm, rfl⟩

/-- Round 1: the reader deciphers the chip's nonce. -/
theorem paceProcessNonceResponse_honest (hssl : ssl.Total) (hinv : ssl.DecryptInverts)
    (hnonce : chip.nonce.length ∈ [16, 32, 48, 64]) {pace : PaceExchange G}
    (hfits : pace.Fits chip E named)
    (hkpi : pace.kpi = paceKdf ssl chip.password 3 chip.cipher.keyLen) :
    ∃ resp pace', chip.sendNonce ssl = some resp ∧
      paceProcessNonceResponse ssl pace resp = some pace' ∧
      pace'.Fits chip E named ∧ pace'.nonceS = chip.nonce := by
  have hblock : chip.nonce.length % 16 = 0 ∧ 0 < chip.nonce.length ∧ chip.nonce.length ≤ 64 := by
    simp only [List.mem_cons, List.not_mem_nil, or_false] at hnonce
    omega
  have h16 : chip.cipher.blockLen = 16 := by
    rcases chip.cipher_cases with h | h <;> rw [h] <;> rfl
  obtain ⟨z, hz⟩ : ∃ z, evpCrypt ssl chip.cipher true (chip.kdf ssl chip.password 3) (zeroIv 16)
      chip.nonce = some z :=
    evpCrypt_total hssl true _ (length_kdf chip ssl _ _) (by rw [h16]; exact hblock.1)
  -- without padding the ciphertext is as long as the nonce
  have hlen := length_evpCrypt ssl hz
  have hsend : chip.sendNonce ssl = some (chip.respond 0x80 z) := by
    rw [HonestChip.sendNonce, (Option.filter_eq_some_iff.mp hz).1, Option.map_some]
  have hkey : aesKey pace.kpi.1 pace.keyLen = chip.kdf ssl chip.password 3 := by
    have h32 : (if chip.cipher.keyLen = 32 then 32 else 16) = chip.cipher.keyLen := by
      rcases chip.cipher_cases with h | h <;> rw [h] <;> rfl
    rw [aesKey, hkpi, hfits.keyLen, h32]
    exact take_paceKdf chip ssl _ rfl
  have hdec : aesCbc ssl false pace.kpi.1 pace.keyLen (zeroIv 16) z = some chip.nonce := by
    rw [aesCbc, hkey, hfits.keyLen, cipher_of_keyLen]
    exact evpCrypt_inverts ssl hinv hz
  refine ⟨_, { pace with nonceS := chip.nonce }, hsend, ?_,
    ⟨hfits.oid, hfits.keyLen, hfits.coordLen, hfits.group⟩, rfl⟩
  have hz' : ¬ (z.length = 0 ∨ z.length % 16 ≠ 0 ∨ z.length > paceNonceLenMax) := by
    rw [hlen, paceNonceLenMax]
    omega
  simp only [paceProcessNonceResponse, Option.bind_eq_bind,
    findIn7c_respond chip 0x80 (show z.length ≤ 125 by omega), Option.bind_some, hz', if_false,
    hdec, Option.pure_def]

include hE in
/-- Round 2, the command: the chip receives the reader's mapping key. -/
theorem paceBuildMapNonce_honest {r1 : ℕ} (hr1 : r1 < ec.getOrder named)
    (hpub1 : r1 • E.generator ≠ 0) {pace : PaceExchange G} (hfits : pace.Fits chip E named)
    (hnonce : pace.nonceS = chip.nonce) :
    ∃ apdu pace', paceBuildMapNonce ec pace (some r1) = some (pace', apdu) ∧
      (receivedObject 0x81 apdu).bind E.decode = some (r1 • E.generator) ∧
      pace'.Fits chip E named ∧ pace'.nonceS = chip.nonce ∧ pace'.priv1 = some r1 := by
  refine ⟨buildGa 0x81 (E.encode (r1 • E.generator)), { pace with priv1 := some r1 }, ?_, ?_,
    ⟨hfits.oid, hfits.keyLen, hfits.coordLen, hfits.group⟩, hnonce, rfl⟩
  · have hrandom : randomScalar (ec.getOrder named) (some r1) = some r1 := by
      rw [randomScalar, Option.filter_some, if_pos (by simpa using hr1)]
    simp only [paceBuildMapNonce, hfits.group, hrandom, Option.bind_eq_bind, Option.bind_some,
      hE.computes_named.mulGenerator, hfits.pubLen, pointToBytes_encode hE.computes_named hpub1,
      Option.pure_def]
  · rw [buildGa, receivedObject_wrap7c _ _ ((length_encode_le hE hpub1).trans (by decide)),
      Option.bind_some, E.decode_encode _ hpub1]

include hE in
/-- Round 2, the response: the reader's mapped generator is the chip's. -/
theorem paceProcessMapNonceResponse_honest {r1 : ℕ} (hpub : chip.mapKey • E.generator ≠ 0)
    (hmapped : chip.mapped E (r1 • E.generator) ≠ 0) {pace : PaceExchange G}
    (hfits : pace.Fits chip E named) (hnonce : pace.nonceS = chip.nonce)
    (hpriv : pace.priv1 = some r1) :
    ∃ pace', paceProcessMapNonceResponse ec pace (chip.sendMapKey E) = some pace' ∧
      pace'.Fits chip E named ∧
      pace'.group2 = some (mapped (chip.mapped E (r1 • E.generator))) := by
  have hagree : beValue chip.nonce • E.generator + r1 • (chip.mapKey • E.generator)
      = chip.mapped E (r1 • E.generator) :=
    genericMap_exchange E.generator (beValue chip.nonce) r1 chip.mapKey
  have hfind : findIn7c (chip.sendMapKey E) 0x82 = some (E.encode (chip.mapKey • E.generator)) :=
    findIn7c_respond chip 0x82 ((length_encode_le hE hpub).trans (by decide))
  obtain ⟨params, plain, hparams, hplain, hset⟩ := hE.setGenerator _ hmapped
  refine ⟨{ pace with group2 := some (mapped (chip.mapped E (r1 • E.generator))) }, ?_,
    ⟨hfits.oid, hfits.keyLen, hfits.coordLen, hfits.group⟩, rfl⟩
  simp only [paceProcessMapNonceResponse, hfind, Option.bind_eq_bind, Option.bind_some,
    hfits.group, hfits.pubLen, pointFromBytes_encode hE.computes_named hpub, hpriv,
    hE.computes_named.mul, hE.computes_named.mulGenerator, hE.computes_named.add, hnonce, hagree,
    hparams, hplain, hset, Option.pure_def]

include hE in
/-- Round 3, the command: the chip receives the reader's key over the mapped generator. -/
theorem paceBuildKeyAgreement_honest {r2 : ℕ} {q : P} (hr2 : r2 < ec.getOrder named) (hq : q ≠ 0)
    (hpub2 : r2 • q ≠ 0) {pace : PaceExchange G} (hfits : pace.Fits chip E named)
    (hgroup2 : pace.group2 = some (mapped q)) :
    ∃ apdu pace', paceBuildKeyAgreement ec pace (some r2) = some (pace', apdu) ∧
      (receivedObject 0x83 apdu).bind E.decode = some (r2 • q) ∧
      pace'.Fits chip E named ∧ pace'.group2 = some (mapped q) ∧ pace'.priv2 = some r2 ∧
      pace'.myPub2 = E.encode (r2 • q) := by
  have hcomputes := hE.computes_mapped q hq
  refine ⟨buildGa 0x83 (E.encode (r2 • q)),
    { pace with priv2 := some r2, myPub2 := E.encode (r2 • q) }, ?_, ?_,
    ⟨hfits.oid, hfits.keyLen, hfits.coordLen, hfits.group⟩, hgroup2, rfl, rfl⟩
  · have hrandom : randomScalar (ec.getOrder named) (some r2) = some r2 := by
      rw [randomScalar, Option.filter_some, if_pos (by simpa using hr2)]
    simp only [paceBuildKeyAgreement, hgroup2, hE.getOrder_mapped q hq, hrandom,
      Option.bind_eq_bind, Option.bind_some, hcomputes.mulGenerator, hfits.pubLen,
      pointToBytes_encode hcomputes hpub2, Option.pure_def]
  · rw [buildGa, receivedObject_wrap7c _ _ ((length_encode_le hE hpub2).trans (by decide)),
      Option.bind_some, E.decode_encode _ hpub2]

include hE in
/-- Round 3, the response: the reader's secret is the chip's, and the session comes of it. -/
theorem paceProcessKeyAgreementResponse_honest {r2 : ℕ} {pub1 : P}
    (hmapped : chip.mapped E pub1 ≠ 0) (hpub : chip.pub2 E pub1 ≠ 0)
    (hshared : chip.agreeKey • (r2 • chip.mapped E pub1) ≠ 0) {pace : PaceExchange G}
    (hfits : pace.Fits chip E named) (hgroup2 : pace.group2 = some (mapped (chip.mapped E pub1)))
    (hpriv : pace.priv2 = some r2) :
    ∃ pace', paceProcessKeyAgreementResponse ssl ec pace (chip.sendAgreeKey E pub1) = some pace' ∧
      pace'.Fits chip E named ∧ pace'.myPub2 = pace.myPub2 ∧
      pace'.chipPub2 = E.encode (chip.pub2 E pub1) ∧
      pace'.session = paceSessionOf ssl (chip.secret E (r2 • chip.mapped E pub1))
        chip.cipher.keyLen := by
  have hcomputes := hE.computes_mapped _ hmapped
  have hagree : r2 • chip.pub2 E pub1 = chip.agreeKey • (r2 • chip.mapped E pub1) :=
    smul_comm _ _ _
  have hfind : findIn7c (chip.sendAgreeKey E pub1) 0x84 = some (E.encode (chip.pub2 E pub1)) :=
    findIn7c_respond chip 0x84 ((length_encode_le hE hpub).trans (by decide))
  have hx : bn2binpad (E.x (chip.agreeKey • (r2 • chip.mapped E pub1))) E.coordLen
      = some (chip.secret E (r2 • chip.mapped E pub1)) := by
    rw [bn2binpad, if_pos (E.x_lt _ hshared)]
    rfl
  refine ⟨{ pace with
      chipPub2 := E.encode (chip.pub2 E pub1)
      session := paceSessionOf ssl (chip.secret E (r2 • chip.mapped E pub1)) chip.cipher.keyLen },
    ?_, ⟨hfits.oid, hfits.keyLen, hfits.coordLen, hfits.group⟩, rfl, rfl, rfl⟩
  simp only [paceProcessKeyAgreementResponse, hfind, Option.bind_eq_bind, Option.bind_some,
    hfits.pubLen, E.length_encode _ hpub, ne_eq, not_true_eq_false, if_false, hgroup2,
    pointFromBytes_encode hcomputes hpub, hpriv, hcomputes.mul, hagree,
    hcomputes.getAffineX _ hshared, hfits.coordLen, hx, hfits.keyLen, Option.pure_def]

/-- The reader's token over a point is the chip's. -/
theorem computeToken_honest (hssl : ssl.Total) {pub : P} (hpub : pub ≠ 0) {secret : Bytes}
    {pace : PaceExchange G} (hfits : pace.Fits chip E named)
    (hsession : pace.session = paceSessionOf ssl secret chip.cipher.keyLen) :
    ∃ token, chip.token ssl E secret pub = some token ∧
      computeToken ssl pace (E.encode pub) = some token := by
  have hinput : encodeTokenInput pace (E.encode pub)
      = [0x7F] ++ shortTlv 0x49 (shortTlv 0x06 chip.oid ++ shortTlv 0x86 (E.encode pub)) := by
    have hlen : (shortTlv 0x06 chip.oid ++ shortTlv 0x86 (E.encode pub)).length
        = 2 + chip.oid.length + 2 + (E.encode pub).length := by
      simp only [shortTlv, List.length_append, List.length_cons, List.length_nil]
      omega
    rw [shortTlv, hlen, encodeTokenInput, hfits.oid, hfits.pubLen, ← E.length_encode pub hpub,
      shortTlv, shortTlv]
    simp only [List.append_assoc, List.cons_append, List.nil_append]
  have hkey : pace.session.ksMac.1.take pace.keyLen = chip.kdf ssl secret 2 := by
    rw [hsession, hfits.keyLen]
    exact take_paceKdf chip ssl secret rfl
  obtain ⟨tag, htag, h16⟩ := hssl.cmac chip.cipher (chip.kdf ssl secret 2)
    ([0x7F] ++ shortTlv 0x49 (shortTlv 0x06 chip.oid ++ shortTlv 0x86 (E.encode pub)))
    (length_kdf chip ssl secret 2)
  refine ⟨tag.take 8, ?_, ?_⟩
  · rw [HonestChip.token, htag, Option.map_some]
  · rw [computeToken, aesCmac, hinput, hkey, hfits.keyLen, cipher_of_keyLen, htag,
      Option.filter_some, if_pos (by simpa using h16), Option.map_some]

/-- None of the points the two sides send or agree on is the point at infinity. -/
structure NoInfinity (E : CurveGroup P) (chip : HonestChip) (r1 r2 : ℕ) : Prop where
  readerPub1 : r1 • E.generator ≠ 0
  chipPub1 : chip.mapKey • E.generator ≠ 0
  mapped : chip.mapped E (r1 • E.generator) ≠ 0
  readerPub2 : r2 • chip.mapped E (r1 • E.generator) ≠ 0
  chipPub2 : chip.pub2 E (r1 • E.generator) ≠ 0
  shared : chip.agreeKey • (r2 • chip.mapped E (r1 • E.generator)) ≠ 0

include hE in
/-- The three rounds lead to one secret. -/
theorem paceRounds_honest (hssl : ssl.Total) (hinv : ssl.DecryptInverts)
    (hoid : paceOidSupported chip.oid = true) (hnonce : chip.nonce.length ∈ [16, 32, 48, 64])
    {r1 r2 : ℕ} (hr1 : r1 < ec.getOrder named) (hr2 : r2 < ec.getOrder named)
    (hpoints : NoInfinity E chip r1 r2) :
    ∃ pace, paceRounds ssl ec E curve chip r1 r2
        = some (pace, r1 • E.generator, r2 • chip.mapped E (r1 • E.generator)) ∧
      pace.Fits chip E named ∧
      pace.myPub2 = E.encode (r2 • chip.mapped E (r1 • E.generator)) ∧
      pace.chipPub2 = E.encode (chip.pub2 E (r1 • E.generator)) ∧
      pace.session = paceSessionOf ssl
        (chip.secret E (r2 • chip.mapped E (r1 • E.generator))) chip.cipher.keyLen := by
  obtain ⟨pace, hnew, hfits, hkpi⟩ := paceExchangeNew_honest ssl hE hoid
  obtain ⟨resp, pace1, hsend, hround1, hfits1, hnonce1⟩ :=
    paceProcessNonceResponse_honest hssl hinv hnonce hfits hkpi
  obtain ⟨map, pace2, hmap, hpub1, hfits2, hnonce2, hpriv1⟩ :=
    paceBuildMapNonce_honest hE hr1 hpoints.readerPub1 hfits1 hnonce1
  obtain ⟨pace3, hround2, hfits3, hgroup3⟩ :=
    paceProcessMapNonceResponse_honest hE hpoints.chipPub1 hpoints.mapped hfits2 hnonce2 hpriv1
  obtain ⟨agree, pace4, hagree, hpub2, hfits4, hgroup4, hpriv2, hmine⟩ :=
    paceBuildKeyAgreement_honest hE hr2 hpoints.mapped hpoints.readerPub2 hfits3 hgroup3
  obtain ⟨pace5, hround3, hfits5, hmine5, hchip5, hsession⟩ :=
    paceProcessKeyAgreementResponse_honest hE hpoints.mapped hpoints.chipPub2 hpoints.shared
      hfits4 hgroup4 hpriv2
  refine ⟨pace5, ?_, hfits5, by rw [hmine5, hmine], hchip5, hsession⟩
  simp only [paceRounds, Option.bind_eq_bind, hnew, hsend, Option.bind_some, hround1, hmap, hpub1,
    hround2, hagree, hpub2, hround3, Option.pure_def]

end Rounds

/-! ## The main theorem -/

/-- The order of brainpoolP256r1. -/
def brainpoolOrder : ℕ := 0xA9FB57DBA1EEA9BC3E660A909D838D718C397AA3B561A6F7901E0E82974856A7

instance : NeZero brainpoolOrder := ⟨by decide⟩

/-- Multiples of the generator and their coordinates. -/
def brainpoolTable : List (ℕ × ℕ × ℕ) := [
  (2, 0x743CF1B8B5CD4F2EB55F8AA369593AC436EF044166699E37D51A14C2CE13EA0E,
    0x36ED163337DEBA9C946FE0BB776529DA38DF059F69249406892ADA097EEB7CD4),
  (3, 0xA8F217B77338F1D4D6624C3AB4F6CC16D2AA843D0C0FCA016B91E2AD25CAE39D,
    0x4B49CAFC7DAC26BB0AA2A6850A1B40F5FAC10E4589348FB77E65CC5602B74F9D),
  (14, 0x1D36A037AB842C1D557513E3B04D9166A09AA186EE1E9916674D33A6C2B6B191,
    0x5B811A55DD8BF3FB10D4FF18900017E9290D2F38DB9B105035E15701BC4413E6),
  (21, 0x570308793E0C5EBA3DF3221040023C853B759EFC62BB5F35237E790BB1A5B4CE,
    0x4A2AFC2717CBEE5380DCEFCCFAC7113502C6B0CC03E52178E7310D4C9AD17277),
  (42, 0x9BBCD9879E0C6E05746A5F334BC9DB00196E2188FF39411FA388EDF1B1AB643F,
    0x30C9F498D4A3A784AFBE7F73CA693BFB5633A7E64C2E6315E4F018DDD3BA907D)]

/-- The coordinates of a multiple; one outside the table has a name in their place. -/
def brainpoolCoords (v : ℕ) : ℕ × ℕ := (brainpoolTable.lookup v).getD (v, 0)

/-- The multiple with given coordinates. -/
def brainpoolMultiple (xy : ℕ × ℕ) : ℕ :=
  ((brainpoolTable.find? fun e => e.2 = xy).map (·.1)).getD xy.1

theorem brainpoolCoords_lt {v : ℕ} (hv : v < brainpoolOrder) :
    (brainpoolCoords v).1 < 256 ^ 32 ∧ (brainpoolCoords v).2 < 256 ^ 32 := by
  have htable : ∀ e ∈ brainpoolTable, e.2.1 < 256 ^ 32 ∧ e.2.2 < 256 ^ 32 := by decide
  unfold brainpoolCoords
  rcases h : brainpoolTable.lookup v with _ | xy
  · exact ⟨hv.trans (by decide), Nat.pow_pos (by decide)⟩
  · obtain ⟨l₁, l₂, hl, -⟩ := List.lookup_eq_some_iff.mp h
    exact htable (v, xy) (by rw [hl]; simp)

theorem brainpoolMultiple_coords (v : ℕ) : brainpoolMultiple (brainpoolCoords v) = v := by
  have htable : ∀ e ∈ brainpoolTable, brainpoolMultiple e.2 = e.1 := by decide
  have hy : ∀ e ∈ brainpoolTable, e.2.2 ≠ 0 := by decide
  unfold brainpoolCoords
  -- outside the table a number stands for x and 0 for y, and no entry has y = 0
  rcases h : brainpoolTable.lookup v with _ | xy
  · have hnone : (brainpoolTable.find? fun e => e.2 = (v, 0)) = none := by
      rw [List.find?_eq_none]
      intro e he heq
      exact hy e he (by rw [of_decide_eq_true heq])
    rw [Option.getD_none, brainpoolMultiple, hnone]
    rfl
  · obtain ⟨l₁, l₂, hl, -⟩ := List.lookup_eq_some_iff.mp h
    exact htable (v, xy) (by rw [hl]; simp)

/-- The two coordinates of an uncompressed encoding. -/
theorem split_uncompressed {n : ℕ} {x : Bytes} (hx : x.length = n) (y : Bytes) :
    (([0x04] ++ x ++ y).drop 1).take n = x ∧ ([0x04] ++ x ++ y).drop (n + 1) = y := by
  constructor
  · show (x ++ y).take n = x
    exact List.take_left' hx
  · show (x ++ y).drop n = y
    exact List.drop_left' hx

/-- The curve. -/
def brainpoolCurve : CurveGroup (ZMod brainpoolOrder) where
  generator := 1
  coordLen := 32
  encode := fun q =>
    [0x04] ++ beBytes 32 (brainpoolCoords q.val).1 ++ beBytes 32 (brainpoolCoords q.val).2
  decode := fun bytes =>
    let xy := (beValue ((bytes.drop 1).take 32), beValue (bytes.drop 33))
    some (brainpoolMultiple xy : ZMod brainpoolOrder)
  x := fun q => (brainpoolCoords q.val).1
  length_encode := by
    intro q _
    simp
  head_encode := by
    intro q _
    rfl
  decode_encode := by
    intro q _
    obtain ⟨hx, hy⟩ := brainpoolCoords_lt (ZMod.val_lt q)
    obtain ⟨htake, hdrop⟩ := split_uncompressed (length_beBytes 32 (brainpoolCoords q.val).1)
      (beBytes 32 (brainpoolCoords q.val).2)
    simp only [htake, hdrop, beValue_beBytes hx, beValue_beBytes hy, Prod.mk.eta,
      brainpoolMultiple_coords, ZMod.natCast_zmod_val]
  x_lt := by
    intro q _
    exact (brainpoolCoords_lt (ZMod.val_lt q)).1

/-- OpenSSL on that curve; a group is known by its generator. -/
def brainpoolEc : EcApi (ZMod brainpoolOrder) (ZMod brainpoolOrder) where
  groupNewByCurveName := fun curve => if curve = .brainpoolP256r1 then some 1 else none
  getDegree := fun _ => 256
  getOrder := fun _ => brainpoolOrder
  getCofactor := fun _ => 1
  mulGenerator := fun group n => some (n • group)
  mul := fun _ q n => some (n • q)
  add := fun _ p q => some (p + q)
  getCurve := fun _ => some
    (0xA9FB57DBA1EEA9BC3E660A909D838D726E3BF623D52620282013481D1F6E5377,
      0x7D5A0975FC2C3057EEF67530417AFFE7FB8055C126DC5C6CE94A4B44F330B5D9,
      0x26DC5C6CE94A4B44F330B5D9BBD77CBF958416295CF7E1CE6BCCDC18FF8C07B6)
  groupNewCurveGFp := fun _ => some 0
  setGenerator := fun _ q _ _ => some q
  point2oct := fun _ q => some (if q = 0 then [0x00] else brainpoolCurve.encode q)
  oct2point := fun _ bytes => brainpoolCurve.decode bytes
  getAffineX := fun _ q => if q = 0 then none else some (brainpoolCurve.x q)

theorem brainpoolEc_computes (group : ZMod brainpoolOrder) :
    brainpoolEc.Computes brainpoolCurve group group where
  mulGenerator := fun _ => rfl
  mul := fun _ _ => rfl
  add := fun _ _ => rfl
  point2oct := fun _ hq => congrArg some (if_neg hq)
  oct2point := brainpoolCurve.decode_encode
  getAffineX := fun _ hq => if_neg hq

theorem brainpoolEc_implements :
    brainpoolEc.Implements .brainpoolP256r1 brainpoolCurve 1 id where
  coordLen := rfl
  groupNewByCurveName := rfl
  getDegree := rfl
  computes_named := brainpoolEc_computes 1
  setGenerator := fun _ _ => ⟨_, _, rfl, rfl, rfl⟩
  getOrder_mapped := fun _ _ => rfl
  computes_mapped := fun q _ => brainpoolEc_computes q

/-- The digests, the nonce's encryption and the two tokens; the key of the CAN is one of the
recorded digests. -/
def honestRecording : Recording where
  sha1 := recordedPace.sha1 ++ [
    (beBytes 36 0x9BBCD9879E0C6E05746A5F334BC9DB00196E2188FF39411FA388EDF1B1AB643F00000001,
      ⟨beBytes 20 0xF7CFB0CC681059CD466E4ED4ED9D9D07D5D84A09, rfl⟩),
    (beBytes 36 0x9BBCD9879E0C6E05746A5F334BC9DB00196E2188FF39411FA388EDF1B1AB643F00000002,
      ⟨beBytes 20 0x7119F7FB0B5EE54C5CF997069AE05C80ED8D4FA0, rfl⟩)]
  ciphers := [
    ⟨.aes128Cbc, beBytes 16 0x591468CDA83D65219CCCB8560233600F, zeroIv 16, beBytes 16 1,
      beBytes 16 0x1DB24DD579A9F86E4B49DE3775A22597⟩]
  cmacs := [
    ((.aes128Cbc, beBytes 16 0x7119F7FB0B5EE54C5CF997069AE05C80,
      beBytes 17 0x7F494F060A04007F000702020402028641 ++ brainpoolCurve.encode 21),
      beBytes 16 0xBD90DAA410F29F1A2FCDE88599ACF265),
    ((.aes128Cbc, beBytes 16 0x7119F7FB0B5EE54C5CF997069AE05C80,
      beBytes 17 0x7F494F060A04007F000702020402028641 ++ brainpoolCurve.encode 14),
      beBytes 16 0xFECB97C609D1477718F1468A9E0639D2)]

/-- A chip with AES-128. -/
def recordedChip : HonestChip where
  password := recordedCan
  oid := paceOidAes128
  nonce := beBytes 16 1
  mapKey := 3
  agreeKey := 3
  trailer := fun _ => [0x90, 0x00]

/-- Small multiples of the generator are not the point at infinity. -/
theorem smul_one_ne_zero {k : ℕ} (hpos : 0 < k) (hlt : k < brainpoolOrder) :
    k • (1 : ZMod brainpoolOrder) ≠ 0 := by
  rw [nsmul_one, ne_eq, ZMod.natCast_eq_zero_iff]
  exact Nat.not_dvd_of_pos_of_lt hpos hlt

theorem recordedChip_mapped :
    recordedChip.mapped brainpoolCurve (2 • brainpoolCurve.generator)
      = 7 • (1 : ZMod brainpoolOrder) := by
  have hnonce : beValue recordedChip.nonce = 1 := beValue_beBytes (by decide)
  show beValue recordedChip.nonce • (1 : ZMod brainpoolOrder) + 3 • (2 • 1) = 7 • 1
  -- G~ = 1 G + 3 (2 G)
  rw [hnonce, smul_smul, ← add_smul, show 1 + 3 * 2 = 7 from rfl]

theorem recordedChip_noInfinity : NoInfinity brainpoolCurve recordedChip 2 2 where
  readerPub1 := smul_one_ne_zero (by decide) (by decide)
  chipPub1 := smul_one_ne_zero (by decide) (by decide)
  mapped := by
    rw [recordedChip_mapped]
    exact smul_one_ne_zero (by decide) (by decide)
  readerPub2 := by
    rw [recordedChip_mapped, smul_smul]
    exact smul_one_ne_zero (by decide) (by decide)
  chipPub2 := by
    show 3 • recordedChip.mapped brainpoolCurve (2 • brainpoolCurve.generator) ≠ 0
    rw [recordedChip_mapped, smul_smul]
    exact smul_one_ne_zero (by decide) (by decide)
  shared := by
    show 3 • (2 • recordedChip.mapped brainpoolCurve (2 • brainpoolCurve.generator)) ≠ 0
    rw [recordedChip_mapped, smul_smul, smul_smul]
    exact smul_one_ne_zero (by decide) (by decide)

end NfcAdapter
