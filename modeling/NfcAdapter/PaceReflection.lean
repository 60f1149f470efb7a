/-
# PACE and a chip that is not there

An attacker in the chip's place has no key; it can repeat public bytes and the reader's
own.  Both authentication tokens are CMACs under one key over inputs that differ only in
the public key inside, so the chip's token is out of reach exactly when the round-3
keys of the two sides differ.  The exchange never compares them.
-/
import NfcAdapter.PassportAuth

namespace NfcAdapter

open Runs ByteCounter

variable {G P : Type} (env : PassportEnv G P)

/-! ## Tokens on the air -/

/-- A read, and every key and input whose token the reader has sent. -/
structure TokenLog (G : Type) where
  state : PassportState G
  tokens : List (FixedBytes 32 × Bytes)

/-- The token a step sends: the one over the chip's key, once the key agreement is done. -/
def tokenSent (s : PassportState G) (e : PassportEvent) : Option (FixedBytes 32 × Bytes) :=
  match s.status, (s.step env e).status, (s.step env e).read.pace with
  | .waiting .paceKeyAgreement _, .waiting _ _, some pace =>
    some (pace.session.ksMac, encodeTokenInput pace pace.chipPub2)
  | _, _, _ => none

/-- One completion, and the token it makes the reader send. -/
def TokenLog.step (w : TokenLog G) (e : PassportEvent) : TokenLog G :=
  ⟨w.state.step env e, w.tokens ++ (tokenSent env w.state e).toList⟩

/-- A PACE read that has sent nothing. -/
def TokenLog.start (paceK : Bytes) (readPhoto : Bool) : TokenLog G :=
  ⟨.startPace paceK readPhoto, []⟩

/-- **Ideal CMAC.** If the chip's token verifies in this step, then the reader, the only
holder of the key, has sent a token over that input. -/
def CmacIdeal (w : TokenLog G) (e : PassportEvent) : Prop :=
  match w.state.status, e.reply, w.state.read.pace with
  | .waiting .paceMutualAuth _, some bytes, some pace =>
    paceVerifyMutualAuthResponse env.ssl pace bytes = true →
      (pace.session.ksMac, encodeTokenInput pace pace.myPub2) ∈ w.tokens
  | _, _, _ => True

instance (w : TokenLog G) (e : PassportEvent) : Decidable (CmacIdeal env w e) := by
  unfold CmacIdeal
  split <;> infer_instance

/-- The round-3 response carries the public key the reader has just sent. -/
def reflectsKey (s : PassportState G) (e : PassportEvent) : Bool :=
  match s.status, e.reply, s.read.pace with
  | .waiting .paceKeyAgreement _, some bytes, some pace =>
    findIn7c bytes 0x84 == some pace.myPub2
  | _, _, _ => false

/-! ## The invariant -/

/-- The callbacks up to the reader's token. -/
def Pending.beforeToken : Pending → Bool
  | .paceMutualAuth => false
  | p => !p.secured

/-- No token before the key agreement, and one over another key than ours after it. -/
def TokenInv (w : TokenLog G) : Prop :=
  ∀ pending request, w.state.status = .waiting pending request →
    (pending.beforeToken = true → w.tokens = []) ∧
    (pending = .paceMutualAuth → ∃ pace, w.state.read.pace = some pace ∧
      w.tokens = [(pace.session.ksMac, encodeTokenInput pace pace.chipPub2)] ∧
      pace.chipPub2 ≠ pace.myPub2)

/-- What the key agreement stores. -/
theorem paceProcessKeyAgreementResponse_eq_some {ssl : OpenSsl} {ec : EcApi G P}
    {pace pace' : PaceExchange G} {resp : Bytes}
    (h : paceProcessKeyAgreementResponse ssl ec pace resp = some pace') :
    findIn7c resp 0x84 = some pace'.chipPub2 ∧ pace'.myPub2 = pace.myPub2 := by
  simp only [paceProcessKeyAgreementResponse, Option.bind_eq_bind, Option.bind_eq_some_iff] at h
  obtain ⟨chipPub2, hfind, h⟩ := h
  split_ifs at h with hlen
  simp only [Option.bind_eq_some_iff, Option.pure_def, Option.some.injEq] at h
  obtain ⟨group2, -, point, -, priv2, -, shared, -, x, -, k, -, rfl⟩ := h
  exact ⟨hfind, rfl⟩

/-- Where the callbacks before the token come from. -/
theorem beforeToken_of_nexts {p q : Pending} (h : q ∈ p.nexts) :
    (q.beforeToken = true → p.beforeToken = true ∧ p ≠ .paceKeyAgreement) ∧
      (q = .paceMutualAuth → p = .paceKeyAgreement) := by
  cases p <;> cases q <;> simp_all [Pending.nexts, Pending.beforeToken, Pending.secured]

theorem tokenSent_of_ne {s : PassportState G} {e : PassportEvent}
    (h : ∀ request, s.status ≠ .waiting .paceKeyAgreement request) : tokenSent env s e = none := by
  unfold tokenSent
  split
  · next request _ _ _ hs _ _ => exact absurd hs (h request)
  · rfl

/-- One completion in which the key is not reflected keeps the invariant. -/
theorem TokenInv.step {w : TokenLog G} (h : TokenInv w) (e : PassportEvent)
    (hkey : reflectsKey w.state e = false) : TokenInv (w.step env e) := by
  intro q request' hq
  obtain ⟨p, request, hs, hnexts⟩ := waiting_before (show (w.state.step env e).status = _ from hq)
  obtain ⟨hbefore, hmutual⟩ := beforeToken_of_nexts hnexts
  obtain ⟨htokens, -⟩ := h p request hs
  constructor
  · intro hq'
    obtain ⟨hp, hne⟩ := hbefore hq'
    have hsent : tokenSent env w.state e = none :=
      tokenSent_of_ne env (by simp [hs, hne])
    show w.tokens ++ (tokenSent env w.state e).toList = []
    rw [hsent, htokens hp]
    rfl
  · intro hq'
    have hp := hmutual hq'
    subst hp hq'
    rcases he : e.reply with _ | bytes
    · have hq' : (w.state.step env e).status = .waiting .paceMutualAuth request' := hq
      rw [step_replyFailed hs he] at hq'
      cases hq'
    · have hstep : w.state.step env e = ⟨(paceKeyAgreementReady env w.state.read bytes).1,
          (paceKeyAgreementReady env w.state.read bytes).2⟩ := step_reply hs he
      have hq' : (paceKeyAgreementReady env w.state.read bytes).2
          = .waiting .paceMutualAuth request' := by
        have hq'' : (w.state.step env e).status = .waiting .paceMutualAuth request' := hq
        rwa [hstep] at hq''
      obtain ⟨pace, pace', hpace, hprocess, -, hread⟩ := paceKeyAgreementReady_waiting hq'
      obtain ⟨hfind, hmine⟩ := paceProcessKeyAgreementResponse_eq_some hprocess
      have hread' : (w.state.step env e).read.pace = some pace' := by
        rw [hstep]
        show (paceKeyAgreementReady env w.state.read bytes).1.pace = some pace'
        rw [hread]
      refine ⟨pace', hread', ?_, ?_⟩
      · have hsent : tokenSent env w.state e
            = some (pace'.session.ksMac, encodeTokenInput pace' pace'.chipPub2) := by
          have hst : (w.state.step env e).status = .waiting .paceMutualAuth request' := hq
          simp only [tokenSent, hs, hst, hread']
        show w.tokens ++ (tokenSent env w.state e).toList = _
        rw [hsent, htokens rfl]
        rfl
      · intro heq
        simp only [reflectsKey, hs, he, hpace, beq_eq_false_iff_ne, ne_eq] at hkey
        exact hkey (by rw [hfind, heq, hmine])

theorem tokenInv_start (paceK : Bytes) (readPhoto : Bool) :
    TokenInv (TokenLog.start paceK readPhoto : TokenLog G) := by
  intro p request h
  have hp : Pending.passportAcquire = p := (PassportStatus.waiting.inj h).1
  subst hp
  exact ⟨fun _ => rfl, by simp⟩

/-! ## The main theorem -/

/-- A completion in which the attacker does not send the reader's round-3 key back, under
an ideal CMAC. -/
def ChipKeyDiffers (w : TokenLog G) (e : PassportEvent) : Prop :=
  reflectsKey w.state e = false ∧ CmacIdeal env w e

instance (w : TokenLog G) (e : PassportEvent) : Decidable (ChipKeyDiffers env w e) := by
  unfold ChipKeyDiffers
  infer_instance

/-- With one key on both sides the reader's own token is the chip's. -/
theorem reflected_token_verifies {pace : PaceExchange G} {token bytes : Bytes}
    (hkeys : pace.chipPub2 = pace.myPub2)
    (htoken : computeToken env.ssl pace pace.chipPub2 = some token)
    (hbytes : findIn7c bytes 0x86 = some token) :
    paceVerifyMutualAuthResponse env.ssl pace bytes = true := by
  rw [paceVerify_iff]
  exact ⟨token, hbytes, by rw [← hkeys]; exact htoken⟩

/-! ### A run with recorded values

The attacker sends the reader's round-2 key back in round 2; a run goes on with round 3. -/

/-- The reader's round-2 key. -/
def recordedPub1 : Bytes :=
  [0x04] ++ beBytes 32 0xC50F30122FB99326322B1BEB6993308A6819C364145C3ACF6C33C5452923BA0F ++
    beBytes 32 0xB62495042E0C16EB7D47AFFFA6F8FAE8DF42B6A7FD79458AE62902A09A2CDB4D

/-- The reader's round-3 key. -/
def recordedPub2 : Bytes :=
  [0x04] ++ beBytes 32 0x8454473D11C8B031F5953B8BA769F4E66C641AC814F3F36A19AAE5240DF9780 ++
    beBytes 32 0xC17DBE1BB350D0324576FF92DFE83009A4E8BC9D3050247D9EB9A0ACA857F5

/-- `H`, the product of the attacker's round-2 key with the reader's scalar. -/
def recordedH : Bytes :=
  [0x04] ++ beBytes 32 0x3B3005CDCBD15354191EC58FB94C0F11FC226B142F74EB98F2921CE9F3BF3FE7 ++
    beBytes 32 0xB7B562FE2C445BD6067D0808C968CE9A90BA953FF99BC92AAACA564F53CCF482

/-- The generator times the nonce. -/
def recordedSG : Bytes :=
  [0x04] ++ beBytes 32 0x6EA8160C2ED71B9475CCF2029C526AC377ECB67C1671B094F67688A213B65121 ++
    beBytes 32 0x1C56B847BEFEE514344A8CBEEC0A9CABF56A988FCBF912D58F5A24BEDD9C4BB2

/-- The mapped generator. -/
def recordedGtilde : Bytes :=
  [0x04] ++ beBytes 32 0x3FB5E6D86AEE906CF2AFF6BA2E3C63216C9D1E5FE92A78971C271AF55CCBD406 ++
    beBytes 32 0x42D52A2A04D336ECAE895736A9DDE90AA6EC9B4BF60AE03815732286ED8A9FCE

/-- The secret shared over the reader's round-2 key. -/
def recordedShared1 : Bytes :=
  [0x04] ++ beBytes 32 0x482AC720CA5F5DFDF32CA89FCA82F5E08C893ABDB8E98CF7602BD77055ECAAD9 ++
    beBytes 32 0xF2B87CB763E3C1D35C34D6535531F79058BF8596FCEC1AF4DD5A93D60D316551

/-- The secret shared over the reader's round-3 key. -/
def recordedShared2 : Bytes :=
  [0x04] ++ beBytes 32 0xE0A9DE33230A8A372382C5066F354C7A2310CC83ED3473AAD7A1D9CEED08B529 ++
    beBytes 32 0x1540D28937BF4FFFC366B1FB99B04FB007E35EF9408818BF83C43A03E9092377

/-- The scalar of round 2. -/
def recordedPriv1 : ℕ := 0x7F4EF07B9EA82FD78AD689B38D0BC78CF21F249D953BC46F4C6E19259C010F99

/-- The scalar of round 3. -/
def recordedPriv2 : ℕ := 0xA73FB703AC1436A18E0CFA5ABB3F7BEC7A070E7A6788486BEE230C4A22762595

/-- The decrypted nonce. -/
def recordedNonce : ℕ := 0x9A4DFAEBBFC6830DCB9AABE886038E61

/-- The calls on NIST P-256.  A point is its uncompressed encoding; the group is `false`
with its own generator and `true` with the mapped one. -/
def recordedEc : EcApi Bool Bytes where
  groupNewByCurveName := fun curve => if curve = .prime256v1 then some false else none
  getDegree := fun _ => 256
  getOrder := fun _ => 0xFFFFFFFF00000000FFFFFFFFFFFFFFFFBCE6FAADA7179E84F3B9CAC2FC632551
  getCofactor := fun _ => 1
  mulGenerator := fun group k => List.lookup (group, k)
    [((false, recordedPriv1), recordedPub1), ((false, recordedNonce), recordedSG),
      ((true, recordedPriv2), recordedPub2)]
  mul := fun group point k => List.lookup (group, point, k)
    [((false, recordedPub1, recordedPriv1), recordedH),
      ((true, recordedPub1, recordedPriv2), recordedShared1),
      ((true, recordedPub2, recordedPriv2), recordedShared2)]
  add := fun _ a b => if (a, b) = (recordedSG, recordedH) then some recordedGtilde else none
  getCurve := fun _ => some
    (0xFFFFFFFF00000001000000000000000000000000FFFFFFFFFFFFFFFFFFFFFFFF,
      0xFFFFFFFF00000001000000000000000000000000FFFFFFFFFFFFFFFFFFFFFFFC,
      0x5AC635D8AA3A93E7B3EBBD55769886BC651D06B0CC53B0F63BCE3C3E27D2604B)
  groupNewCurveGFp := fun _ => some false
  setGenerator := fun _ generator _ _ => if generator = recordedGtilde then some true else none
  point2oct := fun _ point => some point
  oct2point := fun _ bytes => some bytes
  getAffineX := fun _ point => some (beValue ((point.drop 1).take 32))

/-- The digests, the nonce's decryption and the three tokens. -/
def recordedPace : Recording where
  sha1 := [
    (beBytes 10 0x31323334353600000003,
      ⟨beBytes 20 0x591468CDA83D65219CCCB8560233600FFB3AC260, rfl⟩),
    (beBytes 36 0xE0A9DE33230A8A372382C5066F354C7A2310CC83ED3473AAD7A1D9CEED08B52900000001,
      ⟨beBytes 20 0x6EF961CDDECE17AE789FFDB703D706AD3C5B7608, rfl⟩),
    (beBytes 36 0xE0A9DE33230A8A372382C5066F354C7A2310CC83ED3473AAD7A1D9CEED08B52900000002,
      ⟨beBytes 20 0x9A74A5CBA576096E8508F0D5908802F22E8CB542, rfl⟩),
    (beBytes 36 0x482AC720CA5F5DFDF32CA89FCA82F5E08C893ABDB8E98CF7602BD77055ECAAD900000001,
      ⟨beBytes 20 0x98B346BDC2F20D9DB3E7A0CE1DB63B0A18A7D012, rfl⟩),
    (beBytes 36 0x482AC720CA5F5DFDF32CA89FCA82F5E08C893ABDB8E98CF7602BD77055ECAAD900000002,
      ⟨beBytes 20 0xF78602FA3317DEF3F7AA5F5C2810FE8B9E8830D9, rfl⟩)]
  ciphers := [
    ⟨.aes128Cbc, beBytes 16 0x591468CDA83D65219CCCB8560233600F, zeroIv 16,
      beBytes 16 recordedNonce, beBytes 16 0x95A3A016522EE98D01E76CB6B98B42C3⟩]
  cmacs := [
    ((.aes128Cbc, beBytes 16 0x9A74A5CBA576096E8508F0D5908802F2,
      beBytes 17 0x7F494F060A04007F000702020402028641 ++ recordedPub2),
      beBytes 16 0x08449FDF6A6B7BC859A53D08BF9922F7),
    ((.aes128Cbc, beBytes 16 0xF78602FA3317DEF3F7AA5F5C2810FE8B,
      beBytes 17 0x7F494F060A04007F000702020402028641 ++ recordedPub1),
      beBytes 16 0xC8638D1AC968586977F1D0AD62368D61),
    ((.aes128Cbc, beBytes 16 0xF78602FA3317DEF3F7AA5F5C2810FE8B,
      beBytes 17 0x7F494F060A04007F000702020402028641 ++ recordedPub2),
      beBytes 16 0x1E74C0532D0081D23C6C038A551AFBA7)]

/-- The libraries during the run. -/
def recordedPaceEnv : PassportEnv Bool Bytes := ⟨recordedPace.ssl, recordedEc, fun _ => none⟩

/-- The CAN of the run, `123456`. -/
def recordedCan : Bytes := [0x31, 0x32, 0x33, 0x34, 0x35, 0x36]

/-- The completions up to round 3, in which the attacker sends `chipPub2`: Acquire, SELECT
and READ of an EF.CardAccess offering AES-128 on P-256, MSE:Set AT, and rounds 1 to 3. -/
def paceEvents (chipPub2 : Bytes) : List PassportEvent := [
  replyEvent [],
  replyEvent [0x90, 0x00],
  replyEvent (beBytes 24 0x31143012060A04007F0007020204020202010202010C9000),
  replyEvent [0x90, 0x00],
  ⟨some (beBytes 22 0x7C12801095A3A016522EE98D01E76CB6B98B42C39000), none, some recordedPriv1⟩,
  ⟨some ([0x7C, 0x43, 0x82, 0x41] ++ recordedPub1 ++ [0x90, 0x00]), none, some recordedPriv2⟩,
  replyEvent ([0x7C, 0x43, 0x84, 0x41] ++ chipPub2 ++ [0x90, 0x00])]

/-- The reader's own token sent back as the chip's. -/
def reflectedToken : PassportEvent := replyEvent (beBytes 14 0x7C0A860808449FDF6A6B7BC89000)

end NfcAdapter
