/-
# Secure messaging while the libraries work

A cipher call on whole blocks and a CMAC call succeed when the key has the size of the
cipher.  Under that, every command a reader forms and every response a chip forms can be
protected.
-/
import NfcAdapter.PassportSteps
import NfcAdapter.SmResponse

namespace NfcAdapter

open IsoPadding ByteCounter

/-! ## The libraries -/

/-- The block length of a cipher. -/
def EvpCipher.blockLen : EvpCipher → ℕ
  | .desEde3Cbc | .desEde3Ecb => 8
  | .aes128Cbc | .aes256Cbc | .aes128Ecb | .aes256Ecb => 16

/-- The key length of a cipher. -/
def EvpCipher.keyLen : EvpCipher → ℕ
  | .desEde3Cbc | .desEde3Ecb => 24
  | .aes128Cbc | .aes128Ecb => 16
  | .aes256Cbc | .aes256Ecb => 32

/-- No call fails: with padding disabled, whole blocks become as many whole blocks, and a
CMAC has 16 bytes. -/
structure OpenSsl.Total (ssl : OpenSsl) : Prop where
  cipher : ∀ c encrypt key iv input, key.length = c.keyLen → input.length % c.blockLen = 0 →
    ∃ out, ssl.cipher c encrypt key iv input = some out ∧ out.length = input.length
  cmac : ∀ c key input, key.length = c.keyLen →
    ∃ tag, ssl.cmac c key input = some tag ∧ tag.length = 16

theorem evpCrypt_total {ssl : OpenSsl} (hssl : ssl.Total) {c : EvpCipher} (encrypt : Bool)
    {key : Bytes} (iv : Bytes) {input : Bytes} (hkey : key.length = c.keyLen)
    (hinput : input.length % c.blockLen = 0) :
    ∃ out, evpCrypt ssl c encrypt key iv input = some out := by
  obtain ⟨out, hout, hlen⟩ := hssl.cipher c encrypt key iv input hkey hinput
  exact ⟨out, by rw [evpCrypt, hout, Option.filter_some, if_pos (by simpa using hlen)]⟩

theorem retailMac_total {ssl : OpenSsl} (hssl : ssl.Total) (key : FixedBytes 16) (input : Bytes) :
    ∃ mac, retailMac ssl key.1 input = some mac := by
  have hpad := dvd_length_isoPad 8 (by decide) input
  have hlen := length_isoPad 8 (by decide) input
  have hkey := key.2
  obtain ⟨cbc, hcbc⟩ : ∃ cbc, desCbc ssl (key.1.take 8) (zeroIv 8) (isoPad 8 input) = some cbc :=
    evpCrypt_total hssl true _
      (by simp only [List.length_append, List.length_take, hkey, EvpCipher.keyLen]; rfl)
      (Nat.mod_eq_zero_of_dvd hpad)
  have hcbcLen := length_evpCrypt ssl hcbc
  have hlast : ((cbc.drop ((isoPad 8 input).length - 8)).take 8).length = 8 := by
    rw [List.length_take, List.length_drop, hcbcLen]
    omega
  obtain ⟨decrypted, hdec⟩ : ∃ decrypted, desEcb ssl false ((key.1.drop 8).take 8)
      ((cbc.drop ((isoPad 8 input).length - 8)).take 8) = some decrypted :=
    evpCrypt_total hssl false _
      (by simp only [List.length_append, List.length_take, List.length_drop, hkey,
            EvpCipher.keyLen]; rfl)
      (by rw [hlast]; rfl)
  have hdecLen := length_evpCrypt ssl hdec
  obtain ⟨mac, hmac⟩ : ∃ mac, desEcb ssl true (key.1.take 8) decrypted = some mac :=
    evpCrypt_total hssl true _
      (by simp only [List.length_append, List.length_take, hkey, EvpCipher.keyLen]; rfl)
      (by rw [hdecLen, hlast]; rfl)
  refine ⟨mac, ?_⟩
  simp only [retailMac, Option.bind_eq_bind, hcbc, Option.bind_some, hdec, hmac]

/-! ### Recorded calls, completed

Recorded encryptions extended to all inputs: a recorded plaintext and its ciphertext change
places, every other input of whole blocks stays as it is. -/

/-- The other half of a recorded pair, and `data` itself when it is in none. -/
def Recording.swap (r : Recording) (c : EvpCipher) (key iv data : Bytes) : Bytes :=
  (r.encrypt c key iv data).getD ((r.decrypt c key iv data).getD data)

/-- The recorded pairs of one key and IV have no member in common. -/
def Recording.Swaps (r : Recording) : Prop :=
  ∀ e ∈ r.ciphers, e.output.length = e.input.length ∧
    r.swap e.cipher e.key e.iv e.input = e.output ∧ r.swap e.cipher e.key e.iv e.output = e.input

instance (r : Recording) : Decidable r.Swaps := by
  unfold Recording.Swaps
  infer_instance

/-- The library completed so. -/
def Recording.total (r : Recording) : OpenSsl where
  sha1 := r.ssl.sha1
  sha256 := r.ssl.sha256
  cipher := fun c _ key iv data => some (r.swap c key iv data)
  cmac := fun c key data => some (FixedBytes.copy 16 ((r.cmacs.lookup (c, key, data)).getD [])).1

theorem Recording.swap_swap {r : Recording} (h : r.Swaps) (c : EvpCipher)
    (key iv data : Bytes) :
    (r.swap c key iv data).length = data.length ∧
      r.swap c key iv (r.swap c key iv data) = data := by
  rcases henc : r.encrypt c key iv data with _ | out
  · rcases hdec : r.decrypt c key iv data with _ | input
    -- in no recorded pair: the data stays
    · have hself : r.swap c key iv data = data := by rw [swap, henc, hdec]; rfl
      rw [hself, hself]
      exact ⟨rfl, rfl⟩
    · have hself : r.swap c key iv data = input := by rw [swap, henc, hdec]; rfl
      obtain ⟨e, he, rfl⟩ := Option.map_eq_some_iff.mp hdec
      have hp := List.find?_some he
      obtain ⟨rfl, rfl, rfl, rfl⟩ := of_decide_eq_true hp
      obtain ⟨hlen, hin, -⟩ := h e (List.mem_of_find?_eq_some he)
      rw [hself, hin]
      exact ⟨hlen.symm, rfl⟩
  · have hself : r.swap c key iv data = out := by rw [swap, henc]; rfl
    obtain ⟨e, he, rfl⟩ := Option.map_eq_some_iff.mp henc
    have hp := List.find?_some he
    obtain ⟨rfl, rfl, rfl, rfl⟩ := of_decide_eq_true hp
    obtain ⟨hlen, -, hout⟩ := h e (List.mem_of_find?_eq_some he)
    rw [hself, hout]
    exact ⟨hlen, rfl⟩

theorem Recording.total_total {r : Recording} (h : r.Swaps) : r.total.Total where
  cipher := by
    intro c encrypt key iv input _ _
    exact ⟨_, rfl, (r.swap_swap h c key iv input).1⟩
  cmac := by
    intro c key input _
    exact ⟨_, rfl, (FixedBytes.copy 16 ((r.cmacs.lookup (c, key, input)).getD [])).2⟩

theorem Recording.total_decryptInverts {r : Recording} (h : r.Swaps) :
    r.total.DecryptInverts := by
  intro c key iv input out hout _
  obtain rfl : r.swap c key iv input = out := Option.some.inj hout
  exact congrArg some (r.swap_swap h c key iv input).2

/-! ## Suites -/

/-- MAC and encipherment never fail. -/
structure SmSuite.Total {n : ℕ} (S : SmSuite n) : Prop where
  mac : ∀ input, ∃ tag, S.mac input = some tag
  encrypt : ∀ ssc padded, S.blockLen ∣ padded.length → ∃ enc, S.encrypt ssc padded = some enc

theorem bacSuite_total {ssl : OpenSsl} (hssl : ssl.Total) (session : BacSession) :
    (session.suite ssl).Total where
  mac := retailMac_total hssl session.ksMac
  encrypt := by
    intro ssc padded hpadded
    refine evpCrypt_total hssl true _ ?_ (Nat.mod_eq_zero_of_dvd hpadded)
    simp only [List.length_append, List.length_take, session.ksEnc.2, EvpCipher.keyLen]
    rfl

theorem paceSuite_total {ssl : OpenSsl} (hssl : ssl.Total) {session : PaceSession}
    (hkey : session.keyLen = 16 ∨ session.keyLen = 32) : (session.suite ssl).Total where
  mac := by
    intro input
    have hlen : (session.ksMac.1.take session.keyLen).length
        = (if session.keyLen = 32 then EvpCipher.aes256Cbc else .aes128Cbc).keyLen := by
      rw [List.length_take, session.ksMac.2]
      rcases hkey with h | h <;> rw [h] <;> rfl
    obtain ⟨tag, htag, h16⟩ := hssl.cmac _ _ (isoPad 16 input) hlen
    refine ⟨tag.take 8, ?_⟩
    show (aesCmac ssl session.ksMac.1 session.keyLen (isoPad 16 input)).map _ = _
    rw [aesCmac, htag, Option.filter_some, if_pos (by simpa using h16)]
    rfl
  encrypt := by
    intro ssc padded hpadded
    have haes : (aesKey session.ksEnc.1 session.keyLen).length
        = if session.keyLen = 32 then 32 else 16 := by
      rw [aesKey, List.length_take, session.ksEnc.2]
      split <;> rfl
    obtain ⟨iv, hiv, hivLen⟩ := hssl.cipher
      (if session.keyLen = 32 then .aes256Ecb else .aes128Ecb) true
      (aesKey session.ksEnc.1 session.keyLen) [] ssc.1 (by rw [haes]; split <;> rfl)
      (by rw [ssc.2]; split <;> rfl)
    obtain ⟨enc, henc⟩ := evpCrypt_total hssl true iv
      (show (aesKey session.ksEnc.1 session.keyLen).length
        = (if session.keyLen = 32 then EvpCipher.aes256Cbc else .aes128Cbc).keyLen by
        rw [haes]; split <;> rfl)
      (show padded.length
        % (if session.keyLen = 32 then EvpCipher.aes256Cbc else .aes128Cbc).blockLen = 0 by
        have h16 : padded.length % 16 = 0 := Nat.mod_eq_zero_of_dvd hpadded
        split <;> exact h16)
    refine ⟨enc, ?_⟩
    have hecb : aesEcbEncryptBlock ssl session.ksEnc.1 session.keyLen ssc.1 = some iv := by
      rw [aesEcbEncryptBlock, hiv, Option.filter_some, if_pos (by simp [hivLen, ssc.2])]
    show (aesEcbEncryptBlock ssl session.ksEnc.1 session.keyLen ssc.1).bind _ = some enc
    rw [hecb]
    exact henc

section Suite

variable {n : ℕ} {S : SmSuite n}

/-- A command without data and with a one-byte Le can be protected. -/
theorem smProtect_total (hS : S.Total) (ssc : FixedBytes n) {cmd : SmCommand}
    (hdata : cmd.data = []) (hle : cmd.le ≤ 255) : ∃ sent, (smProtect S ssc cmd).2 = some sent := by
  have hdo87 : smDo87 S (sscIncrement ssc) cmd.data = some [] := by simp [smDo87, hdata]
  obtain ⟨tag, htag⟩ := hS.mac (smCommandInput S (sscIncrement ssc) cmd [])
  rw [smProtect, if_neg (by simp [hdata, hle]), hdo87]
  exact ⟨_, congrArg (Option.map _) htag⟩

/-- A response can be formed for every short plaintext. -/
theorem smResponse_total (hS : S.Total) (hinv : S.DecryptInverts) (ssc : FixedBytes n)
    {plaintext : Bytes} (hlen : plaintext.length + S.blockLen < 65535) (sw : UInt16) :
    ∃ resp, smResponse S ssc .two (some plaintext) sw = some resp := by
  obtain ⟨enc, henc⟩ := hS.encrypt ssc (isoPad S.blockLen plaintext)
    (dvd_length_isoPad S.blockLen S.blockLen_pos plaintext)
  have hencLen := (hinv ssc _ enc henc).1
  have hpad := length_isoPad S.blockLen S.blockLen_pos plaintext
  -- the padding adds one block at most, and two length bytes reach to 65535
  have hfit : LengthForm.two.Fits (1 + enc.length) := by
    show 1 + enc.length < 65536
    omega
  have hdo87 : smResponseDo87 S ssc .two (some plaintext)
      = some (berTlv 0x87 .two (0x01 :: enc)) := by
    rw [smResponseDo87, henc, Option.bind_some, if_pos hfit]
  obtain ⟨mac, hmac⟩ := hS.mac (smResponseInput ssc (berTlv 0x87 .two (0x01 :: enc)) sw)
  exact ⟨_, by rw [smResponse, hdo87]; simp only [Option.bind_eq_bind, Option.bind_some, hmac]; rfl⟩

end Suite

/-! ## Reads -/

variable {G P : Type} {env : PassportEnv G P}

/-- A read whose session keys have the length of a cipher's. -/
def PassportRead.KeyLenOk (read : PassportRead G) : Prop :=
  read.usePace = true → read.paceSession.keyLen = 16 ∨ read.paceSession.keyLen = 32

/-- Commands of a read are sent. -/
theorem passportSmProtect_total (hssl : env.ssl.Total) {read : PassportRead G}
    (hkey : read.KeyLenOk) {cmd : SmCommand} (hdata : cmd.data = []) (hle : cmd.le ≤ 255) :
    ∃ x y apdu, passportSmProtect env read cmd = (read.withSsc x y, some apdu) := by
  obtain ⟨x, y, hfst⟩ := passportSmProtect_fst env read cmd
  suffices h : ∃ apdu, (passportSmProtect env read cmd).2 = some apdu by
    obtain ⟨apdu, hsnd⟩ := h
    exact ⟨x, y, apdu, Prod.ext hfst hsnd⟩
  unfold passportSmProtect
  split
  · next hpace =>
    obtain ⟨sent, hsent⟩ := smProtect_total (paceSuite_total hssl (hkey hpace))
      read.paceSession.ssc hdata hle
    exact ⟨sent.apdu, congrArg (Option.map _) hsent⟩
  · obtain ⟨sent, hsent⟩ := smProtect_total (bacSuite_total hssl read.session)
      read.session.ssc hdata hle
    exact ⟨sent.apdu, congrArg (Option.map _) hsent⟩

/-- A conforming chip's response with status 9000 opens to the plaintext in it. -/
theorem opened_smResponse (hinv : env.ssl.DecryptInverts) {read : PassportRead G}
    {f : LengthForm} {plaintext resp : Bytes}
    (hbac : read.usePace = false → smResponse (read.session.suite env.ssl)
      (sscIncrement read.session.ssc) f (some plaintext) 0x9000 = some resp)
    (hpace : read.usePace = true → smResponse (read.paceSession.suite env.ssl)
      (sscIncrement read.paceSession.ssc) f (some plaintext) 0x9000 = some resp) :
    read.opened env resp = some plaintext := by
  rw [opened_eq_some, passportSmUnprotect]
  have hbenign : BenignStatus 0x9000 := by decide
  split
  · next h =>
    show (smUnprotect _ _ resp).2 = _
    rw [smUnprotect_smResponse _ (paceSuite_decryptInverts env.ssl hinv _) _ f (hpace h),
      if_pos hbenign]
  · next h =>
    show (smUnprotect _ _ resp).2 = _
    rw [smUnprotect_smResponse _ (bacSuite_decryptInverts env.ssl hinv _) _ f
      (hbac (by simpa using h)), if_pos hbenign]

/-- Some bytes open to a given short plaintext: those a conforming chip sends. -/
theorem exists_opened (hssl : env.ssl.Total) (hinv : env.ssl.DecryptInverts)
    {read : PassportRead G} (hkey : read.KeyLenOk) {plaintext : Bytes}
    (hlen : plaintext.length ≤ 255) : ∃ resp, read.opened env resp = some plaintext := by
  rcases hpace : read.usePace with _ | _
  · obtain ⟨resp, hresp⟩ := smResponse_total (bacSuite_total hssl read.session)
      (bacSuite_decryptInverts env.ssl hinv read.session) (sscIncrement read.session.ssc)
      (show plaintext.length + 8 < 65535 by omega) 0x9000
    exact ⟨resp, opened_smResponse hinv (fun _ => hresp) (by simp [hpace])⟩
  · obtain ⟨resp, hresp⟩ := smResponse_total (paceSuite_total hssl (hkey hpace))
      (paceSuite_decryptInverts env.ssl hinv read.paceSession) (sscIncrement read.paceSession.ssc)
      (show plaintext.length + 16 < 65535 by omega) 0x9000
    exact ⟨resp, opened_smResponse hinv (by simp [hpace]) (fun _ => hresp)⟩

/-- And some do not open. -/
theorem opened_nil (read : PassportRead G) : read.opened env [] = none := by
  have hnone : (passportSmUnprotect env read []).2 = none := by
    unfold passportSmUnprotect
    split <;> rfl
  rw [PassportRead.opened, hnone]

end NfcAdapter
