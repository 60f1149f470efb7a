/-
# The symmetric cryptography the adapter calls

OpenSSL is not part of the repository: its digests, its one-shot ciphers and its
CMAC are a record of functions.  Over it stand the small wrappers of `bac.c` and
`pace.c`: the length check after every cipher call, DES keys stretched to EDE3, the
retail MAC, and the AES calls that choose the cipher by key length.
-/
import NfcAdapter.BerTlv
import NfcAdapter.IsoPadding

namespace NfcAdapter

open IsoPadding

/-! ## The library interface -/

/-- The `EVP_CIPHER`s the adapter asks for. -/
inductive EvpCipher where
  | desEde3Cbc
  | desEde3Ecb
  | aes128Cbc
  | aes256Cbc
  | aes128Ecb
  | aes256Ecb
  deriving DecidableEq, Repr

/-- OpenSSL's symmetric part.  `cipher c encrypt key iv input` is a one-shot call with
padding disabled, `none` when a step of it fails. -/
structure OpenSsl where
  sha1 : Bytes → FixedBytes 20
  sha256 : Bytes → FixedBytes 32
  cipher : EvpCipher → Bool → Bytes → Bytes → Bytes → Option Bytes
  cmac : EvpCipher → Bytes → Bytes → Option Bytes

/-- A decryption call undoes the encryption call with the same key and IV. -/
def OpenSsl.DecryptInverts (ssl : OpenSsl) : Prop :=
  ∀ c key iv input out, ssl.cipher c true key iv input = some out →
    out.length = input.length → ssl.cipher c false key iv out = some input

/-! ### Recorded calls

An `OpenSsl` that knows the results of finitely many real calls and fails on all
others, for evaluating the model on concrete bytes. -/

/-- One cipher call in the encryption direction. -/
structure CipherCall where
  cipher : EvpCipher
  key : Bytes
  iv : Bytes
  input : Bytes
  output : Bytes

/-- Recorded results of OpenSSL: digests, cipher calls, and CMACs by cipher, key and
input. -/
structure Recording where
  sha1 : List (Bytes × FixedBytes 20) := []
  sha256 : List (Bytes × FixedBytes 32) := []
  ciphers : List CipherCall := []
  cmacs : List ((EvpCipher × Bytes × Bytes) × Bytes) := []

/-- The recorded encryption of `input`. -/
def Recording.encrypt (r : Recording) (c : EvpCipher) (key iv input : Bytes) : Option Bytes :=
  (r.ciphers.find? fun e =>
    decide (e.cipher = c ∧ e.key = key ∧ e.iv = iv ∧ e.input = input)).map (·.output)

/-- The recorded decryption of `output`. -/
def Recording.decrypt (r : Recording) (c : EvpCipher) (key iv output : Bytes) : Option Bytes :=
  (r.ciphers.find? fun e =>
    decide (e.cipher = c ∧ e.key = key ∧ e.iv = iv ∧ e.output = output)).map (·.input)

/-- The library as far as it was recorded. -/
def Recording.ssl (r : Recording) : OpenSsl where
  sha1 := fun data => (r.sha1.lookup data).getD (.copy 20 [])
  sha256 := fun data => (r.sha256.lookup data).getD (.copy 32 [])
  cipher := fun c encrypt key iv data =>
    if encrypt then r.encrypt c key iv data else r.decrypt c key iv data
  cmac := fun c key data => r.cmacs.lookup (c, key, data)

/-- No two recorded plaintexts have the same ciphertext under one key and IV. -/
def Recording.Consistent (r : Recording) : Prop :=
  ∀ e ∈ r.ciphers, r.decrypt e.cipher e.key e.iv e.output = some e.input

instance (r : Recording) : Decidable r.Consistent := by
  unfold Recording.Consistent
  infer_instance

theorem Recording.decryptInverts {r : Recording} (h : r.Consistent) : r.ssl.DecryptInverts := by
  intro c key iv input out henc _
  have henc' : r.encrypt c key iv input = some out := henc
  obtain ⟨e, he, rfl⟩ := Option.map_eq_some_iff.mp henc'
  have hp := List.find?_some he
  obtain ⟨rfl, rfl, rfl, rfl⟩ := of_decide_eq_true hp
  exact h e (List.mem_of_find?_eq_some he)

/-! ## Comparing bytes -/

/-- `bytes_equal`: the differences of the first `len` bytes, or-ed together, are zero. -/
def bytesEqual (a b : Bytes) (len : ℕ) : Bool :=
  (List.zipWith (· ^^^ ·) (a.take len) (b.take len)).foldl (· ||| ·) 0 == 0

theorem foldl_or_eq_zero (ds : Bytes) (acc : UInt8) :
    ds.foldl (· ||| ·) acc = 0 ↔ acc = 0 ∧ ∀ d ∈ ds, d = 0 := by
  induction ds generalizing acc with
  | nil => simp
  | cons d ds ih =>
    rw [List.foldl_cons, ih, UInt8.or_eq_zero_iff, List.forall_mem_cons, and_assoc]

theorem zipWith_xor_eq_zero {as bs : Bytes} (h : as.length = bs.length) :
    (∀ d ∈ List.zipWith (· ^^^ ·) as bs, d = 0) ↔ as = bs := by
  induction as generalizing bs with
  | nil => simp [(List.length_eq_zero_iff.mp h.symm)]
  | cons a as ih =>
    cases bs with
    | nil => simp at h
    | cons b bs =>
      rw [List.zipWith_cons_cons, List.forall_mem_cons, ih (by simpa using h),
        UInt8.xor_eq_zero_iff, List.cons.injEq]

/-- The comparison is equality when both sides have the compared length. -/
theorem bytesEqual_iff {a b : Bytes} {len : ℕ} (ha : a.length = len) (hb : b.length = len) :
    bytesEqual a b len = true ↔ a = b := by
  rw [bytesEqual, beq_iff_eq, foldl_or_eq_zero, List.take_of_length_le (by omega),
    List.take_of_length_le (by omega), zipWith_xor_eq_zero (by omega)]
  simp

/-! ## `bac.c`: 3DES and the retail MAC -/

variable (ssl : OpenSsl)

/-- `evp_crypt`: a cipher call that must produce exactly as many bytes as it read. -/
def evpCrypt (c : EvpCipher) (encrypt : Bool) (key iv input : Bytes) : Option Bytes :=
  (ssl.cipher c encrypt key iv input).filter fun out => out.length == input.length

theorem length_evpCrypt {c : EvpCipher} {encrypt : Bool} {key iv input out : Bytes}
    (h : evpCrypt ssl c encrypt key iv input = some out) : out.length = input.length := by
  rw [evpCrypt, Option.filter_eq_some_iff] at h
  simpa using h.2

theorem evpCrypt_inverts (hssl : ssl.DecryptInverts) {c : EvpCipher} {key iv input out : Bytes}
    (h : evpCrypt ssl c true key iv input = some out) :
    evpCrypt ssl c false key iv out = some input := by
  have hlen := length_evpCrypt ssl h
  rw [evpCrypt, Option.filter_eq_some_iff] at h
  rw [evpCrypt, hssl c key iv input out h.1 hlen]
  simp [hlen]

/-- The all-zero initialisation vector of one cipher block. -/
def zeroIv (n : ℕ) : Bytes := List.replicate n 0

/-- `des3_cbc`: two-key 3DES, the 16-byte key stretched to `K1 | K2 | K1`. -/
def des3Cbc (encrypt : Bool) (key16 iv input : Bytes) : Option Bytes :=
  evpCrypt ssl .desEde3Cbc encrypt (key16 ++ key16.take 8) iv input

/-- `des_cbc`: single DES, as EDE3 with three equal keys. -/
def desCbc (key8 iv input : Bytes) : Option Bytes :=
  evpCrypt ssl .desEde3Cbc true (key8 ++ key8 ++ key8) iv input

/-- `des_ecb`: one block of single DES, as EDE3 with three equal keys. -/
def desEcb (encrypt : Bool) (key8 input : Bytes) : Option Bytes :=
  evpCrypt ssl .desEde3Ecb encrypt (key8 ++ key8 ++ key8) (zeroIv 8) input

/-- `retail_mac`: ISO 9797-1 algorithm 3.  A CBC-MAC with `K1` over the padded data, and
a decryption with `K2` and an encryption with `K1` on its last block. -/
def retailMac (key16 data : Bytes) : Option Bytes := do
  let padded := isoPad 8 data
  let cbc ← desCbc ssl (key16.take 8) (zeroIv 8) padded
  let last := (cbc.drop (padded.length - 8)).take 8
  let decrypted ← desEcb ssl false ((key16.drop 8).take 8) last
  desEcb ssl true (key16.take 8) decrypted

theorem length_retailMac {key16 data mac : Bytes} (h : retailMac ssl key16 data = some mac) :
    mac.length = 8 := by
  simp only [retailMac, Option.bind_eq_bind, Option.bind_eq_some_iff] at h
  obtain ⟨cbc, hcbc, decrypted, hdec, henc⟩ := h
  have h1 := length_evpCrypt ssl hcbc
  have h2 := length_evpCrypt ssl hdec
  have h3 := length_evpCrypt ssl henc
  have hpad := length_isoPad 8 (by decide) data
  rw [h3, h2, List.length_take, List.length_drop, h1]
  omega

/-- The recorded call behind a `des3_cbc` with a zero IV. -/
def des3Call (key16 input output : Bytes) : CipherCall :=
  ⟨.desEde3Cbc, key16 ++ key16.take 8, zeroIv 8, input, output⟩

/-- The recorded calls behind a retail MAC: the CBC output, its last block deciphered with
`K2`, and the MAC. -/
def retailCalls (key16 data cbc decrypted mac : Bytes) : List CipherCall :=
  let k1 := key16.take 8
  let k2 := (key16.drop 8).take 8
  [⟨.desEde3Cbc, k1 ++ k1 ++ k1, zeroIv 8, isoPad 8 data, cbc⟩,
    ⟨.desEde3Ecb, k2 ++ k2 ++ k2, zeroIv 8, decrypted, cbc.drop (cbc.length - 8)⟩,
    ⟨.desEde3Ecb, k1 ++ k1 ++ k1, zeroIv 8, decrypted, mac⟩]

/-! ## `pace.c`: AES and CMAC -/

/-- The bytes of a key buffer the chosen AES cipher reads. -/
def aesKey (key : Bytes) (keyLen : ℕ) : Bytes := key.take (if keyLen = 32 then 32 else 16)

/-- `aes_cbc`, with the cipher `aes_cbc_cipher` picks. -/
def aesCbc (encrypt : Bool) (key : Bytes) (keyLen : ℕ) (iv input : Bytes) : Option Bytes :=
  evpCrypt ssl (if keyLen = 32 then .aes256Cbc else .aes128Cbc) encrypt (aesKey key keyLen) iv input

/-- `aes_ecb_encrypt_block`, with the cipher `aes_ecb_cipher` picks. -/
def aesEcbEncryptBlock (key : Bytes) (keyLen : ℕ) (input : Bytes) : Option Bytes :=
  (ssl.cipher (if keyLen = 32 then .aes256Ecb else .aes128Ecb) true (aesKey key keyLen) [] input).filter
    fun out => out.length == 16

/-- `aes_cmac`: the full 16-byte tag. -/
def aesCmac (key : Bytes) (keyLen : ℕ) (data : Bytes) : Option Bytes :=
  (ssl.cmac (if keyLen = 32 then .aes256Cbc else .aes128Cbc) (key.take keyLen) data).filter
    fun out => out.length == 16

theorem length_aesCmac {key data mac : Bytes} {keyLen : ℕ}
    (h : aesCmac ssl key keyLen data = some mac) : mac.length = 16 := by
  rw [aesCmac, Option.filter_eq_some_iff] at h
  simpa using h.2

end NfcAdapter
