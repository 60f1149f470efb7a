/-
# Reading a passport (`nfcd_client.c`)

One `passport_read` from the Acquire reply on: BAC or PACE, then EF.DG1 and, on
request, EF.DG2 under secure messaging.  Every callback is a function of the read and the
bytes its Transceive() brought; it ends in the next Transceive() or in the one call of
the caller's callback.  `step` runs the callback that is due.
-/
import NfcAdapter.Pace
import NfcAdapter.Runs

namespace NfcAdapter

open ByteCounter

/-! ## Data -/

/-- What the read gets from libraries: OpenSSL and the JPEG2000 converter
`photo_jp2_to_bmp`. -/
structure PassportEnv (G P : Type) where
  ssl : OpenSsl
  ec : EcApi G P
  photoJp2ToBmp : Bytes → Option Bytes

/-- `PassportResult`. -/
structure PassportResult where
  mrzText : Bytes
  fields : Option MrzFields
  photo : Option (Bytes × PhotoFormat)
  deriving DecidableEq

/-- A data group while it is read: `dg1` and `dg1_total_len`, or the same of DG2. -/
structure DgBuffer where
  data : Bytes
  totalLen : ℕ
  deriving DecidableEq, Repr

/-- The buffer right after `g_byte_array_new`. -/
def DgBuffer.new : DgBuffer := ⟨[], 0⟩

/-- `struct passport_read`, without the pointers that only route callbacks. -/
structure PassportRead (G : Type) where
  usePace : Bool
  readPhoto : Bool
  keys : BacStaticKeys
  challenge : BacChallenge
  session : BacSession
  rndIcc : FixedBytes 8
  paceK : Bytes
  cardAccess : Bytes
  cardAccessTotalLen : ℕ
  paceSelectedOid : Bytes
  pace : Option (PaceExchange G)
  paceSession : PaceSession
  dg1 : DgBuffer
  mrz : Bytes
  /-- `none` while `dg2` is NULL. -/
  dg2 : Option DgBuffer

/-- The callback a read is waiting for. -/
inductive Pending where
  | passportAcquire
  | passportSelectAid
  | passportGetChallenge
  | passportMutualAuth
  | selectEfCardAccess
  | efCardAccessRest
  | paceMseSetAt
  | paceGetNonce
  | paceMapNonce
  | paceKeyAgreement
  | paceMutualAuth
  | paceSelectAid
  | selectDg1
  | dg1Rest
  | selectDg2
  | dg2Rest
  deriving DecidableEq, Repr

/-- A request in flight: the APDU, and the command inside it when it is protected. -/
structure PassportRequest where
  apdu : Bytes
  command : Option SmCommand
  deriving DecidableEq, Repr

/-- How far a read has come.  `crashed` stands for an access outside a buffer and for an
abort of GLib, after which the program does nothing more. -/
inductive PassportStatus where
  | waiting (pending : Pending) (request : PassportRequest)
  | finished (success : Bool) (errorText : Option String) (result : Option PassportResult)
  | crashed
  deriving DecidableEq

/-- One asynchronous completion: the bytes of the reply, `none` for a D-Bus error, and
what the random generators deliver to the callback if it asks. -/
structure PassportEvent where
  reply : Option Bytes
  challenge : Option BacChallenge
  scalar : Option ℕ

variable {G P : Type} (env : PassportEnv G P)

/-! ## The pieces the callbacks share -/

/-- `g_byte_array_append`: GLib aborts when the length leaves 32 bits. -/
def byteArrayAppend (array bytes : Bytes) : Option Bytes :=
  if array.length + bytes.length < 2 ^ 32 then some (array ++ bytes) else none

/-- A difference of two `gsize`. -/
def gsizeSub (a b : ℕ) : ℕ := (a + (2 ^ 64 - b % 2 ^ 64)) % 2 ^ 64

/-- `passport_read_finish` with an error. -/
def passportFail (read : PassportRead G) (text : String) : PassportRead G × PassportStatus :=
  (read, .finished false (some text) none)

/-- `passport_transceive` of a plain APDU. -/
def passportTransceive (read : PassportRead G) (apdu : Bytes) (next : Pending) :
    PassportRead G × PassportStatus :=
  (read, .waiting next ⟨apdu, none⟩)

/-- `passport_raw_response_ok`: the data in front of the status bytes 90 00. -/
def passportRawResponseOk (resp : Bytes) (expectDataLen : ℕ) : Option Bytes :=
  if resp.length ≠ expectDataLen + 2 then none
  else if resp.drop expectDataLen ≠ [0x90, 0x00] then none
  else some (resp.take expectDataLen)

/-- `bac_sm_protect` on the session of the read. -/
def bacProtect (read : PassportRead G) (cmd : SmCommand) : PassportRead G × Option Bytes :=
  let r := bacSmProtect env.ssl read.session cmd
  ({ read with session := r.1 }, r.2)

/-- `pace_sm_protect` on the session of the read. -/
def paceProtect (read : PassportRead G) (cmd : SmCommand) : PassportRead G × Option Bytes :=
  let r := paceSmProtect env.ssl read.paceSession cmd
  ({ read with paceSession := r.1 }, r.2)

/-- The dispatch `read->use_pace ? pace_sm_protect(..) : bac_sm_protect(..)`. -/
def passportSmProtect (read : PassportRead G) (cmd : SmCommand) : PassportRead G × Option Bytes :=
  if read.usePace then paceProtect env read cmd else bacProtect env read cmd

/-- `bac_sm_unprotect` on the session of the read. -/
def bacUnprotect (read : PassportRead G) (rapdu : Bytes) :
    PassportRead G × Option (Option Bytes × UInt16) :=
  let r := bacSmUnprotect env.ssl read.session rapdu
  ({ read with session := r.1 }, r.2)

/-- `pace_sm_unprotect` on the session of the read. -/
def paceUnprotect (read : PassportRead G) (rapdu : Bytes) :
    PassportRead G × Option (Option Bytes × UInt16) :=
  let r := paceSmUnprotect env.ssl read.paceSession rapdu
  ({ read with paceSession := r.1 }, r.2)

/-- The dispatch in `passport_sm_response_ok`. -/
def passportSmUnprotect (read : PassportRead G) (rapdu : Bytes) :
    PassportRead G × Option (Option Bytes × UInt16) :=
  if read.usePace then paceUnprotect env read rapdu else bacUnprotect env read rapdu

/-- `passport_sm_response_ok`: the plaintext, or the error text. -/
def passportSmResponseOk (read : PassportRead G) (rapdu : Bytes) :
    PassportRead G × Except String (Option Bytes) :=
  match passportSmUnprotect env read rapdu with
  | (read, none) => (read, .error "Secure messaging integrity check failed")
  | (read, some (plaintext, sw)) =>
    if sw ≠ 0x9000 then (read, .error "The document rejected a secure messaging command")
    else (read, .ok plaintext)

/-- Send what protecting a command gave; `failed` is the exit when that was NULL. -/
def passportSend (cmd : SmCommand) (next : Pending)
    (failed : PassportRead G → PassportRead G × PassportStatus) :
    PassportRead G × Option Bytes → PassportRead G × PassportStatus
  | (read, none) => failed read
  | (read, some apdu) => (read, .waiting next ⟨apdu, some cmd⟩)

/-- The exit of a failed `*_sm_protect` on the way to DG1. -/
def protectFailed (read : PassportRead G) : PassportRead G × PassportStatus :=
  passportFail read "Failed to build the secure messaging command"

/-- SELECT by file identifier. -/
def selectCommand (fid : Bytes) : SmCommand := ⟨0x00, 0xA4, 0x02, 0x0C, fid, -1⟩

/-- The first READ BINARY of a file: four bytes, enough for a header. -/
def readHeaderCommand : SmCommand := ⟨0x00, 0xB0, 0x00, 0x00, [], 4⟩

/-- EF.DG1's identifier. -/
def dg1Fid : Bytes := [0x01, 0x01]

/-- EF.DG2's identifier. -/
def dg2Fid : Bytes := [0x01, 0x02]

/-! ## The result -/

/-- The photo of a DG2 buffer, JPEG2000 converted to BMP where that works. -/
def passportPhoto (dg2 : Bytes) : Option (Bytes × PhotoFormat) :=
  match bacExtractDg2Photo dg2 with
  | some (photo, .jpeg2000) =>
    match env.photoJp2ToBmp photo with
    | some bmp => some (bmp, .bmp)
    | none => some (photo, .jpeg2000)
  | other => other

/-- `passport_build_result_and_finish`. -/
def passportBuildResultAndFinish (read : PassportRead G) : PassportRead G × PassportStatus :=
  (read, .finished true none (some
    { mrzText := read.mrz
      fields := bacParseMrzFields read.mrz
      photo := read.dg2.bind fun dg2 => passportPhoto env dg2.data }))

/-! ## Reading a data group -/

/-- What a READ BINARY's plaintext does to the buffer: it is appended, and the first one
also gives the total length.  The flag says whether the header was usable. -/
def dgAppend (maxLen : ℕ) (dg : DgBuffer) (plaintext : Bytes) : Option (DgBuffer × Bool) :=
  (byteArrayAppend dg.data plaintext).map fun data =>
    if dg.totalLen = 0 then
      -- the first block tells how long the file is
      match bacBerTlvHeader data with
      | some (headerLen, contentLen) =>
        if headerLen + contentLen > maxLen then (⟨data, dg.totalLen⟩, false)
        else (⟨data, headerLen + contentLen⟩, true)
      | none => (⟨data, dg.totalLen⟩, false)
    else (⟨data, dg.totalLen⟩, true)

/-- `dgN_total_len - dgN->len`. -/
def DgBuffer.remaining (dg : DgBuffer) : ℕ := gsizeSub dg.totalLen dg.data.length

/-- The READ BINARY for the next chunk: the offset is the length so far. -/
def DgBuffer.nextCommand (dg : DgBuffer) : SmCommand :=
  ⟨0x00, 0xB0, (dg.data.length / 256).toUInt8, dg.data.length.toUInt8, [], min dg.remaining 255⟩

/-- `PASSPORT_DG1_MAX_LEN`. -/
def passportDg1MaxLen : ℕ := 2048

/-- `PASSPORT_DG2_MAX_LEN`. -/
def passportDg2MaxLen : ℕ := 65536

/-! ### EF.DG2 -/

/-- `passport_dg2_read_more`. -/
def passportDg2ReadMore (read : PassportRead G) (dg2 : DgBuffer) :
    PassportRead G × PassportStatus :=
  if dg2.remaining = 0 then passportBuildResultAndFinish env read
  else
    passportSend dg2.nextCommand .dg2Rest (passportBuildResultAndFinish env)
      (passportSmProtect env read dg2.nextCommand)

/-- `passport_dg2_rest_ready`. -/
def passportDg2RestReady (read : PassportRead G) (bytes : Bytes) :
    PassportRead G × PassportStatus :=
  match passportSmResponseOk env read bytes with
  | (read, .error _) => passportBuildResultAndFinish env read
  | (read, .ok none) => passportBuildResultAndFinish env read
  | (read, .ok (some plaintext)) =>
    match dgAppend passportDg2MaxLen (read.dg2.getD .new) plaintext with
    | none => (read, .crashed)
    | some (dg2, false) => passportBuildResultAndFinish env { read with dg2 := some dg2 }
    | some (dg2, true) => passportDg2ReadMore env { read with dg2 := some dg2 } dg2

/-- `passport_select_dg2_ready`. -/
def passportSelectDg2Ready (read : PassportRead G) (bytes : Bytes) :
    PassportRead G × PassportStatus :=
  match passportSmResponseOk env read bytes with
  -- without the photo there still is the MRZ
  | (read, .error _) => passportBuildResultAndFinish env read
  | (read, .ok _) =>
    passportSend readHeaderCommand .dg2Rest (passportBuildResultAndFinish env)
      (passportSmProtect env { read with dg2 := some .new } readHeaderCommand)

/-- `passport_select_dg2_start`. -/
def passportSelectDg2Start (read : PassportRead G) : PassportRead G × PassportStatus :=
  passportSend (selectCommand dg2Fid) .selectDg2 (passportBuildResultAndFinish env)
    (passportSmProtect env read (selectCommand dg2Fid))

/-! ### EF.DG1 -/

/-- `passport_dg1_read_more`. -/
def passportDg1ReadMore (read : PassportRead G) : PassportRead G × PassportStatus :=
  if read.dg1.remaining = 0 then
    match bacParseDg1Mrz read.dg1.data with
    | none => passportFail read "Could not parse the MRZ data group (EF.DG1)"
    | some mrz =>
      -- the MRZ is complete, and the photo is optional
      if read.readPhoto then passportSelectDg2Start env { read with mrz := mrz }
      else passportBuildResultAndFinish env { read with mrz := mrz }
  else
    passportSend read.dg1.nextCommand .dg1Rest protectFailed
      (passportSmProtect env read read.dg1.nextCommand)

/-- `passport_dg1_rest_ready`. -/
def passportDg1RestReady (read : PassportRead G) (bytes : Bytes) :
    PassportRead G × PassportStatus :=
  match passportSmResponseOk env read bytes with
  | (read, .error text) => passportFail read text
  | (read, .ok none) => passportFail read "Failed to read the MRZ data group (EF.DG1)"
  | (read, .ok (some plaintext)) =>
    match dgAppend passportDg1MaxLen read.dg1 plaintext with
    | none => (read, .crashed)
    | some (dg1, false) =>
      passportFail { read with dg1 := dg1 }
        "The MRZ data group (EF.DG1) has an unexpected structure"
    | some (dg1, true) => passportDg1ReadMore env { read with dg1 := dg1 }

/-- `passport_select_dg1_ready`. -/
def passportSelectDg1Ready (read : PassportRead G) (bytes : Bytes) :
    PassportRead G × PassportStatus :=
  match passportSmResponseOk env read bytes with
  | (read, .error text) => passportFail read text
  | (read, .ok _) =>
    passportSend readHeaderCommand .dg1Rest protectFailed
      (passportSmProtect env { read with dg1 := .new } readHeaderCommand)

/-! ## The BAC handshake -/

/-- `passport_select_aid_ready`. -/
def passportSelectAidReady (read : PassportRead G) (bytes : Bytes) :
    PassportRead G × PassportStatus :=
  match passportRawResponseOk bytes 0 with
  | none => passportFail read "Not an ICAO 9303 document (eMRTD application not found)"
  | some _ => passportTransceive read bacBuildGetChallenge .passportGetChallenge

/-- `passport_get_challenge_ready`. -/
def passportGetChallengeReady (read : PassportRead G) (bytes : Bytes)
    (random : Option BacChallenge) : PassportRead G × PassportStatus :=
  match passportRawResponseOk bytes 8 with
  | none => passportFail read "GET CHALLENGE failed"
  | some data =>
    -- the challenge of the chip goes into our answer
    let read := { read with rndIcc := .copy 8 data }
    match bacBuildMutualAuthenticate env.ssl read.keys read.rndIcc random with
    | none => passportFail read "Failed to generate a random challenge"
    | some (challenge, apdu) =>
      passportTransceive { read with challenge := challenge } apdu .passportMutualAuth

/-- `passport_mutual_auth_ready`. -/
def passportMutualAuthReady (read : PassportRead G) (bytes : Bytes) :
    PassportRead G × PassportStatus :=
  match passportRawResponseOk bytes 40 with
  | none =>
    passportFail read
      ("BAC authentication rejected - check the document number, date " ++
        "of birth and date of expiry, or this document may need PACE instead of BAC")
  | some data =>
    match bacProcessMutualAuthenticateResponse env.ssl read.keys read.challenge read.rndIcc
        data with
    | none => passportFail read "BAC authentication response could not be verified"
    | some session =>
      passportSend (selectCommand dg1Fid) .selectDg1 protectFailed
        (bacProtect env { read with session := session } (selectCommand dg1Fid))

/-! ## EF.CardAccess and the PACE handshake -/

/-- `ef_cardaccess_fid`. -/
def efCardAccessFid : Bytes := [0x01, 0x1C]

/-- `EF_CARDACCESS_MAX_LEN`. -/
def efCardAccessMaxLen : ℕ := 2048

/-- `passport_select_ef_cardaccess_ready`. -/
def passportSelectEfCardAccessReady (read : PassportRead G) (bytes : Bytes) :
    PassportRead G × PassportStatus :=
  match passportRawResponseOk bytes 0 with
  | none =>
    passportFail read
      ("Could not select EF.CardAccess - this document doesn't " ++
        "expose its PACE parameters where expected")
  | some _ =>
    passportTransceive { read with cardAccess := [] } [0x00, 0xB0, 0x00, 0x00, 0x00]
      .efCardAccessRest

/-- Two upper-case hexadecimal digits, `%02X`. -/
def hexByte (b : UInt8) : String :=
  String.ofList [(Nat.digitChar (b.toNat / 16)).toUpper, (Nat.digitChar (b.toNat % 16)).toUpper]

/-- How `passport_pick_pace_entry` names one entry it cannot use. -/
def PaceInfoEntry.text (entry : PaceInfoEntry) : String :=
  "protocol=" ++ String.join (entry.oid.map hexByte) ++
    (if entry.parameterId ≥ 0 then " parameterId=" ++ toString entry.parameterId else "")

/-- The error text of `passport_pick_pace_entry` when no entry is usable. -/
def unsupportedText (entries : List PaceInfoEntry) : String :=
  if entries = [] then
    "This document's EF.CardAccess didn't list any PACE " ++
      "support (SecurityInfos empty or unparseable)"
  else
    "This document's PACEInfo doesn't match anything this build " ++
      "supports (only ECDH-GM-AES-128/256 on NIST P-256, " ++
      "brainpoolP256r1 or brainpoolP320r1 - see pace.h). Found: " ++
      String.intercalate "; " (entries.map PaceInfoEntry.text)

/-- The first entry with a supported protocol and curve. -/
def pickEntry : List PaceInfoEntry → Option (PaceInfoEntry × Curve)
  | [] => none
  | entry :: rest =>
    if paceOidSupported entry.oid = false then pickEntry rest
    else
      match paceEcCurveForParameterId entry.parameterId with
      | none => pickEntry rest
      | some curve => some (entry, curve)

/-- `passport_pick_pace_entry`, on the entries found: the exchange and its OID, or the
error text. -/
def passportPickPaceEntry (paceK : Bytes) (entries : List PaceInfoEntry) :
    Except String (PaceExchange G × Bytes) :=
  match pickEntry entries with
  | none => .error (unsupportedText entries)
  | some (entry, curve) =>
    match paceExchangeNew env.ssl env.ec paceK curve entry.oid with
    | none => .error "Failed to set up the PACE exchange"
    | some pace => .ok (pace, entry.oid)

/-- The end of `passport_ef_cardaccess_rest_ready`: the file is complete. -/
def passportCardAccessDone (read : PassportRead G) : PassportRead G × PassportStatus :=
  -- at most eight entries are looked at
  match paceParseCardAccess read.cardAccess 8 with
  | none => (read, .crashed)
  | some entries =>
    match passportPickPaceEntry env read.paceK entries with
    | .error text => passportFail read text
    | .ok (pace, oid) =>
      passportTransceive { read with pace := some pace, paceSelectedOid := oid }
        (paceBuildMseSetAt oid true) .paceMseSetAt

/-- The READ BINARY for more of EF.CardAccess, or the end of the loop. -/
def passportCardAccessMore (read : PassportRead G) : PassportRead G × PassportStatus :=
  if read.cardAccess.length < read.cardAccessTotalLen then
    let remaining := read.cardAccessTotalLen - read.cardAccess.length
    passportTransceive read
      [0x00, 0xB0, (read.cardAccess.length / 256).toUInt8, read.cardAccess.length.toUInt8,
        (min remaining 255).toUInt8] .efCardAccessRest
  else passportCardAccessDone env read

/-- `passport_ef_cardaccess_rest_ready`. -/
def passportEfCardAccessRestReady (read : PassportRead G) (bytes : Bytes) :
    PassportRead G × PassportStatus :=
  if bytes.length < 3 ∨ bytes.drop (bytes.length - 2) ≠ [0x90, 0x00] then
    passportFail read "Failed to read EF.CardAccess"
  else
    match byteArrayAppend read.cardAccess (bytes.take (bytes.length - 2)) with
    | none => (read, .crashed)
    | some cardAccess =>
      let read := { read with cardAccess := cardAccess }
      if read.cardAccessTotalLen = 0 then
        match bacBerTlvHeader read.cardAccess with
        | none => passportFail read "EF.CardAccess has an unexpected structure"
        | some (headerLen, contentLen) =>
          if headerLen + contentLen > efCardAccessMaxLen then
            passportFail read "EF.CardAccess has an unexpected structure"
          else
            passportCardAccessMore env { read with cardAccessTotalLen := headerLen + contentLen }
      else passportCardAccessMore env read

/-- `pace_mse_set_at_ready`. -/
def paceMseSetAtReady (read : PassportRead G) (bytes : Bytes) : PassportRead G × PassportStatus :=
  match passportRawResponseOk bytes 0 with
  | none =>
    passportFail read
      ("MSE:Set AT was rejected even with this document's own " ++
        "advertised PACE parameters")
  | some _ => passportTransceive read paceBuildGetNonce .paceGetNonce

/-- `pace_get_nonce_ready`. -/
def paceGetNonceReady (read : PassportRead G) (bytes : Bytes) (random : Option ℕ) :
    PassportRead G × PassportStatus :=
  match read.pace.bind fun pace => paceProcessNonceResponse env.ssl pace bytes with
  | none => passportFail read "Failed to decrypt PACE's nonce - the CAN is probably wrong"
  | some pace =>
    match paceBuildMapNonce env.ec pace random with
    | none => passportFail { read with pace := some pace } "Failed to generate a mapping key"
    | some (pace, apdu) => passportTransceive { read with pace := some pace } apdu .paceMapNonce

/-- `pace_map_nonce_ready`. -/
def paceMapNonceReady (read : PassportRead G) (bytes : Bytes) (random : Option ℕ) :
    PassportRead G × PassportStatus :=
  match read.pace.bind fun pace => paceProcessMapNonceResponse env.ec pace bytes with
  | none => passportFail read "Failed to map PACE's nonce"
  | some pace =>
    match paceBuildKeyAgreement env.ec pace random with
    | none => passportFail { read with pace := some pace } "Failed to generate a key-agreement key"
    | some (pace, apdu) =>
      passportTransceive { read with pace := some pace } apdu .paceKeyAgreement

/-- `pace_key_agreement_ready`. -/
def paceKeyAgreementReady (read : PassportRead G) (bytes : Bytes) :
    PassportRead G × PassportStatus :=
  match read.pace.bind fun pace => paceProcessKeyAgreementResponse env.ssl env.ec pace bytes with
  | none => passportFail read "PACE key agreement failed"
  | some pace =>
    let read := { read with pace := some pace, paceSession := pace.session }
    match paceBuildMutualAuth env.ssl pace with
    | none => passportFail read "Failed to build the PACE authentication token"
    | some apdu => passportTransceive read apdu .paceMutualAuth

/-- Whether `pace_verify_mutual_auth_response` returns TRUE on the exchange of a read. -/
def PassportRead.paceVerified (read : PassportRead G) (bytes : Bytes) : Bool :=
  read.pace.any fun pace => paceVerifyMutualAuthResponse env.ssl pace bytes

/-- SELECT of the eMRTD application, `pace_emrtd_aid`, under secure messaging. -/
def paceSelectAidCommand : SmCommand := ⟨0x00, 0xA4, 0x04, 0x0C, emrtdAid, -1⟩

/-- `pace_mutual_auth_ready`. -/
def paceMutualAuthReady (read : PassportRead G) (bytes : Bytes) :
    PassportRead G × PassportStatus :=
  if read.paceVerified env bytes = false then
    passportFail read "PACE authentication rejected - check the CAN"
  else
    passportSend paceSelectAidCommand .paceSelectAid protectFailed
      (paceProtect env { read with pace := none } paceSelectAidCommand)

/-- `pace_select_aid_ready`. -/
def paceSelectAidReady (read : PassportRead G) (bytes : Bytes) : PassportRead G × PassportStatus :=
  match paceUnprotect env read bytes with
  | (read, some (_, sw)) =>
    if sw = 0x9000 then
      passportSend (selectCommand dg1Fid) .selectDg1 protectFailed
        (paceProtect env read (selectCommand dg1Fid))
    else passportFail read "Failed to select the eMRTD application under secure messaging"
  | (read, none) =>
    passportFail read "Failed to select the eMRTD application under secure messaging"

/-- `passport_acquire_ready`, once the tag is held. -/
def passportAcquireReady (read : PassportRead G) : PassportRead G × PassportStatus :=
  if read.usePace then
    passportTransceive read
      ([0x00, 0xA4, 0x02, 0x0C, efCardAccessFid.length.toUInt8] ++ efCardAccessFid)
      .selectEfCardAccess
  else passportTransceive read bacBuildSelectAid .passportSelectAid

/-! ## The machine -/

/-- A read and how far it has come. -/
structure PassportState (G : Type) where
  read : PassportRead G
  status : PassportStatus

/-- What each callback does when its call failed. -/
def passportReplyFailed (read : PassportRead G) : Pending → PassportRead G × PassportStatus
  | .passportAcquire => passportFail read "Failed to acquire the tag"
  | .selectDg2 => passportBuildResultAndFinish env read
  | .dg2Rest => passportBuildResultAndFinish env read
  | _ => passportFail read "Failed to reach the tag"

/-- The callback that is due, on the bytes of the reply. -/
def passportReady (read : PassportRead G) (e : PassportEvent) (bytes : Bytes) :
    Pending → PassportRead G × PassportStatus
  | .passportAcquire => passportAcquireReady read
  | .passportSelectAid => passportSelectAidReady read bytes
  | .passportGetChallenge => passportGetChallengeReady env read bytes e.challenge
  | .passportMutualAuth => passportMutualAuthReady env read bytes
  | .selectEfCardAccess => passportSelectEfCardAccessReady read bytes
  | .efCardAccessRest => passportEfCardAccessRestReady env read bytes
  | .paceMseSetAt => paceMseSetAtReady read bytes
  | .paceGetNonce => paceGetNonceReady env read bytes e.scalar
  | .paceMapNonce => paceMapNonceReady env read bytes e.scalar
  | .paceKeyAgreement => paceKeyAgreementReady env read bytes
  | .paceMutualAuth => paceMutualAuthReady env read bytes
  | .paceSelectAid => paceSelectAidReady env read bytes
  | .selectDg1 => passportSelectDg1Ready env read bytes
  | .dg1Rest => passportDg1RestReady env read bytes
  | .selectDg2 => passportSelectDg2Ready env read bytes
  | .dg2Rest => passportDg2RestReady env read bytes

/-- One completion. -/
def PassportState.step (s : PassportState G) (e : PassportEvent) : PassportState G :=
  match s.status with
  | .waiting pending _ =>
    let r := match e.reply with
      | none => passportReplyFailed env s.read pending
      | some bytes => passportReady env s.read e bytes pending
    ⟨r.1, r.2⟩
  | _ => s

/-- A `BacSession` of zeros. -/
def BacSession.zero : BacSession := ⟨.copy 16 [], .copy 16 [], .copy 8 []⟩

/-- The zeroed read `g_new0` gives. -/
def PassportRead.new : PassportRead G where
  usePace := false
  readPhoto := false
  keys := ⟨.copy 16 [], .copy 16 []⟩
  challenge := ⟨.copy 8 [], .copy 16 []⟩
  session := .zero
  rndIcc := .copy 8 []
  paceK := []
  cardAccess := []
  cardAccessTotalLen := 0
  paceSelectedOid := []
  pace := none
  paceSession := .zero
  dg1 := .new
  mrz := []
  dg2 := none

/-- A read that waits for its Acquire reply. -/
def PassportState.acquiring (read : PassportRead G) : PassportState G :=
  ⟨read, .waiting .passportAcquire ⟨[], none⟩⟩

/-- `nfcd_client_read_passport`, from the derived keys on. -/
def PassportState.startBac (keys : BacStaticKeys) (readPhoto : Bool) : PassportState G :=
  .acquiring { PassportRead.new with keys := keys, readPhoto := readPhoto }

/-- `nfcd_client_read_passport_pace`, from the encoded password on. -/
def PassportState.startPace (paceK : Bytes) (readPhoto : Bool) : PassportState G :=
  .acquiring { PassportRead.new with usePace := true, paceK := paceK, readPhoto := readPhoto }

end NfcAdapter
