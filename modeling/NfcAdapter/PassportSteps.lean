/-
# What one callback of a passport read can do

For every callback of `PassportRead` the ways it can end, in terms of the fields the
invariants are about.  Nothing beyond this module unfolds a callback.
-/
import NfcAdapter.PassportRead

namespace NfcAdapter

variable {G P : Type} {env : PassportEnv G P}

/-! ## Moving the counters -/

/-- The same read with other send sequence counters. -/
def PassportRead.withSsc (read : PassportRead G) (bac : FixedBytes 8) (pace : FixedBytes 16) :
    PassportRead G :=
  { read with session := { read.session with ssc := bac }
              paceSession := { read.paceSession with ssc := pace } }

section WithSsc

variable (read : PassportRead G) (x : FixedBytes 8) (y : FixedBytes 16)

@[simp] theorem withSsc_dg1 : (read.withSsc x y).dg1 = read.dg1 := rfl

@[simp] theorem withSsc_dg2 : (read.withSsc x y).dg2 = read.dg2 := rfl

@[simp] theorem withSsc_mrz : (read.withSsc x y).mrz = read.mrz := rfl

@[simp] theorem withSsc_usePace : (read.withSsc x y).usePace = read.usePace := rfl

@[simp] theorem withSsc_readPhoto : (read.withSsc x y).readPhoto = read.readPhoto := rfl

@[simp] theorem withSsc_pace : (read.withSsc x y).pace = read.pace := rfl

end WithSsc

theorem bacProtect_fst (env : PassportEnv G P) (read : PassportRead G) (cmd : SmCommand) :
    ∃ x y, (bacProtect env read cmd).1 = read.withSsc x y :=
  ⟨_, read.paceSession.ssc, rfl⟩

theorem paceProtect_fst (env : PassportEnv G P) (read : PassportRead G) (cmd : SmCommand) :
    ∃ x y, (paceProtect env read cmd).1 = read.withSsc x y :=
  ⟨read.session.ssc, _, rfl⟩

theorem passportSmProtect_fst (env : PassportEnv G P) (read : PassportRead G) (cmd : SmCommand) :
    ∃ x y, (passportSmProtect env read cmd).1 = read.withSsc x y := by
  unfold passportSmProtect
  split
  · exact paceProtect_fst env read cmd
  · exact bacProtect_fst env read cmd

theorem bacUnprotect_fst (env : PassportEnv G P) (read : PassportRead G) (rapdu : Bytes) :
    ∃ x y, (bacUnprotect env read rapdu).1 = read.withSsc x y :=
  ⟨_, read.paceSession.ssc, rfl⟩

theorem paceUnprotect_fst (env : PassportEnv G P) (read : PassportRead G) (rapdu : Bytes) :
    ∃ x y, (paceUnprotect env read rapdu).1 = read.withSsc x y :=
  ⟨read.session.ssc, _, rfl⟩

theorem passportSmUnprotect_fst (env : PassportEnv G P) (read : PassportRead G) (rapdu : Bytes) :
    ∃ x y, (passportSmUnprotect env read rapdu).1 = read.withSsc x y := by
  unfold passportSmUnprotect
  split
  · exact paceUnprotect_fst env read rapdu
  · exact bacUnprotect_fst env read rapdu

/-! ## Sending and opening -/

/-- The plaintext of a response that unprotects with status 9000. -/
def PassportRead.opened (env : PassportEnv G P) (read : PassportRead G) (rapdu : Bytes) :
    Option Bytes :=
  match (passportSmUnprotect env read rapdu).2 with
  | some (plaintext, sw) => if sw = 0x9000 then plaintext else none
  | none => none

theorem opened_eq_some {read : PassportRead G} {rapdu plaintext : Bytes} :
    read.opened env rapdu = some plaintext ↔
      (passportSmUnprotect env read rapdu).2 = some (some plaintext, 0x9000) := by
  unfold PassportRead.opened
  rcases h : (passportSmUnprotect env read rapdu).2 with _ | ⟨o, sw⟩
  · simp
  · by_cases hsw : sw = 0x9000
    · simp [hsw]
    · simp [hsw]

/-- A response is opened, has no data, or is an error. -/
theorem passportSmResponseOk_cases (env : PassportEnv G P) (read : PassportRead G)
    (rapdu : Bytes) :
    ∃ x y,
      (∃ text, read.opened env rapdu = none ∧
        passportSmResponseOk env read rapdu = (read.withSsc x y, .error text)) ∨
      (read.opened env rapdu = none ∧
        passportSmResponseOk env read rapdu = (read.withSsc x y, .ok none)) ∨
      (∃ plaintext, read.opened env rapdu = some plaintext ∧
        passportSmResponseOk env read rapdu = (read.withSsc x y, .ok (some plaintext))) := by
  obtain ⟨x, y, hfst⟩ := passportSmUnprotect_fst env read rapdu
  refine ⟨x, y, ?_⟩
  unfold passportSmResponseOk PassportRead.opened
  rcases hr : passportSmUnprotect env read rapdu with ⟨read', _ | ⟨o, sw⟩⟩
  · rw [hr] at hfst
    exact Or.inl ⟨_, rfl, by rw [← hfst]⟩
  · rw [hr] at hfst
    by_cases hsw : sw = 0x9000
    · subst hsw
      rcases o with _ | plaintext
      · exact Or.inr (Or.inl ⟨by simp, by simp [← hfst]⟩)
      · exact Or.inr (Or.inr ⟨plaintext, by simp, by simp [← hfst]⟩)
    · exact Or.inl ⟨"The document rejected a secure messaging command", by simp [hsw],
        by simp [hsw, ← hfst]⟩

/-- A command is sent, or protecting it failed. -/
theorem passportSend_cases {read : PassportRead G} {r : PassportRead G × Option Bytes}
    (hfst : ∃ x y, r.1 = read.withSsc x y) (cmd : SmCommand) (next : Pending)
    (failed : PassportRead G → PassportRead G × PassportStatus) :
    ∃ x y,
      (∃ apdu, passportSend cmd next failed r
        = (read.withSsc x y, .waiting next ⟨apdu, some cmd⟩)) ∨
      passportSend cmd next failed r = failed (read.withSsc x y) := by
  obtain ⟨x, y, hfst⟩ := hfst
  refine ⟨x, y, ?_⟩
  rcases r with ⟨read', _ | apdu⟩
  · exact Or.inr (by rw [← hfst]; rfl)
  · exact Or.inl ⟨apdu, by rw [← hfst]; rfl⟩

/-- Sending writes what protecting wrote, also where the command is not sent. -/
theorem passportSend_fst {r : PassportRead G × Option Bytes} {cmd : SmCommand} {next : Pending}
    {failed : PassportRead G → PassportRead G × PassportStatus}
    (hfailed : ∀ read, (failed read).1 = read) : (passportSend cmd next failed r).1 = r.1 := by
  rcases r with ⟨read, _ | apdu⟩
  · exact hfailed read
  · rfl

/-! ## Data group buffers -/

/-- Whatever the header says, the plaintext is appended. -/
theorem dgAppend_data {maxLen : ℕ} {dg dg' : DgBuffer} {plaintext : Bytes} {ok : Bool}
    (h : dgAppend maxLen dg plaintext = some (dg', ok)) :
    dg'.data = dg.data ++ plaintext ∧ (dg.data ++ plaintext).length < 2 ^ 32 := by
  obtain ⟨data, hdata, hout⟩ := Option.map_eq_some_iff.mp h
  unfold byteArrayAppend at hdata
  split_ifs at hdata with hlen
  simp only [Option.some.injEq] at hdata
  subst hdata
  refine ⟨?_, by rwa [List.length_append]⟩
  split at hout
  · split at hout
    · split at hout <;> exact (congrArg (fun r => r.1.data) hout).symm
    · exact (congrArg (fun r => r.1.data) hout).symm
  · exact (congrArg (fun r => r.1.data) hout).symm

/-- The total length is fixed once, from a header the limit allows. -/
theorem dgAppend_true {maxLen : ℕ} {dg dg' : DgBuffer} {plaintext : Bytes}
    (h : dgAppend maxLen dg plaintext = some (dg', true)) :
    (dg.totalLen ≠ 0 ∧ dg'.totalLen = dg.totalLen) ∨
    (dg.totalLen = 0 ∧ ∃ headerLen contentLen,
      bacBerTlvHeader (dg.data ++ plaintext) = some (headerLen, contentLen) ∧
      headerLen + contentLen ≤ maxLen ∧ dg'.totalLen = headerLen + contentLen) := by
  obtain ⟨hdata, -⟩ := dgAppend_data h
  obtain ⟨data, hd, hout⟩ := Option.map_eq_some_iff.mp h
  have hdd : data = dg.data ++ plaintext := by
    unfold byteArrayAppend at hd
    split_ifs at hd
    exact (Option.some.inj hd).symm
  subst hdd
  by_cases htotal : dg.totalLen = 0
  · right
    refine ⟨htotal, ?_⟩
    rw [if_pos htotal] at hout
    rcases hhead : bacBerTlvHeader (dg.data ++ plaintext) with _ | ⟨headerLen, contentLen⟩
    · simp [hhead] at hout
    · simp only [hhead] at hout
      split_ifs at hout with hmax
      · simp at hout
      · exact ⟨headerLen, contentLen, rfl, by omega, (congrArg (fun r => r.1.totalLen) hout).symm⟩
  · left
    rw [if_neg htotal] at hout
    exact ⟨htotal, (congrArg (fun r => r.1.totalLen) hout).symm⟩

/-- A header that gives no usable length is met in the first plaintext only. -/
theorem dgAppend_false {maxLen : ℕ} {dg dg' : DgBuffer} {plaintext : Bytes}
    (h : dgAppend maxLen dg plaintext = some (dg', false)) :
    dg.totalLen = 0 ∧ ∀ headerLen contentLen,
      bacBerTlvHeader (dg.data ++ plaintext) = some (headerLen, contentLen) →
      maxLen < headerLen + contentLen := by
  obtain ⟨data, hd, hout⟩ := Option.map_eq_some_iff.mp h
  have hdd : data = dg.data ++ plaintext := by
    unfold byteArrayAppend at hd
    split_ifs at hd
    exact (Option.some.inj hd).symm
  subst hdd
  by_cases htotal : dg.totalLen = 0
  · refine ⟨htotal, ?_⟩
    intro headerLen contentLen hhead
    rw [if_pos htotal] at hout
    simp only [hhead] at hout
    split_ifs at hout with hmax
    · exact hmax
    · simp at hout
  · rw [if_neg htotal] at hout
    simp at hout

theorem dgAppend_totalLen_false {maxLen : ℕ} {dg dg' : DgBuffer} {plaintext : Bytes}
    (h : dgAppend maxLen dg plaintext = some (dg', false)) : dg'.totalLen = dg.totalLen := by
  obtain ⟨data, -, hout⟩ := Option.map_eq_some_iff.mp h
  split at hout
  · split at hout
    · split at hout
      · exact (congrArg (fun r => r.1.totalLen) hout).symm
      · simp at hout
    · exact (congrArg (fun r => r.1.totalLen) hout).symm
  · simp at hout

/-- Below the total nothing wraps. -/
theorem remaining_of_le {dg : DgBuffer} (hlen : dg.data.length ≤ dg.totalLen)
    (htotal : dg.totalLen < 2 ^ 64) : dg.remaining = dg.totalLen - dg.data.length := by
  unfold DgBuffer.remaining gsizeSub
  omega

/-- Nothing remains exactly when the buffer has its total length. -/
theorem remaining_eq_zero {dg : DgBuffer} (hlen : dg.data.length < 2 ^ 64)
    (htotal : dg.totalLen < 2 ^ 64) : dg.remaining = 0 ↔ dg.data.length = dg.totalLen := by
  unfold DgBuffer.remaining gsizeSub
  omega

/-! ## Where a read stands -/

/-- The callbacks that come after a handshake. -/
def Pending.secured : Pending → Bool
  | .paceSelectAid | .selectDg1 | .dg1Rest | .selectDg2 | .dg2Rest => true
  | _ => false

/-- The read has a handshake behind it: it waits for a protected response or has
succeeded. -/
def PassportStatus.secured : PassportStatus → Bool
  | .waiting pending _ => pending.secured
  | .finished success _ _ => success
  | .crashed => false

/-- The read has failed or crashed. -/
def PassportStatus.Stopped (status : PassportStatus) : Prop :=
  (∃ text, status = .finished false (some text) none) ∨ status = .crashed

theorem stopped_fail (read : PassportRead G) (text : String) :
    (passportFail read text).2.Stopped :=
  Or.inl ⟨text, rfl⟩

theorem PassportStatus.Stopped.secured {status : PassportStatus} (h : status.Stopped) :
    status.secured = false := by
  rcases h with ⟨text, rfl⟩ | rfl <;> rfl

/-! ## Before and in the handshake -/

/-- A callback that sends nothing protected: it waits for one of `nexts`, fails or
crashes, and leaves the data group buffers alone. -/
structure PlainStep (read : PassportRead G) (nexts : List Pending)
    (out : PassportRead G × PassportStatus) : Prop where
  usePace : out.1.usePace = read.usePace
  dg1 : out.1.dg1 = read.dg1
  dg2 : out.1.dg2 = read.dg2
  status : (∃ p ∈ nexts, ∃ apdu, out.2 = .waiting p ⟨apdu, none⟩) ∨ out.2.Stopped

section Plain

variable {read read' : PassportRead G} {nexts : List Pending}

theorem plainStep_fail (text : String) (hpace : read'.usePace = read.usePace)
    (hdg1 : read'.dg1 = read.dg1) (hdg2 : read'.dg2 = read.dg2) :
    PlainStep read nexts (passportFail read' text) :=
  ⟨hpace, hdg1, hdg2, Or.inr (stopped_fail _ _)⟩

theorem plainStep_transceive {next : Pending} (hnext : next ∈ nexts) (apdu : Bytes)
    (hpace : read'.usePace = read.usePace) (hdg1 : read'.dg1 = read.dg1)
    (hdg2 : read'.dg2 = read.dg2) :
    PlainStep read nexts (passportTransceive read' apdu next) :=
  ⟨hpace, hdg1, hdg2, Or.inl ⟨next, hnext, apdu, rfl⟩⟩

theorem plainStep_crashed (hpace : read'.usePace = read.usePace)
    (hdg1 : read'.dg1 = read.dg1) (hdg2 : read'.dg2 = read.dg2) :
    PlainStep read nexts (read', .crashed) :=
  ⟨hpace, hdg1, hdg2, Or.inr (Or.inr rfl)⟩

end Plain

theorem passportSelectAidReady_plain (read : PassportRead G) (bytes : Bytes) :
    PlainStep read [.passportGetChallenge] (passportSelectAidReady read bytes) := by
  unfold passportSelectAidReady
  split
  · exact plainStep_fail _ rfl rfl rfl
  · exact plainStep_transceive (by simp) _ rfl rfl rfl

theorem passportGetChallengeReady_plain (env : PassportEnv G P) (read : PassportRead G)
    (bytes : Bytes) (random : Option BacChallenge) :
    PlainStep read [.passportMutualAuth] (passportGetChallengeReady env read bytes random) := by
  unfold passportGetChallengeReady
  split
  · exact plainStep_fail _ rfl rfl rfl
  · dsimp only
    split
    · exact plainStep_fail _ rfl rfl rfl
    · exact plainStep_transceive (by simp) _ rfl rfl rfl

theorem passportSelectEfCardAccessReady_plain (read : PassportRead G) (bytes : Bytes) :
    PlainStep read [.efCardAccessRest] (passportSelectEfCardAccessReady read bytes) := by
  unfold passportSelectEfCardAccessReady
  split
  · exact plainStep_fail _ rfl rfl rfl
  · exact plainStep_transceive (by simp) _ rfl rfl rfl

theorem passportCardAccessMore_plain (env : PassportEnv G P) (read : PassportRead G) :
    PlainStep read [.efCardAccessRest, .paceMseSetAt] (passportCardAccessMore env read) := by
  unfold passportCardAccessMore passportCardAccessDone
  split
  · exact plainStep_transceive (by simp) _ rfl rfl rfl
  · split
    · exact plainStep_crashed rfl rfl rfl
    · split
      · exact plainStep_fail _ rfl rfl rfl
      · exact plainStep_transceive (by simp) _ rfl rfl rfl

theorem passportEfCardAccessRestReady_plain (env : PassportEnv G P) (read : PassportRead G)
    (bytes : Bytes) :
    PlainStep read [.efCardAccessRest, .paceMseSetAt]
      (passportEfCardAccessRestReady env read bytes) := by
  -- the tail of the callback works on a read with other EF.CardAccess fields only
  have hmore : ∀ cardAccess totalLen, PlainStep read [.efCardAccessRest, .paceMseSetAt]
      (passportCardAccessMore env
        { read with cardAccess := cardAccess, cardAccessTotalLen := totalLen }) := by
    intro cardAccess totalLen
    obtain ⟨hpace, hdg1, hdg2, hstatus⟩ := passportCardAccessMore_plain env
      { read with cardAccess := cardAccess, cardAccessTotalLen := totalLen }
    exact ⟨hpace, hdg1, hdg2, hstatus⟩
  unfold passportEfCardAccessRestReady
  split
  · exact plainStep_fail _ rfl rfl rfl
  · split
    · exact plainStep_crashed rfl rfl rfl
    · dsimp only
      split
      · split
        · exact plainStep_fail _ rfl rfl rfl
        · split
          · exact plainStep_fail _ rfl rfl rfl
          · exact hmore _ _
      · exact hmore _ read.cardAccessTotalLen

theorem paceMseSetAtReady_plain (read : PassportRead G) (bytes : Bytes) :
    PlainStep read [.paceGetNonce] (paceMseSetAtReady read bytes) := by
  unfold paceMseSetAtReady
  split
  · exact plainStep_fail _ rfl rfl rfl
  · exact plainStep_transceive (by simp) _ rfl rfl rfl

theorem paceGetNonceReady_plain (env : PassportEnv G P) (read : PassportRead G) (bytes : Bytes)
    (random : Option ℕ) :
    PlainStep read [.paceMapNonce] (paceGetNonceReady env read bytes random) := by
  unfold paceGetNonceReady
  split
  · exact plainStep_fail _ rfl rfl rfl
  · split
    · exact plainStep_fail _ rfl rfl rfl
    · exact plainStep_transceive (by simp) _ rfl rfl rfl

theorem paceMapNonceReady_plain (env : PassportEnv G P) (read : PassportRead G) (bytes : Bytes)
    (random : Option ℕ) :
    PlainStep read [.paceKeyAgreement] (paceMapNonceReady env read bytes random) := by
  unfold paceMapNonceReady
  split
  · exact plainStep_fail _ rfl rfl rfl
  · split
    · exact plainStep_fail _ rfl rfl rfl
    · exact plainStep_transceive (by simp) _ rfl rfl rfl

theorem paceKeyAgreementReady_plain (env : PassportEnv G P) (read : PassportRead G)
    (bytes : Bytes) :
    PlainStep read [.paceMutualAuth] (paceKeyAgreementReady env read bytes) := by
  unfold paceKeyAgreementReady
  split
  · exact plainStep_fail _ rfl rfl rfl
  · dsimp only
    split
    · exact plainStep_fail _ rfl rfl rfl
    · exact plainStep_transceive (by simp) _ rfl rfl rfl

theorem passportAcquireReady_plain (read : PassportRead G) :
    PlainStep read [if read.usePace then .selectEfCardAccess else .passportSelectAid]
      (passportAcquireReady read) := by
  unfold passportAcquireReady
  split <;> exact plainStep_transceive (by simp [*]) _ rfl rfl rfl

/-- Waiting for the chip's token means that the key agreement went through. -/
theorem paceKeyAgreementReady_waiting {read : PassportRead G} {bytes : Bytes} {p : Pending}
    {request : PassportRequest}
    (h : (paceKeyAgreementReady env read bytes).2 = .waiting p request) :
    ∃ pace pace', read.pace = some pace ∧
      paceProcessKeyAgreementResponse env.ssl env.ec pace bytes = some pace' ∧
      paceBuildMutualAuth env.ssl pace' = some request.apdu ∧
      (paceKeyAgreementReady env read bytes).1
        = { read with pace := some pace', paceSession := pace'.session } := by
  unfold paceKeyAgreementReady at h ⊢
  rcases hka : read.pace.bind fun pace =>
    paceProcessKeyAgreementResponse env.ssl env.ec pace bytes with _ | pace'
  · simp [hka, passportFail] at h
  · simp only [hka] at h ⊢
    obtain ⟨pace, hpace, hprocess⟩ := Option.bind_eq_some_iff.mp hka
    rcases htoken : paceBuildMutualAuth env.ssl pace' with _ | apdu
    · simp [htoken, passportFail] at h
    · simp only [htoken, passportTransceive, PassportStatus.waiting.injEq] at h ⊢
      obtain ⟨rfl, rfl⟩ := h
      exact ⟨pace, pace', hpace, hprocess, htoken, rfl⟩

/-- The reader's way through the BAC handshake. -/
theorem passportMutualAuthReady_cases (env : PassportEnv G P) (read : PassportRead G)
    (bytes : Bytes) :
    (passportMutualAuthReady env read bytes).2.Stopped ∨
    ∃ data session x y apdu, passportRawResponseOk bytes 40 = some data ∧
      bacProcessMutualAuthenticateResponse env.ssl read.keys read.challenge read.rndIcc data
        = some session ∧
      passportMutualAuthReady env read bytes = ({ read with session := session }.withSsc x y,
        .waiting .selectDg1 ⟨apdu, some (selectCommand dg1Fid)⟩) := by
  unfold passportMutualAuthReady
  rcases hraw : passportRawResponseOk bytes 40 with _ | data
  · exact Or.inl (stopped_fail _ _)
  · simp only
    rcases hsession : bacProcessMutualAuthenticateResponse env.ssl read.keys read.challenge
      read.rndIcc data with _ | session
    · exact Or.inl (stopped_fail _ _)
    · simp only
      obtain ⟨x, y, ⟨apdu, hsend⟩ | hsend⟩ := passportSend_cases
        (bacProtect_fst env { read with session := session } (selectCommand dg1Fid))
        (selectCommand dg1Fid) .selectDg1 protectFailed
      · exact Or.inr ⟨data, session, x, y, apdu, rfl, hsession, hsend⟩
      · rw [hsend]
        exact Or.inl (stopped_fail _ _)

/-- The reader's way through the PACE handshake. -/
theorem paceMutualAuthReady_cases (env : PassportEnv G P) (read : PassportRead G)
    (bytes : Bytes) :
    (paceMutualAuthReady env read bytes).2.Stopped ∨
    (read.paceVerified env bytes = true ∧ ∃ x y apdu, paceMutualAuthReady env read bytes
      = ({ read with pace := none }.withSsc x y,
        .waiting .paceSelectAid ⟨apdu, some paceSelectAidCommand⟩)) := by
  unfold paceMutualAuthReady
  by_cases hver : read.paceVerified env bytes = false
  · rw [if_pos hver]
    exact Or.inl (stopped_fail _ _)
  · rw [if_neg hver]
    obtain ⟨x, y, ⟨apdu, hsend⟩ | hsend⟩ := passportSend_cases
      (paceProtect_fst env { read with pace := none } paceSelectAidCommand)
      paceSelectAidCommand .paceSelectAid protectFailed
    · exact Or.inr ⟨by simpa using hver, x, y, apdu, hsend⟩
    · rw [hsend]
      exact Or.inl (stopped_fail _ _)

/-! ## Selecting and reading DG1 -/

theorem paceSelectAidReady_cases (env : PassportEnv G P) (read : PassportRead G)
    (bytes : Bytes) :
    (paceSelectAidReady env read bytes).2.Stopped ∨
    ∃ x y apdu, paceSelectAidReady env read bytes
      = (read.withSsc x y, .waiting .selectDg1 ⟨apdu, some (selectCommand dg1Fid)⟩) := by
  obtain ⟨x, y, hfst⟩ := paceUnprotect_fst env read bytes
  unfold paceSelectAidReady
  rcases hr : paceUnprotect env read bytes with ⟨read', _ | ⟨o, sw⟩⟩
  · exact Or.inl (stopped_fail _ _)
  · simp only [hr] at hfst ⊢
    by_cases hsw : sw = 0x9000
    · rw [if_pos hsw]
      subst hfst
      obtain ⟨x', y', ⟨apdu, hsend⟩ | hsend⟩ := passportSend_cases
        (paceProtect_fst env (read.withSsc x y) (selectCommand dg1Fid)) (selectCommand dg1Fid)
        .selectDg1 protectFailed
      · exact Or.inr ⟨x', y', apdu, hsend⟩
      · rw [hsend]
        exact Or.inl (stopped_fail _ _)
    · rw [if_neg hsw]
      exact Or.inl (stopped_fail _ _)

theorem passportSelectDg1Ready_cases (env : PassportEnv G P) (read : PassportRead G)
    (bytes : Bytes) :
    (passportSelectDg1Ready env read bytes).2.Stopped ∨
    ∃ x y apdu, passportSelectDg1Ready env read bytes = ({ read with dg1 := .new }.withSsc x y,
      .waiting .dg1Rest ⟨apdu, some readHeaderCommand⟩) := by
  -- what is sent once the SELECT has been answered
  have hgo : ∀ x y, (passportSend readHeaderCommand .dg1Rest protectFailed (passportSmProtect env
        { read.withSsc x y with dg1 := .new } readHeaderCommand)).2.Stopped ∨
      ∃ x' y' apdu, passportSend readHeaderCommand .dg1Rest protectFailed (passportSmProtect env
          { read.withSsc x y with dg1 := .new } readHeaderCommand)
        = ({ read with dg1 := .new }.withSsc x' y',
          .waiting .dg1Rest ⟨apdu, some readHeaderCommand⟩) := by
    intro x y
    obtain ⟨x', y', ⟨apdu, hsend⟩ | hsend⟩ := passportSend_cases
      (passportSmProtect_fst env { read.withSsc x y with dg1 := .new } readHeaderCommand)
      readHeaderCommand .dg1Rest protectFailed
    · exact Or.inr ⟨x', y', apdu, hsend⟩
    · rw [hsend]
      exact Or.inl (stopped_fail _ _)
  unfold passportSelectDg1Ready
  obtain ⟨x, y, ⟨text, -, hr⟩ | ⟨-, hr⟩ | ⟨plaintext, -, hr⟩⟩ :=
    passportSmResponseOk_cases env read bytes
  · rw [hr]
    exact Or.inl (stopped_fail _ _)
  · rw [hr]
    exact hgo x y
  · rw [hr]
    exact hgo x y

/-- What follows a complete or incomplete DG1 buffer. -/
theorem passportDg1ReadMore_cases (env : PassportEnv G P) (read : PassportRead G) :
    (passportDg1ReadMore env read).2.Stopped ∨
    (read.dg1.remaining ≠ 0 ∧ ∃ x y apdu, passportDg1ReadMore env read
      = (read.withSsc x y, .waiting .dg1Rest ⟨apdu, some read.dg1.nextCommand⟩)) ∨
    (read.dg1.remaining = 0 ∧ ∃ mrz x y, bacParseDg1Mrz read.dg1.data = some mrz ∧
      ((∃ apdu, passportDg1ReadMore env read = ({ read with mrz := mrz }.withSsc x y,
          .waiting .selectDg2 ⟨apdu, some (selectCommand dg2Fid)⟩)) ∨
        passportDg1ReadMore env read
          = passportBuildResultAndFinish env ({ read with mrz := mrz }.withSsc x y))) := by
  unfold passportDg1ReadMore
  by_cases hrem : read.dg1.remaining = 0
  · rw [if_pos hrem]
    rcases hmrz : bacParseDg1Mrz read.dg1.data with _ | mrz
    · exact Or.inl (stopped_fail _ _)
    · refine Or.inr (Or.inr ⟨hrem, ?_⟩)
      simp only
      by_cases hphoto : read.readPhoto = true
      · rw [if_pos hphoto]
        obtain ⟨x, y, hsend⟩ := passportSend_cases
          (passportSmProtect_fst env { read with mrz := mrz } (selectCommand dg2Fid))
          (selectCommand dg2Fid) .selectDg2 (passportBuildResultAndFinish env)
        exact ⟨mrz, x, y, rfl, hsend⟩
      · rw [if_neg hphoto]
        exact ⟨mrz, read.session.ssc, read.paceSession.ssc, rfl, Or.inr rfl⟩
  · rw [if_neg hrem]
    obtain ⟨x, y, ⟨apdu, hsend⟩ | hsend⟩ := passportSend_cases
      (passportSmProtect_fst env read read.dg1.nextCommand) read.dg1.nextCommand .dg1Rest
      protectFailed
    · exact Or.inr (Or.inl ⟨hrem, x, y, apdu, hsend⟩)
    · rw [hsend]
      exact Or.inl (stopped_fail _ _)

/-- **A DG1 response that keeps the read alive** was opened, and its plaintext went to the
end of the buffer. -/
theorem passportDg1RestReady_cases (env : PassportEnv G P) (read : PassportRead G)
    (bytes : Bytes) :
    (passportDg1RestReady env read bytes).2.Stopped ∨
    ∃ plaintext dg1, read.opened env bytes = some plaintext ∧
      dgAppend passportDg1MaxLen read.dg1 plaintext = some (dg1, true) ∧
      ((dg1.remaining ≠ 0 ∧ ∃ x y apdu, passportDg1RestReady env read bytes
        = ({ read with dg1 := dg1 }.withSsc x y,
          .waiting .dg1Rest ⟨apdu, some dg1.nextCommand⟩)) ∨
      (dg1.remaining = 0 ∧ ∃ mrz x y, bacParseDg1Mrz dg1.data = some mrz ∧
        ((∃ apdu, passportDg1RestReady env read bytes
            = ({ read with dg1 := dg1, mrz := mrz }.withSsc x y,
              .waiting .selectDg2 ⟨apdu, some (selectCommand dg2Fid)⟩)) ∨
          passportDg1RestReady env read bytes = passportBuildResultAndFinish env
            ({ read with dg1 := dg1, mrz := mrz }.withSsc x y)))) := by
  unfold passportDg1RestReady
  obtain ⟨x, y, ⟨text, -, hr⟩ | ⟨-, hr⟩ | ⟨plaintext, hopened, hr⟩⟩ :=
    passportSmResponseOk_cases env read bytes
  · rw [hr]
    exact Or.inl (stopped_fail _ _)
  · rw [hr]
    exact Or.inl (stopped_fail _ _)
  · simp only [hr, withSsc_dg1]
    rcases happ : dgAppend passportDg1MaxLen read.dg1 plaintext with _ | ⟨dg1, _ | _⟩
    · exact Or.inl (Or.inr rfl)
    · exact Or.inl (stopped_fail _ _)
    · rcases passportDg1ReadMore_cases env { read.withSsc x y with dg1 := dg1 } with hstop | hgo
      · exact Or.inl hstop
      · exact Or.inr ⟨plaintext, dg1, hopened, happ, hgo⟩

/-- An answer to DG1's SELECT writes the counters, and empties the buffer or leaves it. -/
theorem passportSelectDg1Ready_fst (env : PassportEnv G P) (read : PassportRead G)
    (bytes : Bytes) :
    ∃ x y, (passportSelectDg1Ready env read bytes).1 = read.withSsc x y ∨
      (passportSelectDg1Ready env read bytes).1 = { read with dg1 := .new }.withSsc x y := by
  have hgo : ∀ x y, ∃ x' y', (passportSend readHeaderCommand .dg1Rest protectFailed
      (passportSmProtect env { read.withSsc x y with dg1 := .new } readHeaderCommand)).1
      = { read with dg1 := .new }.withSsc x' y' := by
    intro x y
    rw [passportSend_fst (fun _ => rfl)]
    exact passportSmProtect_fst env { read.withSsc x y with dg1 := .new } readHeaderCommand
  unfold passportSelectDg1Ready
  obtain ⟨x, y, ⟨text, -, hr⟩ | ⟨-, hr⟩ | ⟨plaintext, -, hr⟩⟩ :=
    passportSmResponseOk_cases env read bytes
  · exact ⟨x, y, Or.inl (by rw [hr]; rfl)⟩
  · simp only [hr]
    obtain ⟨x', y', hout⟩ := hgo x y
    exact ⟨x', y', Or.inr hout⟩
  · simp only [hr]
    obtain ⟨x', y', hout⟩ := hgo x y
    exact ⟨x', y', Or.inr hout⟩

theorem passportDg1ReadMore_fst (env : PassportEnv G P) (read : PassportRead G) :
    ∃ mrz x y, (passportDg1ReadMore env read).1 = { read with mrz := mrz }.withSsc x y := by
  unfold passportDg1ReadMore
  split
  · split
    · exact ⟨read.mrz, read.session.ssc, read.paceSession.ssc, rfl⟩
    · next mrz _ =>
      split
      · refine ⟨mrz, ?_⟩
        rw [passportSelectDg2Start, passportSend_fst (fun _ => rfl)]
        exact passportSmProtect_fst env { read with mrz := mrz } (selectCommand dg2Fid)
      · exact ⟨mrz, read.session.ssc, read.paceSession.ssc, rfl⟩
  · refine ⟨read.mrz, ?_⟩
    rw [passportSend_fst (fun _ => rfl)]
    exact passportSmProtect_fst env read read.dg1.nextCommand

/-- An answer in the loop has its plaintext appended to the DG1 buffer, or has none that can
be. -/
theorem passportDg1RestReady_fst (env : PassportEnv G P) (read : PassportRead G)
    (bytes : Bytes) :
    ∃ dg1 mrz x y, (passportDg1RestReady env read bytes).1
        = { read with dg1 := dg1, mrz := mrz }.withSsc x y ∧
      ((dg1 = read.dg1 ∧ ∀ plaintext, read.opened env bytes = some plaintext →
          dgAppend passportDg1MaxLen read.dg1 plaintext = none) ∨
        ∃ plaintext ok, read.opened env bytes = some plaintext ∧
          dgAppend passportDg1MaxLen read.dg1 plaintext = some (dg1, ok)) := by
  unfold passportDg1RestReady
  obtain ⟨x, y, ⟨text, hclosed, hr⟩ | ⟨hclosed, hr⟩ | ⟨plaintext, hopened, hr⟩⟩ :=
    passportSmResponseOk_cases env read bytes
  · exact ⟨read.dg1, read.mrz, x, y, by rw [hr]; rfl, Or.inl ⟨rfl, by simp [hclosed]⟩⟩
  · exact ⟨read.dg1, read.mrz, x, y, by rw [hr]; rfl, Or.inl ⟨rfl, by simp [hclosed]⟩⟩
  · simp only [hr, withSsc_dg1]
    rcases happ : dgAppend passportDg1MaxLen read.dg1 plaintext with _ | ⟨dg1, _ | _⟩
    · exact ⟨read.dg1, read.mrz, x, y, rfl, Or.inl ⟨rfl, by simp [hopened, happ]⟩⟩
    · exact ⟨dg1, read.mrz, x, y, rfl, Or.inr ⟨plaintext, false, hopened, happ⟩⟩
    · obtain ⟨mrz, x', y', hout⟩ :=
        passportDg1ReadMore_fst env { read.withSsc x y with dg1 := dg1 }
      exact ⟨dg1, mrz, x', y', hout, Or.inr ⟨plaintext, true, hopened, happ⟩⟩

/-! ## The photo leg -/

/-- DG2 is selected: the buffer is new, or the read ends without one. -/
theorem passportSelectDg2Ready_cases (env : PassportEnv G P) (read : PassportRead G)
    (bytes : Bytes) :
    ∃ x y, (∃ apdu, passportSelectDg2Ready env read bytes
        = ({ read with dg2 := some .new }.withSsc x y,
          .waiting .dg2Rest ⟨apdu, some readHeaderCommand⟩)) ∨
      passportSelectDg2Ready env read bytes
        = passportBuildResultAndFinish env ({ read with dg2 := some .new }.withSsc x y) ∨
      passportSelectDg2Ready env read bytes
        = passportBuildResultAndFinish env (read.withSsc x y) := by
  have hgo : ∀ x y, ∃ x' y', (∃ apdu, passportSend readHeaderCommand .dg2Rest
        (passportBuildResultAndFinish env) (passportSmProtect env
          { read.withSsc x y with dg2 := some .new } readHeaderCommand)
        = ({ read with dg2 := some .new }.withSsc x' y',
          .waiting .dg2Rest ⟨apdu, some readHeaderCommand⟩)) ∨
      passportSend readHeaderCommand .dg2Rest (passportBuildResultAndFinish env)
        (passportSmProtect env { read.withSsc x y with dg2 := some .new } readHeaderCommand)
        = passportBuildResultAndFinish env ({ read with dg2 := some .new }.withSsc x' y') :=
    fun x y => passportSend_cases
      (passportSmProtect_fst env { read.withSsc x y with dg2 := some .new } readHeaderCommand)
      readHeaderCommand .dg2Rest (passportBuildResultAndFinish env)
  unfold passportSelectDg2Ready
  obtain ⟨x, y, ⟨text, -, hr⟩ | ⟨-, hr⟩ | ⟨plaintext, -, hr⟩⟩ :=
    passportSmResponseOk_cases env read bytes
  · exact ⟨x, y, Or.inr (Or.inr (by rw [hr]))⟩
  · simp only [hr]
    obtain ⟨x', y', hsend | hsend⟩ := hgo x y
    · exact ⟨x', y', Or.inl hsend⟩
    · exact ⟨x', y', Or.inr (Or.inl hsend)⟩
  · simp only [hr]
    obtain ⟨x', y', hsend | hsend⟩ := hgo x y
    · exact ⟨x', y', Or.inl hsend⟩
    · exact ⟨x', y', Or.inr (Or.inl hsend)⟩

/-- **All ends of a DG2 response**: not opened, an abort, an unusable header, a complete
buffer, or the next READ BINARY and its failure. -/
theorem passportDg2RestReady_cases (env : PassportEnv G P) (read : PassportRead G)
    (bytes : Bytes) :
    ∃ x y,
      (read.opened env bytes = none ∧ passportDg2RestReady env read bytes
        = passportBuildResultAndFinish env (read.withSsc x y)) ∨
      (∃ plaintext, read.opened env bytes = some plaintext ∧
        dgAppend passportDg2MaxLen (read.dg2.getD .new) plaintext = none ∧
        passportDg2RestReady env read bytes = (read.withSsc x y, .crashed)) ∨
      (∃ plaintext dg2, read.opened env bytes = some plaintext ∧
        dgAppend passportDg2MaxLen (read.dg2.getD .new) plaintext = some (dg2, false) ∧
        passportDg2RestReady env read bytes
          = passportBuildResultAndFinish env ({ read with dg2 := some dg2 }.withSsc x y)) ∨
      (∃ plaintext dg2, read.opened env bytes = some plaintext ∧
        dgAppend passportDg2MaxLen (read.dg2.getD .new) plaintext = some (dg2, true) ∧
        ((∃ apdu, dg2.remaining ≠ 0 ∧ passportDg2RestReady env read bytes
          = ({ read with dg2 := some dg2 }.withSsc x y,
            .waiting .dg2Rest ⟨apdu, some dg2.nextCommand⟩)) ∨
        passportDg2RestReady env read bytes
          = passportBuildResultAndFinish env ({ read with dg2 := some dg2 }.withSsc x y))) := by
  unfold passportDg2RestReady
  obtain ⟨x, y, ⟨text, hopened, hr⟩ | ⟨hopened, hr⟩ | ⟨plaintext, hopened, hr⟩⟩ :=
    passportSmResponseOk_cases env read bytes
  · exact ⟨x, y, Or.inl ⟨hopened, by rw [hr]⟩⟩
  · exact ⟨x, y, Or.inl ⟨hopened, by rw [hr]⟩⟩
  · simp only [hr, withSsc_dg2]
    rcases happ : dgAppend passportDg2MaxLen (read.dg2.getD .new) plaintext with _ | ⟨dg2, _ | _⟩
    · exact ⟨x, y, Or.inr (Or.inl ⟨plaintext, hopened, happ, rfl⟩)⟩
    · exact ⟨x, y, Or.inr (Or.inr (Or.inl ⟨plaintext, dg2, hopened, happ, rfl⟩))⟩
    · by_cases hrem : dg2.remaining = 0
      · refine ⟨x, y, Or.inr (Or.inr (Or.inr ⟨plaintext, dg2, hopened, happ, Or.inr ?_⟩))⟩
        simp only [passportDg2ReadMore, if_pos hrem]
        rfl
      · simp only [passportDg2ReadMore, if_neg hrem]
        obtain ⟨x', y', ⟨apdu, hsend⟩ | hsend⟩ := passportSend_cases
          (passportSmProtect_fst env { read.withSsc x y with dg2 := some dg2 } dg2.nextCommand)
          dg2.nextCommand .dg2Rest (passportBuildResultAndFinish env)
        · exact ⟨x', y', Or.inr (Or.inr (Or.inr ⟨plaintext, dg2, hopened, happ,
            Or.inl ⟨apdu, hrem, hsend⟩⟩))⟩
        · exact ⟨x', y', Or.inr (Or.inr (Or.inr ⟨plaintext, dg2, hopened, happ,
            Or.inr hsend⟩))⟩

/-- Of the read, a photo step writes the DG2 buffer and the counters. -/
theorem passportDg2RestReady_fst (env : PassportEnv G P) (read : PassportRead G) (bytes : Bytes) :
    ∃ dg2 x y, (passportDg2RestReady env read bytes).1
      = { read with dg2 := dg2 }.withSsc x y := by
  obtain ⟨x, y, ⟨-, hout⟩ | ⟨plaintext, -, -, hout⟩ | ⟨plaintext, dg2, -, -, hout⟩ |
    ⟨plaintext, dg2, -, -, ⟨apdu, -, hout⟩ | hout⟩⟩ := passportDg2RestReady_cases env read bytes
  · exact ⟨read.dg2, x, y, by rw [hout]; rfl⟩
  · exact ⟨read.dg2, x, y, by rw [hout]⟩
  · exact ⟨some dg2, x, y, by rw [hout]; rfl⟩
  · exact ⟨some dg2, x, y, by rw [hout]⟩
  · exact ⟨some dg2, x, y, by rw [hout]; rfl⟩

/-- The same for the answer to its SELECT. -/
theorem passportSelectDg2Ready_fst (env : PassportEnv G P) (read : PassportRead G)
    (bytes : Bytes) :
    ∃ dg2 x y, (passportSelectDg2Ready env read bytes).1
      = { read with dg2 := dg2 }.withSsc x y := by
  obtain ⟨x, y, ⟨apdu, hout⟩ | hout | hout⟩ := passportSelectDg2Ready_cases env read bytes
  · exact ⟨some .new, x, y, by rw [hout]⟩
  · exact ⟨some .new, x, y, by rw [hout]; rfl⟩
  · exact ⟨read.dg2, x, y, by rw [hout]; rfl⟩

/-! ## The callbacks in order -/

/-- The callbacks a callback can lead to. -/
def Pending.nexts : Pending → List Pending
  | .passportAcquire => [.selectEfCardAccess, .passportSelectAid]
  | .passportSelectAid => [.passportGetChallenge]
  | .passportGetChallenge => [.passportMutualAuth]
  | .passportMutualAuth => [.selectDg1]
  | .selectEfCardAccess => [.efCardAccessRest]
  | .efCardAccessRest => [.efCardAccessRest, .paceMseSetAt]
  | .paceMseSetAt => [.paceGetNonce]
  | .paceGetNonce => [.paceMapNonce]
  | .paceMapNonce => [.paceKeyAgreement]
  | .paceKeyAgreement => [.paceMutualAuth]
  | .paceMutualAuth => [.paceSelectAid]
  | .paceSelectAid => [.selectDg1]
  | .selectDg1 => [.dg1Rest]
  | .dg1Rest => [.dg1Rest, .selectDg2]
  | .selectDg2 => [.dg2Rest]
  | .dg2Rest => [.dg2Rest]

theorem PlainStep.mem_nexts {read : PassportRead G} {nexts : List Pending}
    {out : PassportRead G × PassportStatus} (h : PlainStep read nexts out) {q : Pending}
    {request : PassportRequest} (hout : out.2 = .waiting q request) : q ∈ nexts := by
  rcases h.status with ⟨r, hr, apdu, hout'⟩ | ⟨text, hout'⟩ | hout'
  · rw [hout', PassportStatus.waiting.injEq] at hout
    exact hout.1 ▸ hr
  · rw [hout'] at hout
    cases hout
  · rw [hout'] at hout
    cases hout

theorem PassportStatus.Stopped.ne_waiting {status : PassportStatus} (h : status.Stopped)
    (q : Pending) (request : PassportRequest) : status ≠ .waiting q request := by
  rcases h with ⟨text, rfl⟩ | rfl <;> simp

/-- **Control flow.** A callback leads only to the callbacks listed for it. -/
theorem passportReady_nexts (env : PassportEnv G P) (read : PassportRead G) (e : PassportEvent)
    (bytes : Bytes) {p q : Pending} {request : PassportRequest}
    (h : (passportReady env read e bytes p).2 = .waiting q request) : q ∈ p.nexts := by
  cases p with
  | passportAcquire =>
    have hmem := (passportAcquireReady_plain read).mem_nexts h
    rcases hpace : read.usePace <;> simp_all [Pending.nexts]
  | passportSelectAid => exact (passportSelectAidReady_plain read bytes).mem_nexts h
  | passportGetChallenge =>
    exact (passportGetChallengeReady_plain env read bytes e.challenge).mem_nexts h
  | passportMutualAuth =>
    rcases passportMutualAuthReady_cases env read bytes with
      hstop | ⟨data, session, x, y, apdu, -, -, hout⟩
    · exact absurd h (hstop.ne_waiting q request)
    · simp only [passportReady, hout, PassportStatus.waiting.injEq] at h
      simp [Pending.nexts, ← h.1]
  | selectEfCardAccess =>
    exact (passportSelectEfCardAccessReady_plain read bytes).mem_nexts h
  | efCardAccessRest => exact (passportEfCardAccessRestReady_plain env read bytes).mem_nexts h
  | paceMseSetAt => exact (paceMseSetAtReady_plain read bytes).mem_nexts h
  | paceGetNonce => exact (paceGetNonceReady_plain env read bytes e.scalar).mem_nexts h
  | paceMapNonce => exact (paceMapNonceReady_plain env read bytes e.scalar).mem_nexts h
  | paceKeyAgreement => exact (paceKeyAgreementReady_plain env read bytes).mem_nexts h
  | paceMutualAuth =>
    rcases paceMutualAuthReady_cases env read bytes with hstop | ⟨-, x, y, apdu, hout⟩
    · exact absurd h (hstop.ne_waiting q request)
    · simp only [passportReady, hout, PassportStatus.waiting.injEq] at h
      simp [Pending.nexts, ← h.1]
  | paceSelectAid =>
    rcases paceSelectAidReady_cases env read bytes with hstop | ⟨x, y, apdu, hout⟩
    · exact absurd h (hstop.ne_waiting q request)
    · simp only [passportReady, hout, PassportStatus.waiting.injEq] at h
      simp [Pending.nexts, ← h.1]
  | selectDg1 =>
    rcases passportSelectDg1Ready_cases env read bytes with hstop | ⟨x, y, apdu, hout⟩
    · exact absurd h (hstop.ne_waiting q request)
    · simp only [passportReady, hout, PassportStatus.waiting.injEq] at h
      simp [Pending.nexts, ← h.1]
  | dg1Rest =>
    rcases passportDg1RestReady_cases env read bytes with hstop |
      ⟨plaintext, dg1, -, -, ⟨-, x, y, apdu, hout⟩ | ⟨-, mrz, x, y, -, ⟨apdu, hout⟩ | hout⟩⟩
    · exact absurd h (hstop.ne_waiting q request)
    · simp only [passportReady, hout, PassportStatus.waiting.injEq] at h
      simp [Pending.nexts, ← h.1]
    · simp only [passportReady, hout, PassportStatus.waiting.injEq] at h
      simp [Pending.nexts, ← h.1]
    · simp [passportReady, hout, passportBuildResultAndFinish] at h
  | selectDg2 =>
    obtain ⟨x, y, ⟨apdu, hout⟩ | hout | hout⟩ := passportSelectDg2Ready_cases env read bytes
    · simp only [passportReady, hout, PassportStatus.waiting.injEq] at h
      simp [Pending.nexts, ← h.1]
    · simp [passportReady, hout, passportBuildResultAndFinish] at h
    · simp [passportReady, hout, passportBuildResultAndFinish] at h
  | dg2Rest =>
    obtain ⟨x, y, ⟨-, hout⟩ | ⟨plaintext, -, -, hout⟩ | ⟨plaintext, dg2, -, -, hout⟩ |
      ⟨plaintext, dg2, -, -, ⟨apdu, -, hout⟩ | hout⟩⟩ := passportDg2RestReady_cases env read bytes
    · simp [passportReady, hout, passportBuildResultAndFinish] at h
    · simp [passportReady, hout] at h
    · simp [passportReady, hout, passportBuildResultAndFinish] at h
    · simp only [passportReady, hout, PassportStatus.waiting.injEq] at h
      simp [Pending.nexts, ← h.1]
    · simp [passportReady, hout, passportBuildResultAndFinish] at h

/-- The callbacks that write a data group's buffer. -/
def Pending.writesBuffer : Pending → Bool
  | .selectDg1 | .dg1Rest | .selectDg2 | .dg2Rest => true
  | _ => false

/-- No other callback writes one. -/
theorem passportReady_buffers (env : PassportEnv G P) (read : PassportRead G) (e : PassportEvent)
    (bytes : Bytes) {p : Pending} (hp : p.writesBuffer = false) :
    (passportReady env read e bytes p).1.dg1 = read.dg1 ∧
      (passportReady env read e bytes p).1.dg2 = read.dg2 := by
  have hplain : ∀ nexts, PlainStep read nexts (passportReady env read e bytes p) →
      (passportReady env read e bytes p).1.dg1 = read.dg1 ∧
        (passportReady env read e bytes p).1.dg2 = read.dg2 :=
    fun _ h => ⟨h.dg1, h.dg2⟩
  cases p with
  | passportAcquire => exact hplain _ (passportAcquireReady_plain read)
  | passportSelectAid => exact hplain _ (passportSelectAidReady_plain read bytes)
  | passportGetChallenge =>
    exact hplain _ (passportGetChallengeReady_plain env read bytes e.challenge)
  | passportMutualAuth =>
    simp only [passportReady, passportMutualAuthReady]
    split
    · exact ⟨rfl, rfl⟩
    · split
      · exact ⟨rfl, rfl⟩
      · next session _ =>
        obtain ⟨x, y, hfst⟩ := bacProtect_fst env { read with session := session }
          (selectCommand dg1Fid)
        rw [passportSend_fst (fun _ => rfl), hfst]
        exact ⟨rfl, rfl⟩
  | selectEfCardAccess => exact hplain _ (passportSelectEfCardAccessReady_plain read bytes)
  | efCardAccessRest => exact hplain _ (passportEfCardAccessRestReady_plain env read bytes)
  | paceMseSetAt => exact hplain _ (paceMseSetAtReady_plain read bytes)
  | paceGetNonce => exact hplain _ (paceGetNonceReady_plain env read bytes e.scalar)
  | paceMapNonce => exact hplain _ (paceMapNonceReady_plain env read bytes e.scalar)
  | paceKeyAgreement => exact hplain _ (paceKeyAgreementReady_plain env read bytes)
  | paceMutualAuth =>
    simp only [passportReady, paceMutualAuthReady]
    split
    · exact ⟨rfl, rfl⟩
    · obtain ⟨x, y, hfst⟩ := paceProtect_fst env { read with pace := none } paceSelectAidCommand
      rw [passportSend_fst (fun _ => rfl), hfst]
      exact ⟨rfl, rfl⟩
  | paceSelectAid =>
    obtain ⟨x, y, hun⟩ := paceUnprotect_fst env read bytes
    simp only [passportReady, paceSelectAidReady]
    rcases hr : paceUnprotect env read bytes with ⟨read', _ | ⟨o, sw⟩⟩
    · rw [hr] at hun
      subst hun
      exact ⟨rfl, rfl⟩
    · rw [hr] at hun
      subst hun
      dsimp only
      split
      · obtain ⟨x', y', hfst⟩ := paceProtect_fst env (read.withSsc x y) (selectCommand dg1Fid)
        rw [passportSend_fst (fun _ => rfl), hfst]
        exact ⟨rfl, rfl⟩
      · exact ⟨rfl, rfl⟩
  | selectDg1 => cases hp
  | dg1Rest => cases hp
  | selectDg2 => cases hp
  | dg2Rest => cases hp

/-- A failed call writes nothing. -/
@[simp] theorem passportReplyFailed_fst (env : PassportEnv G P) (read : PassportRead G)
    (p : Pending) : (passportReplyFailed env read p).1 = read := by
  cases p <;> rfl

/-- A failed call leads to no further one. -/
theorem passportReplyFailed_ne_waiting (env : PassportEnv G P) (read : PassportRead G)
    (p q : Pending) (request : PassportRequest) :
    (passportReplyFailed env read p).2 ≠ .waiting q request := by
  cases p <;> simp [passportReplyFailed, passportFail, passportBuildResultAndFinish]

/-! ## The machine -/

/-- One completion, for a read that waits for it. -/
theorem step_reply {s : PassportState G} {e : PassportEvent} {p : Pending}
    {request : PassportRequest} {bytes : Bytes} (hs : s.status = .waiting p request)
    (he : e.reply = some bytes) :
    s.step env e = ⟨(passportReady env s.read e bytes p).1,
      (passportReady env s.read e bytes p).2⟩ := by
  simp [PassportState.step, hs, he]

theorem step_replyFailed {s : PassportState G} {e : PassportEvent} {p : Pending}
    {request : PassportRequest} (hs : s.status = .waiting p request) (he : e.reply = none) :
    s.step env e = ⟨(passportReplyFailed env s.read p).1,
      (passportReplyFailed env s.read p).2⟩ := by
  simp [PassportState.step, hs, he]

/-- A read that no longer waits stays as it is. -/
theorem step_of_not_waiting {s : PassportState G} (e : PassportEvent)
    (hs : ∀ p request, s.status ≠ .waiting p request) : s.step env e = s := by
  unfold PassportState.step
  split
  · next p request h => exact absurd h (hs p request)
  · rfl

theorem step_nexts {s : PassportState G} {e : PassportEvent} {p q : Pending}
    {request request' : PassportRequest} (hs : s.status = .waiting p request)
    (hs' : (s.step env e).status = .waiting q request') : q ∈ p.nexts := by
  rcases he : e.reply with _ | bytes
  · rw [step_replyFailed hs he] at hs'
    exact absurd hs' (passportReplyFailed_ne_waiting env s.read p q request')
  · rw [step_reply hs he] at hs'
    exact passportReady_nexts env s.read e bytes hs'

/-- A read that waits has waited before. -/
theorem waiting_before {s : PassportState G} {e : PassportEvent} {q : Pending}
    {request' : PassportRequest} (h : (s.step env e).status = .waiting q request') :
    ∃ p request, s.status = .waiting p request ∧ q ∈ p.nexts := by
  rcases hs : s.status with ⟨p, request⟩ | ⟨success, text, result⟩ | _
  · exact ⟨p, request, rfl, step_nexts hs h⟩
  · rw [step_of_not_waiting e (by simp [hs]), hs] at h
    cases h
  · rw [step_of_not_waiting e (by simp [hs]), hs] at h
    cases h

end NfcAdapter
