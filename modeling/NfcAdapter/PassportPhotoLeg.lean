/-
# The photo leg and the MRZ

Two reads that get the same completions, one with the photo and one without it.  They
agree in everything but `readPhoto` until DG1 is complete; from then on the read without
the photo is over, and whatever happens to the other one, what it reports of the MRZ is
fixed.
-/
import NfcAdapter.PassportPhoto

namespace NfcAdapter

open Runs ByteCounter

variable {G P : Type} {env : PassportEnv G P}

/-! ## Callbacks that do not look at the flag -/

/-- The same read with another `readPhoto`. -/
def PassportRead.withPhoto (read : PassportRead G) (b : Bool) : PassportRead G :=
  { read with readPhoto := b }

section WithPhoto

variable (read : PassportRead G) (b : Bool)

@[simp] theorem withPhoto_readPhoto : (read.withPhoto b).readPhoto = b := rfl

@[simp] theorem withPhoto_dg1 : (read.withPhoto b).dg1 = read.dg1 := rfl

@[simp] theorem withPhoto_mrz : (read.withPhoto b).mrz = read.mrz := rfl

@[simp] theorem withPhoto_usePace : (read.withPhoto b).usePace = read.usePace := rfl

@[simp] theorem withPhoto_pace : (read.withPhoto b).pace = read.pace := rfl

@[simp] theorem withPhoto_dg2 : (read.withPhoto b).dg2 = read.dg2 := rfl

@[simp] theorem withPhoto_keys : (read.withPhoto b).keys = read.keys := rfl

@[simp] theorem withPhoto_challenge : (read.withPhoto b).challenge = read.challenge := rfl

@[simp] theorem withPhoto_rndIcc : (read.withPhoto b).rndIcc = read.rndIcc := rfl

@[simp] theorem withPhoto_paceK : (read.withPhoto b).paceK = read.paceK := rfl

@[simp] theorem withPhoto_cardAccess : (read.withPhoto b).cardAccess = read.cardAccess := rfl

@[simp] theorem withPhoto_cardAccessTotalLen :
    (read.withPhoto b).cardAccessTotalLen = read.cardAccessTotalLen := rfl

end WithPhoto

/-- What a callback comes to does not depend on `readPhoto`, and it leaves it alone. -/
def PhotoBlind (f : PassportRead G → PassportRead G × PassportStatus) : Prop :=
  ∀ read b, f (read.withPhoto b) = ((f read).1.withPhoto b, (f read).2)

theorem photoBlind_fail (text : String) :
    PhotoBlind fun read : PassportRead G => passportFail read text :=
  fun _ _ => rfl

theorem photoBlind_build (env : PassportEnv G P) :
    PhotoBlind (passportBuildResultAndFinish env) :=
  fun _ _ => rfl

theorem passportSmProtect_withPhoto (env : PassportEnv G P) (read : PassportRead G) (b : Bool)
    (cmd : SmCommand) :
    passportSmProtect env (read.withPhoto b) cmd
      = ((passportSmProtect env read cmd).1.withPhoto b, (passportSmProtect env read cmd).2) := by
  unfold passportSmProtect
  rw [withPhoto_usePace]
  split <;> rfl

theorem passportSmResponseOk_withPhoto (env : PassportEnv G P) (read : PassportRead G) (b : Bool)
    (rapdu : Bytes) :
    passportSmResponseOk env (read.withPhoto b) rapdu
      = ((passportSmResponseOk env read rapdu).1.withPhoto b,
        (passportSmResponseOk env read rapdu).2) := by
  have hun : passportSmUnprotect env (read.withPhoto b) rapdu
      = ((passportSmUnprotect env read rapdu).1.withPhoto b,
        (passportSmUnprotect env read rapdu).2) := by
    unfold passportSmUnprotect
    rw [withPhoto_usePace]
    split <;> rfl
  unfold passportSmResponseOk
  rw [hun]
  rcases passportSmUnprotect env read rapdu with ⟨read', _ | ⟨plaintext, sw⟩⟩
  · rfl
  · dsimp only
    split <;> rfl

/-- Sending keeps the flag apart when the exit for a failure does. -/
theorem passportSend_withPhoto {failed : PassportRead G → PassportRead G × PassportStatus}
    (hfailed : PhotoBlind failed) (cmd : SmCommand) (next : Pending) (read : PassportRead G)
    (b : Bool) (apdu : Option Bytes) :
    passportSend cmd next failed (read.withPhoto b, apdu)
      = ((passportSend cmd next failed (read, apdu)).1.withPhoto b,
        (passportSend cmd next failed (read, apdu)).2) := by
  rcases apdu with _ | apdu
  · exact hfailed read b
  · rfl

theorem photoBlind_protect {failed : PassportRead G → PassportRead G × PassportStatus}
    (hfailed : PhotoBlind failed) (cmd : SmCommand) (next : Pending) :
    PhotoBlind fun read => passportSend cmd next failed (passportSmProtect env read cmd) := by
  intro read b
  simp only [passportSmProtect_withPhoto]
  exact passportSend_withPhoto hfailed cmd next _ b _

/-! ## The callbacks before the end of DG1 -/

theorem passportCardAccessMore_photoBlind (env : PassportEnv G P) :
    PhotoBlind (passportCardAccessMore env) := by
  intro read b
  simp only [passportCardAccessMore, passportCardAccessDone, withPhoto_cardAccess,
    withPhoto_cardAccessTotalLen, withPhoto_paceK]
  by_cases hmore : read.cardAccess.length < read.cardAccessTotalLen
  · simp only [hmore, if_true]
    rfl
  · simp only [hmore, if_false]
    rcases paceParseCardAccess read.cardAccess 8 with _ | entries
    · rfl
    · dsimp only
      rcases passportPickPaceEntry env read.paceK entries with text | ⟨pace, oid⟩ <;> rfl

theorem passportEfCardAccessRestReady_photoBlind (env : PassportEnv G P) (bytes : Bytes) :
    PhotoBlind fun read => passportEfCardAccessRestReady env read bytes := by
  intro read b
  have hmore := passportCardAccessMore_photoBlind env
  simp only [passportEfCardAccessRestReady, withPhoto_cardAccess, withPhoto_cardAccessTotalLen]
  by_cases hbytes : bytes.length < 3 ∨ bytes.drop (bytes.length - 2) ≠ [0x90, 0x00]
  · simp only [hbytes, if_true]
    rfl
  · simp only [hbytes, if_false]
    rcases byteArrayAppend read.cardAccess (bytes.take (bytes.length - 2)) with _ | cardAccess
    · rfl
    · dsimp only
      -- the first block brings the length of the file, a later one only its bytes
      by_cases htotal : read.cardAccessTotalLen = 0
      · simp only [htotal, if_true]
        rcases bacBerTlvHeader cardAccess with _ | ⟨headerLen, contentLen⟩
        · rfl
        · dsimp only
          by_cases hlen : headerLen + contentLen > efCardAccessMaxLen
          · simp only [hlen, if_true]
            rfl
          · simp only [hlen, if_false]
            exact hmore { read with cardAccess := cardAccess,
                                    cardAccessTotalLen := headerLen + contentLen } b
      · simp only [htotal, if_false]
        exact hmore { read with cardAccess := cardAccess } b

theorem passportSelectDg1Ready_photoBlind (env : PassportEnv G P) (bytes : Bytes) :
    PhotoBlind fun read => passportSelectDg1Ready env read bytes := by
  intro read b
  simp only [passportSelectDg1Ready, passportSmResponseOk_withPhoto]
  rcases passportSmResponseOk env read bytes with ⟨read', text | plaintext⟩
  · rfl
  · exact photoBlind_protect (photoBlind_fail _) readHeaderCommand .dg1Rest
      { read' with dg1 := .new } b

theorem passportDg2RestReady_photoBlind (env : PassportEnv G P) (bytes : Bytes) :
    PhotoBlind fun read => passportDg2RestReady env read bytes := by
  intro read b
  simp only [passportDg2RestReady, passportSmResponseOk_withPhoto]
  rcases passportSmResponseOk env read bytes with ⟨read', text | _ | plaintext⟩
  · rfl
  · rfl
  · simp only [withPhoto_dg2]
    rcases dgAppend passportDg2MaxLen (read'.dg2.getD .new) plaintext with _ | ⟨dg2, _ | _⟩
    · rfl
    · rfl
    · simp only [passportDg2ReadMore]
      by_cases hrem : dg2.remaining = 0
      · simp only [hrem, if_true]
        rfl
      · simp only [hrem, if_false]
        exact photoBlind_protect (photoBlind_build env) dg2.nextCommand .dg2Rest
          { read' with dg2 := some dg2 } b

theorem passportSelectDg2Ready_photoBlind (env : PassportEnv G P) (bytes : Bytes) :
    PhotoBlind fun read => passportSelectDg2Ready env read bytes := by
  intro read b
  simp only [passportSelectDg2Ready, passportSmResponseOk_withPhoto]
  rcases passportSmResponseOk env read bytes with ⟨read', text | plaintext⟩
  · rfl
  · exact photoBlind_protect (photoBlind_build env) readHeaderCommand .dg2Rest
      { read' with dg2 := some .new } b

/-- **Only the end of DG1 looks at the flag.** Every other callback does the same with and
without the photo. -/
theorem passportReady_photoBlind (env : PassportEnv G P) (e : PassportEvent) (bytes : Bytes)
    {p : Pending} (hp : p ≠ .dg1Rest) :
    PhotoBlind fun read => passportReady env read e bytes p := by
  intro read b
  cases p with
  | passportAcquire =>
    simp only [passportReady, passportAcquireReady, withPhoto_usePace]
    by_cases hpace : read.usePace = true
    · simp only [hpace, if_true]
      rfl
    · simp only [hpace]
      rfl
  | passportSelectAid =>
    simp only [passportReady, passportSelectAidReady]
    rcases passportRawResponseOk bytes 0 with _ | data <;> rfl
  | passportGetChallenge =>
    simp only [passportReady, passportGetChallengeReady, withPhoto_keys]
    rcases passportRawResponseOk bytes 8 with _ | data
    · rfl
    · dsimp only
      rcases bacBuildMutualAuthenticate env.ssl read.keys (.copy 8 data) e.challenge with
        _ | ⟨challenge, apdu⟩ <;> rfl
  | passportMutualAuth =>
    simp only [passportReady, passportMutualAuthReady, withPhoto_keys, withPhoto_challenge,
      withPhoto_rndIcc]
    rcases passportRawResponseOk bytes 40 with _ | data
    · rfl
    · dsimp only
      rcases bacProcessMutualAuthenticateResponse env.ssl read.keys read.challenge read.rndIcc
        data with _ | session
      · rfl
      · exact passportSend_withPhoto (photoBlind_fail _) (selectCommand dg1Fid) .selectDg1
          (bacProtect env { read with session := session } (selectCommand dg1Fid)).1 b _
  | selectEfCardAccess =>
    simp only [passportReady, passportSelectEfCardAccessReady]
    rcases passportRawResponseOk bytes 0 with _ | data <;> rfl
  | efCardAccessRest => exact passportEfCardAccessRestReady_photoBlind env bytes read b
  | paceMseSetAt =>
    simp only [passportReady, paceMseSetAtReady]
    rcases passportRawResponseOk bytes 0 with _ | data <;> rfl
  | paceGetNonce =>
    simp only [passportReady, paceGetNonceReady, withPhoto_pace]
    rcases read.pace.bind fun pace => paceProcessNonceResponse env.ssl pace bytes with _ | pace
    · rfl
    · dsimp only
      rcases paceBuildMapNonce env.ec pace e.scalar with _ | ⟨pace, apdu⟩ <;> rfl
  | paceMapNonce =>
    simp only [passportReady, paceMapNonceReady, withPhoto_pace]
    rcases read.pace.bind fun pace => paceProcessMapNonceResponse env.ec pace bytes with _ | pace
    · rfl
    · dsimp only
      rcases paceBuildKeyAgreement env.ec pace e.scalar with _ | ⟨pace, apdu⟩ <;> rfl
  | paceKeyAgreement =>
    simp only [passportReady, paceKeyAgreementReady, withPhoto_pace]
    rcases read.pace.bind fun pace => paceProcessKeyAgreementResponse env.ssl env.ec pace bytes
      with _ | pace
    · rfl
    · dsimp only
      rcases paceBuildMutualAuth env.ssl pace with _ | apdu <;> rfl
  | paceMutualAuth =>
    have hverified : (read.withPhoto b).paceVerified env bytes = read.paceVerified env bytes := rfl
    simp only [passportReady, paceMutualAuthReady, hverified]
    by_cases hver : read.paceVerified env bytes = false
    · simp only [hver, if_true]
      rfl
    · simp only [hver]
      exact passportSend_withPhoto (photoBlind_fail _) paceSelectAidCommand .paceSelectAid
        (paceProtect env { read with pace := none } paceSelectAidCommand).1 b _
  | paceSelectAid =>
    have hun : paceUnprotect env (read.withPhoto b) bytes
        = ((paceUnprotect env read bytes).1.withPhoto b, (paceUnprotect env read bytes).2) := rfl
    simp only [passportReady, paceSelectAidReady]
    rw [hun]
    rcases paceUnprotect env read bytes with ⟨read', _ | ⟨plaintext, sw⟩⟩
    · rfl
    · dsimp only
      split
      · exact passportSend_withPhoto (photoBlind_fail _) (selectCommand dg1Fid) .selectDg1
          (paceProtect env read' (selectCommand dg1Fid)).1 b _
      · rfl
  | selectDg1 => exact passportSelectDg1Ready_photoBlind env bytes read b
  | dg1Rest => exact absurd rfl hp
  | selectDg2 => exact passportSelectDg2Ready_photoBlind env bytes read b
  | dg2Rest => exact passportDg2RestReady_photoBlind env bytes read b

theorem passportReplyFailed_photoBlind (env : PassportEnv G P) (p : Pending) :
    PhotoBlind fun read => passportReplyFailed env read p := by
  intro read b
  cases p <;> rfl

/-! ## The end of DG1 -/

/-- A read that is over and reports `mrz` and the fields parsed from it. -/
def Reports (mrz : Bytes) (status : PassportStatus) : Prop :=
  ∃ photo, status = .finished true none (some ⟨mrz, bacParseMrzFields mrz, photo⟩)

/-- A read with nothing before it that could change what it reports. -/
def InPhotoLeg (mrz : Bytes) (s : PassportState G) : Prop :=
  match s.status with
  | .waiting p _ => p.afterDg1 = true ∧ s.read.mrz = mrz
  | .finished .. => Reports mrz s.status
  | .crashed => True

theorem inPhotoLeg_of_reports {mrz : Bytes} {s : PassportState G} (h : Reports mrz s.status) :
    InPhotoLeg mrz s := by
  obtain ⟨photo, hs⟩ := h
  unfold InPhotoLeg
  rw [hs]
  exact ⟨photo, rfl⟩

theorem inPhotoLeg_build (read : PassportRead G) :
    InPhotoLeg read.mrz (outcome (passportBuildResultAndFinish env read)) :=
  inPhotoLeg_of_reports ⟨_, rfl⟩

/-- The same after a step that left the MRZ alone. -/
theorem inPhotoLeg_build_of_mrz {mrz : Bytes} {read : PassportRead G} (h : read.mrz = mrz) :
    InPhotoLeg mrz (outcome (passportBuildResultAndFinish env read)) :=
  h ▸ inPhotoLeg_build read

/-- **The leg is never left.** Whatever a completion in the photo leg brings. -/
theorem InPhotoLeg.step {mrz : Bytes} {s : PassportState G} (h : InPhotoLeg mrz s)
    (e : PassportEvent) : InPhotoLeg mrz (s.step env e) := by
  rcases hst : s.status with ⟨p, request⟩ | ⟨success, text, result⟩ | _
  · have hleg := h
    unfold InPhotoLeg at hleg
    rw [hst] at hleg
    obtain ⟨hp, hmrz⟩ := hleg
    -- a failed call ends the leg with what there is, a reply may go on
    rcases he : e.reply with _ | bytes
    · rw [step_replyFailed hst he]
      cases p
      case selectDg2 => exact inPhotoLeg_build_of_mrz hmrz
      case dg2Rest => exact inPhotoLeg_build_of_mrz hmrz
      all_goals cases hp
    · rw [step_reply hst he]
      cases p
      case selectDg2 =>
        show InPhotoLeg mrz (outcome (passportSelectDg2Ready env s.read bytes))
        obtain ⟨x, y, ⟨apdu, hout⟩ | hout | hout⟩ := passportSelectDg2Ready_cases env s.read bytes
        · rw [hout]
          exact ⟨rfl, hmrz⟩
        · rw [hout]
          exact inPhotoLeg_build_of_mrz hmrz
        · rw [hout]
          exact inPhotoLeg_build_of_mrz hmrz
      case dg2Rest =>
        show InPhotoLeg mrz (outcome (passportDg2RestReady env s.read bytes))
        obtain ⟨x, y, ⟨-, hout⟩ | ⟨plaintext, -, -, hout⟩ | ⟨plaintext, dg2, -, -, hout⟩ |
          ⟨plaintext, dg2, -, -, ⟨apdu, -, hout⟩ | hout⟩⟩ :=
          passportDg2RestReady_cases env s.read bytes
        · rw [hout]
          exact inPhotoLeg_build_of_mrz hmrz
        · rw [hout]
          trivial
        · rw [hout]
          exact inPhotoLeg_build_of_mrz hmrz
        · rw [hout]
          exact ⟨rfl, hmrz⟩
        · rw [hout]
          exact inPhotoLeg_build_of_mrz hmrz
      all_goals cases hp
  · rw [step_of_not_waiting e (by simp [hst])]
    exact h
  · rw [step_of_not_waiting e (by simp [hst])]
    exact h

/-- The photo leg starts, or the read ends because SELECT could not be built. -/
theorem inPhotoLeg_start (read : PassportRead G) :
    InPhotoLeg read.mrz (outcome (passportSelectDg2Start env read)) := by
  unfold passportSelectDg2Start
  obtain ⟨x, y, ⟨apdu, hsend⟩ | hsend⟩ := passportSend_cases
    (passportSmProtect_fst env read (selectCommand dg2Fid)) (selectCommand dg2Fid) .selectDg2
    (passportBuildResultAndFinish env)
  · rw [hsend]
    exact ⟨rfl, rfl⟩
  · rw [hsend]
    exact inPhotoLeg_build_of_mrz rfl

/-! ## Two reads -/

/-- How a read without the photo, `s`, and one with it, `t`, stand to each other: they are
the same but for the flag, or DG1 is complete in both. -/
inductive PhotoPair : PassportState G → PassportState G → Prop
  | together (read : PassportRead G) (status : PassportStatus) :
      PhotoPair ⟨read.withPhoto false, status⟩ ⟨read.withPhoto true, status⟩
  | apart (s t : PassportState G) (mrz : Bytes) (hs : Reports mrz s.status)
      (ht : InPhotoLeg mrz t) : PhotoPair s t

/-- A callback that is blind to the flag keeps the two together. -/
theorem PhotoBlind.pair {f : PassportRead G → PassportRead G × PassportStatus}
    (hf : PhotoBlind f) (read : PassportRead G) :
    PhotoPair (outcome (f (read.withPhoto false))) (outcome (f (read.withPhoto true))) := by
  rw [hf read false, hf read true]
  exact .together (f read).1 (f read).2

theorem passportDg1ReadMore_pair (read : PassportRead G) :
    PhotoPair (outcome (passportDg1ReadMore env (read.withPhoto false)))
      (outcome (passportDg1ReadMore env (read.withPhoto true))) := by
  simp only [passportDg1ReadMore, withPhoto_dg1, withPhoto_readPhoto]
  by_cases hrem : read.dg1.remaining = 0
  · simp only [hrem, if_true]
    rcases bacParseDg1Mrz read.dg1.data with _ | mrz
    · exact (photoBlind_fail _).pair read
    · -- the one place where the two part
      exact .apart _ _ mrz ⟨_, rfl⟩ (inPhotoLeg_start { read.withPhoto true with mrz := mrz })
  · simp only [hrem, if_false]
    exact (photoBlind_protect (photoBlind_fail _) read.dg1.nextCommand .dg1Rest).pair read

theorem passportDg1RestReady_pair (read : PassportRead G) (bytes : Bytes) :
    PhotoPair (outcome (passportDg1RestReady env (read.withPhoto false) bytes))
      (outcome (passportDg1RestReady env (read.withPhoto true) bytes)) := by
  simp only [passportDg1RestReady, passportSmResponseOk_withPhoto]
  rcases passportSmResponseOk env read bytes with ⟨read', text | _ | plaintext⟩
  · exact (photoBlind_fail text).pair read'
  · exact (photoBlind_fail _).pair read'
  · simp only [withPhoto_dg1]
    rcases dgAppend passportDg1MaxLen read'.dg1 plaintext with _ | ⟨dg1, _ | _⟩
    · exact .together read' .crashed
    · exact (photoBlind_fail _).pair { read' with dg1 := dg1 }
    · exact passportDg1ReadMore_pair { read' with dg1 := dg1 }

theorem passportReady_pair (e : PassportEvent) (read : PassportRead G) (bytes : Bytes)
    (p : Pending) :
    PhotoPair (outcome (passportReady env (read.withPhoto false) e bytes p))
      (outcome (passportReady env (read.withPhoto true) e bytes p)) := by
  by_cases hp : p = .dg1Rest
  · rw [hp]
    exact passportDg1RestReady_pair read bytes
  · exact (passportReady_photoBlind env e bytes hp).pair read

/-- One completion, delivered to both. -/
theorem PhotoPair.step {s t : PassportState G} (h : PhotoPair s t) (e : PassportEvent) :
    PhotoPair (s.step env e) (t.step env e) := by
  cases h with
  | together read status =>
    rcases status with ⟨p, request⟩ | ⟨success, text, result⟩ | _
    · rcases he : e.reply with _ | bytes
      · rw [step_replyFailed rfl he, step_replyFailed rfl he]
        exact (passportReplyFailed_photoBlind env p).pair read
      · rw [step_reply rfl he, step_reply rfl he]
        exact passportReady_pair e read bytes p
    · exact .together read _
    · exact .together read _
  | apart _ _ mrz hs ht =>
    -- the read without the photo is over and stays as it is
    obtain ⟨photo, hst⟩ := hs
    rw [step_of_not_waiting e (by simp [hst])]
    exact .apart _ _ mrz ⟨photo, hst⟩ (ht.step e)

/-- The same start with another `read_photo`. -/
def PassportStart.withPhoto : PassportStart → Bool → PassportStart
  | .bac keys _, b => .bac keys b
  | .pace paceK _, b => .pace paceK b

theorem photoPair_start (start : PassportStart) :
    PhotoPair ((start.withPhoto false).state : PassportState G) (start.withPhoto true).state := by
  rcases start with ⟨keys, readPhoto⟩ | ⟨paceK, readPhoto⟩
  · exact .together { PassportRead.new with keys := keys } _
  · exact .together { PassportRead.new with usePace := true, paceK := paceK } _

theorem passportRun_pair (env : PassportEnv G P) (start : PassportStart)
    (events : List PassportEvent) :
    PhotoPair (passportRun env (start.withPhoto false) events)
      (passportRun env (start.withPhoto true) events) :=
  run_related PhotoPair (fun _ _ e h => h.step e) (photoPair_start start) events

/-- Once the read without the photo is over, the other one can only report the same. -/
theorem PhotoPair.same_mrz {s t : PassportState G} (h : PhotoPair s t) (leg : List PassportEvent)
    {success success' : Bool} {text text' : Option String}
    {result result' : Option PassportResult} (hs : s.status = .finished success text result)
    (ht : (run (PassportState.step env) t leg).status = .finished success' text' result') :
    success' = success ∧ result'.map (·.mrzText) = result.map (·.mrzText) ∧
      result'.map (·.fields) = result.map (·.fields) := by
  cases h with
  | together read status =>
    -- both are over, and no completion of the leg changes that
    have hrest : ∀ events, run (PassportState.step env) ⟨read.withPhoto true, status⟩ events
        = ⟨read.withPhoto true, status⟩ := by
      intro events
      refine invariant (fun u : PassportState G => u = ⟨read.withPhoto true, status⟩) ?_ rfl events
      rintro u e rfl
      exact step_of_not_waiting e (by simp_all)
    rw [hrest] at ht
    obtain ⟨rfl, rfl, rfl⟩ := PassportStatus.finished.inj (hs.symm.trans ht)
    exact ⟨rfl, rfl, rfl⟩
  | apart _ _ mrz hreports hleg =>
    have hend : InPhotoLeg mrz (run (PassportState.step env) t leg) :=
      invariant (InPhotoLeg mrz) (fun _ e h => h.step e) hleg leg
    unfold InPhotoLeg at hend
    rw [ht] at hend
    obtain ⟨photo, hs'⟩ := hreports
    obtain ⟨photo', ht'⟩ := hend
    obtain ⟨rfl, -, rfl⟩ := PassportStatus.finished.inj (hs.symm.trans hs')
    obtain ⟨rfl, -, rfl⟩ := PassportStatus.finished.inj ht'
    exact ⟨rfl, rfl, rfl⟩

/-- **The photo leg never changes the MRZ result.** Take a read without the photo that is
over after the completions `common`, and the same read with the photo, which gets the same
completions and then any others.  When that read is over too, both callbacks get the same
success flag, the same MRZ text and the same fields. -/
theorem photo_leg_keeps_mrz (env : PassportEnv G P) (start : PassportStart)
    (common leg : List PassportEvent) {success success' : Bool} {text text' : Option String}
    {result result' : Option PassportResult}
    (hplain : (passportRun env (start.withPhoto false) common).status
      = .finished success text result)
    (hphoto : (passportRun env (start.withPhoto true) (common ++ leg)).status
      = .finished success' text' result') :
    success' = success ∧ result'.map (·.mrzText) = result.map (·.mrzText) ∧
      result'.map (·.fields) = result.map (·.fields) := by
  have happ : passportRun env (start.withPhoto true) (common ++ leg)
      = run (PassportState.step env) (passportRun env (start.withPhoto true) common) leg :=
    run_append _ _ _ _
  rw [happ] at hphoto
  exact (passportRun_pair env start common).same_mrz leg hplain hphoto

/-- The specimen's tag is lost in the middle of the photo. -/
theorem photo_leg_keeps_mrz_lostTag :
    ∃ success' text' result',
      (passportRun specimenEnv (.bac specimenKeys true)
        (specimenEvents ++ lostTagEvents.drop 7)).status = .finished success' text' result' ∧
      success' = true ∧ result'.map (·.mrzText) = some [0x50, 0x3C] ∧
      result'.map (·.fields) = some none := by
  have hplain : (passportRun specimenEnv (.bac specimenKeys false) specimenEvents).status
      = .finished true none (some ⟨[0x50, 0x3C], none, none⟩) := by decide +kernel
  have hphoto : (passportRun specimenEnv (.bac specimenKeys true)
        (specimenEvents ++ lostTagEvents.drop 7)).status
      = .finished true none (some ⟨[0x50, 0x3C], none,
        some ([0xFF, 0xD8, 0xFF, 0xE0, 0x00], .jpeg)⟩) := by decide +kernel
  exact ⟨_, _, _, hphoto,
    photo_leg_keeps_mrz specimenEnv (.bac specimenKeys false) specimenEvents
      (lostTagEvents.drop 7) hplain hphoto⟩

end NfcAdapter
