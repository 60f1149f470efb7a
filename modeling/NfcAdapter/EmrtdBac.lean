/-
# A document read over BAC

The whole read of a document by a reader that has derived its keys: the application is
selected, the handshake gives both sides one session, and the read reports what the
document holds.
-/
import NfcAdapter.EmrtdRead
import Mathlib.Algebra.Group.PUnit

namespace NfcAdapter

open ByteCounter Runs

variable {G P : Type} {env : PassportEnv G P}

/-- The read has sent a plain APDU to a chip in this phase. -/
structure Plain (p : Pending) (apdu : Bytes) (chip : ChipPhase P) (Q : PassportRead G → Prop)
    (d : Dialogue G P) : Prop where
  status : d.reader.status = .waiting p ⟨apdu, none⟩
  chip : d.chip = chip
  read : Q d.reader.read

/-- What a BAC read of the document has from its start. -/
structure BacRead (doc : Document) (readPhoto : Bool) (read : PassportRead G) : Prop where
  usePace : read.usePace = false
  keys : read.keys = doc.keys
  readPhoto : read.readPhoto = readPhoto
  dg2 : read.dg2 = none

/-- The data in front of the status bytes of a success. -/
theorem passportRawResponseOk_swOk {data : Bytes} {n : ℕ} (h : data.length = n) :
    passportRawResponseOk (data ++ swOk) n = some data := by
  subst h
  rw [passportRawResponseOk, List.drop_left, List.take_left, if_neg (by simp [swOk]),
    if_neg (by simp [swOk])]

/-- MUTUAL AUTHENTICATE can be built with what the reader draws. -/
theorem bacBuildMutualAuthenticate_total {ssl : OpenSsl} (hssl : ssl.Total) (keys : BacStaticKeys)
    (rndIcc : FixedBytes 8) (challenge : BacChallenge) :
    ∃ apdu, bacBuildMutualAuthenticate ssl keys rndIcc (some challenge)
      = some (challenge, apdu) := by
  obtain ⟨eifd, heifd⟩ : ∃ eifd, des3Cbc ssl true keys.kenc.1 (zeroIv 8)
      (challenge.rndIfd.1 ++ rndIcc.1 ++ challenge.kIfd.1) = some eifd := by
    refine evpCrypt_total hssl true _ ?_ ?_
    · simp only [List.length_append, List.length_take, keys.kenc.2, EvpCipher.keyLen]
      rfl
    · simp only [List.length_append, challenge.rndIfd.2, rndIcc.2, challenge.kIfd.2,
        EvpCipher.blockLen]
  obtain ⟨mifd, hmifd⟩ := retailMac_total hssl keys.kmac eifd
  exact ⟨_, by
    simp only [bacBuildMutualAuthenticate, Option.bind_eq_bind, Option.bind_some, heifd, hmifd,
      Option.pure_def]
    rfl⟩

/-- A chip answers every MUTUAL AUTHENTICATE of a reader with its keys. -/
theorem BacChip.respond_total {ssl : OpenSsl} (hssl : ssl.Total) (hinv : ssl.DecryptInverts)
    {keys : BacStaticKeys} {rndIcc : FixedBytes 8} {challenge : BacChallenge}
    {random : Option BacChallenge} {apdu : Bytes}
    (h : bacBuildMutualAuthenticate ssl keys rndIcc random = some (challenge, apdu))
    (k : FixedBytes 16) :
    ∃ response, BacChip.respond ⟨keys, rndIcc, k⟩ ssl apdu = some response := by
  obtain ⟨eicc, heicc⟩ : ∃ eicc, des3Cbc ssl true keys.kenc.1 (zeroIv 8)
      (rndIcc.1 ++ challenge.rndIfd.1 ++ k.1) = some eicc := by
    refine evpCrypt_total hssl true _ ?_ ?_
    · simp only [List.length_append, List.length_take, keys.kenc.2, EvpCipher.keyLen]
      rfl
    · simp only [List.length_append, challenge.rndIfd.2, rndIcc.2, k.2, EvpCipher.blockLen]
  obtain ⟨micc, hmicc⟩ := retailMac_total hssl keys.kmac eicc
  exact ⟨_, by
    rw [BacChip.respond, BacChip.receive_command hinv h k]
    simp only [Option.bind_eq_bind, Option.bind_some, heicc, hmicc, Option.pure_def]
    rfl⟩

section Handshake

variable [AddCommGroup P] {E : CurveGroup P} {doc : Document} {readPhoto : Bool}
  {d : Dialogue G P}

/-- The daemon has granted the tag. -/
theorem bac_acquired (draw : Draws) :
    Plain .passportSelectAid bacBuildSelectAid .idle (BacRead doc readPhoto)
      ((Dialogue.start (.bac doc.keys readPhoto)).step env E doc draw) :=
  ⟨rfl, rfl, rfl, rfl, rfl, rfl⟩

/-- The application is selected. -/
theorem bac_selected
    (h : Plain .passportSelectAid bacBuildSelectAid .idle (BacRead doc readPhoto) d)
    (draw : Draws) :
    Plain .passportGetChallenge bacBuildGetChallenge .application (BacRead doc readPhoto)
      (d.step env E doc draw) := by
  have hchip : doc.respond env.ssl E draw d.chip bacBuildSelectAid = (.application, swOk) := by
    rw [h.chip]
    rfl
  rw [Dialogue.step_of_waiting (by decide) h.status hchip]
  exact ⟨rfl, rfl, h.read⟩

/-- What has gone over the air before MUTUAL AUTHENTICATE. -/
structure Challenged (env : PassportEnv G P) (doc : Document) (readPhoto : Bool)
    (d : Dialogue G P) : Prop where
  read : BacRead doc readPhoto d.reader.read
  chip : d.chip = .challenged d.reader.read.rndIcc
  status : ∃ random apdu, d.reader.status = .waiting .passportMutualAuth ⟨apdu, none⟩ ∧
    bacBuildMutualAuthenticate env.ssl doc.keys d.reader.read.rndIcc random
      = some (d.reader.read.challenge, apdu)

/-- The chip has given out its challenge, and the reader answers it with its own. -/
theorem bac_challenged (hssl : env.ssl.Total)
    (h : Plain .passportGetChallenge bacBuildGetChallenge .application (BacRead doc readPhoto) d)
    (draw : Draws) : Challenged env doc readPhoto (d.step env E doc draw) := by
  have hchip : doc.respond env.ssl E draw d.chip bacBuildGetChallenge
      = (.challenged draw.rndIcc, draw.rndIcc.1 ++ swOk) := by
    rw [h.chip]
    rfl
  obtain ⟨apdu, hbuild⟩ :=
    bacBuildMutualAuthenticate_total hssl doc.keys draw.rndIcc draw.challenge
  have hready : passportGetChallengeReady env d.reader.read (draw.rndIcc.1 ++ swOk)
        (some draw.challenge)
      = ({ d.reader.read with rndIcc := draw.rndIcc, challenge := draw.challenge },
        .waiting .passportMutualAuth ⟨apdu, none⟩) := by
    rw [passportGetChallengeReady, passportRawResponseOk_swOk draw.rndIcc.2]
    simp only [copy_eq, h.read.keys, hbuild]
    rfl
  rw [Dialogue.step_of_waiting (by decide) h.status hchip]
  show Challenged env doc readPhoto ⟨⟨(passportGetChallengeReady env d.reader.read
    (draw.rndIcc.1 ++ swOk) (some draw.challenge)).1, (passportGetChallengeReady env d.reader.read
    (draw.rndIcc.1 ++ swOk) (some draw.challenge)).2⟩, _⟩
  rw [hready]
  exact ⟨⟨h.read.usePace, h.read.keys, h.read.readPhoto, h.read.dg2⟩, rfl, _, apdu, rfl, hbuild⟩

/-- **The handshake opens one session.** The reader verifies the chip's answer and selects
DG1 in the session the chip goes on with. -/
theorem bac_secured (hssl : env.ssl.Total) (hinv : env.ssl.DecryptInverts)
    (h : Challenged env doc readPhoto d) (draw : Draws) :
    Stage env .selectDg1 (selectCommand dg1Fid) none
      (fun read => read.readPhoto = readPhoto ∧ read.dg2 = none) (d.step env E doc draw) := by
  obtain ⟨random, apdu, hstatus, hbuild⟩ := h.status
  obtain ⟨response, hresponse⟩ := BacChip.respond_total hssl hinv hbuild draw.kIcc
  have hright := BacChip.respond_right hinv hbuild hresponse
  have hchip : doc.respond env.ssl E draw d.chip apdu
      = (.secured (.bac (sharedSession env.ssl d.reader.read.rndIcc
          d.reader.read.challenge.rndIfd d.reader.read.challenge.kIfd draw.kIcc)) none,
        response ++ swOk) := by
    rw [h.chip, Document.respond, BacChip.session, BacChip.receive_command hinv hbuild draw.kIcc]
    simp only [Option.map_some, hresponse]
  rw [Dialogue.step_of_waiting (by decide) hstatus hchip]
  have hready : passportMutualAuthReady env d.reader.read (response ++ swOk)
      = passportSend (selectCommand dg1Fid) .selectDg1 protectFailed
          (passportSmProtect env { d.reader.read with
            session := sharedSession env.ssl d.reader.read.rndIcc
              d.reader.read.challenge.rndIfd d.reader.read.challenge.kIfd draw.kIcc }
            (selectCommand dg1Fid)) := by
    have hprocess := hright.process
    rw [← h.read.keys] at hprocess
    rw [passportMutualAuthReady, passportRawResponseOk_swOk hright.length]
    simp only [hprocess, passportSmProtect, h.read.usePace, Bool.false_eq_true, if_false]
  obtain ⟨x, y, hfst, hlinked⟩ := linked_of_send hssl hinv
    { d.reader.read with
      session := sharedSession env.ssl d.reader.read.rndIcc d.reader.read.challenge.rndIfd
        d.reader.read.challenge.kIfd draw.kIcc }
    (show PassportRead.smSession _ = .bac (sharedSession env.ssl d.reader.read.rndIcc
        d.reader.read.challenge.rndIfd d.reader.read.challenge.kIfd draw.kIcc) by
      simp [PassportRead.smSession, h.read.usePace])
    trivial (short_selectCommand dg1Fid rfl) .selectDg1 protectFailed none
  show Stage env .selectDg1 (selectCommand dg1Fid) none _
    ⟨⟨(passportMutualAuthReady env d.reader.read (response ++ swOk)).1,
      (passportMutualAuthReady env d.reader.read (response ++ swOk)).2⟩, _⟩
  rw [hready]
  refine ⟨⟨_, hlinked⟩, ?_⟩
  show (passportSend _ _ _ _).1.readPhoto = readPhoto ∧ (passportSend _ _ _ _).1.dg2 = none
  rw [hfst]
  exact ⟨h.read.readPhoto, h.read.dg2⟩

/-- What the read has reported stays reported. -/
theorem Dialogue.Reports.step {result : PassportResult} (h : d.Reports result) (draw : Draws) :
    (d.step env E doc draw).Reports result := by
  rw [Dialogue.step_of_not_waiting draw (by rw [h]; simp)]
  exact h

end Handshake

/-! ### The specimen -/

/-- A curve without points, for a document that is not read over PACE. -/
def noCurve : CurveGroup Unit where
  generator := ()
  coordLen := 0
  encode := fun _ => []
  decode := fun _ => none
  x := fun _ => 0
  length_encode := fun _ h => absurd rfl h
  head_encode := fun _ h => absurd rfl h
  decode_encode := fun _ h => absurd rfl h
  x_lt := fun _ h => absurd rfl h

/-- The specimen: EF.DG1 holds the text `P<`, EF.DG2 the start of a JPEG file. -/
def specimenPassport : Document where
  keys := specimenKeys
  pace := ⟨[], [], [], 0, 0, fun _ => []⟩
  cardAccess := []
  dg1 := [0x61, 0x05, 0x5F, 0x1F, 0x02, 0x50, 0x3C]
  dg2 := some [0x75, 0x08, 0xFF, 0xD8, 0xFF, 0xE0, 0x00, 0x00, 0x00, 0x00]
  bySfi := fun _ => []

/-- What both sides draw, in every exchange. -/
def specimenDraw : Draws where
  challenge := specimenChallenge
  scalar := 0
  rndIcc := specimenRndIcc
  kIcc := specimenKIcc

end NfcAdapter
