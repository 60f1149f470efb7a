/-
# A document and its reader

An electronic passport, stated from what it has to do and not from the reader's code: it
lets itself be selected, answers a BAC or a PACE handshake with its own secrets, and then
serves its data groups under secure messaging.  `Dialogue` puts it opposite a passport
read: each request of the read is answered by the document.
-/
import NfcAdapter.EmrtdSession
import NfcAdapter.PassportFile
import NfcAdapter.BacHandshake
import NfcAdapter.PaceCompleteness

namespace NfcAdapter

open ByteCounter Runs

/-! ## The document -/

/-- The secrets and files of a document.  `dg2` is absent in a document without a photo. -/
structure Document where
  keys : BacStaticKeys
  pace : HonestChip
  cardAccess : Bytes
  dg1 : Bytes
  dg2 : Option Bytes
  bySfi : UInt8 → Bytes

/-- What the two parties draw in one exchange. -/
structure Draws where
  challenge : BacChallenge
  scalar : ℕ
  rndIcc : FixedBytes 8
  kIcc : FixedBytes 16

/-- How far the chip has come; the points are those it has received. -/
inductive ChipPhase (P : Type) where
  | idle
  | application
  | challenged (rndIcc : FixedBytes 8)
  | cardAccess
  | paceSet
  | nonceSent
  | mapped (readerPub1 : P)
  | agreed (readerPub1 readerPub2 : P)
  | secured (session : SmSession) (file : Option Bytes)

/-- The status bytes of success. -/
def swOk : Bytes := [0x90, 0x00]

namespace Document

variable (doc : Document)

/-- The elementary file with an identifier. -/
def file (fid : Bytes) : Option Bytes :=
  if fid = [0x01, 0x01] then some doc.dg1 else if fid = [0x01, 0x02] then doc.dg2 else none

/-- A command under secure messaging: the file that is selected afterwards, the data of the
response and its status word. -/
def execute (selected : Option Bytes) (cmd : SmCommand) : Option Bytes × Option Bytes × UInt16 :=
  if cmd.ins = 0xA4 ∧ cmd.p1 = 0x04 then
    if cmd.data = emrtdAid then (none, none, 0x9000) else (selected, none, 0x6A82)
  else if cmd.ins = 0xA4 ∧ cmd.p1 = 0x02 then
    match doc.file cmd.data with
    | some file => (some file, none, 0x9000)
    | none => (selected, none, 0x6A82)
  else if cmd.ins = 0xB0 then
    match selected.bind fun file => ChipFiles.readBinary ⟨file, doc.bySfi⟩ cmd with
    | some bytes => (selected, some bytes, 0x9000)
    | none => (selected, none, 0x6B00)
  else (selected, none, 0x6D00)

/-- READ BINARY of EF.CardAccess in the clear; Le zero asks for 256 bytes. -/
def readCardAccess : Bytes → Option Bytes
  | [0x00, 0xB0, p1, p2, le] =>
    fileBytes doc.cardAccess (p1.toNat * 256 + p2.toNat) (if le = 0 then 256 else le.toNat)
  | _ => none

/-- MSE:Set AT for the document's PACE protocol with the CAN. -/
def mseSetAt : Bytes :=
  let content := shortTlv 0x80 doc.pace.oid ++ shortTlv 0x83 [0x02]
  [0x00, 0x22, 0xC1, 0xA4, content.length.toUInt8] ++ content

/-- The session of the chip after PACE, its counter at zero. -/
def paceSession (ssl : OpenSsl) (secret : Bytes) : PaceSession where
  ksEnc := .copy 32 (doc.pace.kdf ssl secret 1)
  ksMac := .copy 32 (doc.pace.kdf ssl secret 2)
  ssc := .copy 16 []
  keyLen := doc.pace.cipher.keyLen

variable {P : Type} [AddCommGroup P]

/-- The chip's answer to an APDU. -/
def respond (ssl : OpenSsl) (E : CurveGroup P) (draw : Draws) :
    ChipPhase P → Bytes → ChipPhase P × Bytes
  | .idle, apdu =>
    if apdu = [0x00, 0xA4, 0x04, 0x0C, 0x07] ++ emrtdAid then (.application, swOk)
    else if apdu = [0x00, 0xA4, 0x02, 0x0C, 0x02, 0x01, 0x1C] then (.cardAccess, swOk)
    else (.idle, [0x6A, 0x82])
  | .application, apdu =>
    if apdu = [0x00, 0x84, 0x00, 0x00, 0x08] then
      (.challenged draw.rndIcc, draw.rndIcc.1 ++ swOk)
    else (.application, [0x6D, 0x00])
  | .challenged rndIcc, apdu =>
    let chip : BacChip := ⟨doc.keys, rndIcc, draw.kIcc⟩
    match chip.session ssl apdu, chip.respond ssl apdu with
    | some session, some response => (.secured (.bac session) none, response ++ swOk)
    | _, _ => (.application, [0x63, 0x00])
  | .cardAccess, apdu =>
    if apdu = doc.mseSetAt then (.paceSet, swOk)
    else
      match doc.readCardAccess apdu with
      | some bytes => (.cardAccess, bytes ++ swOk)
      | none => (.cardAccess, [0x6B, 0x00])
  | .paceSet, apdu =>
    match doc.pace.sendNonce ssl with
    | some response =>
      if apdu = [0x10, 0x86, 0x00, 0x00, 0x02, 0x7C, 0x00, 0x00] then (.nonceSent, response)
      else (.idle, [0x6A, 0x80])
    | none => (.idle, [0x6F, 0x00])
  | .nonceSent, apdu =>
    match (receivedObject 0x81 apdu).bind E.decode with
    | some pub1 => (.mapped pub1, doc.pace.sendMapKey E)
    | none => (.idle, [0x6A, 0x80])
  | .mapped pub1, apdu =>
    match (receivedObject 0x83 apdu).bind E.decode with
    | some pub2 => (.agreed pub1 pub2, doc.pace.sendAgreeKey E pub1)
    | none => (.idle, [0x6A, 0x80])
  | .agreed pub1 pub2, apdu =>
    let secret := doc.pace.secret E pub2
    -- the reader's token is over the chip's key, the chip's over the reader's
    match receivedObject 0x85 apdu, doc.pace.token ssl E secret (doc.pace.pub2 E pub1),
        doc.pace.token ssl E secret pub2 with
    | some readerToken, some expected, some token =>
      if readerToken = expected then
        (.secured (.pace (doc.paceSession ssl secret)) none, doc.pace.respond 0x86 token)
      else (.idle, [0x63, 0x00])
    | _, _, _ => (.idle, [0x6A, 0x80])
  | .secured session selected, apdu =>
    match session.receive ssl apdu with
    | none => (.idle, [0x69, 0x88])
    | some cmd =>
      let r := doc.execute selected cmd
      match session.advance.respond ssl r.2.1 r.2.2 with
      | some response => (.secured session.advance.advance r.1, response)
      | none => (.idle, [0x6F, 0x00])

end Document

/-! ## What a read should report -/

/-- The object at the front of a file. -/
def declaredPart (file : Bytes) : Bytes :=
  match bacBerTlvHeader file with
  | some (headerLen, contentLen) => file.take (headerLen + contentLen)
  | none => []

/-- A file the reader takes: the object in it is complete, short enough for the buffer, and
ends where offsets of fifteen bits reach. -/
structure ReadableFile (g : DataGroup) (file : Bytes) : Prop where
  declared : DeclaredFile g file (declaredPart file).length
  reachable : (declaredPart file).length ≤ 32899

instance (g : DataGroup) (file : Bytes) : Decidable (ReadableFile g file) :=
  decidable_of_iff (((∃ r ∈ bacBerTlvHeader file, r.1 + r.2 = (declaredPart file).length) ∧
      (declaredPart file).length ≤ file.length ∧ 4 ≤ (declaredPart file).length ∧
      (declaredPart file).length ≤ g.maxLen) ∧ (declaredPart file).length ≤ 32899)
    ⟨fun ⟨⟨h₁, h₂, h₃, h₄⟩, h₅⟩ => ⟨⟨h₁, h₂, h₃, h₄⟩, h₅⟩,
      fun ⟨⟨h₁, h₂, h₃, h₄⟩, h₅⟩ => ⟨⟨h₁, h₂, h₃, h₄⟩, h₅⟩⟩

theorem DeclaredFile.part {g : DataGroup} {file : Bytes} {total : ℕ}
    (h : DeclaredFile g file total) : declaredPart file = file.take total := by
  obtain ⟨⟨hl, cl⟩, hhead, rfl⟩ := h.header
  rw [Option.mem_def] at hhead
  rw [declaredPart, hhead]

variable {G P : Type}

/-- The content of the document: the MRZ, its fields and, if asked for, the photo. -/
def Document.result (doc : Document) (env : PassportEnv G P) (readPhoto : Bool) :
    Option PassportResult :=
  (bacParseDg1Mrz (declaredPart doc.dg1)).map fun mrz =>
    { mrzText := mrz
      fields := bacParseMrzFields mrz
      photo :=
        if readPhoto then doc.dg2.bind fun file => passportPhoto env (declaredPart file)
        else none }

/-! ## Reader and document -/

/-- A passport read and the chip it talks to. -/
structure Dialogue (G P : Type) where
  reader : PassportState G
  chip : ChipPhase P

/-- Before the first exchange. -/
def Dialogue.start (start : PassportStart) : Dialogue G P := ⟨start.state, .idle⟩

variable {env : PassportEnv G P} {d : Dialogue G P} {p : Pending}

section Machine

variable [AddCommGroup P]

/-- One exchange: the daemon grants the tag, or the chip answers the APDU in flight. -/
def Dialogue.step (env : PassportEnv G P) (E : CurveGroup P) (doc : Document)
    (d : Dialogue G P) (draw : Draws) : Dialogue G P :=
  match d.reader.status with
  | .waiting pending request =>
    if pending = .passportAcquire then
      { d with reader := d.reader.step env ⟨some [], some draw.challenge, some draw.scalar⟩ }
    else
      let r := doc.respond env.ssl E draw d.chip request.apdu
      ⟨d.reader.step env ⟨some r.2, some draw.challenge, some draw.scalar⟩, r.1⟩
  | _ => d

/-- The two parties after the exchanges in which they drew `draws`. -/
def Dialogue.after (env : PassportEnv G P) (E : CurveGroup P) (doc : Document)
    (start : PassportStart) (draws : List Draws) : Dialogue G P :=
  run (Dialogue.step env E doc) (.start start) draws

variable {E : CurveGroup P} {doc : Document} {apdu : Bytes} {command : Option SmCommand}

/-- An exchange over the air: the callback that is due, on the chip's answer. -/
theorem Dialogue.step_of_waiting (hp : p ≠ .passportAcquire)
    (hs : d.reader.status = .waiting p ⟨apdu, command⟩) {chip' : ChipPhase P} {response : Bytes}
    {draw : Draws} (hresp : doc.respond env.ssl E draw d.chip apdu = (chip', response)) :
    d.step env E doc draw
      = ⟨⟨(passportReady env d.reader.read ⟨some response, some draw.challenge, some draw.scalar⟩
            response p).1,
          (passportReady env d.reader.read ⟨some response, some draw.challenge, some draw.scalar⟩
            response p).2⟩, chip'⟩ := by
  rw [Dialogue.step, hs]
  simp only [if_neg hp, hresp]
  rw [step_reply hs rfl]

/-- A read that has ended stays as it is. -/
theorem Dialogue.step_of_not_waiting (draw : Draws)
    (h : ∀ p request, d.reader.status ≠ .waiting p request) : d.step env E doc draw = d := by
  rw [Dialogue.step]
  split
  · next p request hs => exact absurd hs (h p request)
  · rfl

end Machine

/-! ## One protected exchange -/

/-- The read waits for the answer to `cmd`, and a chip in its session, which has `file`
selected, is about to receive it. -/
structure Linked (env : PassportEnv G P) (d : Dialogue G P) (p : Pending) (cmd : SmCommand)
    (file : Option Bytes) (σ : SmSession) : Prop where
  status : ∃ apdu, d.reader.status = .waiting p ⟨apdu, some cmd⟩ ∧
    σ.receive env.ssl apdu = some cmd
  chip : d.chip = .secured σ file
  session : d.reader.read.smSession = σ.advance
  keyLen : σ.KeyLenOk

section Exchange

variable {cmd : SmCommand} {file : Option Bytes} {σ : SmSession}

/-- READ BINARY returns no more than 255 bytes to a one-byte Le. -/
theorem Document.length_execute (doc : Document) {cmd : SmCommand} (hle : cmd.le ≤ 255)
    (file : Option Bytes) : ∀ p ∈ (doc.execute file cmd).2.1, p.length ≤ 255 := by
  rintro p hp
  unfold Document.execute at hp
  split_ifs at hp
  · cases hp
  · cases hp
  · split at hp <;> cases hp
  · split at hp
    · next bytes hbytes =>
      obtain ⟨f, -, hread⟩ := Option.bind_eq_some_iff.mp hbytes
      have hlen := length_readBinary hread
      rw [Option.mem_def, Option.some.injEq] at hp
      rw [← hp]
      omega
    · cases hp
  · cases hp

/-- **One exchange under secure messaging.** The chip executes the read's command, the read
opens the response to what the chip answered, and the two are in one session again. -/
theorem Linked.exchange [AddCommGroup P] {E : CurveGroup P} {doc : Document}
    (hssl : env.ssl.Total) (hinv : env.ssl.DecryptInverts)
    (h : Linked env d p cmd file σ) (hp : p ≠ .passportAcquire) (hle : cmd.le ≤ 255)
    {file' : Option Bytes} {plaintext : Option Bytes} {sw : UInt16}
    (hexec : doc.execute file cmd = (file', plaintext, sw)) (draw : Draws) :
    ∃ e response x y, d.step env E doc draw
        = ⟨⟨(passportReady env d.reader.read e response p).1,
            (passportReady env d.reader.read e response p).2⟩,
          .secured σ.advance.advance file'⟩ ∧
      passportSmUnprotect env d.reader.read response
        = (d.reader.read.withSsc x y, if BenignStatus sw then some (plaintext, sw) else none) ∧
      (BenignStatus sw → (d.reader.read.withSsc x y).smSession = σ.advance.advance) ∧
      σ.advance.advance.KeyLenOk := by
  obtain ⟨apdu, hs, hreceive⟩ := h.status
  have hlen := doc.length_execute hle file
  rw [hexec] at hlen
  obtain ⟨response, hresponse⟩ := SmSession.respond_exists hssl hinv h.keyLen.advance
    (fun p hp => (hlen p hp).trans (by decide)) sw
  have hchip : doc.respond env.ssl E draw d.chip apdu
      = (.secured σ.advance.advance file', response) := by
    rw [h.chip, Document.respond]
    simp only [hreceive, hexec, hresponse]
  obtain ⟨x, y, hopen, hsession⟩ := passportSmUnprotect_respond hinv d.reader.read
    (by rw [h.session]; exact hresponse)
  rw [h.session] at hsession
  exact ⟨_, response, x, y, Dialogue.step_of_waiting hp hs hchip, hopen, hsession,
    h.keyLen.advance.advance⟩

/-- A success opens to the chip's data. -/
theorem passportSmResponseOk_of_ok {read read' : PassportRead G} {response : Bytes}
    {plaintext : Option Bytes}
    (h : passportSmUnprotect env read response = (read', some (plaintext, 0x9000))) :
    passportSmResponseOk env read response = (read', .ok plaintext) := by
  simp [passportSmResponseOk, h]

/-- Any other status is an error, and so is a response that does not open. -/
theorem passportSmResponseOk_of_error {read read' : PassportRead G} {response : Bytes}
    {plaintext : Option Bytes} {sw : UInt16} (hsw : sw ≠ 0x9000)
    (h : passportSmUnprotect env read response
      = (read', if BenignStatus sw then some (plaintext, sw) else none)) :
    ∃ text, passportSmResponseOk env read response = (read', .error text) := by
  by_cases hb : BenignStatus sw
  · rw [if_pos hb] at h
    simp [passportSmResponseOk, h, hsw]
  · rw [if_neg hb] at h
    simp [passportSmResponseOk, h]

/-- **The next command.** A read in the chip's session sends a short command, and the chip
is about to receive it. -/
theorem linked_of_send (hssl : env.ssl.Total) (hinv : env.ssl.DecryptInverts)
    (read : PassportRead G) (hsession : read.smSession = σ) (hkey : σ.KeyLenOk)
    (hcmd : cmd.Short) (next : Pending)
    (failed : PassportRead G → PassportRead G × PassportStatus) (file : Option Bytes) :
    ∃ x y, (passportSend cmd next failed (passportSmProtect env read cmd)).1 = read.withSsc x y ∧
      Linked env ⟨⟨(passportSend cmd next failed (passportSmProtect env read cmd)).1,
        (passportSend cmd next failed (passportSmProtect env read cmd)).2⟩, .secured σ file⟩
        next cmd file σ := by
  subst hsession
  obtain ⟨x, y, apdu, hprotect, hadvance, hreceive⟩ :=
    passportSmProtect_receive hssl hinv read hkey hcmd
  rw [hprotect]
  exact ⟨x, y, rfl, ⟨apdu, rfl, hreceive⟩, rfl, hadvance, hkey⟩

end Exchange

end NfcAdapter
