/-
# Reading a document to its end

From the moment reader and chip share a session: DG1 is selected and read in chunks, its
MRZ is parsed, and if the photo is wanted DG2 follows.  Each exchange brings the read one
READ BINARY nearer to the end, whichever session it is in.
-/
import NfcAdapter.Emrtd
import NfcAdapter.Progress

namespace NfcAdapter

open ByteCounter Runs

variable {G P : Type} {env : PassportEnv G P}

/-! ## The loop of either data group -/

/-- The read with another buffer. -/
def DataGroup.store (g : DataGroup) (read : PassportRead G) (dg : DgBuffer) : PassportRead G :=
  match g with
  | .dg1 => { read with dg1 := dg }
  | .dg2 => { read with dg2 := some dg }

/-- `passport_dg1_read_more` or `passport_dg2_read_more`. -/
def DataGroup.readMore (env : PassportEnv G P) (g : DataGroup) (read : PassportRead G) :
    PassportRead G × PassportStatus :=
  match g with
  | .dg1 => passportDg1ReadMore env read
  | .dg2 => passportDg2ReadMore env read (g.buffer read)

/-- What a read keeps beside the buffer of the loop it is in. -/
def DataGroup.Rest (g : DataGroup) (readPhoto : Bool) (mrz : Bytes) (read : PassportRead G) :
    Prop :=
  match g with
  | .dg1 => read.readPhoto = readPhoto ∧ read.dg2 = none
  | .dg2 => read.mrz = mrz

section Loop

variable {g : DataGroup} {read : PassportRead G} {dg : DgBuffer} {readPhoto : Bool} {mrz : Bytes}

@[simp] theorem smSession_store : (g.store read dg).smSession = read.smSession := by
  cases g <;> rfl

@[simp] theorem buffer_store : g.buffer (g.store read dg) = dg := by cases g <;> rfl

theorem DataGroup.Rest.withSsc (h : g.Rest readPhoto mrz read) (x : FixedBytes 8)
    (y : FixedBytes 16) : g.Rest readPhoto mrz (read.withSsc x y) := by
  cases g <;> exact h

theorem DataGroup.Rest.store (h : g.Rest readPhoto mrz read) :
    g.Rest readPhoto mrz (g.store read dg) := by
  cases g <;> exact h

/-- The plaintext of a response goes into the buffer, and the loop goes on. -/
theorem passportReady_loop {e : PassportEvent} {response plaintext : Bytes} {read' : PassportRead G}
    (hopen : passportSmUnprotect env read response = (read', some (some plaintext, 0x9000)))
    (hbuffer : g.buffer read' = g.buffer read)
    (happ : dgAppend g.maxLen (g.buffer read) plaintext = some (dg, true)) :
    passportReady env read e response g.pending = g.readMore env (g.store read' dg) := by
  have hok := passportSmResponseOk_of_ok hopen
  rw [← hbuffer] at happ
  cases g with
  | dg1 =>
    show passportDg1RestReady env read response = _
    unfold passportDg1RestReady
    rw [hok]
    simp only [show dgAppend passportDg1MaxLen read'.dg1 plaintext = some (dg, true) from happ]
    rfl
  | dg2 =>
    show passportDg2RestReady env read response = _
    unfold passportDg2RestReady
    rw [hok]
    simp only [show dgAppend passportDg2MaxLen (read'.dg2.getD .new) plaintext = some (dg, true)
      from happ]
    rfl

/-- A buffer that is not complete asks for more. -/
theorem readMore_of_remaining (env : PassportEnv G P) (g : DataGroup) (read : PassportRead G)
    (h : (g.buffer read).remaining ≠ 0) :
    ∃ failed, g.readMore env read = passportSend (g.buffer read).nextCommand g.pending failed
      (passportSmProtect env read (g.buffer read).nextCommand) := by
  cases g with
  | dg1 =>
    refine ⟨protectFailed, ?_⟩
    show passportDg1ReadMore env read = _
    rw [passportDg1ReadMore, if_neg (show ¬ read.dg1.remaining = 0 from h)]
    rfl
  | dg2 =>
    refine ⟨passportBuildResultAndFinish env, ?_⟩
    show passportDg2ReadMore env read _ = _
    rw [passportDg2ReadMore, if_neg h]
    rfl

/-- A file of the document, for the loop that reads it. -/
def Document.fileOf (doc : Document) : DataGroup → Option Bytes
  | .dg1 => some doc.dg1
  | .dg2 => doc.dg2

/-- The identifier the loop's file is selected by. -/
def DataGroup.fid : DataGroup → Bytes
  | .dg1 => dg1Fid
  | .dg2 => dg2Fid

theorem length_fid (g : DataGroup) : g.fid.length = 2 := by cases g <;> rfl

theorem file_fid (doc : Document) (g : DataGroup) : doc.file g.fid = doc.fileOf g := by
  cases g <;> rfl

/-- Whatever a successful SELECT returns, the loop starts over an empty buffer. -/
theorem passportReady_selected {read read' : PassportRead G} {e : PassportEvent}
    {response : Bytes} {plaintext : Option Bytes}
    (hopen : passportSmUnprotect env read response = (read', some (plaintext, 0x9000))) :
    ∃ failed, passportReady env read e response g.selecting
      = passportSend readHeaderCommand g.pending failed
        (passportSmProtect env (g.store read' .new) readHeaderCommand) := by
  have hok := passportSmResponseOk_of_ok hopen
  cases g with
  | dg1 =>
    refine ⟨protectFailed, ?_⟩
    show passportSelectDg1Ready env read response = _
    rw [passportSelectDg1Ready, hok]
    rfl
  | dg2 =>
    refine ⟨passportBuildResultAndFinish env, ?_⟩
    show passportSelectDg2Ready env read response = _
    rw [passportSelectDg2Ready, hok]
    rfl

end Loop

/-! ## Stages -/

/-- The read has succeeded with this result. -/
def Dialogue.Reports (result : PassportResult) (d : Dialogue G P) : Prop :=
  d.reader.status = .finished true none (some result)

/-- The read waits for the answer to `cmd`, and what it has gathered meets `Q`. -/
structure Stage (env : PassportEnv G P) (p : Pending) (cmd : SmCommand) (file : Option Bytes)
    (Q : PassportRead G → Prop) (d : Dialogue G P) : Prop where
  linked : ∃ σ, Linked env d p cmd file σ
  read : Q d.reader.read

/-- What comes behind a complete buffer: the photo, or the end. -/
def AfterFile (env : PassportEnv G P) (doc : Document) (readPhoto : Bool) (mrz : Bytes)
    (g : DataGroup) (file : Bytes) (d : Dialogue G P) : Prop :=
  match g with
  | .dg1 =>
    if readPhoto then
      Stage env .selectDg2 (selectCommand dg2Fid) (some doc.dg1)
        (fun read => read.mrz = mrz ∧ read.dg2 = none) d
    else d.Reports ⟨mrz, bacParseMrzFields mrz, none⟩
  | .dg2 => d.Reports ⟨mrz, bacParseMrzFields mrz, passportPhoto env (declaredPart file)⟩

/-- How many READ BINARY are still to come behind `len` bytes. -/
def roundsLeft (total len : ℕ) : ℕ := (total - len + 254) / 255

/-- The loop has `len` bytes of the file, four and whole chunks, and `k` rounds to go. -/
def InLoop (env : PassportEnv G P) (doc : Document) (readPhoto : Bool) (mrz : Bytes)
    (g : DataGroup) (file : Bytes) (k : ℕ) (d : Dialogue G P) : Prop :=
  ∃ len, len ≤ (declaredPart file).length ∧ roundsLeft (declaredPart file).length len = k ∧
    if len = (declaredPart file).length then AfterFile env doc readPhoto mrz g file d
    else
      len % 255 = 4 ∧
      Stage env g.pending (partOf file (declaredPart file).length len).nextCommand (some file)
        (fun read => g.buffer read = partOf file (declaredPart file).length len ∧
          g.Rest readPhoto mrz read) d

theorem short_selectCommand (fid : Bytes) (h : fid.length = 2) : (selectCommand fid).Short :=
  ⟨by show (0x00 : UInt8) &&& 0x0C = 0; decide,
    by show fid.length ≤ 16; omega, by show (-1 : ℤ) ≤ -1 ∧ (-1 : ℤ) ≤ 255; decide⟩

theorem short_readHeaderCommand : readHeaderCommand.Short :=
  ⟨by decide, by decide, by decide⟩

theorem short_nextCommand {dg : DgBuffer} : dg.nextCommand.Short :=
  ⟨by show (0x00 : UInt8) &&& 0x0C = 0; decide, by show 0 ≤ 16; decide,
    by show (-1 : ℤ) ≤ min (dg.remaining : ℤ) 255; omega, nextCommand_le dg⟩

section Secured

variable {doc : Document} {g : DataGroup} {file : Bytes} {readPhoto : Bool} {mrz : Bytes}
  {σ : SmSession}

/-- What the loop's file has to be: readable, and DG1's content an MRZ. -/
structure Served (doc : Document) (g : DataGroup) (file : Bytes) (mrz : Bytes) : Prop where
  has : doc.fileOf g = some file
  readable : ReadableFile g file
  mrz : g = .dg1 → bacParseDg1Mrz (declaredPart file) = some mrz

/-- Behind a complete buffer the read goes on as it should. -/
theorem afterFile_of_complete (hssl : env.ssl.Total) (hinv : env.ssl.DecryptInverts)
    (hserved : Served doc g file mrz) {read : PassportRead G} (hsession : read.smSession = σ)
    (hkey : σ.KeyLenOk)
    (hbuffer : g.buffer read
      = partOf file (declaredPart file).length (declaredPart file).length)
    (hrest : g.Rest readPhoto mrz read) :
    AfterFile env doc readPhoto mrz g file
      ⟨⟨(g.readMore env read).1, (g.readMore env read).2⟩, .secured σ (some file)⟩ := by
  have hdeclared := hserved.readable.declared
  have hrem : (g.buffer read).remaining = 0 := by
    rw [hbuffer, hdeclared.remaining le_rfl, Nat.sub_self]
  have hdata : (g.buffer read).data = declaredPart file := by
    rw [hbuffer]
    exact hdeclared.part.symm
  cases g with
  | dg1 =>
    obtain rfl : doc.dg1 = file := Option.some.inj hserved.has
    obtain ⟨hphoto, hdg2⟩ : read.readPhoto = readPhoto ∧ read.dg2 = none := hrest
    have hparse : bacParseDg1Mrz read.dg1.data = some mrz := by
      rw [show read.dg1.data = _ from hdata]
      exact hserved.mrz rfl
    have hmore : passportDg1ReadMore env read
        = if readPhoto then passportSelectDg2Start env { read with mrz := mrz }
          else passportBuildResultAndFinish env { read with mrz := mrz } := by
      rw [passportDg1ReadMore, if_pos (show read.dg1.remaining = 0 from hrem), hparse]
      simp only [hphoto]
    show AfterFile env doc readPhoto mrz .dg1 doc.dg1
      ⟨⟨(passportDg1ReadMore env read).1, (passportDg1ReadMore env read).2⟩, _⟩
    rw [hmore, AfterFile]
    cases readPhoto with
    | true =>
      obtain ⟨x, y, hfst, hlinked⟩ := linked_of_send hssl hinv
        { read with mrz := mrz } (hsession ▸ rfl) hkey
        (short_selectCommand dg2Fid rfl) .selectDg2 (passportBuildResultAndFinish env)
        (some doc.dg1)
      refine ⟨⟨σ, hlinked⟩, ?_⟩
      show (passportSelectDg2Start env { read with mrz := mrz }).1.mrz = mrz ∧
        (passportSelectDg2Start env { read with mrz := mrz }).1.dg2 = none
      rw [passportSelectDg2Start, hfst]
      exact ⟨rfl, hdg2⟩
    | false =>
      show PassportStatus.finished true none (some _) = _
      simp [hdg2]
  | dg2 =>
    have hmrz : read.mrz = mrz := hrest
    show (passportDg2ReadMore env read (DataGroup.buffer .dg2 read)).2 = _
    rw [passportDg2ReadMore, if_pos hrem, passportBuildResultAndFinish, hmrz]
    have hphoto : (read.dg2.bind fun dg2 => passportPhoto env dg2.data)
        = passportPhoto env (declaredPart file) := by
      rcases hbuf : read.dg2 with _ | dg2
      · -- an empty buffer is not a complete one
        have hlen := hdeclared.four_le
        rw [← hdata] at hlen
        simp only [DataGroup.buffer, hbuf] at hlen
        cases hlen
      · simp only [DataGroup.buffer, hbuf, Option.getD_some] at hdata
        rw [Option.bind_some, hdata]
    rw [hphoto]

/-- **One more chunk in the buffer.** The read asks for the next one, or is done with the
file. -/
theorem inLoop_of_store (hssl : env.ssl.Total) (hinv : env.ssl.DecryptInverts)
    (hserved : Served doc g file mrz) {read : PassportRead G} (hsession : read.smSession = σ)
    (hkey : σ.KeyLenOk) {len : ℕ} (hlen : len ≤ (declaredPart file).length)
    (hchunks : len ≠ (declaredPart file).length → len % 255 = 4)
    (hrest : g.Rest readPhoto mrz read) :
    InLoop env doc readPhoto mrz g file (roundsLeft (declaredPart file).length len)
      ⟨⟨(g.readMore env (g.store read (partOf file (declaredPart file).length len))).1,
          (g.readMore env (g.store read (partOf file (declaredPart file).length len))).2⟩,
        .secured σ (some file)⟩ := by
  refine ⟨len, hlen, rfl, ?_⟩
  have hrem := hserved.readable.declared.remaining hlen
  have hstored : (g.store read (partOf file (declaredPart file).length len)).smSession = σ := by
    rw [smSession_store, hsession]
  split_ifs with hend
  · subst hend
    exact afterFile_of_complete hssl hinv hserved hstored hkey buffer_store hrest.store
  · obtain ⟨failed, hmore⟩ := readMore_of_remaining env g
      (g.store read (partOf file (declaredPart file).length len))
      (by rw [buffer_store, hrem]; omega)
    rw [hmore, buffer_store]
    obtain ⟨x, y, hfst, hlinked⟩ := linked_of_send hssl hinv _ hstored hkey short_nextCommand
      g.pending failed (some file)
    refine ⟨hchunks hend, ⟨σ, hlinked⟩, ?_⟩
    show g.buffer (passportSend _ _ _ _).1 = _ ∧ g.Rest readPhoto mrz (passportSend _ _ _ _).1
    rw [hfst, DataGroup.buffer_withSsc, buffer_store]
    exact ⟨rfl, hrest.store.withSsc x y⟩

end Secured

/-! ## The exchanges -/

section Exchanges

variable [AddCommGroup P] {E : CurveGroup P} {doc : Document} {g : DataGroup} {file : Bytes}
  {readPhoto : Bool} {mrz : Bytes} {d : Dialogue G P}

theorem DataGroup.pending_ne_acquire (g : DataGroup) : g.pending ≠ .passportAcquire := by
  cases g <;> decide

/-- READ BINARY leaves the selected file selected. -/
theorem execute_readBinary (doc : Document) {cmd : SmCommand} (hins : cmd.ins = 0xB0)
    {bytes : Bytes} (hread : ChipFiles.readBinary ⟨file, doc.bySfi⟩ cmd = some bytes) :
    doc.execute (some file) cmd = (some file, some bytes, 0x9000) := by
  rw [Document.execute, hins, if_neg (by simp), if_neg (by simp), if_pos rfl,
    Option.bind_some, hread]

/-- SELECT of a file the document has. -/
theorem execute_select (doc : Document) (selected : Option Bytes) {fid : Bytes}
    (hfile : doc.file fid = some file) :
    doc.execute selected (selectCommand fid) = (some file, none, 0x9000) := by
  rw [Document.execute, if_neg (by simp [selectCommand]), if_pos (by simp [selectCommand])]
  simp only [selectCommand, hfile]

/-- A chunk that ends at `len`, on its way from the chip into the buffer. -/
theorem Linked.chunk (hssl : env.ssl.Total) (hinv : env.ssl.DecryptInverts)
    (hserved : Served doc g file mrz) {cmd : SmCommand} {σ : SmSession}
    (h : Linked env d g.pending cmd (some file) σ) (hle : cmd.le ≤ 255) (hins : cmd.ins = 0xB0)
    (hrest : g.Rest readPhoto mrz d.reader.read) {plaintext : Bytes} {len : ℕ}
    (hread : ChipFiles.readBinary ⟨file, doc.bySfi⟩ cmd = some plaintext)
    (happ : dgAppend g.maxLen (g.buffer d.reader.read) plaintext
      = some (partOf file (declaredPart file).length len, true))
    (hlen : len ≤ (declaredPart file).length)
    (hchunks : len ≠ (declaredPart file).length → len % 255 = 4) (draw : Draws) :
    InLoop env doc readPhoto mrz g file (roundsLeft (declaredPart file).length len)
      (d.step env E doc draw) := by
  obtain ⟨e, response, x, y, hstep, hopen, hsession, hkey⟩ := h.exchange hssl hinv
    g.pending_ne_acquire hle (execute_readBinary doc hins hread) draw (E := E)
  have hbenign : BenignStatus 0x9000 := by decide
  rw [if_pos hbenign] at hopen
  rw [hstep, passportReady_loop hopen (DataGroup.buffer_withSsc g _ x y) happ]
  exact inLoop_of_store hssl hinv hserved (hsession hbenign) hkey hlen hchunks
    (hrest.withSsc x y)

/-- **One round of the loop.** -/
theorem InLoop.round (hssl : env.ssl.Total) (hinv : env.ssl.DecryptInverts)
    (hserved : Served doc g file mrz) {k : ℕ}
    (h : InLoop env doc readPhoto mrz g file (k + 1) d) (draw : Draws) :
    InLoop env doc readPhoto mrz g file k (d.step env E doc draw) := by
  obtain ⟨len, hlen, hk, hstage⟩ := h
  have hdeclared := hserved.readable.declared
  have hreach := hserved.readable.reachable
  have hlt : len < (declaredPart file).length := by
    rw [roundsLeft] at hk
    omega
  rw [if_neg (by omega)] at hstage
  obtain ⟨hchunks, ⟨σ, hlinked⟩, hbuffer, hrest⟩ := hstage
  have hround : roundsLeft (declaredPart file).length
      (len + min ((declaredPart file).length - len) 255) = k := by
    rw [roundsLeft] at hk ⊢
    omega
  rw [← hround]
  -- the last offset below the limit is 4 + 255 * 128
  exact hlinked.chunk hssl hinv hserved (nextCommand_le _) rfl hrest
    (hdeclared.readBinary_next doc.bySfi hlt (by omega))
    (by rw [hbuffer]; exact hdeclared.append_chunk (by omega)) (by omega) (by omega) draw

/-- **The first chunk** tells the loop how long the file is. -/
theorem Stage.header (hssl : env.ssl.Total) (hinv : env.ssl.DecryptInverts)
    (hserved : Served doc g file mrz)
    (h : Stage env g.pending readHeaderCommand (some file)
      (fun read => g.buffer read = .new ∧ g.Rest readPhoto mrz read) d) (draw : Draws) :
    InLoop env doc readPhoto mrz g file (roundsLeft (declaredPart file).length 4)
      (d.step env E doc draw) := by
  obtain ⟨⟨σ, hlinked⟩, hbuffer, hrest⟩ := h
  have hdeclared := hserved.readable.declared
  exact hlinked.chunk hssl hinv hserved short_readHeaderCommand.le.2 rfl hrest
    (hdeclared.readBinary_header doc.bySfi) (by rw [hbuffer]; exact hdeclared.append_header)
    hdeclared.four_le (fun _ => rfl) draw

/-- **The file is selected**, and the first READ BINARY is under way. -/
theorem Stage.select (hssl : env.ssl.Total) (hinv : env.ssl.DecryptInverts)
    (hfile : doc.fileOf g = some file) {selected : Option Bytes}
    (h : Stage env g.selecting (selectCommand g.fid) selected (g.Rest readPhoto mrz) d)
    (draw : Draws) :
    Stage env g.pending readHeaderCommand (some file)
      (fun read => g.buffer read = .new ∧ g.Rest readPhoto mrz read) (d.step env E doc draw) := by
  obtain ⟨⟨σ, hlinked⟩, hrest⟩ := h
  obtain ⟨e, response, x, y, hstep, hopen, hsession, hkey⟩ := hlinked.exchange hssl hinv
    (by cases g <;> decide) (short_selectCommand g.fid (length_fid g)).le.2
    (execute_select doc selected ((file_fid doc g).trans hfile)) draw (E := E)
  have hbenign : BenignStatus 0x9000 := by decide
  rw [if_pos hbenign] at hopen
  obtain ⟨failed, hready⟩ := passportReady_selected (g := g) (e := e) hopen
  obtain ⟨x', y', hfst, hnext⟩ := linked_of_send hssl hinv
    (g.store (d.reader.read.withSsc x y) .new) (smSession_store.trans (hsession hbenign)) hkey
    short_readHeaderCommand g.pending failed (some file)
  rw [hstep, hready]
  refine ⟨⟨_, hnext⟩, ?_⟩
  show g.buffer (passportSend _ _ _ _).1 = _ ∧ g.Rest readPhoto mrz (passportSend _ _ _ _).1
  rw [hfst, DataGroup.buffer_withSsc, buffer_store]
  exact ⟨rfl, (hrest.withSsc x y).store.withSsc x' y'⟩

/-- The exchanges for one file: SELECT, the first READ BINARY, and one for each further
chunk. -/
def fileExchanges (file : Bytes) : ℕ := 2 + roundsLeft (declaredPart file).length 4

/-- **One file from SELECT to its last chunk**, in a known number of exchanges. -/
theorem Stage.wholeFile {C : Dialogue G P → Draws → Prop} (hssl : env.ssl.Total)
    (hinv : env.ssl.DecryptInverts) (hserved : Served doc g file mrz) {selected : Option Bytes}
    (h : Stage env g.selecting (selectCommand g.fid) selected (g.Rest readPhoto mrz) d) :
    LeadsTo C (Dialogue.step env E doc) (fileExchanges file)
      (AfterFile env doc readPhoto mrz g file) d := by
  have hselect : LeadsTo C (Dialogue.step env E doc) 1 _ d :=
    LeadsTo.one fun draw _ => h.select hssl hinv hserved.has draw
  have hheader : LeadsTo C (Dialogue.step env E doc) (1 + 1)
      (InLoop env doc readPhoto mrz g file (roundsLeft (declaredPart file).length 4)) d :=
    hselect.trans fun _ ht => LeadsTo.one fun draw _ => ht.header hssl hinv hserved draw
  refine (hheader.trans fun _ ht => LeadsTo.rounds (InLoop env doc readPhoto mrz g file)
    (fun _ _ draw hround _ => hround.round hssl hinv hserved draw) ht).imp ?_
  rintro t ⟨len, hlen, hzero, hafter⟩
  rwa [if_pos (by rw [roundsLeft] at hzero; omega)] at hafter

/-- A document without DG2 rejects the SELECT, and the read reports the MRZ alone. -/
theorem Stage.withoutPhoto (hssl : env.ssl.Total) (hinv : env.ssl.DecryptInverts)
    (hdg2 : doc.dg2 = none) {selected : Option Bytes}
    (h : Stage env .selectDg2 (selectCommand dg2Fid) selected
      (fun read => read.mrz = mrz ∧ read.dg2 = none) d) (draw : Draws) :
    (d.step env E doc draw).Reports ⟨mrz, bacParseMrzFields mrz, none⟩ := by
  obtain ⟨⟨σ, hlinked⟩, hmrz, hnone⟩ := h
  have hexec : doc.execute selected (selectCommand dg2Fid) = (selected, none, 0x6A82) := by
    rw [Document.execute, if_neg (by simp [selectCommand]), if_pos (by simp [selectCommand]),
      show doc.file (selectCommand dg2Fid).data = none from (file_fid doc .dg2).trans hdg2]
  obtain ⟨e, response, x, y, hstep, hopen, -, -⟩ := hlinked.exchange hssl hinv (by decide)
    (short_selectCommand dg2Fid rfl).le.2 hexec draw (E := E)
  obtain ⟨text, herror⟩ := passportSmResponseOk_of_error (by decide) hopen
  rw [hstep]
  show (passportSelectDg2Ready env d.reader.read response).2 = _
  rw [passportSelectDg2Ready, herror]
  show PassportStatus.finished true none (some _) = _
  simp [hmrz, hnone]

/-! ## From a session to the report -/

/-- The exchanges of a read once it has a session. -/
def Document.exchanges (doc : Document) (readPhoto : Bool) : ℕ :=
  fileExchanges doc.dg1 + if readPhoto then doc.dg2.elim 1 fileExchanges else 0

/-- A document the reader can read: DG1, and DG2 if there is one and it is asked for. -/
structure Document.Readable (doc : Document) (readPhoto : Bool) : Prop where
  dg1 : ReadableFile .dg1 doc.dg1
  dg2 : readPhoto = true → ∀ file ∈ doc.dg2, ReadableFile .dg2 file

/-- **A session leads to the report.** Whatever the two parties draw, after exactly
`doc.exchanges` exchanges the read has reported the content of the document. -/
theorem secured_leadsTo {C : Dialogue G P → Draws → Prop} (hssl : env.ssl.Total)
    (hinv : env.ssl.DecryptInverts) (hread : doc.Readable readPhoto) {result : PassportResult}
    (hresult : doc.result env readPhoto = some result) {selected : Option Bytes}
    (h : Stage env .selectDg1 (selectCommand dg1Fid) selected
      (fun read => read.readPhoto = readPhoto ∧ read.dg2 = none) d) :
    LeadsTo C (Dialogue.step env E doc) (doc.exchanges readPhoto) (Dialogue.Reports result) d := by
  obtain ⟨mrz, hmrz, rfl⟩ := Option.map_eq_some_iff.mp hresult
  have hdg1 : LeadsTo C (Dialogue.step env E doc) (fileExchanges doc.dg1)
      (AfterFile env doc readPhoto mrz .dg1 doc.dg1) d :=
    Stage.wholeFile (g := .dg1) hssl hinv ⟨rfl, hread.dg1, fun _ => hmrz⟩ h
  refine hdg1.trans fun t ht => ?_
  rw [AfterFile] at ht
  cases readPhoto with
  | false => exact LeadsTo.refl ht
  | true =>
    simp only [if_true] at ht ⊢
    rcases hdg2 : doc.dg2 with _ | file
    · exact LeadsTo.one fun draw _ => ht.withoutPhoto hssl hinv hdg2 draw
    · have hserved : Served doc .dg2 file mrz := ⟨hdg2, hread.dg2 rfl file hdg2, by rintro ⟨⟩⟩
      have hstage : Stage env DataGroup.dg2.selecting (selectCommand DataGroup.dg2.fid)
          (some doc.dg1) (DataGroup.dg2.Rest true mrz) t := ⟨ht.linked, ht.read.1⟩
      exact hstage.wholeFile hssl hinv hserved

end Exchanges

end NfcAdapter
