/-
# Reading a whole file in chunks

The loops against a chip that answers READ BINARY as ISO 7816-4 says: with P1's first bit
clear P1 P2 is an offset of fifteen bits into the selected file, with it set P1 names
another file and P2 is an offset into that.  The loops put the length so far into P1 P2
whatever it is, so a file is reassembled as long as no chunk starts at 32768 or behind.
-/
import NfcAdapter.PassportLoop
import NfcAdapter.SmTotal

namespace NfcAdapter

open Runs ByteCounter

variable {G P : Type} {env : PassportEnv G P}

/-! ## The chip -/

/-- The files READ BINARY reaches: the selected one, and others by their short
identifiers. -/
structure ChipFiles where
  selected : Bytes
  bySfi : UInt8 → Bytes

/-- The bytes of a file from `offset` on, as many as were asked for or are left; a status
other than 9000 when there are none. -/
def fileBytes (file : Bytes) (offset le : ℕ) : Option Bytes :=
  if offset < file.length then some ((file.drop offset).take le) else none

/-- READ BINARY. -/
def ChipFiles.readBinary (chip : ChipFiles) (cmd : SmCommand) : Option Bytes :=
  if cmd.p1 < 0x80 then fileBytes chip.selected (cmd.p1.toNat * 256 + cmd.p2.toNat) cmd.le.toNat
  else fileBytes (chip.bySfi (cmd.p1 &&& 0x1F)) cmd.p2.toNat cmd.le.toNat

/-- A completion in which the chip has answered the loop's READ BINARY. -/
def HonestAnswer (env : PassportEnv G P) (g : DataGroup) (chip : ChipFiles) (s : PassportState G)
    (e : PassportEvent) : Prop :=
  match s.status with
  | .waiting p request => p = g.pending → ∃ cmd ∈ request.command, ∃ bytes ∈ e.reply,
      s.read.opened env bytes = chip.readBinary cmd
  | _ => True

instance (env : PassportEnv G P) (g : DataGroup) (chip : ChipFiles) (s : PassportState G)
    (e : PassportEvent) : Decidable (HonestAnswer env g chip s e) := by
  unfold HonestAnswer
  split <;> infer_instance

/-! ## Where a loop stands -/

/-- The loop waits for the answer to `cmd`, with `dg` in its buffer. -/
structure LoopAt (g : DataGroup) (dg : DgBuffer) (cmd : SmCommand) (s : PassportState G) :
    Prop where
  status : ∃ apdu, s.status = .waiting g.pending ⟨apdu, some cmd⟩
  buffer : g.buffer s.read = dg
  keyLen : s.read.KeyLenOk

/-- The loop has just been started. -/
def LoopStart (g : DataGroup) (s : PassportState G) : Prop := LoopAt g .new readHeaderCommand s

/-- Under BAC no key length matters. -/
theorem loopStart_of_bac {g : DataGroup} {s : PassportState G} (apdu : Bytes)
    (h : s.status = .waiting g.pending ⟨apdu, some readHeaderCommand⟩ ∧
      g.buffer s.read = .new ∧ s.read.usePace = false) : LoopStart g s := by
  obtain ⟨hstatus, hbuffer, hbac⟩ := h
  refine ⟨⟨apdu, hstatus⟩, hbuffer, ?_⟩
  intro hpace
  rw [hbac] at hpace
  cases hpace

/-- The loop has been left. -/
def LoopLeft (g : DataGroup) (s : PassportState G) : Prop :=
  ∀ p request, s.status = .waiting p request → g.started p = true ∧ p ≠ g.pending

theorem LoopLeft.step {g : DataGroup} {s : PassportState G} (h : LoopLeft g s)
    (e : PassportEvent) :
    LoopLeft g (s.step env e) ∧ g.buffer (s.step env e).read = g.buffer s.read := by
  constructor
  · intro q request' hs'
    obtain ⟨p, request, hs, hnexts⟩ := waiting_before hs'
    obtain ⟨hstarted, hne⟩ := h p request hs
    obtain ⟨hpending, hstarts, hselect⟩ := DataGroup.of_nexts (g := g) hnexts
    refine ⟨?_, ?_⟩
    · by_contra hq
      have := hstarts (by simpa using hq)
      rw [hstarted] at this
      cases this
    · intro hq
      rcases hpending hq with rfl | rfl
      · exact hselect hstarted rfl
      · exact hne rfl
  · rcases loop_step env g s e with ⟨request, hs, -, -⟩ | ⟨request, _, _, _, hs, -, -, -, -⟩ |
      ⟨hbuffer, -, -⟩
    · have := (h _ request hs).1
      cases g <;> cases this
    · exact absurd rfl (h _ request hs).2
    · exact hbuffer

/-- A step from the loop that does not wait for it again leaves it. -/
theorem LoopAt.left {g : DataGroup} {dg : DgBuffer} {cmd : SmCommand} {s : PassportState G}
    (h : LoopAt g dg cmd s) {e : PassportEvent}
    (hne : ∀ request, (s.step env e).status ≠ .waiting g.pending request) :
    LoopLeft g (s.step env e) := by
  obtain ⟨apdu, hs⟩ := h.status
  intro q request' hs'
  have hnexts := step_nexts hs hs'
  refine ⟨?_, ?_⟩
  · by_contra hq
    have := (DataGroup.of_nexts (g := g) hnexts).2.1 (by simpa using hq)
    rw [g.started_pending] at this
    cases this
  · rintro rfl
    exact hne request' hs'

theorem keyLenOk_of_eq {read read' : PassportRead G} (h : read.KeyLenOk)
    (hpace : read'.usePace = read.usePace)
    (hkey : read'.paceSession.keyLen = read.paceSession.keyLen) : read'.KeyLenOk := by
  intro hp
  rw [hkey]
  exact h (hpace ▸ hp)

/-- The loop keeps the session's key length. -/
theorem keyLenOk_step {g : DataGroup} {s : PassportState G} {request : PassportRequest}
    (hs : s.status = .waiting g.pending request) (h : s.read.KeyLenOk) {e : PassportEvent}
    {bytes : Bytes} (he : e.reply = some bytes) : (s.step env e).read.KeyLenOk := by
  have hstep : s.step env e = _ := step_reply hs he
  rw [hstep]
  cases g with
  | dg1 =>
    obtain ⟨dg1, mrz, x, y, hfst, -⟩ := passportDg1RestReady_fst env s.read bytes
    refine keyLenOk_of_eq h ?_ ?_
    · show (passportDg1RestReady env s.read bytes).1.usePace = _
      rw [hfst]
      rfl
    · show (passportDg1RestReady env s.read bytes).1.paceSession.keyLen = _
      rw [hfst]
      rfl
  | dg2 =>
    obtain ⟨dg2, x, y, hfst⟩ := passportDg2RestReady_fst env s.read bytes
    refine keyLenOk_of_eq h ?_ ?_
    · show (passportDg2RestReady env s.read bytes).1.usePace = _
      rw [hfst]
      rfl
    · show (passportDg2RestReady env s.read bytes).1.paceSession.keyLen = _
      rw [hfst]
      rfl

theorem nextCommand_le (dg : DgBuffer) : dg.nextCommand.le ≤ 255 := min_le_right _ _

/-- While the libraries work, a loop whose buffer is not complete sends its next command. -/
theorem LoopAt.sends (hssl : env.ssl.Total) {g : DataGroup} {dg dg' : DgBuffer}
    {cmd : SmCommand} {s : PassportState G} (h : LoopAt g dg cmd s) {e : PassportEvent}
    {bytes plaintext : Bytes} (he : e.reply = some bytes)
    (hopened : s.read.opened env bytes = some plaintext)
    (happ : dgAppend g.maxLen dg plaintext = some (dg', true)) (hrem : dg'.remaining ≠ 0) :
    LoopAt g dg' dg'.nextCommand (s.step env e) := by
  obtain ⟨apdu, hs⟩ := h.status
  have hstep : s.step env e = _ := step_reply hs he
  have hok : ∃ x y, passportSmResponseOk env s.read bytes
      = (s.read.withSsc x y, .ok (some plaintext)) := by
    obtain ⟨x, y, ⟨text, hnone, -⟩ | ⟨hnone, -⟩ | ⟨plaintext', hsome, hok⟩⟩ :=
      passportSmResponseOk_cases env s.read bytes
    · rw [hopened] at hnone
      cases hnone
    · rw [hopened] at hnone
      cases hnone
    · rw [hopened, Option.some.injEq] at hsome
      exact ⟨x, y, hsome ▸ hok⟩
  obtain ⟨x, y, hok⟩ := hok
  -- the two loops are written out twice in the source and differ in the buffer they fill
  cases g with
  | dg1 =>
    have hbuf : s.read.dg1 = dg := h.buffer
    obtain ⟨x', y', apdu', hprotect⟩ := passportSmProtect_total hssl
      (show ({ s.read.withSsc x y with dg1 := dg' } : PassportRead G).KeyLenOk from h.keyLen)
      (show dg'.nextCommand.data = [] from rfl) (nextCommand_le dg')
    have hout : passportDg1RestReady env s.read bytes
        = ({ s.read.withSsc x y with dg1 := dg' }.withSsc x' y',
          .waiting .dg1Rest ⟨apdu', some dg'.nextCommand⟩) := by
      unfold passportDg1RestReady
      simp only [hok, withSsc_dg1, hbuf]
      rw [show dgAppend passportDg1MaxLen dg plaintext = _ from happ]
      simp only [passportDg1ReadMore, if_neg hrem]
      rw [hprotect]
      rfl
    refine ⟨⟨apdu', ?_⟩, ?_, keyLenOk_step hs h.keyLen he⟩
    · rw [hstep]
      show (passportDg1RestReady env s.read bytes).2 = _
      rw [hout]
      rfl
    · rw [hstep]
      show (passportDg1RestReady env s.read bytes).1.dg1 = _
      rw [hout]
      rfl
  | dg2 =>
    have hbuf : s.read.dg2.getD .new = dg := h.buffer
    obtain ⟨x', y', apdu', hprotect⟩ := passportSmProtect_total hssl
      (show ({ s.read.withSsc x y with dg2 := some dg' } : PassportRead G).KeyLenOk
        from h.keyLen)
      (show dg'.nextCommand.data = [] from rfl) (nextCommand_le dg')
    have hout : passportDg2RestReady env s.read bytes
        = ({ s.read.withSsc x y with dg2 := some dg' }.withSsc x' y',
          .waiting .dg2Rest ⟨apdu', some dg'.nextCommand⟩) := by
      unfold passportDg2RestReady
      simp only [hok, withSsc_dg2, hbuf]
      rw [show dgAppend passportDg2MaxLen dg plaintext = _ from happ]
      simp only [passportDg2ReadMore, if_neg hrem]
      rw [hprotect]
      rfl
    refine ⟨⟨apdu', ?_⟩, ?_, keyLenOk_step hs h.keyLen he⟩
    · rw [hstep]
      show (passportDg2RestReady env s.read bytes).2 = _
      rw [hout]
      rfl
    · rw [hstep]
      show (passportDg2RestReady env s.read bytes).1.dg2.getD .new = _
      rw [hout]
      rfl

/-- A loop whose buffer is complete is left. -/
theorem LoopAt.completes {g : DataGroup} {dg dg' : DgBuffer} {cmd : SmCommand}
    {s : PassportState G} (h : LoopAt g dg cmd s) {e : PassportEvent} {bytes plaintext : Bytes}
    (he : e.reply = some bytes) (hopened : s.read.opened env bytes = some plaintext)
    (happ : dgAppend g.maxLen dg plaintext = some (dg', true)) (hrem : dg'.remaining = 0) :
    LoopLeft g (s.step env e) ∧ g.buffer (s.step env e).read = dg' := by
  obtain ⟨apdu, hs⟩ := h.status
  rcases loop_step env g s e with ⟨request, hs', -, -⟩ |
    ⟨request, bytes', plaintext', ok, -, he', hopened', happ', hnext⟩ | ⟨-, -, hclosed⟩
  · -- the loop is past its SELECT
    rw [hs, PassportStatus.waiting.injEq] at hs'
    cases g <;> cases hs'.1
  · rw [he, Option.some.injEq] at he'
    subst he'
    rw [hopened, Option.some.injEq] at hopened'
    subst hopened'
    rw [h.buffer, happ, Option.some.injEq, Prod.mk.injEq] at happ'
    obtain ⟨hdg, -⟩ := happ'
    refine ⟨h.left ?_, hdg.symm⟩
    intro request' hs'
    have hne := (hnext request' hs').2.1
    rw [← hdg] at hne
    exact hne hrem
  · have hnone := hclosed _ bytes plaintext hs he hopened
    rw [h.buffer, happ] at hnone
    cases hnone

/-! ## One chunk -/

/-- A file whose header declares a length of at least four bytes that the loop reads. -/
structure DeclaredFile (g : DataGroup) (file : Bytes) (total : ℕ) : Prop where
  header : ∃ r ∈ bacBerTlvHeader file, r.1 + r.2 = total
  whole : total ≤ file.length
  four_le : 4 ≤ total
  le_max : total ≤ g.maxLen

/-- Four bytes are enough for every header. -/
theorem bacBerTlvHeader_take_four {file : Bytes} (h : 4 ≤ file.length) :
    bacBerTlvHeader (file.take 4) = bacBerTlvHeader file := by
  match file, h with
  | a :: b :: c :: d :: rest, _ =>
    simp [bacBerTlvHeader, berLength]

section Chunk

variable {g : DataGroup} {file : Bytes} {total : ℕ}

/-- The buffer after the first `len` bytes of the file. -/
def partOf (file : Bytes) (total len : ℕ) : DgBuffer := ⟨file.take len, total⟩

theorem DeclaredFile.remaining (h : DeclaredFile g file total) {len : ℕ} (hlen : len ≤ total) :
    (partOf file total len).remaining = total - len := by
  have hmax := h.le_max
  have hwhole := h.whole
  have hg := g.maxLen_bounds.2
  have hdata : (partOf file total len).data.length = len := by
    show (file.take len).length = len
    rw [List.length_take]
    omega
  rw [remaining_of_le (by rw [hdata]; exact hlen) (show total < 2 ^ 64 by omega), hdata]
  rfl

/-- The first answer gives the buffer its total length. -/
theorem DeclaredFile.append_header (h : DeclaredFile g file total) :
    dgAppend g.maxLen .new (file.take 4) = some (partOf file total 4, true) := by
  have hwhole := h.whole
  have hmin := h.four_le
  have hmax := h.le_max
  obtain ⟨⟨hl, cl⟩, hhead, rfl⟩ := h.header
  have hhead : bacBerTlvHeader (file.take 4) = some (hl, cl) := by
    rw [bacBerTlvHeader_take_four (by omega)]
    exact hhead
  have harray : byteArrayAppend [] (file.take 4) = some (file.take 4) := by
    rw [byteArrayAppend, if_pos (by rw [List.length_take, List.length_nil]; omega)]
    rfl
  show (byteArrayAppend [] (file.take 4)).map _ = _
  rw [harray, Option.map_some]
  simp only [DgBuffer.new, if_true, hhead, if_neg (show ¬ hl + cl > g.maxLen by omega)]
  rfl

/-- Every further answer continues where the buffer ends. -/
theorem DeclaredFile.append_chunk (h : DeclaredFile g file total) {len chunk : ℕ}
    (hchunk : len + chunk ≤ total) :
    dgAppend g.maxLen (partOf file total len) ((file.drop len).take chunk)
      = some (partOf file total (len + chunk), true) := by
  have hwhole := h.whole
  have hmax := h.le_max
  have hmin := h.four_le
  have hg := g.maxLen_bounds.2
  have harray : byteArrayAppend (file.take len) ((file.drop len).take chunk)
      = some (file.take (len + chunk)) := by
    rw [byteArrayAppend, if_pos, List.take_add]
    rw [List.length_take, List.length_take, List.length_drop]
    omega
  show (byteArrayAppend (file.take len) _).map _ = _
  rw [harray, Option.map_some, if_neg (show (partOf file total len).totalLen ≠ 0 from by
    show total ≠ 0
    omega)]
  rfl

/-- The chip's answer to the first READ BINARY. -/
theorem DeclaredFile.readBinary_header (h : DeclaredFile g file total) (bySfi : UInt8 → Bytes) :
    ChipFiles.readBinary ⟨file, bySfi⟩ readHeaderCommand = some (file.take 4) := by
  have hwhole := h.whole
  have hmin := h.four_le
  rw [ChipFiles.readBinary, if_pos (by decide)]
  show fileBytes file 0 4 = some (file.take 4)
  rw [fileBytes, if_pos (by omega), List.drop_zero]

/-- Below 32768 the chip answers the next one from the end of the buffer. -/
theorem DeclaredFile.readBinary_next (h : DeclaredFile g file total) (bySfi : UInt8 → Bytes)
    {len : ℕ} (hlen : len < total) (hoffset : len < 32768) :
    ChipFiles.readBinary ⟨file, bySfi⟩ (partOf file total len).nextCommand
      = some ((file.drop len).take (min (total - len) 255)) := by
  have hwhole := h.whole
  have hdata : (partOf file total len).data.length = len := by
    show (file.take len).length = len
    rw [List.length_take]
    omega
  have hp1 : (len / 256).toUInt8.toNat = len / 256 := toNat_toUInt8 (by omega)
  have hp2 : len.toUInt8.toNat = len % 256 := rfl
  have hlt : (len / 256).toUInt8 < 0x80 := by
    rw [UInt8.lt_iff_toNat_lt, hp1]
    show len / 256 < 128
    omega
  rw [DgBuffer.nextCommand, hdata, h.remaining hlen.le, ChipFiles.readBinary]
  simp only [if_pos hlt, hp1, hp2]
  rw [show len / 256 * 256 + len % 256 = len from by omega, fileBytes, if_pos (by omega),
    show (min ((total - len : ℕ) : ℤ) 255).toNat = min (total - len) 255 from by omega]

end Chunk

/-! ## The loop against the chip -/

section Loop

variable {g : DataGroup} {file : Bytes} {total : ℕ} {bySfi : UInt8 → Bytes}
  {s : PassportState G} {e : PassportEvent}

/-- The loop waits for more, with the first `len` bytes of the file in its buffer. -/
def LoopHas (g : DataGroup) (file : Bytes) (total len : ℕ) (s : PassportState G) : Prop :=
  len < total ∧ LoopAt g (partOf file total len) (partOf file total len).nextCommand s

/-- The loop is over and its buffer is the declared part of the file. -/
def Reassembled (g : DataGroup) (file : Bytes) (total : ℕ) (s : PassportState G) : Prop :=
  LoopLeft g s ∧ (g.buffer s.read).data = file.take total

/-- An honest answer is opened to what the chip read. -/
theorem LoopAt.answer {dg : DgBuffer} {cmd : SmCommand} {chip : ChipFiles}
    (h : LoopAt g dg cmd s) (hhonest : HonestAnswer env g chip s e) :
    ∃ bytes, e.reply = some bytes ∧ s.read.opened env bytes = chip.readBinary cmd := by
  obtain ⟨apdu, hs⟩ := h.status
  rw [HonestAnswer, hs] at hhonest
  obtain ⟨cmd', hcmd, bytes, hbytes, hopened⟩ := hhonest rfl
  simp only [Option.mem_def, Option.some.injEq] at hcmd
  exact ⟨bytes, hbytes, by rw [hopened, hcmd]⟩

/-- A piece of the file that ends at `len` brings the loop there. -/
theorem LoopAt.reaches (hssl : env.ssl.Total) (hfile : DeclaredFile g file total)
    {dg : DgBuffer} {cmd : SmCommand} (h : LoopAt g dg cmd s) {bytes plaintext : Bytes} {len : ℕ}
    (he : e.reply = some bytes) (hopened : s.read.opened env bytes = some plaintext)
    (happ : dgAppend g.maxLen dg plaintext = some (partOf file total len, true))
    (hlen : len ≤ total) :
    (len = total ∧ Reassembled g file total (s.step env e)) ∨
      LoopHas g file total len (s.step env e) := by
  have hrem := hfile.remaining hlen
  by_cases htotal : len = total
  · subst htotal
    obtain ⟨hleft, hbuffer⟩ := h.completes he hopened happ (by rw [hrem, Nat.sub_self])
    exact Or.inl ⟨rfl, hleft, by rw [hbuffer]; rfl⟩
  · exact Or.inr ⟨by omega, h.sends hssl he hopened happ (by rw [hrem]; omega)⟩

/-- The first answer. -/
theorem LoopStart.step (hssl : env.ssl.Total) (hfile : DeclaredFile g file total)
    (h : LoopStart g s) (hhonest : HonestAnswer env g ⟨file, bySfi⟩ s e) :
    (4 = total ∧ Reassembled g file total (s.step env e)) ∨
      LoopHas g file total 4 (s.step env e) := by
  obtain ⟨bytes, he, hopened⟩ := LoopAt.answer h hhonest
  rw [hfile.readBinary_header] at hopened
  exact LoopAt.reaches hssl hfile h he hopened hfile.append_header hfile.four_le

/-- A further answer to an offset the chip can see. -/
theorem LoopHas.step (hssl : env.ssl.Total) (hfile : DeclaredFile g file total) {len : ℕ}
    (h : LoopHas g file total len s) (hoffset : len < 32768)
    (hhonest : HonestAnswer env g ⟨file, bySfi⟩ s e) :
    Reassembled g file total (s.step env e) ∨ LoopHas g file total (len + 255) (s.step env e) := by
  obtain ⟨hlt, hat⟩ := h
  obtain ⟨bytes, he, hopened⟩ := hat.answer hhonest
  rw [hfile.readBinary_next bySfi hlt hoffset] at hopened
  have hchunk : len + min (total - len) 255 ≤ total := by omega
  rcases hat.reaches hssl hfile he hopened (hfile.append_chunk hchunk) hchunk with
    ⟨-, hdone⟩ | hmore
  · exact Or.inl hdone
  · have hend := hmore.1
    rw [show len + min (total - len) 255 = len + 255 from by omega] at hmore
    exact Or.inr hmore

theorem Reassembled.step (h : Reassembled g file total s) (e : PassportEvent) :
    Reassembled g file total (s.step env e) := by
  obtain ⟨hleft, hbuffer⟩ : LoopLeft g (s.step env e) ∧
      g.buffer (s.step env e).read = g.buffer s.read := h.1.step e
  exact ⟨hleft, by rw [hbuffer]; exact h.2⟩

/-- The invariant: after `n` honest answers the loop is at its start, has `4 + 255 k` bytes
with `k + 1 = n`, or is over. -/
def FileInv (g : DataGroup) (file : Bytes) (total : ℕ) (s : PassportState G) (n : ℕ) : Prop :=
  (LoopStart g s ∧ n = 0) ∨ (∃ k, LoopHas g file total (4 + 255 * k) s ∧ n = k + 1) ∨
    Reassembled g file total s

theorem FileInv.step (hssl : env.ssl.Total) (hfile : DeclaredFile g file total)
    (hlimit : total ≤ 32899) {n : ℕ} (h : FileInv g file total s n)
    (hhonest : HonestAnswer env g ⟨file, bySfi⟩ s e) :
    FileInv g file total (s.step env e) (n + 1) := by
  rcases h with ⟨hstart, rfl⟩ | ⟨k, hhas, rfl⟩ | hdone
  · rcases LoopStart.step hssl hfile hstart hhonest with ⟨-, hdone⟩ | hmore
    · exact Or.inr (Or.inr hdone)
    · exact Or.inr (Or.inl ⟨0, hmore, rfl⟩)
  · -- the last offset below the limit is 4 + 255 * 128
    have hlt := hhas.1
    rcases hhas.step hssl hfile (by omega) hhonest with hdone | hmore
    · exact Or.inr (Or.inr hdone)
    · exact Or.inr (Or.inl ⟨k + 1, by rwa [show 4 + 255 * (k + 1) = 4 + 255 * k + 255 from by ring],
        rfl⟩)
  · exact Or.inr (Or.inr (hdone.step e))

/-! ## Honest answers exist -/

/-- What the loop needs for its next answer: it is not about to be started, and a command it
waits for the answer to asks for at most 255 bytes. -/
structure Answerable (g : DataGroup) (s : PassportState G) : Prop where
  started : ∀ p request, s.status = .waiting p request → g.started p = true
  command : ∀ request, s.status = .waiting g.pending request →
    s.read.KeyLenOk ∧ ∃ cmd, request.command = some cmd ∧ cmd.le ≤ 255

theorem length_readBinary {chip : ChipFiles} {cmd : SmCommand} {plaintext : Bytes}
    (h : chip.readBinary cmd = some plaintext) : plaintext.length ≤ cmd.le.toNat := by
  have hbytes : ∀ {file offset}, fileBytes file offset cmd.le.toNat = some plaintext →
      plaintext.length ≤ cmd.le.toNat := by
    intro file offset hfile
    unfold fileBytes at hfile
    split_ifs at hfile
    rw [← Option.some.inj hfile]
    exact List.length_take_le _ _
  unfold ChipFiles.readBinary at h
  split_ifs at h
  · exact hbytes h
  · exact hbytes h

/-- The chip can answer whatever the loop asks. -/
theorem Answerable.progress (hssl : env.ssl.Total) (hinv : env.ssl.DecryptInverts)
    (chip : ChipFiles) (h : Answerable g s) : ∃ e, HonestAnswer env g chip s e := by
  rcases hs : s.status with ⟨p, request⟩ | ⟨success, text, result⟩ | _
  · by_cases hp : p = g.pending
    · subst hp
      obtain ⟨hkey, cmd, hcmd, hle⟩ := h.command request hs
      obtain ⟨bytes, hbytes⟩ : ∃ bytes, s.read.opened env bytes = chip.readBinary cmd := by
        rcases hanswer : chip.readBinary cmd with _ | plaintext
        · exact ⟨[], opened_nil s.read⟩
        · have hlen := length_readBinary hanswer
          exact exists_opened hssl hinv hkey (by omega)
      refine ⟨⟨some bytes, none, none⟩, ?_⟩
      rw [HonestAnswer, hs]
      exact fun _ => ⟨cmd, hcmd, bytes, rfl, hbytes⟩
    · refine ⟨⟨none, none, none⟩, ?_⟩
      rw [HonestAnswer, hs]
      exact fun h => absurd h hp
  · exact ⟨⟨none, none, none⟩, by rw [HonestAnswer, hs]; trivial⟩
  · exact ⟨⟨none, none, none⟩, by rw [HonestAnswer, hs]; trivial⟩

theorem started_step (h : ∀ p request, s.status = .waiting p request → g.started p = true) :
    ∀ p request, (s.step env e).status = .waiting p request → g.started p = true := by
  intro q request' hs'
  obtain ⟨p, request, hs, hnexts⟩ := waiting_before hs'
  by_contra hq
  have := (DataGroup.of_nexts (g := g) hnexts).2.1 (by simpa using hq)
  rw [h p request hs] at this
  cases this

theorem Answerable.step (h : Answerable g s) (e : PassportEvent) :
    Answerable g (s.step env e) := by
  refine ⟨started_step h.started, ?_⟩
  intro request' hs'
  rcases loop_step env g s e with ⟨request, hs, -, -⟩ |
    ⟨request, bytes, plaintext, ok, hs, he, -, -, hnext⟩ | ⟨-, hne, -⟩
  · have := h.started _ request hs
    cases g <;> cases this
  · exact ⟨keyLenOk_step hs (h.command request hs).1 he, _, (hnext request' hs').2.2,
      nextCommand_le _⟩
  · exact absurd hs' (hne request')

theorem LoopStart.answerable (h : LoopStart g s) : Answerable g s := by
  obtain ⟨⟨apdu, hs⟩, -, hkey⟩ := h
  constructor
  · intro p request hs'
    rw [hs, PassportStatus.waiting.injEq] at hs'
    rw [← hs'.1]
    exact g.started_pending
  · intro request hs'
    rw [hs, PassportStatus.waiting.injEq] at hs'
    exact ⟨hkey, readHeaderCommand, by rw [← hs'.2], by decide⟩

/-! ## Behind the limit -/

/-- The byte at 32899 is not the file's. -/
def WrongByte (g : DataGroup) (x : UInt8) (s : PassportState G) : Prop :=
  (∀ p request, s.status = .waiting p request → g.started p = true) ∧
    (g.buffer s.read).data[32899]? = some x

/-- Buffers only grow, so it stays. -/
theorem WrongByte.step {x : UInt8} (h : WrongByte g x s) (e : PassportEvent) :
    WrongByte g x (s.step env e) := by
  refine ⟨started_step h.1, ?_⟩
  rcases loop_step env g s e with ⟨request, hs, -, -⟩ |
    ⟨request, bytes, plaintext, ok, -, -, -, happ, -⟩ | ⟨hbuffer, -, -⟩
  · have := h.1 _ request hs
    cases g <;> cases this
  · obtain ⟨hlt, -⟩ := List.getElem?_eq_some_iff.mp h.2
    rw [(dgAppend_data happ).1, List.getElem?_append_left hlt]
    exact h.2
  · rw [hbuffer]
    exact h.2

/-- Another file of the chip, all of one byte. -/
def otherFile (x : UInt8) : UInt8 → Bytes := fun _ => List.replicate 256 x

/-- At 32899 = 0x8083 the chip reads that file. -/
theorem DeclaredFile.readBinary_behind (h : DeclaredFile g file total) (x : UInt8)
    (htotal : 32899 < total) :
    ChipFiles.readBinary ⟨file, otherFile x⟩ (partOf file total 32899).nextCommand
      = some (List.replicate (min (min (total - 32899) 255) 125) x) := by
  have hwhole := h.whole
  have hdata : (partOf file total 32899).data.length = 32899 := by
    show (file.take 32899).length = 32899
    rw [List.length_take]
    omega
  have hp1 : ¬ (32899 / 256 : ℕ).toUInt8 < 0x80 := by decide
  have hp2 : (32899 : ℕ).toUInt8.toNat = 131 := by decide
  rw [DgBuffer.nextCommand, hdata, h.remaining htotal.le, ChipFiles.readBinary]
  simp only [if_neg hp1, hp2]
  rw [otherFile, fileBytes, if_pos (by rw [List.length_replicate]; omega), List.drop_replicate,
    List.take_replicate,
    show (min ((total - 32899 : ℕ) : ℤ) 255).toNat = min (total - 32899) 255 from by omega]

/-- A loop that has reached 32899 reads a byte from elsewhere. -/
theorem LoopHas.wrongByte (hfile : DeclaredFile g file total) {x : UInt8}
    (h : LoopHas g file total 32899 s) (hhonest : HonestAnswer env g ⟨file, otherFile x⟩ s e) :
    WrongByte g x (s.step env e) := by
  obtain ⟨htotal, hat⟩ := h
  have hwhole := hfile.whole
  obtain ⟨apdu, hs⟩ := hat.status
  obtain ⟨bytes, he, hopened⟩ := hat.answer hhonest
  rw [hfile.readBinary_behind x htotal] at hopened
  have hlen : (file.take 32899).length = 32899 := by
    rw [List.length_take]
    omega
  have hstarted : ∀ p request, s.status = .waiting p request → g.started p = true := by
    intro p request hs'
    rw [hs, PassportStatus.waiting.injEq] at hs'
    rw [← hs'.1]
    exact g.started_pending
  refine ⟨started_step hstarted, ?_⟩
  rcases loop_step env g s e with ⟨request, hs', -, -⟩ |
    ⟨request, bytes', plaintext, ok, -, he', hopened', happ, -⟩ | ⟨-, -, hclosed⟩
  · have := hstarted _ request hs'
    cases g <;> cases this
  · rw [he, Option.some.injEq] at he'
    rw [← he', hopened, Option.some.injEq] at hopened'
    have hdata : (g.buffer s.read).data = file.take 32899 := by rw [hat.buffer]; rfl
    rw [(dgAppend_data happ).1, hdata, ← hopened',
      List.getElem?_append_right (by omega), hlen, Nat.sub_self, List.getElem?_replicate,
      if_pos (by omega)]
  · -- the array is far from GLib's limit, so the plaintext was appended
    have hnone := hclosed _ bytes _ hs he hopened
    rw [hat.buffer, dgAppend, Option.map_eq_none_iff, byteArrayAppend, if_pos] at hnone
    · cases hnone
    · show (file.take 32899).length + _ < 2 ^ 32
      rw [hlen, List.length_replicate]
      omega

/-- What an honest run does to a longer file: it is on its way to 32899, or has gone wrong
there. -/
def LongFileInv (g : DataGroup) (file : Bytes) (total : ℕ) (x : UInt8) (s : PassportState G) :
    Prop :=
  LoopStart g s ∨ (∃ k ≤ 129, LoopHas g file total (4 + 255 * k) s) ∨ WrongByte g x s

theorem LongFileInv.step (hssl : env.ssl.Total) (hfile : DeclaredFile g file total)
    (hlong : 32899 < total) {x : UInt8} (h : LongFileInv g file total x s)
    (hhonest : HonestAnswer env g ⟨file, otherFile x⟩ s e) :
    LongFileInv g file total x (s.step env e) := by
  rcases h with hstart | ⟨k, hk, hhas⟩ | hwrong
  · rcases LoopStart.step hssl hfile hstart hhonest with ⟨h4, -⟩ | hmore
    · omega
    · exact Or.inr (Or.inl ⟨0, by omega, hmore⟩)
  · rcases Nat.lt_or_ge k 129 with hlt | hge
    · -- before the limit, and so not at the end of the file either
      obtain ⟨hsmall, hat⟩ := hhas
      obtain ⟨bytes, he, hopened⟩ := hat.answer hhonest
      rw [hfile.readBinary_next _ hsmall (by omega),
        show min (total - (4 + 255 * k)) 255 = 255 from by omega] at hopened
      rcases hat.reaches hssl hfile he hopened (hfile.append_chunk (by omega)) (by omega) with
        ⟨hend, -⟩ | hmore
      · omega
      · exact Or.inr (Or.inl ⟨k + 1, hlt,
          by rwa [show 4 + 255 * (k + 1) = 4 + 255 * k + 255 from by ring]⟩)
    · obtain rfl : k = 129 := by omega
      exact Or.inr (Or.inr (LoopHas.wrongByte hfile hhas hhonest))
  · exact Or.inr (Or.inr (hwrong.step e))

/-- An honest run that does not reassemble a longer file. -/
theorem exists_not_reassembled (hssl : env.ssl.Total) (hinv : env.ssl.DecryptInverts)
    (hfile : DeclaredFile g file total) (hstart : LoopStart g s) (hlong : 32899 < total) :
    ∃ bySfi events, Along (HonestAnswer env g ⟨file, bySfi⟩) (PassportState.step env) s events ∧
      total ≤ events.length ∧
      ¬ Reassembled g file total (run (PassportState.step env) s events) := by
  have hwhole := hfile.whole
  obtain ⟨x, hx⟩ : ∃ x, file[32899]? = some x :=
    ⟨_, List.getElem?_eq_getElem (show 32899 < file.length by omega)⟩
  obtain ⟨events, hlen, halong⟩ := exists_along (Answerable g)
    (fun _ h => h.progress hssl hinv ⟨file, otherFile (x + 1)⟩) (fun _ e h _ => h.step e)
    hstart.answerable total
  have hrun : LongFileInv g file total (x + 1) (run (PassportState.step env) s events) :=
    halong.invariant (LongFileInv g file total (x + 1))
      (fun _ _ h hhonest => h.step hssl hfile hlong hhonest) (Or.inl hstart)
  refine ⟨otherFile (x + 1), events, halong, hlen.ge, ?_⟩
  rintro ⟨hleft, hdata⟩
  rcases hrun with ⟨⟨apdu, hs⟩, -, -⟩ | ⟨k, -, -, ⟨⟨apdu, hs⟩, -, -⟩⟩ | ⟨-, hwrong⟩
  · exact (hleft _ _ hs).2 rfl
  · exact (hleft _ _ hs).2 rfl
  · rw [hdata, List.getElem?_take_of_lt hlong, hx, Option.some.injEq] at hwrong
    have hne : x + 1 ≠ x := by
      intro h
      have := congrArg UInt8.toNat h
      rw [UInt8.toNat_add] at this
      have hlt := x.toNat_lt
      have h1 : (1 : UInt8).toNat = 1 := rfl
      omega
    exact hne hwrong.symm

/-! ## Whole files -/

/-- **Which files are reassembled.** Against an honest chip the loop ends with exactly the
declared part of the file in its buffer, whatever the chip's other files hold, if and only
if that part has at most 32899 bytes. -/
theorem chunked_read_iff (hssl : env.ssl.Total) (hinv : env.ssl.DecryptInverts)
    (hfile : DeclaredFile g file total) (hstart : LoopStart g s) :
    (∀ bySfi events, Along (HonestAnswer env g ⟨file, bySfi⟩) (PassportState.step env) s events →
      total ≤ events.length →
      Reassembled g file total (run (PassportState.step env) s events)) ↔ total ≤ 32899 := by
  constructor
  · intro h
    by_contra hlong
    obtain ⟨bySfi, events, halong, hlen, hnot⟩ :=
      exists_not_reassembled hssl hinv hfile hstart (by omega)
    exact hnot (h bySfi events halong hlen)
  · intro hlimit bySfi events halong hlen
    have hfour := hfile.four_le
    have hrun : FileInv g file total (run (PassportState.step env) s events)
        (trace (fun _ e => some e) (PassportState.step env) s events).length :=
      halong.trace_invariant (fun s es => FileInv g file total s es.length)
        (fun _ es _ h hhonest => by
          rw [List.length_append]
          exact h.step hssl hfile hlimit hhonest)
        (Or.inl ⟨hstart, rfl⟩)
    rw [trace_some] at hrun
    rcases hrun with ⟨-, hzero⟩ | ⟨k, hhas, hk⟩ | hdone
    · omega
    · have := hhas.1
      omega
    · exact hdone

end Loop

/-! ### The specimen's chip -/

/-- The libraries of the specimen's read, completed. -/
def specimenTotalEnv : PassportEnv Unit Unit :=
  ⟨specimenRecording.total, .failing Unit Unit, fun _ => none⟩

theorem swaps_specimenRecording : specimenRecording.Swaps := by decide +kernel

/-- A large EF.DG2, `75 82 9C3C` and 39996 bytes more. -/
def largeDg2 : Bytes := [0x75, 0x82, 0x9C, 0x3C] ++ List.replicate 39996 0x00

/-- The read right after the chip has answered DG2's SELECT. -/
def specimenDg2Start : PassportState Unit :=
  passportRun specimenTotalEnv (.bac specimenKeys true)
    (specimenEvents ++ [replyEvent (beBytes 16 0x990290008E08307FA6B65902FF749000)])

/-- A photo file of 40000 bytes is not reassembled. -/
theorem large_dg2_not_reassembled :
    specimenTotalEnv.ssl.Total ∧ specimenTotalEnv.ssl.DecryptInverts ∧
      DeclaredFile .dg2 largeDg2 40000 ∧ LoopStart .dg2 specimenDg2Start ∧
      ¬ ∀ bySfi events, Along (HonestAnswer specimenTotalEnv .dg2 ⟨largeDg2, bySfi⟩)
          (PassportState.step specimenTotalEnv) specimenDg2Start events →
        40000 ≤ events.length →
        Reassembled .dg2 largeDg2 40000
          (run (PassportState.step specimenTotalEnv) specimenDg2Start events) := by
  have hssl : specimenTotalEnv.ssl.Total := Recording.total_total swaps_specimenRecording
  have hinv : specimenTotalEnv.ssl.DecryptInverts :=
    Recording.total_decryptInverts swaps_specimenRecording
  have hhead : bacBerTlvHeader largeDg2 = some (4, 39996) :=
    bacBerTlvHeader_append (by decide) _
  have hlen : largeDg2.length = 40000 := by
    rw [largeDg2, List.length_append, List.length_replicate]
    rfl
  have hfile : DeclaredFile .dg2 largeDg2 40000 :=
    ⟨⟨(4, 39996), hhead, rfl⟩, hlen.ge, by decide, by decide⟩
  have hstart : LoopStart .dg2 specimenDg2Start :=
    loopStart_of_bac (beBytes 19 0x0CB000000D9701048E080B4E7593C5D566E200) (by decide +kernel)
  refine ⟨hssl, hinv, hfile, hstart, ?_⟩
  intro h
  obtain ⟨bySfi, events, halong, hlen, hnot⟩ :=
    exists_not_reassembled hssl hinv hfile hstart (by decide)
  exact hnot (h bySfi events halong hlen)

/-- The read right after the chip has answered DG1's SELECT. -/
def specimenDg1Start : PassportState Unit :=
  passportRun specimenTotalEnv (.bac specimenKeys true) (specimenEvents.take 5)

theorem chunked_read_iff_specimen :
    (∀ bySfi events,
      Along (HonestAnswer specimenTotalEnv .dg1
        ⟨[0x61, 0x05, 0x5F, 0x1F, 0x02, 0x50, 0x3C], bySfi⟩)
        (PassportState.step specimenTotalEnv) specimenDg1Start events →
      7 ≤ events.length →
      Reassembled .dg1 [0x61, 0x05, 0x5F, 0x1F, 0x02, 0x50, 0x3C] 7
        (run (PassportState.step specimenTotalEnv) specimenDg1Start events)) ↔ 7 ≤ 32899 := by
  exact chunked_read_iff (Recording.total_total swaps_specimenRecording)
    (Recording.total_decryptInverts swaps_specimenRecording)
    ⟨⟨(2, 5), by decide, rfl⟩, by decide, by decide, by decide⟩
    (loopStart_of_bac (beBytes 19 0x0CB000000D9701048E08ED6705417E96BA5500) (by decide +kernel))

end NfcAdapter
