/-
# The read loops of EF.DG1 and EF.DG2

Two copies of one loop: the plaintext of every answer goes to the end of a buffer, the
first one also gives the total length, and as long as the buffer is not complete the next
READ BINARY asks for more.  How long the chip's answers are is never checked.
-/
import NfcAdapter.PassportAuth

namespace NfcAdapter

open Runs ByteCounter

variable {G P : Type} {env : PassportEnv G P}

/-! ## The two loops as one -/

/-- The data groups that are read in chunks. -/
inductive DataGroup where
  | dg1
  | dg2
  deriving DecidableEq, Repr

/-- The callback of the loop. -/
def DataGroup.pending : DataGroup → Pending
  | .dg1 => .dg1Rest
  | .dg2 => .dg2Rest

/-- The callback that starts it. -/
def DataGroup.selecting : DataGroup → Pending
  | .dg1 => .selectDg1
  | .dg2 => .selectDg2

/-- The longest file the loop reads. -/
def DataGroup.maxLen : DataGroup → ℕ
  | .dg1 => passportDg1MaxLen
  | .dg2 => passportDg2MaxLen

/-- The buffer the loop fills. -/
def DataGroup.buffer (g : DataGroup) (read : PassportRead G) : DgBuffer :=
  match g with
  | .dg1 => read.dg1
  | .dg2 => read.dg2.getD .new

/-- The callbacks in the loop or behind it. -/
def DataGroup.started (g : DataGroup) (p : Pending) : Bool :=
  match g, p with
  | .dg1, .dg1Rest | .dg1, .selectDg2 | .dg1, .dg2Rest | .dg2, .dg2Rest => true
  | _, _ => false

theorem DataGroup.started_pending (g : DataGroup) : g.started g.pending = true := by
  cases g <;> rfl

/-- A loop is entered from its SELECT, and never before or behind it. -/
theorem DataGroup.of_nexts {g : DataGroup} {p q : Pending} (h : q ∈ p.nexts) :
    (q = g.pending → p = g.selecting ∨ p = g.pending) ∧
      (g.started q = false → g.started p = false) ∧ (g.started p = true → p ≠ g.selecting) := by
  cases g <;> cases p <;> cases q <;>
    simp_all [Pending.nexts, DataGroup.pending, DataGroup.selecting, DataGroup.started]

@[simp] theorem DataGroup.buffer_withSsc (g : DataGroup) (read : PassportRead G)
    (x : FixedBytes 8) (y : FixedBytes 16) : g.buffer (read.withSsc x y) = g.buffer read := by
  cases g <;> rfl

/-! ## What one completion does to a loop -/

/-- One completion, as a loop sees it: the loop starts over an empty buffer, an opened
plaintext is appended, or there is none to append and the loop is not waiting. -/
inductive LoopStep (env : PassportEnv G P) (g : DataGroup) (s : PassportState G)
    (e : PassportEvent) : Prop where
  | opens (request : PassportRequest) (hs : s.status = .waiting g.selecting request)
      (hbuffer : g.buffer (s.step env e).read = .new)
      (hnext : ∀ request', (s.step env e).status = .waiting g.pending request' →
        request'.command = some readHeaderCommand)
  | reads (request : PassportRequest) (bytes plaintext : Bytes) (ok : Bool)
      (hs : s.status = .waiting g.pending request) (he : e.reply = some bytes)
      (hopened : s.read.opened env bytes = some plaintext)
      (happ : dgAppend g.maxLen (g.buffer s.read) plaintext
        = some (g.buffer (s.step env e).read, ok))
      (hnext : ∀ request', (s.step env e).status = .waiting g.pending request' →
        ok = true ∧ (g.buffer (s.step env e).read).remaining ≠ 0 ∧
          request'.command = some (g.buffer (s.step env e).read).nextCommand)
  | idle (hbuffer : g.buffer (s.step env e).read = g.buffer s.read)
      (hnext : ∀ request, (s.step env e).status ≠ .waiting g.pending request)
      (hclosed : ∀ request bytes plaintext, s.status = .waiting g.pending request →
        e.reply = some bytes → s.read.opened env bytes = some plaintext →
        dgAppend g.maxLen (g.buffer s.read) plaintext = none)

/-- The callbacks that belong to no loop leave both alone. -/
theorem loopStep_of_ne {g : DataGroup} {s : PassportState G} {e : PassportEvent} {p : Pending}
    {request : PassportRequest} (hs : s.status = .waiting p request)
    (hread : g.buffer (s.step env e).read = g.buffer s.read)
    (hselecting : p ≠ g.selecting) (hpending : p ≠ g.pending) : LoopStep env g s e := by
  refine .idle hread ?_ ?_
  · intro request' hs'
    rcases (DataGroup.of_nexts (step_nexts hs hs')).1 rfl with h | h
    · exact hselecting h
    · exact hpending h
  · intro request' _ _ hs'
    rw [hs, PassportStatus.waiting.injEq] at hs'
    exact absurd hs'.1 hpending

theorem loopStep_dg1 (s : PassportState G) (e : PassportEvent) (bytes : Bytes) {p : Pending}
    {request : PassportRequest} (hs : s.status = .waiting p request) (he : e.reply = some bytes) :
    LoopStep env .dg1 s e := by
  have hstep : s.step env e = _ := step_reply hs he
  by_cases hp : p.writesBuffer = false
  · refine loopStep_of_ne hs ?_ (by rintro rfl; cases hp) (by rintro rfl; cases hp)
    rw [hstep]
    exact (passportReady_buffers env s.read e bytes hp).1
  · cases p with
    | selectDg1 =>
      rcases passportSelectDg1Ready_cases env s.read bytes with hstop | ⟨x, y, apdu, hout⟩
      · obtain ⟨x, y, hout | hout⟩ := passportSelectDg1Ready_fst env s.read bytes
        · refine .idle ?_ ?_ ?_
          · rw [hstep]
            show (passportSelectDg1Ready env s.read bytes).1.dg1 = _
            rw [hout]
            rfl
          · rw [hstep]
            exact hstop.ne_waiting .dg1Rest
          · intro _ _ _ hs'
            rw [hs] at hs'
            cases hs'
        · refine .opens request hs ?_ ?_
          · rw [hstep]
            show (passportSelectDg1Ready env s.read bytes).1.dg1 = _
            rw [hout]
            rfl
          · intro request' hs'
            rw [hstep] at hs'
            exact absurd hs' (hstop.ne_waiting .dg1Rest request')
      · refine .opens request hs ?_ ?_
        · rw [hstep]
          show (passportSelectDg1Ready env s.read bytes).1.dg1 = _
          rw [hout]
          rfl
        · intro request' hs'
          rw [hstep] at hs'
          simp only [passportReady, hout, PassportStatus.waiting.injEq] at hs'
          rw [← hs'.2]
    | dg1Rest =>
      obtain ⟨dg1, mrz, x, y, hfst, hbuffer⟩ := passportDg1RestReady_fst env s.read bytes
      have hread : (DataGroup.dg1).buffer (s.step env e).read = dg1 := by
        rw [hstep]
        show (passportDg1RestReady env s.read bytes).1.dg1 = dg1
        rw [hfst]
        rfl
      -- what a next READ BINARY says about the buffer
      have hnext : ∀ request', (s.step env e).status = .waiting .dg1Rest request' →
          ∃ plaintext, s.read.opened env bytes = some plaintext ∧
            dgAppend passportDg1MaxLen s.read.dg1 plaintext = some (dg1, true) ∧
            dg1.remaining ≠ 0 ∧ request'.command = some dg1.nextCommand := by
        intro request' hs'
        rw [hstep] at hs'
        have hs' : (passportDg1RestReady env s.read bytes).2 = .waiting .dg1Rest request' := hs'
        rcases passportDg1RestReady_cases env s.read bytes with hstop | ⟨plaintext, dg1', hopened,
          happ, ⟨hrem, x', y', apdu, hout⟩ | ⟨-, mrz', x', y', -, ⟨apdu, hout⟩ | hout⟩⟩
        · exact absurd hs' (hstop.ne_waiting .dg1Rest request')
        · have hdg : dg1' = dg1 := by
            have h := congrArg (fun r => r.1.dg1) hout
            rw [hfst] at h
            exact h.symm
          subst hdg
          simp only [hout, PassportStatus.waiting.injEq] at hs'
          exact ⟨plaintext, hopened, happ, hrem, by rw [← hs'.2]⟩
        · simp [hout] at hs'
        · simp [hout, passportBuildResultAndFinish] at hs'
      rcases hbuffer with ⟨hsame, hclosed⟩ | ⟨plaintext, ok, hopened, happ⟩
      · refine .idle (by rw [hread, hsame]; rfl) ?_ ?_
        · intro request' hs'
          obtain ⟨plaintext, hopened, happ, -, -⟩ := hnext request' hs'
          rw [hclosed plaintext hopened] at happ
          cases happ
        · intro _ bytes' plaintext _ he' hopened
          rw [he, Option.some.injEq] at he'
          exact hclosed plaintext (he' ▸ hopened)
      · refine .reads request bytes plaintext ok hs he hopened (by rw [hread]; exact happ) ?_
        intro request' hs'
        obtain ⟨plaintext', hopened', happ', hrem, hcmd⟩ := hnext request' hs'
        rw [hopened, Option.some.injEq] at hopened'
        subst hopened'
        rw [happ, Option.some.injEq, Prod.mk.injEq] at happ'
        exact ⟨happ'.2, by rw [hread]; exact hrem, by rw [hread]; exact hcmd⟩
    | selectDg2 =>
      refine loopStep_of_ne hs ?_ (by decide) (by decide)
      obtain ⟨dg2, x, y, hout⟩ := passportSelectDg2Ready_fst env s.read bytes
      rw [hstep]
      show (passportSelectDg2Ready env s.read bytes).1.dg1 = _
      rw [hout]
      rfl
    | dg2Rest =>
      refine loopStep_of_ne hs ?_ (by decide) (by decide)
      obtain ⟨dg2, x, y, hout⟩ := passportDg2RestReady_fst env s.read bytes
      rw [hstep]
      show (passportDg2RestReady env s.read bytes).1.dg1 = _
      rw [hout]
      rfl
    | _ => exact absurd rfl hp

theorem loopStep_dg2 (s : PassportState G) (e : PassportEvent) (bytes : Bytes) {p : Pending}
    {request : PassportRequest} (hs : s.status = .waiting p request) (he : e.reply = some bytes) :
    LoopStep env .dg2 s e := by
  have hstep : s.step env e = _ := step_reply hs he
  -- the buffer after a step that leaves `dg2` alone
  have hkeep : (s.step env e).read.dg2 = s.read.dg2 →
      (DataGroup.dg2).buffer (s.step env e).read = (DataGroup.dg2).buffer s.read := by
    intro h
    show (s.step env e).read.dg2.getD .new = _
    rw [h]
    rfl
  by_cases hp : p.writesBuffer = false
  · refine loopStep_of_ne hs (hkeep ?_) (by rintro rfl; cases hp) (by rintro rfl; cases hp)
    rw [hstep]
    exact (passportReady_buffers env s.read e bytes hp).2
  · cases p with
    | selectDg1 =>
      refine loopStep_of_ne hs (hkeep ?_) (by decide) (by decide)
      rw [hstep]
      show (passportSelectDg1Ready env s.read bytes).1.dg2 = _
      obtain ⟨x, y, hout | hout⟩ := passportSelectDg1Ready_fst env s.read bytes
      · rw [hout]
        rfl
      · rw [hout]
        rfl
    | dg1Rest =>
      refine loopStep_of_ne hs (hkeep ?_) (by decide) (by decide)
      obtain ⟨dg1, mrz, x, y, hout, -⟩ := passportDg1RestReady_fst env s.read bytes
      rw [hstep]
      show (passportDg1RestReady env s.read bytes).1.dg2 = _
      rw [hout]
      rfl
    | selectDg2 =>
      obtain ⟨x, y, ⟨apdu, hout⟩ | hout | hout⟩ := passportSelectDg2Ready_cases env s.read bytes
      · refine .opens request hs ?_ ?_
        · rw [hstep]
          show ((passportSelectDg2Ready env s.read bytes).1.dg2).getD .new = _
          rw [hout]
          rfl
        · intro request' hs'
          rw [hstep] at hs'
          simp only [passportReady, hout, PassportStatus.waiting.injEq] at hs'
          rw [← hs'.2]
      · refine .opens request hs ?_ ?_
        · rw [hstep]
          show ((passportSelectDg2Ready env s.read bytes).1.dg2).getD .new = _
          rw [hout]
          rfl
        · intro request' hs'
          rw [hstep] at hs'
          simp [passportReady, hout, passportBuildResultAndFinish] at hs'
      · refine .idle (hkeep ?_) ?_ ?_
        · rw [hstep]
          show (passportSelectDg2Ready env s.read bytes).1.dg2 = _
          rw [hout]
          rfl
        · intro request' hs'
          rw [hstep] at hs'
          simp [passportReady, hout, passportBuildResultAndFinish] at hs'
        · intro _ _ _ hs'
          rw [hs] at hs'
          cases hs'
    | dg2Rest =>
      obtain ⟨x, y, ⟨hnone, hout⟩ | ⟨plaintext, hopened, happ, hout⟩ |
        ⟨plaintext, dg2, hopened, happ, hout⟩ |
        ⟨plaintext, dg2, hopened, happ, ⟨apdu, hrem, hout⟩ | hout⟩⟩ :=
        passportDg2RestReady_cases env s.read bytes
      · refine .idle (hkeep ?_) ?_ ?_
        · rw [hstep]
          show (passportDg2RestReady env s.read bytes).1.dg2 = _
          rw [hout]
          rfl
        · intro request' hs'
          rw [hstep] at hs'
          simp [passportReady, hout, passportBuildResultAndFinish] at hs'
        · intro _ bytes' plaintext _ he' hopened
          rw [he, Option.some.injEq] at he'
          rw [← he', hnone] at hopened
          cases hopened
      · refine .idle (hkeep ?_) ?_ ?_
        · rw [hstep]
          show (passportDg2RestReady env s.read bytes).1.dg2 = _
          rw [hout]
          rfl
        · intro request' hs'
          rw [hstep] at hs'
          simp [passportReady, hout] at hs'
        · intro _ bytes' plaintext' _ he' hopened'
          rw [he, Option.some.injEq] at he'
          rw [← he', hopened, Option.some.injEq] at hopened'
          exact hopened' ▸ happ
      all_goals
        have hread : (DataGroup.dg2).buffer (s.step env e).read = dg2 := by
          rw [hstep]
          show ((passportDg2RestReady env s.read bytes).1.dg2).getD .new = _
          rw [hout]
          rfl
        refine .reads request bytes plaintext _ hs he hopened (by rw [hread]; exact happ) ?_
        intro request' hs'
        rw [hstep] at hs'
      · simp [passportReady, hout, passportBuildResultAndFinish] at hs'
      · simp only [passportReady, hout, PassportStatus.waiting.injEq] at hs'
        exact ⟨rfl, by rw [hread]; exact hrem, by rw [hread, ← hs'.2]⟩
      · simp [passportReady, hout, passportBuildResultAndFinish] at hs'
    | _ => exact absurd rfl hp

/-- **Every completion** is one of the three for either loop. -/
theorem loop_step (env : PassportEnv G P) (g : DataGroup) (s : PassportState G)
    (e : PassportEvent) : LoopStep env g s e := by
  rcases hs : s.status with ⟨p, request⟩ | ⟨success, text, result⟩ | _
  · rcases he : e.reply with _ | bytes
    · have hstep : s.step env e = _ := step_replyFailed hs he
      refine .idle (by rw [hstep, passportReplyFailed_fst]) ?_ ?_
      · rw [hstep]
        exact passportReplyFailed_ne_waiting env s.read p g.pending
      · intro _ bytes _ _ he'
        rw [he] at he'
        cases he'
    · cases g with
      | dg1 => exact loopStep_dg1 s e bytes hs he
      | dg2 => exact loopStep_dg2 s e bytes hs he
  · have hstep : s.step env e = s := step_of_not_waiting e (by simp [hs])
    exact .idle (by rw [hstep]) (by rw [hstep, hs]; simp) (by rw [hs]; simp)
  · have hstep : s.step env e = s := step_of_not_waiting e (by simp [hs])
    exact .idle (by rw [hstep]) (by rw [hstep, hs]; simp) (by rw [hs]; simp)

/-! ## Answers that fit -/

/-- The plaintext a completion brings to the loop. -/
def loopPlaintext (env : PassportEnv G P) (g : DataGroup) (s : PassportState G)
    (e : PassportEvent) : Option Bytes :=
  match s.status, e.reply with
  | .waiting p _, some bytes => if p = g.pending then s.read.opened env bytes else none
  | _, _ => none

/-- A plaintext that leaves the buffer within the file: the first one is no longer than its
own header says, every other is not empty and not longer than what is still missing. -/
def DgBuffer.Fits (maxLen : ℕ) (dg : DgBuffer) (plaintext : Bytes) : Prop :=
  if dg.totalLen = 0 then
    ∀ r ∈ bacBerTlvHeader (dg.data ++ plaintext), r.1 + r.2 ≤ maxLen →
      (dg.data ++ plaintext).length ≤ r.1 + r.2
  else plaintext ≠ [] ∧ dg.data.length + plaintext.length ≤ dg.totalLen

instance (maxLen : ℕ) (dg : DgBuffer) (plaintext : Bytes) :
    Decidable (dg.Fits maxLen plaintext) := by
  unfold DgBuffer.Fits
  infer_instance

/-- A completion whose plaintext, if it has one for the loop, fits. -/
def ChunkFits (env : PassportEnv G P) (g : DataGroup) (s : PassportState G) (e : PassportEvent) :
    Prop :=
  ∀ plaintext ∈ loopPlaintext env g s e, (g.buffer s.read).Fits g.maxLen plaintext

instance (env : PassportEnv G P) (g : DataGroup) (s : PassportState G) (e : PassportEvent) :
    Decidable (ChunkFits env g s e) := by
  unfold ChunkFits
  infer_instance

/-- The READ BINARY a completion makes the loop send. -/
def readBinarySent (env : PassportEnv G P) (g : DataGroup) (s : PassportState G)
    (e : PassportEvent) : Option SmCommand :=
  match (s.step env e).status with
  | .waiting p request => if p = g.pending then request.command else none
  | _ => none

/-- What a bounded loop keeps to, `sent` being its commands so far. -/
structure LoopBounded (g : DataGroup) (s : PassportState G) (sent : List SmCommand) : Prop where
  noOverrun : (g.buffer s.read).totalLen ≠ 0 →
    (g.buffer s.read).data.length ≤ (g.buffer s.read).totalLen
  noWrap : (g.buffer s.read).totalLen ≠ 0 →
    (g.buffer s.read).remaining + (g.buffer s.read).data.length = (g.buffer s.read).totalLen
  commands : (g.buffer s.read).totalLen ≠ 0 → sent.length ≤ (g.buffer s.read).totalLen
  ceiling : sent.length ≤ g.maxLen
  finishes : (g.buffer s.read).totalLen ≠ 0 → ∀ request, s.status = .waiting g.pending request →
    sent.length < (g.buffer s.read).totalLen

/-- The invariant: every command but the first is paid for by a byte in the buffer. -/
structure LoopInv (g : DataGroup) (s : PassportState G) (sent : List SmCommand) : Prop where
  unknown : (g.buffer s.read).totalLen = 0 → sent.length ≤ 1
  known : (g.buffer s.read).totalLen ≠ 0 →
    sent.length ≤ (g.buffer s.read).data.length ∧
      (g.buffer s.read).data.length ≤ (g.buffer s.read).totalLen ∧
      (g.buffer s.read).totalLen ≤ g.maxLen
  waiting : (g.buffer s.read).totalLen ≠ 0 → ∀ request, s.status = .waiting g.pending request →
    (g.buffer s.read).data.length < (g.buffer s.read).totalLen
  before : ∀ p request, s.status = .waiting p request → g.started p = false → sent = []

/-! ## Runs of a loop -/

theorem DataGroup.maxLen_bounds (g : DataGroup) : 1 ≤ g.maxLen ∧ g.maxLen ≤ 65536 := by
  cases g <;> decide

theorem readBinarySent_of_ne {g : DataGroup} {s : PassportState G} {e : PassportEvent}
    (h : ∀ request, (s.step env e).status ≠ .waiting g.pending request) :
    readBinarySent env g s e = none := by
  unfold readBinarySent
  split
  · next p request hs =>
    rw [if_neg]
    rintro rfl
    exact h request hs
  · rfl

theorem LoopInv.bounded {g : DataGroup} {s : PassportState G} {sent : List SmCommand}
    (h : LoopInv g s sent) : LoopBounded g s sent := by
  have hmax := g.maxLen_bounds
  constructor
  · intro htotal
    exact (h.known htotal).2.1
  · intro htotal
    obtain ⟨-, hlen, hle⟩ := h.known htotal
    rw [remaining_of_le hlen (by omega)]
    omega
  · intro htotal
    obtain ⟨hsent, hlen, -⟩ := h.known htotal
    omega
  · by_cases htotal : (g.buffer s.read).totalLen = 0
    · have := h.unknown htotal
      omega
    · obtain ⟨hsent, hlen, hle⟩ := h.known htotal
      omega
  · intro htotal request hs
    obtain ⟨hsent, -, -⟩ := h.known htotal
    have := h.waiting htotal request hs
    omega

/-- One completion that fits keeps the invariant. -/
theorem LoopInv.step {g : DataGroup} {s : PassportState G} {sent : List SmCommand}
    (h : LoopInv g s sent) (e : PassportEvent) (hfits : ChunkFits env g s e) :
    LoopInv g (s.step env e) (sent ++ (readBinarySent env g s e).toList) := by
  have hmax := g.maxLen_bounds
  -- before the loop nothing is sent, whatever kind of step it is
  have hbefore : ∀ q request', (s.step env e).status = .waiting q request' →
      g.started q = false → sent ++ (readBinarySent env g s e).toList = [] := by
    intro q request' hs' hq
    obtain ⟨p, request, hs, hnexts⟩ := waiting_before hs'
    have hne : ∀ request, (s.step env e).status ≠ .waiting g.pending request := by
      intro request'' hs''
      rw [hs', PassportStatus.waiting.injEq] at hs''
      rw [hs''.1, g.started_pending] at hq
      cases hq
    rw [readBinarySent_of_ne hne, h.before p request hs ((DataGroup.of_nexts hnexts).2.1 hq)]
    rfl
  have hone : (readBinarySent env g s e).toList.length ≤ 1 := by
    cases readBinarySent env g s e <;> simp
  rcases loop_step env g s e with ⟨request, hs, hbuffer, -⟩ |
    ⟨request, bytes, plaintext, ok, hs, he, hopened, happ, hnext⟩ | ⟨hbuffer, hnext, -⟩
  · have hsent : sent = [] := h.before _ request hs (by cases g <;> rfl)
    have htotal : (g.buffer (s.step env e).read).totalLen = 0 := by rw [hbuffer]; rfl
    refine ⟨fun _ => ?_, fun hne => absurd htotal hne, fun hne => absurd htotal hne, hbefore⟩
    rw [hsent]
    exact hone
  · have hfit : (g.buffer s.read).Fits g.maxLen plaintext := by
      apply hfits
      simp [loopPlaintext, hs, he, hopened]
    obtain ⟨hdata, hlt⟩ := dgAppend_data happ
    cases ok with
    | false =>
      -- an unusable header: nothing is sent, and the total stays unknown
      have hne : ∀ request', (s.step env e).status ≠ .waiting g.pending request' := by
        intro request' hs'
        have := (hnext request' hs').1
        cases this
      have htotal := (dgAppend_false happ).1
      have htotal' : (g.buffer (s.step env e).read).totalLen = 0 := by
        rw [dgAppend_totalLen_false happ, htotal]
      refine ⟨fun _ => ?_, fun hne => absurd htotal' hne, fun hne => absurd htotal' hne, hbefore⟩
      rw [readBinarySent_of_ne hne]
      simpa using h.unknown htotal
    | true =>
      have hpos : (g.buffer (s.step env e).read).totalLen ≠ 0 ∧
          (sent ++ (readBinarySent env g s e).toList).length
            ≤ (g.buffer (s.step env e).read).data.length ∧
          (g.buffer (s.step env e).read).data.length
            ≤ (g.buffer (s.step env e).read).totalLen ∧
          (g.buffer (s.step env e).read).totalLen ≤ g.maxLen := by
        rw [List.length_append, hdata]
        rcases dgAppend_true happ with ⟨htotal, htotal'⟩ | ⟨htotal, hl, cl, hhead, hle, htotal'⟩
        · obtain ⟨hsent, hlen, hle⟩ := h.known htotal
          rw [DgBuffer.Fits, if_neg htotal] at hfit
          have hne := List.length_pos_iff.mpr hfit.1
          rw [htotal', List.length_append]
          exact ⟨htotal, by omega, by omega, hle⟩
        · have hsent := h.unknown htotal
          obtain ⟨h2, -, hhl, -⟩ := bacBerTlvHeader_bounds hhead
          rw [DgBuffer.Fits, if_pos htotal] at hfit
          have hfit' := hfit (hl, cl) hhead hle
          rw [htotal']
          exact ⟨by omega, by omega, hfit', hle⟩
      refine ⟨fun hzero => absurd hzero hpos.1, fun _ => hpos.2, ?_, hbefore⟩
      intro _ request' hs'
      have hrem := (hnext request' hs').2.1
      rw [remaining_of_le hpos.2.2.1 (by omega)] at hrem
      omega
  · rw [readBinarySent_of_ne hnext, Option.toList_none, List.append_nil] at hbefore ⊢
    refine ⟨?_, ?_, fun _ request hs => absurd hs (hnext request), hbefore⟩
    · rw [hbuffer]
      exact h.unknown
    · rw [hbuffer]
      exact h.known

theorem PassportStart.loopInv (start : PassportStart) (g : DataGroup) :
    LoopInv g (start.state : PassportState G) [] := by
  have hbuffer : g.buffer (start.state : PassportState G).read = .new := by
    rcases start with ⟨keys, readPhoto⟩ | ⟨paceK, readPhoto⟩ <;> cases g <;> rfl
  refine ⟨fun _ => Nat.zero_le 1, ?_, ?_, fun _ _ _ _ => rfl⟩
  · rw [hbuffer]
    exact fun hne => absurd rfl hne
  · rw [hbuffer]
    exact fun hne => absurd rfl hne

/-- **Bounded loops.** In every run in which every plaintext that reaches a loop fits, the
buffer never exceeds the total length, the subtraction never wraps, and the loop is over
after at most as many READ BINARY commands as the file has bytes. -/
theorem read_loop_bounded (env : PassportEnv G P) (g : DataGroup) (start : PassportStart)
    (events : List PassportEvent)
    (h : Along (ChunkFits env g) (PassportState.step env) start.state events) :
    LoopBounded g (passportRun env start events)
      (trace (readBinarySent env g) (PassportState.step env) start.state events) :=
  (h.trace_invariant (LoopInv g) (fun _ _ e hinv hfits => hinv.step e hfits)
    (start.loopInv g)).bounded

/-- An empty plaintext changes nothing once the total is known: the loop asks again for what
it has asked for, as often as the chip answers so. -/
theorem dgAppend_nil {maxLen : ℕ} {dg : DgBuffer} (htotal : dg.totalLen ≠ 0)
    (hlen : dg.data.length < 2 ^ 32) : dgAppend maxLen dg [] = some (dg, true) := by
  have hdata : byteArrayAppend dg.data [] = some dg.data := by
    rw [byteArrayAppend, if_pos (by simpa using hlen), List.append_nil]
  rw [dgAppend, hdata, Option.map_some, if_neg htotal]

/-! ### A file of two bytes, with recorded values -/

/-- The read of `specimenRecording`, but DG1 starts with `61 00 5F1F`. -/
def overrunRecording : Recording :=
  { specimenRecording with
    ciphers := specimenRecording.ciphers ++
      [des3Call specimenSession.ksEnc.1 (beBytes 8 0x61005F1F80000000)
        (beBytes 8 0xF72B2DD704E9B96C)] ++
      retailCalls specimenSession.ksMac.1
        (beBytes 23 0x887022120C06C22A870901F72B2DD704E9B96C99029000)
        (beBytes 24 0xFC8C041C87261337C8BA3198F73A1245552F77879AEA241E)
        (beBytes 8 0xF64F526CEC818750) (beBytes 8 0x0201ABC6A5E8F7A7) ++
      retailCalls specimenSession.ksMac.1
        (beBytes 19 0x887022120C06C22B0CB00004800000009701FF)
        (beBytes 24 0x5FDCCD9EE5E8A084170FC10A8CB2E0FA1594F68924CF5668)
        (beBytes 8 0xEC3B77BC475E77F6) (beBytes 8 0xA5CEB985194C895A) }

/-- The libraries of that read. -/
def overrunEnv : PassportEnv Unit Unit :=
  ⟨overrunRecording.ssl, .failing Unit Unit, fun _ => none⟩

/-- Its completions, up to the first READ BINARY. -/
def overrunEvents : List PassportEvent :=
  specimenEvents.take 5 ++
    [replyEvent (beBytes 27 0x870901F72B2DD704E9B96C990290008E080201ABC6A5E8F7A79000)]

/-- A header that declares two bytes and an answer of four: the difference wraps, and the
loop asks for 255 bytes from behind the file. -/
theorem short_file_overruns :
    ((passportRun overrunEnv (.bac specimenKeys false) overrunEvents).status
        = .waiting .dg1Rest ⟨beBytes 19 0x0CB000040D9701FF8E08A5CEB985194C895A00,
          some ⟨0x00, 0xB0, 0x00, 0x04, [], 255⟩⟩ ∧
      (passportRun overrunEnv (.bac specimenKeys false) overrunEvents).read.dg1
        = ⟨[0x61, 0x00, 0x5F, 0x1F], 2⟩ ∧
      (passportRun overrunEnv (.bac specimenKeys false) overrunEvents).read.dg1.remaining
        = 2 ^ 64 - 2) ∧
    ¬ LoopBounded .dg1 (passportRun overrunEnv (.bac specimenKeys false) overrunEvents)
      (trace (readBinarySent overrunEnv .dg1) (PassportState.step overrunEnv)
        (PassportStart.bac specimenKeys false).state overrunEvents) := by
  have hrun : (passportRun overrunEnv (.bac specimenKeys false) overrunEvents).status
        = .waiting .dg1Rest ⟨beBytes 19 0x0CB000040D9701FF8E08A5CEB985194C895A00,
          some ⟨0x00, 0xB0, 0x00, 0x04, [], 255⟩⟩ ∧
      (passportRun overrunEnv (.bac specimenKeys false) overrunEvents).read.dg1
        = ⟨[0x61, 0x00, 0x5F, 0x1F], 2⟩ := by
    decide +kernel
  obtain ⟨hstatus, hdg1⟩ := hrun
  refine ⟨⟨hstatus, hdg1, ?_⟩, fun h => ?_⟩
  · rw [hdg1]
    decide
  -- four bytes are in a buffer for two
  · have hlen := h.noOverrun
    simp only [DataGroup.buffer, hdg1] at hlen
    exact absurd (hlen (by decide)) (by decide)

theorem read_loop_bounded_specimen :
    LoopBounded .dg1 (passportRun specimenEnv (.bac specimenKeys false) specimenEvents)
      (trace (readBinarySent specimenEnv .dg1) (PassportState.step specimenEnv)
        (PassportStart.bac specimenKeys false).state specimenEvents) :=
  read_loop_bounded specimenEnv .dg1 (.bac specimenKeys false) specimenEvents (by decide +kernel)

end NfcAdapter
