/-
# What a read has read

A read ends with a result only where it builds one, from the data groups in its buffers; and
whatever is in the buffers was opened, chunk by chunk, under the session of one handshake.
-/
import NfcAdapter.PassportPhoto

namespace NfcAdapter

open Runs

variable {G P : Type}

/-! ## Where results come from -/

section Outcome

variable (env : PassportEnv G P)

/-- A callback waits for the next reply, stops without a result, or builds one. -/
def Outcome (out : PassportRead G × PassportStatus) : Prop :=
  (∃ p request, out.2 = .waiting p request) ∨ out.2.Stopped ∨
    ∃ read, out = passportBuildResultAndFinish env read

variable {env}

theorem PlainStep.outcome {read : PassportRead G} {nexts : List Pending}
    {out : PassportRead G × PassportStatus} (h : PlainStep read nexts out) : Outcome env out := by
  rcases h.status with ⟨p, -, apdu, hout⟩ | hstop
  · exact Or.inl ⟨p, _, hout⟩
  · exact Or.inr (Or.inl hstop)

/-- A callback whose next request has been built. -/
theorem outcome_of_waiting {out : PassportRead G × PassportStatus} {read : PassportRead G}
    {p : Pending} {request : PassportRequest} (hout : out = (read, .waiting p request)) :
    Outcome env out :=
  Or.inl ⟨p, request, congrArg Prod.snd hout⟩

/-- **Every callback.** -/
theorem passportReady_outcome (read : PassportRead G) (e : PassportEvent) (bytes : Bytes)
    (p : Pending) : Outcome env (passportReady env read e bytes p) := by
  cases p with
  | passportAcquire => exact (passportAcquireReady_plain read).outcome
  | passportSelectAid => exact (passportSelectAidReady_plain read bytes).outcome
  | passportGetChallenge =>
    exact (passportGetChallengeReady_plain env read bytes e.challenge).outcome
  | passportMutualAuth =>
    rcases passportMutualAuthReady_cases env read bytes with
      hstop | ⟨data, session, x, y, apdu, -, -, hout⟩
    · exact Or.inr (Or.inl hstop)
    · exact outcome_of_waiting hout
  | selectEfCardAccess => exact (passportSelectEfCardAccessReady_plain read bytes).outcome
  | efCardAccessRest => exact (passportEfCardAccessRestReady_plain env read bytes).outcome
  | paceMseSetAt => exact (paceMseSetAtReady_plain read bytes).outcome
  | paceGetNonce => exact (paceGetNonceReady_plain env read bytes e.scalar).outcome
  | paceMapNonce => exact (paceMapNonceReady_plain env read bytes e.scalar).outcome
  | paceKeyAgreement => exact (paceKeyAgreementReady_plain env read bytes).outcome
  | paceMutualAuth =>
    rcases paceMutualAuthReady_cases env read bytes with hstop | ⟨-, x, y, apdu, hout⟩
    · exact Or.inr (Or.inl hstop)
    · exact outcome_of_waiting hout
  | paceSelectAid =>
    rcases paceSelectAidReady_cases env read bytes with hstop | ⟨x, y, apdu, hout⟩
    · exact Or.inr (Or.inl hstop)
    · exact outcome_of_waiting hout
  | selectDg1 =>
    rcases passportSelectDg1Ready_cases env read bytes with hstop | ⟨x, y, apdu, hout⟩
    · exact Or.inr (Or.inl hstop)
    · exact outcome_of_waiting hout
  | dg1Rest =>
    rcases passportDg1RestReady_cases env read bytes with hstop |
      ⟨plaintext, dg1, -, -, ⟨-, x, y, apdu, hout⟩ | ⟨-, mrz, x, y, -, ⟨apdu, hout⟩ | hout⟩⟩
    · exact Or.inr (Or.inl hstop)
    · exact outcome_of_waiting hout
    · exact outcome_of_waiting hout
    · exact Or.inr (Or.inr ⟨_, hout⟩)
  | selectDg2 =>
    obtain ⟨x, y, ⟨apdu, hout⟩ | hout | hout⟩ := passportSelectDg2Ready_cases env read bytes
    · exact outcome_of_waiting hout
    · exact Or.inr (Or.inr ⟨_, hout⟩)
    · exact Or.inr (Or.inr ⟨_, hout⟩)
  | dg2Rest =>
    obtain ⟨x, y, ⟨-, hout⟩ | ⟨plaintext, -, -, hout⟩ | ⟨plaintext, dg2, -, -, hout⟩ |
      ⟨plaintext, dg2, -, -, ⟨apdu, -, hout⟩ | hout⟩⟩ := passportDg2RestReady_cases env read bytes
    · exact Or.inr (Or.inr ⟨_, hout⟩)
    · exact Or.inr (Or.inl (Or.inr (congrArg Prod.snd hout)))
    · exact Or.inr (Or.inr ⟨_, hout⟩)
    · exact outcome_of_waiting hout
    · exact Or.inr (Or.inr ⟨_, hout⟩)

theorem passportReplyFailed_outcome (read : PassportRead G) (p : Pending) :
    Outcome env (passportReplyFailed env read p) := by
  cases p with
  | selectDg2 => exact Or.inr (Or.inr ⟨read, rfl⟩)
  | dg2Rest => exact Or.inr (Or.inr ⟨read, rfl⟩)
  | _ => exact Or.inr (Or.inl (stopped_fail _ _))

end Outcome

/-- The bytes in the DG2 buffer, if there is one. -/
def PassportRead.dg2Data (read : PassportRead G) : Option Bytes := read.dg2.map DgBuffer.data

/-- The fields are those of the MRZ, and the photo is that of the DG2 buffer. -/
def PassportResult.Formed (env : PassportEnv G P) (result : PassportResult) (dg2 : Option Bytes) :
    Prop :=
  result.fields = bacParseMrzFields result.mrzText ∧ result.photo = dg2.bind (passportPhoto env)

/-- A result that a read has ended with is formed from its buffers. -/
def FormedState (env : PassportEnv G P) (s : PassportState G) : Prop :=
  ∀ success text result, s.status = .finished success text (some result) →
    result.Formed env s.read.dg2Data

variable {env : PassportEnv G P}

theorem formedState_of_outcome {out : PassportRead G × PassportStatus} (h : Outcome env out) :
    FormedState env ⟨out.1, out.2⟩ := by
  intro success errorText result hs
  have hstatus : out.2 = .finished success errorText (some result) := hs
  rcases h with ⟨p, request, hout⟩ | (⟨t, hout⟩ | hout) | ⟨read, rfl⟩
  · cases hout.symm.trans hstatus
  · cases hout.symm.trans hstatus
  · cases hout.symm.trans hstatus
  · simp only [passportBuildResultAndFinish, PassportStatus.finished.injEq,
      Option.some.injEq] at hstatus
    obtain ⟨-, -, rfl⟩ := hstatus
    refine ⟨rfl, ?_⟩
    show (read.dg2.bind fun dg2 => passportPhoto env dg2.data)
      = (read.dg2.map DgBuffer.data).bind (passportPhoto env)
    cases read.dg2 <;> rfl

/-- **Every run of a read.** -/
theorem formedState_run (env : PassportEnv G P) (start : PassportStart)
    (events : List PassportEvent) : FormedState env (passportRun env start events) := by
  refine invariant (FormedState env) ?_ ?_ events
  · intro s e h
    rcases hs : s.status with ⟨p, request⟩ | ⟨success, errorText, result⟩ | _
    · rcases he : e.reply with _ | bytes
      · rw [step_replyFailed hs he]
        exact formedState_of_outcome (passportReplyFailed_outcome _ _)
      · rw [step_reply hs he]
        exact formedState_of_outcome (passportReady_outcome _ _ _ _)
    · rw [step_of_not_waiting e (by simp [hs])]
      exact h
    · rw [step_of_not_waiting e (by simp [hs])]
      exact h
  · intro success errorText result hs
    cases start <;> cases hs

/-! ## What a read was asked for with -/

/-- The keys and the wish for a photo that a read carries. -/
def PassportRead.asked (read : PassportRead G) : PassportStart :=
  if read.usePace then .pace read.paceK read.readPhoto else .bac read.keys read.readPhoto

section Asked

variable (env : PassportEnv G P)

theorem asked_passportSend {r : PassportRead G × Option Bytes} {cmd : SmCommand} {next : Pending}
    {failed : PassportRead G → PassportRead G × PassportStatus}
    (hfailed : ∀ read, (failed read).1 = read) {read : PassportRead G} {start : PassportStart}
    (hr : ∃ x y, r.1 = read.withSsc x y) (hread : read.asked = start) :
    (passportSend cmd next failed r).1.asked = start := by
  obtain ⟨x, y, hfst⟩ := hr
  rw [passportSend_fst hfailed, hfst]
  exact hread

/-- EF.CardAccess, the next chunk or the choice of an entry. -/
theorem asked_cardAccessMore (read : PassportRead G) :
    (passportCardAccessMore env read).1.asked = read.asked := by
  unfold passportCardAccessMore
  split
  · rfl
  · unfold passportCardAccessDone
    split
    · rfl
    · split <;> rfl

/-- **Every callback** leaves it as it is. -/
theorem passportReady_asked (read : PassportRead G) (e : PassportEvent) (bytes : Bytes)
    (p : Pending) : (passportReady env read e bytes p).1.asked = read.asked := by
  cases p with
  | passportAcquire =>
    simp only [passportReady, passportAcquireReady]
    split <;> rfl
  | passportSelectAid =>
    simp only [passportReady, passportSelectAidReady]
    split <;> rfl
  | passportGetChallenge =>
    simp only [passportReady, passportGetChallengeReady]
    split
    · rfl
    · split <;> rfl
  | passportMutualAuth =>
    simp only [passportReady, passportMutualAuthReady]
    split
    · rfl
    · split
      · rfl
      · exact asked_passportSend (fun _ => rfl) (bacProtect_fst env _ _) rfl
  | selectEfCardAccess =>
    simp only [passportReady, passportSelectEfCardAccessReady]
    split <;> rfl
  | efCardAccessRest =>
    simp only [passportReady, passportEfCardAccessRestReady]
    split
    · rfl
    · split
      · rfl
      · split
        · split
          · rfl
          · split
            · rfl
            · exact asked_cardAccessMore env _
        · exact asked_cardAccessMore env _
  | paceMseSetAt =>
    simp only [passportReady, paceMseSetAtReady]
    split <;> rfl
  | paceGetNonce =>
    simp only [passportReady, paceGetNonceReady]
    split
    · rfl
    · split <;> rfl
  | paceMapNonce =>
    simp only [passportReady, paceMapNonceReady]
    split
    · rfl
    · split <;> rfl
  | paceKeyAgreement =>
    simp only [passportReady, paceKeyAgreementReady]
    split
    · rfl
    · split <;> rfl
  | paceMutualAuth =>
    simp only [passportReady, paceMutualAuthReady]
    split
    · rfl
    · exact asked_passportSend (fun _ => rfl) (paceProtect_fst env _ _) rfl
  | paceSelectAid =>
    obtain ⟨x, y, hun⟩ := paceUnprotect_fst env read bytes
    simp only [passportReady, paceSelectAidReady]
    rcases hr : paceUnprotect env read bytes with ⟨read', _ | ⟨o, sw⟩⟩
    · rw [hr] at hun
      rw [show read' = read.withSsc x y from hun]
      rfl
    · rw [hr] at hun
      rw [show read' = read.withSsc x y from hun]
      dsimp only
      split
      · exact asked_passportSend (fun _ => rfl) (paceProtect_fst env _ _) rfl
      · rfl
  | selectDg1 =>
    show (passportSelectDg1Ready env read bytes).1.asked = read.asked
    obtain ⟨x, y, hout | hout⟩ := passportSelectDg1Ready_fst env read bytes <;>
      · rw [hout]
        rfl
  | dg1Rest =>
    show (passportDg1RestReady env read bytes).1.asked = read.asked
    obtain ⟨dg1, mrz, x, y, hout, -⟩ := passportDg1RestReady_fst env read bytes
    rw [hout]
    rfl
  | selectDg2 =>
    show (passportSelectDg2Ready env read bytes).1.asked = read.asked
    obtain ⟨dg2, x, y, hout⟩ := passportSelectDg2Ready_fst env read bytes
    rw [hout]
    rfl
  | dg2Rest =>
    show (passportDg2RestReady env read bytes).1.asked = read.asked
    obtain ⟨dg2, x, y, hout⟩ := passportDg2RestReady_fst env read bytes
    rw [hout]
    rfl

/-- **Every run** keeps what it started with. -/
theorem passportRun_asked (start : PassportStart) (events : List PassportEvent) :
    (passportRun env start events).read.asked = start := by
  refine invariant (fun s : PassportState G => s.read.asked = start) ?_ ?_ events
  · intro s e h
    rcases hs : s.status with ⟨p, request⟩ | ⟨success, errorText, result⟩ | _
    · rcases he : e.reply with _ | bytes
      · rw [step_replyFailed hs he]
        exact (congrArg PassportRead.asked (passportReplyFailed_fst env s.read p)).trans h
      · rw [step_reply hs he]
        exact (passportReady_asked env s.read e bytes p).trans h
    · rw [step_of_not_waiting e (by simp [hs])]
      exact h
    · rw [step_of_not_waiting e (by simp [hs])]
      exact h
  · cases start <;> rfl

end Asked

/-! ## Where DG2 comes from -/

/-- The plaintext a step adds to DG2, opened with the keys of the handshake `hs`. -/
def dg2Chunk (env : PassportEnv G P) (hs : SmSession) (s : PassportState G) (e : PassportEvent) :
    Option Bytes :=
  match s.status, e.reply with
  | .waiting .dg2Rest _, some bytes =>
    match hs.unprotectAt env.ssl s.read bytes with
    | some (some plaintext, sw) => if sw = 0x9000 then some plaintext else none
    | _ => none
  | _, _ => none

theorem dg2Chunk_of_ne {hs : SmSession} {s : PassportState G} {e : PassportEvent}
    (h : ∀ request, s.status ≠ .waiting .dg2Rest request) : dg2Chunk env hs s e = none := by
  unfold dg2Chunk
  split
  · next request bytes hstatus _ => exact absurd hstatus (h request)
  · rfl

theorem dg2Chunk_failed {hs : SmSession} {s : PassportState G} {e : PassportEvent}
    (he : e.reply = none) : dg2Chunk env hs s e = none := by
  unfold dg2Chunk
  split
  · next request bytes hstatus hreply => cases he.symm.trans hreply
  · rfl

/-- The chunk is what the read opens. -/
theorem dg2Chunk_eq {hs : SmSession} {s : PassportState G} {e : PassportEvent}
    {request : PassportRequest} {bytes : Bytes} (hstatus : s.status = .waiting .dg2Rest request)
    (hreply : e.reply = some bytes) (hholds : s.read.Holds hs) :
    dg2Chunk env hs s e = s.read.opened env bytes := by
  have hun : hs.unprotectAt env.ssl s.read bytes = (passportSmUnprotect env s.read bytes).2 :=
    hholds.unprotectAt bytes
  unfold dg2Chunk PassportRead.opened
  rw [hstatus, hreply]
  simp only [hun]
  rcases (passportSmUnprotect env s.read bytes).2 with _ | ⟨_ | plaintext, sw⟩
  · rfl
  · simp
  · rfl

/-- The bytes of DG2 so far. -/
def PassportRead.dg2Bytes (read : PassportRead G) : Bytes := read.dg2Data.getD []

theorem dg2Bytes_of_some {read : PassportRead G} {dg2 : DgBuffer} (h : read.dg2 = some dg2) :
    read.dg2Bytes = dg2.data := by
  rw [PassportRead.dg2Bytes, PassportRead.dg2Data, h]
  rfl

theorem dg2Bytes_of_empty {read : PassportRead G} (h : read.dg2 = none ∨ read.dg2 = some .new) :
    read.dg2Bytes = [] := by
  rcases h with h | h <;>
    · rw [PassportRead.dg2Bytes, PassportRead.dg2Data, h]
      rfl

/-- An answer in the photo loop: what it opens goes to the end of the buffer. -/
theorem dg2Bytes_dg2Rest {read : PassportRead G} (bytes : Bytes)
    (hlive : (passportDg2RestReady env read bytes).2 ≠ .crashed) :
    (passportDg2RestReady env read bytes).1.dg2Bytes
      = read.dg2Bytes ++ (read.opened env bytes).getD [] := by
  have hbefore : read.dg2Bytes = (read.dg2.getD .new).data := by
    rw [PassportRead.dg2Bytes, PassportRead.dg2Data]
    cases read.dg2 <;> rfl
  have hgrown : ∀ {plaintext : Bytes} {dg2 : DgBuffer} {ok : Bool}
      {out : PassportRead G × PassportStatus}, read.opened env bytes = some plaintext →
      dgAppend passportDg2MaxLen (read.dg2.getD .new) plaintext = some (dg2, ok) →
      out.1.dg2 = some dg2 →
      out.1.dg2Bytes = read.dg2Bytes ++ (read.opened env bytes).getD [] := by
    intro plaintext dg2 ok out hopened happ hdg2
    rw [dg2Bytes_of_some hdg2, (dgAppend_data happ).1, hopened, hbefore]
    rfl
  obtain ⟨x, y, ⟨hopened, hout⟩ | ⟨plaintext, -, -, hout⟩ | ⟨plaintext, dg2, hopened, happ, hout⟩ |
    ⟨plaintext, dg2, hopened, happ, ⟨apdu, -, hout⟩ | hout⟩⟩ :=
    passportDg2RestReady_cases env read bytes
  · rw [hout, hopened]
    exact (List.append_nil _).symm
  · exact absurd (congrArg Prod.snd hout) hlive
  · exact hgrown hopened happ (congrArg (fun out => out.1.dg2) hout)
  · exact hgrown hopened happ (congrArg (fun out => out.1.dg2) hout)
  · exact hgrown hopened happ (congrArg (fun out => out.1.dg2) hout)

/-- **A secured step** adds its chunk to DG2. -/
theorem secured_dg2_step {s : PassportState G} (hphoto : PhotoInv s) (e : PassportEvent)
    {hs : SmSession} (hholds : s.read.Holds hs) (hsec' : (s.step env e).status.secured = true) :
    (s.step env e).read.dg2Bytes = s.read.dg2Bytes ++ (dg2Chunk env hs s e).getD [] := by
  rcases hst : s.status with ⟨p, request⟩ | ⟨success, errorText, result⟩ | _
  · rcases he : e.reply with _ | bytes
    · rw [step_replyFailed hst he, dg2Chunk_failed he, Option.getD_none, List.append_nil]
      exact congrArg PassportRead.dg2Bytes (passportReplyFailed_fst env s.read p)
    · by_cases hp : p = .dg2Rest
      · subst hp
        rw [step_reply hst he] at hsec' ⊢
        rw [dg2Chunk_eq hst he hholds]
        refine dg2Bytes_dg2Rest bytes fun hcrashed => ?_
        rw [show (passportReady env s.read e bytes .dg2Rest).2 = .crashed from hcrashed] at hsec'
        cases hsec'
      · -- before the loop there are no bytes of DG2
        have hnone : s.read.dg2 = none := (hphoto p request hst).1 hp
        have hafter : (passportReady env s.read e bytes p).1.dg2 = none ∨
            (passportReady env s.read e bytes p).1.dg2 = some .new :=
          (dg2_of_ready env e bytes hp hnone).imp_right And.right
        rw [step_reply hst he, dg2Chunk_of_ne (by simp [hst, hp]), dg2Bytes_of_empty (Or.inl hnone)]
        exact dg2Bytes_of_empty hafter
  · rw [step_of_not_waiting e (by simp [hst]), dg2Chunk_of_ne (by simp [hst])]
    exact (List.append_nil _).symm
  · rw [step_of_not_waiting e (by simp [hst]), dg2Chunk_of_ne (by simp [hst])]
    exact (List.append_nil _).symm

/-- With the handshake DG2 has not been begun. -/
theorem Handshake.dg2Bytes {s : PassportState G} {e : PassportEvent} {hs : SmSession}
    (h : Handshake env s e hs) (hphoto : PhotoInv s) : (s.step env e).read.dg2Bytes = [] := by
  have hempty : ∀ {p : Pending} {request : PassportRequest} {bytes : Bytes},
      s.status = .waiting p request → e.reply = some bytes → p ≠ .dg2Rest →
      (s.step env e).read.dg2Bytes = [] := by
    intro p request bytes hst he hp
    rw [step_reply hst he]
    exact dg2Bytes_of_empty ((dg2_of_ready env e bytes hp ((hphoto p request hst).1 hp)).imp_right
      And.right)
  cases h with
  | bac hstatus hreply hraw hverify => exact hempty hstatus hreply (by simp)
  | pace hstatus hreply hpace hverify => exact hempty hstatus hreply (by simp)

/-- The chunks are put together in order. -/
theorem flatten_trace_concat (out : PassportState G → PassportEvent → Option Bytes)
    (s : PassportState G) (after : List PassportEvent) (e : PassportEvent) :
    (trace out (PassportState.step env) s (after ++ [e])).flatten
      = (trace out (PassportState.step env) s after).flatten ++
        (out (run (PassportState.step env) s after) e).getD [] := by
  rw [trace_concat, List.flatten_append]
  cases out (run (PassportState.step env) s after) e <;> simp

/-- **The history of a secured read**: the handshake it started from, and both data groups as the
chunks opened since. -/
theorem document_history (env : PassportEnv G P) (start : PassportStart)
    (events : List PassportEvent)
    (hsec : (passportRun env start events).status.secured = true) :
    ∃ before e after hs, events = before ++ e :: after ∧
      Handshake env (passportRun env start before) e hs ∧
      (passportRun env start events).read.Holds hs ∧
      (passportRun env start events).read.dg1.data
        = (trace (dg1Chunk env hs) (PassportState.step env)
          (passportRun env start (before ++ [e])) after).flatten ∧
      (passportRun env start events).read.dg2Bytes
        = (trace (dg2Chunk env hs) (PassportState.step env)
          (passportRun env start (before ++ [e])) after).flatten := by
  induction events using List.reverseRecOn with
  | nil => rcases start with ⟨keys, readPhoto⟩ | ⟨paceK, readPhoto⟩ <;> cases hsec
  | append_singleton events e ih =>
    rw [passportRun_concat] at hsec ⊢
    have hinv := passportRun_inv env start events
    have hphoto := passportRun_photoInv env start events
    rcases hbefore : (passportRun env start events).status.secured with _ | _
    · obtain ⟨hs, hhand, hholds, hdg1⟩ := handshake_of_secured hinv e hbefore hsec
      refine ⟨events, e, [], hs, rfl, hhand, hholds, ?_, hhand.dg2Bytes hphoto⟩
      rw [hdg1]
      rfl
    · obtain ⟨before, e', after, hs, rfl, hhand, hholds, hdg1, hdg2⟩ := ih hbefore
      obtain ⟨hholds', hdg1'⟩ := secured_step hinv e hholds hbefore hsec
      have hdg2' := secured_dg2_step hphoto e hholds hsec
      have hmid : run (PassportState.step env) (passportRun env start (before ++ [e'])) after
          = passportRun env start (before ++ e' :: after) := by
        rw [passportRun, ← run_append, List.append_assoc]
        rfl
      refine ⟨before, e', after ++ [e], hs, by simp, hhand, hholds', ?_, ?_⟩
      · rw [hdg1', hdg1, flatten_trace_concat, hmid]
      · rw [hdg2', hdg2, flatten_trace_concat, hmid]

end NfcAdapter
