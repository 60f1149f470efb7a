/-
# One passport read at a time, one answer per request

The invariant of the client's passport reads over every order of requests, tag changes and
completions: the read that points at the client is the client's, every other one only runs
to its end, and a request is answered at once or by the end of its read.
-/
import NfcAdapter.PassportReadsSteps

namespace NfcAdapter

open Runs
open TaskPool (Pool)

variable {G P : Type} {env : PassportEnv G P} {glib : GlibText}

/-! ## The invariant -/

/-- The invariant of every run. -/
structure PassportsInv (s : PassportsState G) : Prop where
  wf : s.pool.WF s.died
  attached : ∀ id read, s.pool.tasks id = some read → read.client = true →
    s.passportReading = some id
  current : ∀ id, s.passportReading = some id →
    ∃ read, s.pool.tasks id = some read ∧ read.client = true
  chain : ∀ id read, s.pool.tasks id = some read → read.chain.Inv
  results : ∀ a ∈ s.answers, a.success = true → a.result ≠ none

theorem passportsInv_init : PassportsInv (.init : PassportsState G) where
  wf := TaskPool.Pool.wf_empty
  attached := by simp [PassportsState.init, Pool.empty]
  current := by simp [PassportsState.init]
  chain := by simp [PassportsState.init, Pool.empty]
  results := by simp [PassportsState.init]

/-- An answer that is no success needs no result. -/
theorem PassportsInv.answer {s : PassportsState G} (h : PassportsInv s) {a : PassportAnswer}
    (ha : a.success = true → a.result ≠ none) : PassportsInv (s.answer a) := by
  refine ⟨h.wf, h.attached, h.current, h.chain, ?_⟩
  intro b hb
  rcases List.mem_append.mp hb with hb | hb
  · exact h.results b hb
  · rw [List.mem_singleton.mp hb]
    exact ha

theorem PassportsInv.dispatch {s : PassportsState G} (h : PassportsInv s)
    (hnone : s.passportReading = none) {chain : PassportState G} (hchain : chain.Inv)
    (userData : ℕ) : PassportsInv (passportReadDispatch s chain userData) := by
  -- no read points at the client yet
  have hdetached : ∀ id read, s.pool.tasks id = some read → read.client = false := by
    intro id read ht
    by_contra hc
    have hid := h.attached id read ht (by simpa using hc)
    rw [hnone] at hid
    cases hid
  refine ⟨h.wf.spawn _ _, ?_, ?_, ?_, h.results⟩
  · intro id read ht hc
    rcases Pool.tasks_spawn_eq_some.mp ht with ⟨rfl, -⟩ | ⟨-, ht⟩
    · rfl
    · rw [hdetached id read ht] at hc
      cases hc
  · intro id hid
    obtain rfl := Option.some.inj hid
    exact ⟨_, Pool.tasks_spawn_eq_some.mpr (Or.inl ⟨rfl, rfl⟩), rfl⟩
  · intro id read ht
    rcases Pool.tasks_spawn_eq_some.mp ht with ⟨-, rfl⟩ | ⟨-, ht⟩
    · exact hchain
    · exact h.chain id read ht

/-- An abort changes neither the proxy of a read nor what it has acquired. -/
theorem tasks_abort {pool : Pool (PassportTask G) PassportCall} {cur id : ℕ}
    {read : PassportTask G} (ht : (pool.modify cur PassportTask.abort).tasks id = some read) :
    ∃ r, pool.tasks id = some r ∧ read.tag = r.tag ∧ read.acquired = r.acquired := by
  rcases Pool.tasks_modify_eq_some.mp ht with ⟨rfl, u, hu, rfl⟩ | ⟨-, ht⟩
  · exact ⟨u, hu, rfl, rfl⟩
  · exact ⟨read, ht, rfl, rfl⟩

theorem PassportsInv.abort {s : PassportsState G} (h : PassportsInv s) :
    PassportsInv (abortPassportReading s) := by
  unfold abortPassportReading
  rcases hreading : s.passportReading with _ | cur
  · exact h
  · refine ⟨h.wf.modify _ _, ?_, (fun id hid => nomatch hid), ?_, h.results⟩
    · intro id read ht hc
      rcases Pool.tasks_modify_eq_some.mp ht with ⟨-, u, -, rfl⟩ | ⟨hne, ht⟩
      · cases hc
      -- the aborted read was the only attached one
      · have hid := h.attached id read ht hc
        rw [hreading] at hid
        exact absurd (Option.some.inj hid).symm hne
    · intro id read ht
      rcases Pool.tasks_modify_eq_some.mp ht with ⟨-, u, hu, rfl⟩ | ⟨-, ht⟩
      · exact h.chain cur u hu
      · exact h.chain id read ht

/-- The running read makes its next call. -/
theorem PassportsInv.await {s : PassportsState G} (h : PassportsInv s) (hlive : s.died = none)
    {i id : ℕ} {call : PassportCall} {read read' : PassportTask G}
    (hi : s.pool.calls[i]? = some (id, call)) (ht : s.pool.tasks id = some read)
    (hclient : read'.client = read.client) (hchain : read'.chain.Inv) (call' : PassportCall)
    (nfcd : NfcdLocks) :
    PassportsInv { s with pool := (s.pool.take i).await id read' call', nfcd := nfcd } := by
  have hwf := h.wf
  rw [hlive] at hwf
  have hwf' := (hwf.take hi).await read' call'
  rw [← hlive] at hwf'
  refine ⟨hwf', ?_, ?_, ?_, h.results⟩
  · intro j r hr hc
    rcases Pool.tasks_await_eq_some.mp hr with ⟨rfl, rfl⟩ | ⟨-, hr⟩
    · exact h.attached j read ht (hclient ▸ hc)
    · exact h.attached j r hr hc
  · intro j hj
    obtain ⟨r, hr, hc⟩ := h.current j hj
    by_cases hid : j = id
    · subst hid
      obtain rfl := Option.some.inj (ht.symm.trans hr)
      exact ⟨read', Pool.tasks_await_eq_some.mpr (Or.inl ⟨rfl, rfl⟩), hclient.trans hc⟩
    · exact ⟨r, Pool.tasks_await_eq_some.mpr (Or.inr ⟨hid, hr⟩), hc⟩
  · intro j r hr
    rcases Pool.tasks_await_eq_some.mp hr with ⟨rfl, rfl⟩ | ⟨-, hr⟩
    · exact hchain
    · exact h.chain j r hr

/-- The running read ends. -/
theorem PassportsInv.finish {s : PassportsState G} (h : PassportsInv s) (hlive : s.died = none)
    {i id : ℕ} {call : PassportCall} {read read' : PassportTask G}
    (hi : s.pool.calls[i]? = some (id, call)) (ht : s.pool.tasks id = some read)
    (hclient : read'.client = read.client) {success : Bool} (text : Option String)
    {result : Option PassportResult} (hresult : success = true → result ≠ none) :
    PassportsInv
      (passportReadFinish { s with pool := s.pool.take i } id read' success text result) := by
  have hwf := h.wf
  rw [hlive] at hwf
  refine ⟨?_, ?_, ?_, ?_, ?_⟩
  · rw [passportReadFinish_pool, passportReadFinish_died]
    show ((s.pool.take i).free id).WF s.died
    rw [hlive]
    exact (hwf.take hi).free
  · intro j r hr hc
    rw [passportReadFinish_pool] at hr
    obtain ⟨hne, hr⟩ := Pool.tasks_free_eq_some.mp hr
    -- another attached read would be the client's current one, which is cleared only for its own
    have hj := h.attached j r hr hc
    rw [passportReadFinish_passportReading]
    show (if _ ∧ s.passportReading = some id then none else s.passportReading) = some j
    rw [hj, if_neg]
    rintro ⟨-, heq⟩
    exact hne (Option.some.inj heq)
  · intro j hj
    rw [passportReadFinish_passportReading] at hj
    split at hj
    · cases hj
    · next hnot =>
      obtain ⟨r, hr, hc⟩ := h.current j hj
      refine ⟨r, ?_, hc⟩
      rw [passportReadFinish_pool]
      refine Pool.tasks_free_eq_some.mpr ⟨?_, hr⟩
      rintro rfl
      obtain rfl := Option.some.inj (ht.symm.trans hr)
      exact hnot ⟨hclient.trans hc, hj⟩
  · intro j r hr
    rw [passportReadFinish_pool] at hr
    exact h.chain j r (Pool.tasks_free_eq_some.mp hr).2
  · intro a ha
    rw [passportReadFinish_answers] at ha
    rcases List.mem_append.mp ha with ha | ha
    · exact h.results a ha
    · rw [List.mem_singleton.mp ha]
      exact hresult

/-- The program ends in the running read's callback. -/
theorem PassportsInv.die {s : PassportsState G} (h : PassportsInv s) (hlive : s.died = none)
    {i id : ℕ} {call : PassportCall} (hi : s.pool.calls[i]? = some (id, call)) :
    PassportsInv { s with pool := s.pool.take i, died := some id } := by
  have hwf := h.wf
  rw [hlive] at hwf
  exact ⟨hwf.take hi, h.attached, h.current, h.chain, h.results⟩

/-! ## One event -/

/-- The result of a finished chain is there when it is a success. -/
theorem PassportState.Inv.result {s : PassportState G} (h : s.Inv) {success : Bool}
    {text : Option String} {result : Option PassportResult}
    (hs : s.status = .finished success text result) (hok : success = true) : result ≠ none := by
  unfold PassportState.Inv at h
  subst hok
  rw [hs] at h
  obtain ⟨r, rfl, -⟩ := h
  simp

theorem PassportsInv.handled {s s' : PassportsState G} (h : PassportsInv s)
    (hlive : s.died = none) {i id : ℕ} {call : PassportCall} {read : PassportTask G}
    {e : PassportEvent} (hi : s.pool.calls[i]? = some (id, call))
    (ht : s.pool.tasks id = some read)
    (hh : PassportHandled env { s with pool := s.pool.take i } id read call e s') :
    PassportsInv s' := by
  have hchain : (read.after env call e).chain.Inv := by
    have hinv := h.chain id read ht
    cases call with
    | tagProxy path => exact hinv
    | acquire path => exact hinv.step e
    | transceive path apdu => exact hinv.step e
  cases hh with
  | acquires path hcall hreply =>
    have hclient : ({ read with tag := path } : PassportTask G).client = read.client := rfl
    exact h.await hlive hi ht hclient (h.chain id read ht) (.acquire path) _
  | proceeds p request hcall hstatus =>
    exact h.await hlive hi ht (after_client read call e) hchain
      (.transceive read.tag request.apdu) s.nfcd
  | finishes success text result hend =>
    refine h.finish hlive hi ht (after_client read call e) text ?_
    intro hok
    -- a chain ends with success only after its result was built; a missing proxy is a failure
    rcases hend with ⟨-, hno⟩ | ⟨-, hstatus⟩
    · rw [hno] at hok
      cases hok
    · exact hchain.result hstatus hok
  | dies hcall hstatus => exact h.die hlive hi

/-- The precheck passes only while the client has no read. -/
theorem passportReading_of_precheck {s : PassportsState G} (h : passportReadPrecheck s = none) :
    s.passportReading = none := by
  unfold passportReadPrecheck at h
  split at h
  · cases h
  · next hsome => simpa using hsome

theorem PassportsInv.request {s : PassportsState G} (h : PassportsInv s)
    {start : Except String (PassportState G)} (hstart : ∀ chain, start = .ok chain → chain.Inv)
    (userData : ℕ) : PassportsInv (passportRequest s start userData) := by
  rcases passportRequest_cases s start userData with ⟨-, text, heq⟩ | ⟨hpre, chain, hchain, heq⟩
  · rw [heq]
    exact h.answer (by simp)
  · rw [heq]
    exact h.dispatch (passportReading_of_precheck hpre) (hstart chain hchain) userData

/-- Nothing a read depends on changes. -/
theorem PassportsInv.congr {s s' : PassportsState G} (h : PassportsInv s)
    (hpool : s'.pool = s.pool) (hreading : s'.passportReading = s.passportReading)
    (hdied : s'.died = s.died) (hanswers : s'.answers = s.answers) : PassportsInv s' := by
  refine ⟨?_, ?_, ?_, ?_, ?_⟩
  · rw [hpool, hdied]
    exact h.wf
  · rw [hpool, hreading]
    exact h.attached
  · rw [hpool, hreading]
    exact h.current
  · rw [hpool]
    exact h.chain
  · rw [hanswers]
    exact h.results

/-- **One step.** -/
theorem PassportsInv.step {s : PassportsState G} (h : PassportsInv s) (e : PassportsEvent) :
    PassportsInv (passportsStep env glib s e) := by
  have hstep := passportsStep_stepped env glib s e
  generalize passportsStep env glib s e = s' at hstep
  cases hstep with
  | idle e hasked => exact h
  | elsewhere e tag => exact h.congr rfl rfl rfl rfl
  | aborts e tag closed hasked => exact h.abort.congr rfl rfl rfl rfl
  | asks e start userData hasked hstart hbad => exact h.request hstart userData
  | completes i e id call read s' hlive hi ht hh => exact h.handled hlive hi ht hh
  | processes k grant => exact h.congr rfl rfl rfl rfl
  | deactivates i id path hlive hi => exact h.congr rfl rfl rfl rfl
  | cleaned i id path hi => exact h.congr rfl rfl rfl rfl

theorem passportsRun_inv (env : PassportEnv G P) (glib : GlibText) (es : List PassportsEvent) :
    PassportsInv (passportsRun env glib es) :=
  invariant PassportsInv (fun _ e h => h.step e) passportsInv_init es

/-! ## Requests and answers -/

/-- How often the callback of `userData` has been called. -/
def PassportsState.answered (s : PassportsState G) (userData : ℕ) : ℕ :=
  s.answers.countP fun a => a.userData = userData

/-- How many reads are there on behalf of `userData`. -/
def PassportsState.unanswered (s : PassportsState G) (userData : ℕ) : ℕ :=
  s.pool.count s.died fun read => read.userData = userData

/-- Every request has been answered, or its read is there. -/
def Balanced (s : PassportsState G) (asked : List ℕ) : Prop :=
  ∀ userData, s.answered userData + s.unanswered userData = asked.count userData

theorem answered_concat (s : PassportsState G) (answers : List PassportAnswer)
    (a : PassportAnswer) (userData : ℕ) (h : s.answers = answers ++ [a]) :
    s.answered userData = answers.countP (fun a => a.userData = userData) +
      if a.userData = userData then 1 else 0 := by
  rw [PassportsState.answered, h, List.countP_append, List.countP_singleton]
  simp

/-- An answer at once. -/
theorem Balanced.refuse {s : PassportsState G} {asked : List ℕ} (h : Balanced s asked)
    (a : PassportAnswer) : Balanced (s.answer a) (asked ++ [a.userData]) := by
  intro userData
  have hbal := h userData
  rw [answered_concat (s.answer a) s.answers a userData rfl, List.count_append,
    List.count_singleton, ← hbal]
  show _ + s.unanswered userData = s.answered userData + s.unanswered userData + _
  rw [PassportsState.answered]
  by_cases ha : a.userData = userData
  · simp only [ha, if_true, beq_self_eq_true]
    omega
  · simp [ha]

theorem Balanced.dispatch {s : PassportsState G} {asked : List ℕ} (h : Balanced s asked)
    (hinv : PassportsInv s) (chain : PassportState G) (u : ℕ) :
    Balanced (passportReadDispatch s chain u) (asked ++ [u]) := by
  intro userData
  have hbal := h userData
  have hcount : (passportReadDispatch s chain u).unanswered userData
      = s.unanswered userData + (decide (u = userData)).toNat :=
    Pool.count_spawn hinv.wf _ _ _
  rw [hcount, List.count_append, List.count_singleton, ← hbal]
  show s.answered userData + _ = _
  by_cases hu : u = userData
  · simp only [hu, decide_true, Bool.toNat_true, beq_self_eq_true, if_true]
    omega
  · simp [hu]

theorem Balanced.request {s : PassportsState G} {asked : List ℕ} (h : Balanced s asked)
    (hinv : PassportsInv s) (start : Except String (PassportState G)) (u : ℕ) :
    Balanced (passportRequest s start u) (asked ++ [u]) := by
  rcases passportRequest_cases s start u with ⟨-, text, heq⟩ | ⟨-, chain, -, heq⟩
  · rw [heq]
    exact h.refuse ⟨u, false, some text, none⟩
  · rw [heq]
    exact h.dispatch hinv chain u

theorem Balanced.congr {s s' : PassportsState G} {asked : List ℕ} (h : Balanced s asked)
    (hanswers : s'.answers = s.answers)
    (hcount : ∀ userData, s'.unanswered userData = s.unanswered userData) : Balanced s' asked := by
  intro userData
  rw [hcount userData, PassportsState.answered, hanswers]
  exact h userData

theorem unanswered_abort (s : PassportsState G) (userData : ℕ) :
    (abortPassportReading s).unanswered userData = s.unanswered userData := by
  unfold abortPassportReading PassportsState.unanswered
  rcases s.passportReading with _ | id
  · rfl
  · exact Pool.count_modify (fun _ => rfl)

theorem answers_abort (s : PassportsState G) : (abortPassportReading s).answers = s.answers := by
  unfold abortPassportReading
  rcases s.passportReading with _ | id <;> rfl

/-- **A callback answers when it ends its read, and only then.** -/
theorem Balanced.handled {s s' : PassportsState G} {asked : List ℕ} (h : Balanced s asked)
    (hinv : PassportsInv s) (hlive : s.died = none) {i id : ℕ} {call : PassportCall}
    {read : PassportTask G} {e : PassportEvent} (hi : s.pool.calls[i]? = some (id, call))
    (ht : s.pool.tasks id = some read)
    (hh : PassportHandled env { s with pool := s.pool.take i } id read call e s') :
    Balanced s' asked := by
  have hwf := hinv.wf
  rw [hlive] at hwf
  have hrun := hwf.take hi
  have htask : (s.pool.take i).tasks id = some read := ht
  -- the count while the callback runs
  have htake : ∀ userData, (s.pool.take i).count (some id) (fun r => r.userData = userData)
      = s.unanswered userData := by
    intro userData
    rw [PassportsState.unanswered, hlive]
    exact Pool.count_take hi _
  cases hh with
  | acquires path hcall hreply =>
    refine h.congr rfl fun userData => ?_
    rw [← htake userData, PassportsState.unanswered]
    show ((s.pool.take i).await id _ _).count s.died _ = _
    rw [hlive]
    exact Pool.count_await hrun htask _ rfl
  | proceeds p request hcall hstatus =>
    refine h.congr rfl fun userData => ?_
    rw [← htake userData, PassportsState.unanswered]
    show ((s.pool.take i).await id _ _).count s.died _ = _
    rw [hlive]
    exact Pool.count_await hrun htask _ (by simp)
  | finishes success text result hend =>
    intro userData
    rw [answered_concat _ _ _ userData (passportReadFinish_answers _ _ _ _ _ _), after_userData,
      ← h userData, ← htake userData, PassportsState.unanswered, passportReadFinish_pool,
      passportReadFinish_died]
    show _ + ((s.pool.take i).free id).count s.died _ = _
    rw [hlive, ← Pool.count_free hrun htask fun r => r.userData = userData, PassportsState.answered]
    by_cases hu : read.userData = userData
    · simp only [hu, if_true, decide_true, Bool.toNat_true]
      omega
    · simp [hu]
  | dies hcall hstatus =>
    refine h.congr rfl fun userData => ?_
    rw [← htake userData]
    rfl

/-- **One step.** -/
theorem Balanced.step {s : PassportsState G} {asked : List ℕ} (h : Balanced s asked)
    (hinv : PassportsInv s) (e : PassportsEvent) :
    Balanced (passportsStep env glib s e) (asked ++ (passportAsked s e).toList) := by
  have hstep := passportsStep_stepped env glib s e
  generalize passportsStep env glib s e = s' at hstep
  have hnone : ∀ {t : PassportsState G}, Balanced t asked → passportAsked s e = none →
      Balanced t (asked ++ (passportAsked s e).toList) := by
    intro t ht hasked
    rw [hasked, Option.toList_none, List.append_nil]
    exact ht
  cases hstep with
  | idle e hasked => exact hnone h hasked
  | elsewhere e tag => exact hnone (h.congr rfl fun _ => rfl) (passportAsked_of_request rfl)
  | aborts e tag closed hasked =>
    exact hnone (h.congr (answers_abort s) (unanswered_abort s)) hasked
  | asks e start userData hasked hstart hbad =>
    rw [hasked, Option.toList_some]
    exact h.request hinv start userData
  | completes i e id call read s' hlive hi ht hh =>
    exact hnone (h.handled hinv hlive hi ht hh) (passportAsked_of_request rfl)
  | processes k grant => exact hnone (h.congr rfl fun _ => rfl) (passportAsked_of_request rfl)
  | deactivates i id path hlive hi =>
    exact hnone (h.congr rfl fun _ => rfl) (passportAsked_of_request rfl)
  | cleaned i id path hi => exact hnone (h.congr rfl fun _ => rfl) (passportAsked_of_request rfl)

theorem passportsRun_balanced (env : PassportEnv G P) (glib : GlibText)
    (es : List PassportsEvent) :
    Balanced (passportsRun env glib es) (passportRequests env glib es) := by
  have hinit : Balanced (.init : PassportsState G) [] := fun _ => rfl
  exact (trace_invariant (fun s asked => PassportsInv s ∧ Balanced s asked)
    (fun s asked e h => ⟨h.1.step e, h.2.step h.1 e⟩) ⟨passportsInv_init, hinit⟩ es).2

/-! ## Every run -/

/-- Nothing changes for the reads other than the one at `id`. -/
def OthersKept (s s' : PassportsState G) (id : ℕ) : Prop :=
  ∀ j, j ≠ id → s'.pool.tasks j = s.pool.tasks j ∧
    ∀ call, (j, call) ∈ s'.pool.calls ↔ (j, call) ∈ s.pool.calls

/-- A callback is about its own read. -/
theorem PassportHandled.othersKept {s s' : PassportsState G} {running : Option ℕ}
    (hwf : s.pool.WF running) {i id : ℕ} {call : PassportCall} {read : PassportTask G}
    {e : PassportEvent} (hi : s.pool.calls[i]? = some (id, call))
    (hh : PassportHandled env { s with pool := s.pool.take i } id read call e s') :
    OthersKept s s' id := by
  have hawait : ∀ read' call', OthersKept s
      { s with pool := (s.pool.take i).await id read' call' } id := by
    intro read' call' j hj
    refine ⟨?_, fun d => ?_⟩
    · simp only [Pool.tasks_await, if_neg hj, Pool.tasks_take]
    · rw [Pool.mem_calls_await, hwf.mem_take hi]
      simp [hj]
  cases hh with
  | acquires path hcall hreply => exact hawait _ _
  | proceeds p request hcall hstatus => exact hawait _ _
  | finishes success text result hend =>
    intro j hj
    rw [passportReadFinish_pool]
    refine ⟨?_, fun d => ?_⟩
    · simp only [Pool.tasks_free, if_neg hj, Pool.tasks_take]
    · rw [Pool.calls_free, hwf.mem_take hi]
      simp [hj]
  | dies hcall hstatus =>
    intro j hj
    refine ⟨rfl, fun d => ?_⟩
    rw [hwf.mem_take hi]
    simp [hj]

/-- Only a read that points at the client clears the client's pointer. -/
theorem PassportHandled.passportReading {s s' : PassportsState G} {id : ℕ} {call : PassportCall}
    {read : PassportTask G} {e : PassportEvent} (hh : PassportHandled env s id read call e s')
    (hdetached : read.client = false) : s'.passportReading = s.passportReading := by
  cases hh with
  | acquires path hcall hreply => rfl
  | proceeds p request hcall hstatus => rfl
  | finishes success text result hend => simp [hdetached]
  | dies hcall hstatus => rfl

/-- What the reads of a run whose requests are `asked` look like in the state `s`. -/
structure OneReadOneAnswer (env : PassportEnv G P) (glib : GlibText) (s : PassportsState G)
    (asked : List ℕ) : Prop where
  /-- At most one read points at the client, and it is the client's. -/
  attached : ∀ id read, s.pool.tasks id = some read → read.client = true →
    s.passportReading = some id
  current : ∀ id, s.passportReading = some id →
    ∃ read, s.pool.tasks id = some read ∧ read.client = true
  /-- The completion of an aborted read neither clears nor alters another one. -/
  aborted : ∀ i e id call read, s.pool.calls[i]? = some (id, call) →
    s.pool.tasks id = some read → read.client = false →
    (passportsStep env glib s (.complete i e)).passportReading = s.passportReading ∧
      OthersKept s (passportsStep env glib s (.complete i e)) id
  /-- A request is answered at once when the precheck or its parameters fail; otherwise its
  read starts. -/
  refused : ∀ e userData, passportAsked s e = some userData →
    passportReadPrecheck s ≠ none ∨ e.BadParameters env →
    ∃ text, passportsStep env glib s e = s.answer ⟨userData, false, some text, none⟩
  started : ∀ e userData, passportAsked s e = some userData →
    passportReadPrecheck s = none → ¬ e.BadParameters env →
    ∃ chain, passportsStep env glib s e = passportReadDispatch s chain userData
  /-- Every request has been answered, once, or has its one read. -/
  answers : ∀ userData, s.answered userData + s.unanswered userData = asked.count userData
  /-- A read has its one call under way, unless the program has ended in its callback. -/
  underWay : ∀ id read, s.pool.tasks id = some read →
    s.died = some id ∨ ∃! call, (id, call) ∈ s.pool.calls
  /-- Once no call is under way any more, every request has been answered once. -/
  settled : s.died = none → s.pool.calls = [] →
    ∀ userData, s.answered userData = asked.count userData
  /-- Success comes with a result. -/
  results : ∀ a ∈ s.answers, a.success = true → a.result ≠ none

theorem PassportsInv.aborted {s : PassportsState G} (h : PassportsInv s) {i : ℕ}
    (e : PassportEvent) {id : ℕ} {call : PassportCall} {read : PassportTask G}
    (hi : s.pool.calls[i]? = some (id, call)) (ht : s.pool.tasks id = some read)
    (hdetached : read.client = false) :
    (passportsStep env glib s (.complete i e)).passportReading = s.passportReading ∧
      OthersKept s (passportsStep env glib s (.complete i e)) id := by
  unfold passportsStep
  by_cases hdied : s.died.isSome = true
  · rw [if_pos hdied]
    exact ⟨rfl, fun j _ => ⟨rfl, fun _ => Iff.rfl⟩⟩
  · rw [if_neg hdied]
    have hh := passportCallback_handled env { s with pool := s.pool.take i } id read call e
    have hstep : passportComplete env s i e
        = passportCallback env { s with pool := s.pool.take i } id read call e := by
      simp only [passportComplete, hi, ht]
    show (passportComplete env s i e).passportReading = _ ∧
      OthersKept s (passportComplete env s i e) id
    rw [hstep]
    exact ⟨hh.passportReading hdetached, hh.othersKept h.wf hi⟩

end NfcAdapter
