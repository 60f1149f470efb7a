/-
# The clean-up of one passport read and the next

The Release at the end of a read and the Deactivate behind it are waited for by nobody,
and the client's guard ends with the read.  A later read of the same tag can have acquired
it by the time the Release is answered; the Deactivate then hits its session.
-/
import NfcAdapter.PassportLocks

namespace NfcAdapter

open Runs
open TaskPool (Pool)

variable {G P : Type} {env : PassportEnv G P} {glib : GlibText}

/-! ## What a read holds -/

/-- How many unfinished reads have acquired the tag at `path`. -/
def PassportsState.holders (s : PassportsState G) (path : Option String) : ℕ :=
  s.pool.count s.died fun read => read.acquired ∧ read.tag = path

/-- A Release for the tag at `path`. -/
def PassportCleanup.isRelease (path : Option String) : PassportCleanup → Bool
  | release _ p => p = path
  | deactivate _ _ => false

/-- The Deactivate messages an event makes the client send, with the read each is for. -/
def deactivations (env : PassportEnv G P) (glib : GlibText) (s : PassportsState G)
    (e : PassportsEvent) : List (ℕ × Option String) :=
  (passportsStep env glib s e).deactivated.drop s.deactivated.length

/-- No Deactivate is sent for a tag that an unfinished read has acquired. -/
def Undisturbed (env : PassportEnv G P) (glib : GlibText) (s : PassportsState G)
    (e : PassportsEvent) : Prop :=
  ∀ x ∈ deactivations env glib s e, s.holders x.2 = 0

/-- A Release is answered before another read of the tag is past its Acquire, or after that
read's end. -/
def PassportsEvent.InTime (s : PassportsState G) : PassportsEvent → Prop
  | cleanup i =>
    match s.cleanups[i]? with
    | some (.release _ path) => s.died = none → s.holders path = 0
    | _ => True
  | _ => True

instance (s : PassportsState G) (e : PassportsEvent) : Decidable (e.InTime s) := by
  unfold PassportsEvent.InTime
  split
  · split <;> infer_instance
  · infer_instance

/-- How many Release messages for the tag at `path` have not been answered. -/
def PassportsState.releases (s : PassportsState G) (path : Option String) : ℕ :=
  s.cleanups.countP (PassportCleanup.isRelease path)

/-- An Acquire that is answered with success finds its tag neither held by another read nor
with an unanswered Release. -/
def PassportsEvent.FreeTag (s : PassportsState G) : PassportsEvent → Prop
  | complete i e =>
    match s.pool.calls[i]? with
    | some (_, .acquire path) => e.reply ≠ none → s.holders path = 0 ∧ s.releases path = 0
    | _ => True
  | _ => True

/-! ## Where a Deactivate is sent -/

theorem PassportHandled.deactivated {s s' : PassportsState G} {id : ℕ} {call : PassportCall}
    {read : PassportTask G} {e : PassportEvent} (hh : PassportHandled env s id read call e s') :
    s'.deactivated = s.deactivated := by
  cases hh with
  | acquires path hcall hreply => rfl
  | proceeds p request hcall hstatus => rfl
  | finishes success text result hend => simp
  | dies hcall hstatus => rfl

theorem deactivated_abort (s : PassportsState G) :
    (abortPassportReading s).deactivated = s.deactivated := by
  unfold abortPassportReading
  rcases s.passportReading with _ | id <;> rfl

theorem deactivated_request (s : PassportsState G) (start : Except String (PassportState G))
    (userData : ℕ) : (passportRequest s start userData).deactivated = s.deactivated := by
  rcases passportRequest_cases s start userData with ⟨-, text, heq⟩ | ⟨-, chain, -, heq⟩ <;>
    rw [heq] <;> rfl

/-- Only the end of a Release makes the client send a Deactivate. -/
theorem deactivations_of_ne (s : PassportsState G) {e : PassportsEvent}
    (he : ∀ i, e ≠ .cleanup i) : deactivations env glib s e = [] := by
  have hsame : (passportsStep env glib s e).deactivated = s.deactivated := by
    have hstep := passportsStep_stepped env glib s e
    generalize passportsStep env glib s e = s' at hstep
    cases hstep with
    | idle e hasked => rfl
    | elsewhere e tag => rfl
    | aborts e tag closed hasked => exact deactivated_abort s
    | asks e start userData hasked hstart hbad => exact deactivated_request s start userData
    | completes i e id call read s' hlive hi ht hh => exact hh.deactivated
    | processes k grant => rfl
    | deactivates i id path hlive hi => exact absurd rfl (he i)
    | cleaned i id path hi => exact absurd rfl (he i)
  rw [deactivations, hsame, List.drop_length]

theorem deactivations_cleanup (s : PassportsState G) (i : ℕ) :
    deactivations env glib s (.cleanup i) =
      match s.cleanups[i]? with
      | some (.release id path) => if s.died = none then [(id, path)] else []
      | _ => [] := by
  -- after the end of the program nothing is sent
  by_cases hdied : s.died.isSome = true
  · have hstep : passportsStep env glib s (.cleanup i) = s := if_pos hdied
    have hdead : s.died ≠ none := Option.isSome_iff_ne_none.mp hdied
    rw [deactivations, hstep, List.drop_length]
    rcases s.cleanups[i]? with _ | ⟨id, path⟩ | ⟨id, path⟩ <;> simp [hdead]
  · have hstep : passportsStep env glib s (.cleanup i) = passportCleanup s i := if_neg hdied
    have hlive : s.died = none := by simpa using hdied
    rw [deactivations, hstep, passportCleanup]
    rcases s.cleanups[i]? with _ | ⟨id, path⟩ | ⟨id, path⟩
    · exact List.drop_length
    · simp only [passportReleaseReady, List.drop_left, if_pos hlive]
    · exact List.drop_length

/-- A step disturbs no read exactly when the Release it answers is answered in time. -/
theorem undisturbed_iff (s : PassportsState G) (e : PassportsEvent) :
    Undisturbed env glib s e ↔ e.InTime s := by
  by_cases he : ∀ i, e ≠ .cleanup i
  · have htrue : e.InTime s := by
      unfold PassportsEvent.InTime
      split
      · next i => exact absurd rfl (he i)
      · trivial
    simp [Undisturbed, deactivations_of_ne s he, htrue]
  · obtain ⟨i, rfl⟩ : ∃ i, e = .cleanup i := by simpa using he
    unfold Undisturbed PassportsEvent.InTime
    rw [deactivations_cleanup]
    rcases hi : s.cleanups[i]? with _ | ⟨id, path⟩ | ⟨id, path⟩
    · simp [hi]
    · by_cases hlive : s.died = none <;> simp [hi, hlive]
    · simp [hi]

/-! ## One occupant for each tag -/

/-- A tag is held by one read, or has one unanswered Release. -/
structure OccupancyInv (s : PassportsState G) : Prop where
  proxy : ∀ id path read, (id, .tagProxy path) ∈ s.pool.calls → s.pool.tasks id = some read →
    read.acquired = false
  acquire : ∀ id path read, (id, .acquire path) ∈ s.pool.calls → s.pool.tasks id = some read →
    read.tag = path ∧ read.acquired = false
  occupancy : ∀ path, s.holders path + s.releases path ≤ 1

theorem occupancyInv_init : OccupancyInv (.init : PassportsState G) := by
  constructor
  · simp [PassportsState.init, Pool.empty]
  · simp [PassportsState.init, Pool.empty]
  · intro path
    simp [PassportsState.holders, PassportsState.releases, PassportsState.init, Pool.empty,
      Pool.count]

/-- Reads stay, and no Release is added. -/
theorem OccupancyInv.congr {s s' : PassportsState G} (h : OccupancyInv s)
    (hpool : s'.pool = s.pool) (hdied : s'.died = s.died)
    (hreleases : ∀ path, s'.releases path ≤ s.releases path) : OccupancyInv s' := by
  refine ⟨by rw [hpool]; exact h.proxy, by rw [hpool]; exact h.acquire, fun path => ?_⟩
  have hold := h.occupancy path
  have hnew := hreleases path
  rw [PassportsState.holders, hpool, hdied]
  rw [PassportsState.holders] at hold
  omega

theorem releases_eraseIdx_le (cleanups : List PassportCleanup) (i : ℕ) (path : Option String) :
    (cleanups.eraseIdx i).countP (PassportCleanup.isRelease path)
      ≤ cleanups.countP (PassportCleanup.isRelease path) :=
  (List.eraseIdx_sublist cleanups i).countP_le

theorem OccupancyInv.abort {s : PassportsState G} (h : OccupancyInv s) :
    OccupancyInv (abortPassportReading s) := by
  unfold abortPassportReading
  rcases hreading : s.passportReading with _ | cur
  · exact h
  · refine ⟨?_, ?_, fun path => ?_⟩
    · intro id path read hc ht
      obtain ⟨r, hr, -, hacquired⟩ := tasks_abort ht
      rw [hacquired]
      exact h.proxy id path r hc hr
    · intro id path read hc ht
      obtain ⟨r, hr, htag, hacquired⟩ := tasks_abort ht
      rw [htag, hacquired]
      exact h.acquire id path r hc hr
    · have hcount : (s.pool.modify cur PassportTask.abort).count s.died
          (fun read => read.acquired ∧ read.tag = path) = s.holders path :=
        Pool.count_modify fun _ => rfl
      show (s.pool.modify cur PassportTask.abort).count s.died _ + s.releases path ≤ 1
      rw [hcount]
      exact h.occupancy path

theorem OccupancyInv.request {s : PassportsState G} (h : OccupancyInv s) (hinv : PassportsInv s)
    (start : Except String (PassportState G)) (userData : ℕ) :
    OccupancyInv (passportRequest s start userData) := by
  rcases passportRequest_cases s start userData with ⟨-, text, heq⟩ | ⟨-, chain, -, heq⟩
  · rw [heq]
    exact h.congr rfl rfl fun _ => le_rfl
  · rw [heq]
    refine ⟨?_, ?_, fun path => ?_⟩
    · intro id path read hc ht
      rcases hinv.wf.spawn_cases hc ht with ⟨-, -, rfl⟩ | ⟨-, hc, ht⟩
      · rfl
      · exact h.proxy id path read hc ht
    · intro id path read hc ht
      rcases hinv.wf.spawn_cases hc ht with ⟨-, heq, -⟩ | ⟨-, hc, ht⟩
      · cases heq
      · exact h.acquire id path read hc ht
    · have hcount : (passportReadDispatch s chain userData).holders path = s.holders path := by
        rw [PassportsState.holders]
        show (s.pool.spawn _ _).count s.died _ = _
        rw [Pool.count_spawn hinv.wf]
        simp [PassportsState.holders]
      rw [hcount]
      exact h.occupancy path

variable (env) in
/-- A callback changes what its read holds only at its Acquire. -/
theorem OccupancyInv.after {s : PassportsState G} (h : OccupancyInv s) {i id : ℕ}
    {call : PassportCall} {read : PassportTask G} {e : PassportEvent}
    (hi : s.pool.calls[i]? = some (id, call)) (ht : s.pool.tasks id = some read)
    (hfree : (PassportsEvent.complete i e).FreeTag s) :
    (read.after env call e).acquired = read.acquired ∨
    ((read.after env call e).acquired = true ∧ read.acquired = false ∧
      s.holders read.tag = 0 ∧ s.releases read.tag = 0) := by
  cases call with
  | tagProxy path => exact Or.inl rfl
  | acquire path =>
    obtain ⟨rfl, hacquired⟩ := h.acquire id path read (List.mem_of_getElem? hi) ht
    rcases hreply : e.reply with _ | bytes
    · exact Or.inl (by simp [PassportTask.after, hreply, hacquired])
    · refine Or.inr ⟨by simp [PassportTask.after, hreply], hacquired, ?_⟩
      simp only [PassportsEvent.FreeTag, hi] at hfree
      exact hfree (by simp [hreply])
  | transceive path apdu => exact Or.inl rfl

/-- The running read makes a call other than the request for its proxy. -/
theorem OccupancyInv.await {s : PassportsState G} (h : OccupancyInv s) (hinv : PassportsInv s)
    (hlive : s.died = none) {i id : ℕ} {call : PassportCall} {read read' : PassportTask G}
    (hi : s.pool.calls[i]? = some (id, call)) (ht : s.pool.tasks id = some read)
    {call' : PassportCall} (hproxy : ∀ path, call' ≠ .tagProxy path) (nfcd : NfcdLocks)
    (hacquire : ∀ path, call' = .acquire path → read'.tag = path ∧ read'.acquired = false)
    (hholds : ∀ path, s.holders path + s.releases path +
      (decide (read'.acquired = true ∧ read'.tag = path)).toNat
        ≤ 1 + (decide (read.acquired = true ∧ read.tag = path)).toNat) :
    OccupancyInv { s with pool := (s.pool.take i).await id read' call', nfcd := nfcd } := by
  have hwf := hinv.wf
  rw [hlive] at hwf
  refine ⟨?_, ?_, fun path => ?_⟩
  · intro j path r hc hr
    rcases hwf.await_cases hi hc hr with ⟨-, heq, -⟩ | ⟨-, hc, hr⟩
    · exact absurd heq.symm (hproxy path)
    · exact h.proxy j path r hc hr
  · intro j path r hc hr
    rcases hwf.await_cases hi hc hr with ⟨-, heq, rfl⟩ | ⟨-, hc, hr⟩
    · exact hacquire path heq.symm
    · exact h.acquire j path r hc hr
  · have hcount := Pool.count_await_add (hwf.take hi) ht read' call'
      fun r => decide (r.acquired = true ∧ r.tag = path)
    rw [Pool.count_take hi] at hcount
    have hbound := hholds path
    show ((s.pool.take i).await id read' call').count s.died _ + s.releases path ≤ 1
    rw [PassportsState.holders, hlive] at hbound
    rw [hlive]
    omega

/-- The running read ends: its Release takes the place of its hold. -/
theorem OccupancyInv.finish {s : PassportsState G} (h : OccupancyInv s) (hinv : PassportsInv s)
    (hlive : s.died = none) {i id : ℕ} {call : PassportCall} {read read' : PassportTask G}
    (hi : s.pool.calls[i]? = some (id, call)) (ht : s.pool.tasks id = some read)
    (hholds : ∀ path, s.holders path + s.releases path +
      (decide (read'.acquired = true ∧ read'.tag = path)).toNat
        ≤ 1 + (decide (read.acquired = true ∧ read.tag = path)).toNat) (success : Bool)
    (text : Option String) (result : Option PassportResult) :
    OccupancyInv
      (passportReadFinish { s with pool := s.pool.take i } id read' success text result) := by
  have hwf := hinv.wf
  rw [hlive] at hwf
  refine ⟨?_, ?_, fun path => ?_⟩
  · rw [passportReadFinish_pool]
    intro j path r hc hr
    obtain ⟨-, hc, hr⟩ := hwf.free_cases hi hc hr
    exact h.proxy j path r hc hr
  · rw [passportReadFinish_pool]
    intro j path r hc hr
    obtain ⟨-, hc, hr⟩ := hwf.free_cases hi hc hr
    exact h.acquire j path r hc hr
  · have hcount := Pool.count_free (hwf.take hi) ht
      fun r => decide (r.acquired = true ∧ r.tag = path)
    rw [Pool.count_take hi, ← hlive] at hcount
    have hbound := hholds path
    -- a Release is added only for a tag the read holds
    have hreleases : (passportReadFinish { s with pool := s.pool.take i } id read' success text
        result).releases path
          ≤ s.releases path + (decide (read'.acquired = true ∧ read'.tag = path)).toNat := by
      rw [PassportsState.releases, passportReadFinish_cleanups, List.countP_append]
      refine Nat.add_le_add_left ?_ _
      by_cases hacq : read'.acquired = true ∧ read'.tag.isSome = true
      · rw [if_pos hacq, List.countP_singleton]
        by_cases hpath : read'.tag = path <;> simp [PassportCleanup.isRelease, hacq.1, hpath]
      · rw [if_neg hacq]
        simp
    rw [PassportsState.holders, passportReadFinish_pool, passportReadFinish_died]
    rw [PassportsState.holders] at hbound
    show ((s.pool.take i).free id).count s.died _ + _ ≤ 1
    omega

variable (env) in
/-- What a callback leaves its read with fits beside the other holds. -/
theorem OccupancyInv.after_le {s : PassportsState G} (h : OccupancyInv s) {i id : ℕ}
    {call : PassportCall} {read : PassportTask G} {e : PassportEvent}
    (hi : s.pool.calls[i]? = some (id, call)) (ht : s.pool.tasks id = some read)
    (hfree : (PassportsEvent.complete i e).FreeTag s) (path : Option String) :
    s.holders path + s.releases path +
      (decide ((read.after env call e).acquired = true ∧ read.tag = path)).toNat
        ≤ 1 + (decide (read.acquired = true ∧ read.tag = path)).toNat := by
  have hold := h.occupancy path
  rcases h.after env hi ht hfree with heq | ⟨hacq, hbefore, hheld, hreleased⟩
  · rw [heq]
    omega
  -- the tag just acquired was free; all other tags are as before
  · rw [hacq, hbefore]
    by_cases hpath : read.tag = path
    · subst hpath
      simp [hheld, hreleased]
    · simpa [hpath] using hold

theorem OccupancyInv.handled {s s' : PassportsState G} (h : OccupancyInv s)
    (hinv : PassportsInv s) (hlive : s.died = none) {i id : ℕ} {call : PassportCall}
    {read : PassportTask G} {e : PassportEvent} (hi : s.pool.calls[i]? = some (id, call))
    (ht : s.pool.tasks id = some read) (hfree : (PassportsEvent.complete i e).FreeTag s)
    (hh : PassportHandled env { s with pool := s.pool.take i } id read call e s') :
    OccupancyInv s' := by
  have hafter := h.after_le env hi ht hfree
  cases hh with
  | acquires path hcall hreply =>
    subst hcall
    have hacquired := h.proxy id path read (List.mem_of_getElem? hi) ht
    have hread : ({ read with tag := path } : PassportTask G).acquired = false := hacquired
    refine h.await hinv hlive hi ht (by simp) _ ?_ fun path' => ?_
    · intro path' heq
      exact ⟨PassportCall.acquire.inj heq, hread⟩
    · have hold := h.occupancy path'
      simpa [hacquired] using hold
  | proceeds p request hcall hstatus =>
    refine h.await hinv hlive hi ht (by simp) s.nfcd (by simp) fun path => ?_
    rw [after_tag]
    exact hafter path
  | finishes success text result hend =>
    refine h.finish hinv hlive hi ht (fun path => ?_) success text result
    rw [after_tag]
    exact hafter path
  | dies hcall hstatus =>
    refine ⟨?_, ?_, fun path => ?_⟩
    · exact fun j path r hc => h.proxy j path r ((hinv.wf.mem_take hi).mp hc).2
    · exact fun j path r hc => h.acquire j path r ((hinv.wf.mem_take hi).mp hc).2
    · have hcount : (s.pool.take i).count (some id) (fun r => r.acquired ∧ r.tag = path)
          = s.holders path := by
        rw [PassportsState.holders, hlive]
        exact Pool.count_take hi _
      show (s.pool.take i).count (some id) _ + s.releases path ≤ 1
      rw [hcount]
      exact h.occupancy path

/-- **One step.** -/
theorem OccupancyInv.step {s : PassportsState G} (h : OccupancyInv s) (hinv : PassportsInv s)
    {e : PassportsEvent} (hfree : e.FreeTag s) : OccupancyInv (passportsStep env glib s e) := by
  have hstep := passportsStep_stepped env glib s e
  generalize passportsStep env glib s e = s' at hstep
  cases hstep with
  | idle e hasked => exact h
  | elsewhere e tag => exact h.congr rfl rfl fun _ => le_rfl
  | aborts e tag closed hasked => exact h.abort.congr rfl rfl fun _ => le_rfl
  | asks e start userData hasked hstart hbad => exact h.request hinv start userData
  | completes i e id call read s' hlive hi ht hh => exact h.handled hinv hlive hi ht hfree hh
  | processes k grant => exact h.congr rfl rfl fun _ => le_rfl
  | deactivates i id path hlive hi =>
    refine h.congr rfl rfl fun path' => ?_
    show (s.cleanups.eraseIdx i ++ [PassportCleanup.deactivate id path]).countP _ ≤ _
    rw [List.countP_append, List.countP_singleton]
    exact releases_eraseIdx_le s.cleanups i path'
  | cleaned i id path hi =>
    exact h.congr rfl rfl fun path' => releases_eraseIdx_le s.cleanups i path'

/-- With one occupant for each tag, every Release is answered in time. -/
theorem OccupancyInv.inTime {s : PassportsState G} (h : OccupancyInv s) (e : PassportsEvent) :
    e.InTime s := by
  unfold PassportsEvent.InTime
  split
  · next i =>
    split
    · next id path hi =>
      intro _
      -- the Release being answered is the tag's one occupant
      have hpos : 0 < s.releases path :=
        List.countP_pos_iff.mpr ⟨_, List.mem_of_getElem? hi, by simp [PassportCleanup.isRelease]⟩
      have hold := h.occupancy path
      omega
    · trivial
  · trivial

/-! ## Every run -/

/-- **When the clean-up of a read leaves the next one alone.** In a run no Deactivate is ever
sent for a tag that an unfinished read has acquired exactly when every Release is answered
while no unfinished read has acquired its tag.  It is enough that every successful Acquire
finds its tag unheld and without an unanswered Release. -/
theorem cleanup_undisturbed_iff (env : PassportEnv G P) (glib : GlibText)
    (es : List PassportsEvent) :
    (Along (Undisturbed env glib) (passportsStep env glib) .init es ↔
      Along (fun s e => e.InTime s) (passportsStep env glib) .init es) ∧
    (Along (fun s e => e.FreeTag s) (passportsStep env glib) .init es →
      Along (Undisturbed env glib) (passportsStep env glib) .init es) := by
  have hiff : Along (Undisturbed env glib) (passportsStep env glib) .init es ↔
      Along (fun s e => e.InTime s) (passportsStep env glib) .init es :=
    ⟨Along.imp fun s e => (undisturbed_iff s e).mp, Along.imp fun s e => (undisturbed_iff s e).mpr⟩
  refine ⟨hiff, fun hfree => hiff.mpr (along_iff.mpr ?_)⟩
  rintro es₁ e es₂ rfl
  -- the invariant at the state this event finds
  have hend := (along_append.mp hfree).1.invariant (fun s => PassportsInv s ∧ OccupancyInv s)
    (fun s e h he => ⟨h.1.step e, h.2.step h.1 he⟩) ⟨passportsInv_init, occupancyInv_init⟩
  exact hend.2.inTime e

/-- A document is read, and read again by the caller's callback; the first read's Release is
answered only when the second read has acquired the tag. -/
def hastyReread : List PassportsEvent :=
  failedPace ++
    [.readPassportPace (some [0x31]) false 1, .complete 0 ⟨some [], none, none⟩,
      .nfcdAcquire 0 true, .complete 0 ⟨some [], none, none⟩, .cleanup 0]

/-- The second read's session is deactivated under it. -/
theorem reread_is_deactivated :
    ¬ Along (Undisturbed specimenEnv asciiGlib) (passportsStep specimenEnv asciiGlib) .init
        hastyReread ∧
      (passportsRun specimenEnv asciiGlib hastyReread).deactivated = [(0, some "/nfc0/tag0")] ∧
      (passportsRun specimenEnv asciiGlib hastyReread).holders (some "/nfc0/tag0") = 1 ∧
      (passportsRun specimenEnv asciiGlib hastyReread).passportReading = some 1 := by
  refine ⟨?_, by decide +kernel, by decide +kernel, by decide +kernel⟩
  rw [(cleanup_undisturbed_iff specimenEnv asciiGlib hastyReread).1]
  decide +kernel

end NfcAdapter
