/-
# What one event of the passport reads can do

The ways a callback of a read can end, and all ways the client's reads can change in one
step.  Nothing beyond this module unfolds the step function.
-/
import NfcAdapter.PassportReads
import NfcAdapter.PassportAuth

namespace NfcAdapter

open Runs

variable {G P : Type} {env : PassportEnv G P} {glib : GlibText}

/-! ## The end of a read -/

section Finish

variable (s : PassportsState G) (id : ℕ) (read : PassportTask G) (success : Bool)
  (text : Option String) (result : Option PassportResult)

@[simp] theorem passportReadFinish_pool :
    (passportReadFinish s id read success text result).pool = s.pool.free id := by
  simp only [passportReadFinish, passportRelease]
  split <;> rfl

@[simp] theorem passportReadFinish_passportReading :
    (passportReadFinish s id read success text result).passportReading
      = if read.client ∧ s.passportReading = some id then none else s.passportReading := by
  simp only [passportReadFinish, passportRelease]
  split <;> rfl

@[simp] theorem passportReadFinish_answers :
    (passportReadFinish s id read success text result).answers
      = s.answers ++ [⟨read.userData, success, text, result⟩] := by
  simp only [passportReadFinish, passportRelease]
  split <;> rfl

@[simp] theorem passportReadFinish_died :
    (passportReadFinish s id read success text result).died = s.died := by
  simp only [passportReadFinish, passportRelease]
  split <;> rfl

@[simp] theorem passportReadFinish_nfcd :
    (passportReadFinish s id read success text result).nfcd = s.nfcd := by
  simp only [passportReadFinish, passportRelease]
  split <;> rfl

@[simp] theorem passportReadFinish_deactivated :
    (passportReadFinish s id read success text result).deactivated = s.deactivated := by
  simp only [passportReadFinish, passportRelease]
  split <;> rfl

/-- A read that has acquired its tag sends one Release, any other one none. -/
theorem passportReadFinish_released :
    (passportReadFinish s id read success text result).released
      = s.released ++ if read.acquired ∧ read.tag.isSome then [(id, read.tag)] else [] := by
  simp only [passportReadFinish, passportRelease]
  split
  · rfl
  · exact (List.append_nil _).symm

theorem passportReadFinish_cleanups :
    (passportReadFinish s id read success text result).cleanups
      = s.cleanups ++ if read.acquired ∧ read.tag.isSome then [.release id read.tag] else [] := by
  simp only [passportReadFinish, passportRelease]
  split
  · rfl
  · exact (List.append_nil _).symm

end Finish

/-! ## What a callback can do -/

/-- The read a callback goes on with. -/
def PassportTask.after (env : PassportEnv G P) (read : PassportTask G) (call : PassportCall)
    (e : PassportEvent) : PassportTask G :=
  match call with
  | .tagProxy _ => read
  | .acquire _ => { read with acquired := e.reply.isSome, chain := read.chain.step env e }
  | .transceive _ _ => { read with chain := read.chain.step env e }

section After

variable (read : PassportTask G) (call : PassportCall) (e : PassportEvent)

@[simp] theorem after_client : (read.after env call e).client = read.client := by
  cases call <;> rfl

@[simp] theorem after_cancelled : (read.after env call e).cancelled = read.cancelled := by
  cases call <;> rfl

@[simp] theorem after_tag : (read.after env call e).tag = read.tag := by
  cases call <;> rfl

@[simp] theorem after_userData : (read.after env call e).userData = read.userData := by
  cases call <;> rfl

end After

/-- The ways a callback of the read at `id` can end: Acquire, the next Transceive(), the end of
the read, or the end of the program. -/
inductive PassportHandled (env : PassportEnv G P) (s : PassportsState G) (id : ℕ)
    (read : PassportTask G) (call : PassportCall) (e : PassportEvent) : PassportsState G → Prop
  | acquires (path : Option String) (hcall : call = .tagProxy path) (hreply : e.reply ≠ none) :
      PassportHandled env s id read call e
        { s with pool := s.pool.await id { read with tag := path } (.acquire path)
                 nfcd := s.nfcd.send id read path }
  | proceeds (p : Pending) (request : PassportRequest) (hcall : ∀ path, call ≠ .tagProxy path)
      (hstatus : (read.after env call e).chain.status = .waiting p request) :
      PassportHandled env s id read call e
        { s with
          pool := s.pool.await id (read.after env call e) (.transceive read.tag request.apdu) }
  | finishes (success : Bool) (text : Option String) (result : Option PassportResult)
      (hend : ((∃ path, call = .tagProxy path) ∧ success = false) ∨
        ((∀ path, call ≠ .tagProxy path) ∧
          (read.after env call e).chain.status = .finished success text result)) :
      PassportHandled env s id read call e
        (passportReadFinish s id (read.after env call e) success text result)
  | dies (hcall : ∀ path, call ≠ .tagProxy path)
      (hstatus : (read.after env call e).chain.status = .crashed) :
      PassportHandled env s id read call e { s with died := some id }

theorem passportGoOn_handled (s : PassportsState G) (id : ℕ) (read : PassportTask G)
    {call : PassportCall} (e : PassportEvent) (hcall : ∀ path, call ≠ .tagProxy path) :
    PassportHandled env s id read call e (passportGoOn s id (read.after env call e)) := by
  unfold passportGoOn
  rcases hstatus : (read.after env call e).chain.status with
    ⟨p, request⟩ | ⟨success, text, result⟩ | _
  · simp only [after_tag]
    exact .proceeds p request hcall hstatus
  · exact .finishes success text result (Or.inr ⟨hcall, hstatus⟩)
  · exact .dies hcall hstatus

theorem passportCallback_handled (env : PassportEnv G P) (s : PassportsState G) (id : ℕ)
    (read : PassportTask G) (call : PassportCall) (e : PassportEvent) :
    PassportHandled env s id read call e (passportCallback env s id read call e) := by
  cases call with
  | tagProxy path =>
    show PassportHandled env s id read _ e (passportTagProxyReady s id read path e.reply)
    unfold passportTagProxyReady
    rcases hreply : e.reply with _ | bytes
    · exact .finishes false _ none (Or.inl ⟨⟨path, rfl⟩, rfl⟩)
    · exact .acquires path rfl (by simp [hreply])
  | acquire path => exact passportGoOn_handled s id read e (by simp)
  | transceive path apdu => exact passportGoOn_handled s id read e (by simp)

/-- A completion runs the callback of its call, or there is no such call. -/
theorem passportComplete_cases (env : PassportEnv G P) (s : PassportsState G) (i : ℕ)
    (e : PassportEvent) :
    passportComplete env s i e = s ∨
    ∃ id call read, s.pool.calls[i]? = some (id, call) ∧ s.pool.tasks id = some read ∧
      PassportHandled env { s with pool := s.pool.take i } id read call e
        (passportComplete env s i e) := by
  unfold passportComplete
  rcases hi : s.pool.calls[i]? with _ | ⟨id, call⟩
  · exact Or.inl rfl
  · rcases ht : s.pool.tasks id with _ | read
    · simp only [ht]
      exact Or.inl trivial
    · simp only [ht]
      exact Or.inr ⟨id, call, read, rfl, ht, passportCallback_handled env _ id read call e⟩

/-! ## Requests -/

/-- The request an event makes. -/
def PassportsEvent.request : PassportsEvent → Option ℕ
  | readPassport _ _ _ _ userData | readPassportPace _ _ userData => some userData
  | tag _ | clientFree | complete _ _ | nfcdAcquire _ _ | cleanup _ => none

/-- The request made, if there is still a client to make it to. -/
def passportAsked (s : PassportsState G) (e : PassportsEvent) : Option ℕ :=
  if s.died.isSome ∨ s.closed then none else e.request

/-- The requests of a run, in order. -/
def passportRequests (env : PassportEnv G P) (glib : GlibText) (es : List PassportsEvent) :
    List ℕ :=
  trace passportAsked (passportsStep env glib) .init es

/-- The parameters of a request do not give keys. -/
def PassportsEvent.BadParameters (env : PassportEnv G P) : PassportsEvent → Prop
  | readPassport documentNumber dateOfBirth dateOfExpiry _ _ =>
    bacDeriveStaticKeys env.ssl documentNumber dateOfBirth dateOfExpiry = none
  | readPassportPace can _ _ => paceDeriveKCan can = none
  | _ => False

/-- A request starts a read, or is refused and answered at once. -/
theorem passportRequest_cases (s : PassportsState G) (start : Except String (PassportState G))
    (userData : ℕ) :
    ((passportReadPrecheck s ≠ none ∨ ∃ text, start = .error text) ∧
      ∃ text, passportRequest s start userData = s.answer ⟨userData, false, some text, none⟩) ∨
    (passportReadPrecheck s = none ∧ ∃ chain, start = .ok chain ∧
      passportRequest s start userData = passportReadDispatch s chain userData) := by
  unfold passportRequest
  rcases hpre : passportReadPrecheck s with _ | text
  · rcases start with text | chain
    · exact Or.inl ⟨Or.inr ⟨text, rfl⟩, text, rfl⟩
    · exact Or.inr ⟨rfl, chain, rfl, rfl⟩
  · exact Or.inl ⟨Or.inl (by simp), text, rfl⟩

/-- The state a request starts its read in is one of a whole read. -/
theorem readPassportStart_inv {documentNumber dateOfBirth dateOfExpiry : Option Bytes}
    {readPhoto : Bool} {chain : PassportState G}
    (h : readPassportStart env documentNumber dateOfBirth dateOfExpiry readPhoto = .ok chain) :
    chain.Inv := by
  unfold readPassportStart at h
  split at h
  · cases h
  · cases h
    exact (PassportStart.bac _ readPhoto).inv

theorem readPassportPaceStart_inv {can : Option Bytes} {readPhoto : Bool}
    {chain : PassportState G} (h : readPassportPaceStart can readPhoto = .ok chain) :
    chain.Inv := by
  unfold readPassportPaceStart at h
  split at h
  · cases h
  · cases h
    exact (PassportStart.pace _ readPhoto).inv

/-! ## One step -/

/-- All ways the state can change in one step. -/
inductive PassportsStepped (env : PassportEnv G P) (s : PassportsState G) :
    PassportsEvent → PassportsState G → Prop
  | idle (e : PassportsEvent) (hasked : passportAsked s e = none) : PassportsStepped env s e s
  | elsewhere (e : TagEvent) (tag : TagState) :
      PassportsStepped env s (.tag e) { s with tag := tag }
  | aborts (e : PassportsEvent) (tag : TagState) (closed : Bool)
      (hasked : passportAsked s e = none) :
      PassportsStepped env s e { abortPassportReading s with tag := tag, closed := closed }
  | asks (e : PassportsEvent) (start : Except String (PassportState G)) (userData : ℕ)
      (hasked : passportAsked s e = some userData)
      (hstart : ∀ chain, start = .ok chain → chain.Inv)
      (hbad : e.BadParameters env ↔ ∃ text, start = .error text) :
      PassportsStepped env s e (passportRequest s start userData)
  | completes (i : ℕ) (e : PassportEvent) (id : ℕ) (call : PassportCall) (read : PassportTask G)
      (s' : PassportsState G) (hlive : s.died = none) (hi : s.pool.calls[i]? = some (id, call))
      (ht : s.pool.tasks id = some read)
      (hh : PassportHandled env { s with pool := s.pool.take i } id read call e s') :
      PassportsStepped env s (.complete i e) s'
  | processes (k : ℕ) (grant : Bool) :
      PassportsStepped env s (.nfcdAcquire k grant) { s with nfcd := nfcdProcess s.nfcd k grant }
  | deactivates (i id : ℕ) (path : Option String) (hlive : s.died = none)
      (hi : s.cleanups[i]? = some (.release id path)) :
      PassportsStepped env s (.cleanup i)
        { s with cleanups := s.cleanups.eraseIdx i ++ [.deactivate id path]
                 deactivated := s.deactivated ++ [(id, path)] }
  | cleaned (i id : ℕ) (path : Option String) (hi : s.cleanups[i]? = some (.deactivate id path)) :
      PassportsStepped env s (.cleanup i) { s with cleanups := s.cleanups.eraseIdx i }

theorem passportAsked_of_request {s : PassportsState G} {e : PassportsEvent}
    (h : e.request = none) : passportAsked s e = none := by
  unfold passportAsked
  rw [h, ite_self]

theorem readPassport_stepped {s : PassportsState G} (hdied : ¬ s.died.isSome = true)
    (e : PassportsEvent) {start : Except String (PassportState G)} {userData : ℕ}
    (hrequest : e.request = some userData) (hstart : ∀ chain, start = .ok chain → chain.Inv)
    (hbad : e.BadParameters env ↔ ∃ text, start = .error text) :
    PassportsStepped env s e (if s.closed then s else passportRequest s start userData) := by
  by_cases hclosed : s.closed = true
  · rw [if_pos hclosed]
    exact .idle e (if_pos (Or.inr hclosed))
  · rw [if_neg hclosed]
    refine .asks e start userData ?_ hstart hbad
    rw [passportAsked, if_neg (not_or.mpr ⟨hdied, hclosed⟩)]
    exact hrequest

/-- **One step.** -/
theorem passportsStep_stepped (env : PassportEnv G P) (glib : GlibText) (s : PassportsState G)
    (e : PassportsEvent) : PassportsStepped env s e (passportsStep env glib s e) := by
  unfold passportsStep
  by_cases hdied : s.died.isSome = true
  · rw [if_pos hdied]
    exact .idle e (if_pos (Or.inl hdied))
  · rw [if_neg hdied]
    have hlive : s.died = none := by simpa using hdied
    cases e with
    | tag e =>
      have hasked : passportAsked s (.tag e) = none := passportAsked_of_request rfl
      cases e with
      | tags tags =>
        dsimp only
        split
        · exact .idle _ hasked
        · unfold passportUpdateTags
          split
          · exact .idle _ hasked
          · exact .aborts _ _ (abortPassportReading s).closed hasked
      | complete i reply => exact .elsewhere _ _
    | readPassport documentNumber dateOfBirth dateOfExpiry readPhoto userData =>
      refine readPassport_stepped hdied _ rfl (fun _ => readPassportStart_inv) ?_
      unfold PassportsEvent.BadParameters readPassportStart
      rcases hkeys : bacDeriveStaticKeys env.ssl documentNumber dateOfBirth dateOfExpiry with
        _ | keys <;> simp [hkeys]
    | readPassportPace can readPhoto userData =>
      refine readPassport_stepped hdied _ rfl (fun _ => readPassportPaceStart_inv) ?_
      unfold PassportsEvent.BadParameters readPassportPaceStart
      rcases hk : paceDeriveKCan can with _ | k <;> simp [hk]
    | clientFree =>
      have hasked : passportAsked s .clientFree = none := passportAsked_of_request rfl
      dsimp only
      split
      · exact .idle _ hasked
      · exact .aborts _ _ _ hasked
    | complete i e =>
      dsimp only
      rcases passportComplete_cases env s i e with heq | ⟨id, call, read, hi, ht, hh⟩
      · rw [heq]
        exact .idle _ (passportAsked_of_request rfl)
      · exact .completes i e id call read _ hlive hi ht hh
    | nfcdAcquire k grant => exact .processes k grant
    | cleanup i =>
      show PassportsStepped env s (.cleanup i) (passportCleanup s i)
      unfold passportCleanup
      rcases hi : s.cleanups[i]? with _ | ⟨id, path⟩ | ⟨id, path⟩
      · exact .idle _ (passportAsked_of_request rfl)
      · exact .deactivates i id path hlive hi
      · exact .cleaned i id path hi

/-- A request that can be made runs the precheck and derives its keys. -/
theorem passportsStep_request (env : PassportEnv G P) (glib : GlibText) {s : PassportsState G}
    {e : PassportsEvent} {userData : ℕ} (hasked : passportAsked s e = some userData) :
    ∃ start : Except String (PassportState G),
      passportsStep env glib s e = passportRequest s start userData ∧
      (e.BadParameters env ↔ ∃ text, start = .error text) := by
  -- of the eight kinds of step only a request asks anything
  have hno : ∀ e' : PassportsEvent, e'.request = none → passportAsked s e' ≠ some userData := by
    intro e' hrequest h
    rw [passportAsked_of_request hrequest] at h
    cases h
  have hstep := passportsStep_stepped env glib s e
  generalize passportsStep env glib s e = s' at hstep
  cases hstep with
  | idle e hnone =>
    rw [hnone] at hasked
    cases hasked
  | elsewhere e tag => exact absurd hasked (hno _ rfl)
  | aborts e tag closed hnone =>
    rw [hnone] at hasked
    cases hasked
  | asks e start u hu hstart hbad =>
    rw [hu] at hasked
    obtain rfl := Option.some.inj hasked
    exact ⟨start, rfl, hbad⟩
  | completes i e id call read s' hlive hi ht hh => exact absurd hasked (hno _ rfl)
  | processes k grant => exact absurd hasked (hno _ rfl)
  | deactivates i id path hlive hi => exact absurd hasked (hno _ rfl)
  | cleaned i id path hi => exact absurd hasked (hno _ rfl)

/-- The client after the events `es`. -/
def passportsRun (env : PassportEnv G P) (glib : GlibText) (es : List PassportsEvent) :
    PassportsState G :=
  run (passportsStep env glib) .init es


end NfcAdapter
