/-
# Whose passport it is

The MRZ and the photo of a document leave the service in one place only: the reply to a message
that asked for a passport read, whose own parameters gave the keys that the handshake with the
document proved.  Reads of several messages run next to each other, and none gets what another
has read.
-/
import NfcAdapter.NfcServiceServed
import NfcAdapter.PassportReply

namespace NfcAdapter

open Runs ByteCounter
open Json (text Object Value)
open TaskPool (Pool)

variable {G P : Type}

/-! ## Where a read comes from -/

/-- The event asks on behalf of `userData` for a read that starts with these keys. -/
inductive PassportsEvent.Starts (env : PassportEnv G P) (userData : ℕ) :
    PassportsEvent → PassportStart → Prop
  | bac {documentNumber dateOfBirth dateOfExpiry : Option Bytes} {keys : BacStaticKeys}
      (readPhoto : Bool)
      (hkeys : bacDeriveStaticKeys env.ssl documentNumber dateOfBirth dateOfExpiry = some keys) :
      Starts env userData
        (.readPassport documentNumber dateOfBirth dateOfExpiry readPhoto userData)
        (.bac keys readPhoto)
  | pace {can : Option Bytes} {k : Bytes} (readPhoto : Bool) (hk : paceDeriveKCan can = some k) :
      Starts env userData (.readPassportPace can readPhoto userData) (.pace k readPhoto)

/-- What a read is told at the end of its call. -/
def PassportsEvent.exchanged : PassportsEvent → Option PassportEvent
  | complete _ e => some e
  | _ => none

/-- `chain` is where a read for `userData` has come to: it started with keys that had been asked
for on behalf of `userData`, and was told some of the `es`, in their order. -/
def ReadFor (env : PassportEnv G P) (asked : ℕ → PassportStart → Prop) (es : List PassportEvent)
    (userData : ℕ) (chain : PassportState G) : Prop :=
  ∃ start, asked userData start ∧
    ∃ exchange : List PassportEvent, exchange.Sublist es ∧ chain = passportRun env start exchange

section ReadFor

variable {env : PassportEnv G P} {asked : ℕ → PassportStart → Prop} {es : List PassportEvent}
  {userData : ℕ} {chain : PassportState G}

theorem ReadFor.mono (h : ReadFor env asked es userData chain)
    {asked' : ℕ → PassportStart → Prop} (hasked : ∀ id start, asked id start → asked' id start)
    (new : List PassportEvent) : ReadFor env asked' (es ++ new) userData chain := by
  obtain ⟨start, hstart, exchange, hsub, hchain⟩ := h
  exact ⟨start, hasked _ _ hstart, exchange, hsub.trans (List.sublist_append_left _ _), hchain⟩

theorem ReadFor.step (h : ReadFor env asked es userData chain) (e : PassportEvent) :
    ReadFor env asked (es ++ [e]) userData (chain.step env e) := by
  obtain ⟨start, hstart, exchange, hsub, rfl⟩ := h
  refine ⟨start, hstart, exchange ++ [e], hsub.append_right [e], ?_⟩
  rw [passportRun_concat]

end ReadFor

/-- Every read is one for its own request, and so is the read behind every success. -/
structure PassportOrigins (env : PassportEnv G P) (asked : ℕ → PassportStart → Prop)
    (es : List PassportEvent) (s : PassportsState G) : Prop where
  reads : ∀ id read, s.pool.tasks id = some read →
    ReadFor env asked es read.userData read.chain
  answers : ∀ a ∈ s.answers, a.success = true →
    ∃ chain, ReadFor env asked es a.userData chain ∧
      chain.status = .finished true a.errorText a.result

namespace PassportOrigins

variable {env : PassportEnv G P} {asked : ℕ → PassportStart → Prop} {es : List PassportEvent}
  {s s' : PassportsState G}

theorem init : PassportOrigins env asked [] (.init : PassportsState G) where
  reads := by simp [PassportsState.init, Pool.empty]
  answers := by simp [PassportsState.init]

theorem mono (h : PassportOrigins env asked es s) {asked' : ℕ → PassportStart → Prop}
    (hasked : ∀ id start, asked id start → asked' id start) (new : List PassportEvent) :
    PassportOrigins env asked' (es ++ new) s := by
  constructor
  · intro id read ht
    exact (h.reads id read ht).mono hasked new
  · intro a ha hok
    obtain ⟨chain, hchain, hstatus⟩ := h.answers a ha hok
    exact ⟨chain, hchain.mono hasked new, hstatus⟩

/-- Neither the reads nor the answers change. -/
theorem congr (h : PassportOrigins env asked es s) (htasks : s'.pool.tasks = s.pool.tasks)
    (hanswers : s'.answers = s.answers) : PassportOrigins env asked es s' := by
  constructor
  · rw [htasks]
    exact h.reads
  · rw [hanswers]
    exact h.answers

/-- An abort leaves a read its request and its exchange. -/
theorem abort (h : PassportOrigins env asked es s) :
    PassportOrigins env asked es (abortPassportReading s) := by
  unfold abortPassportReading
  cases s.passportReading with
  | none => exact h
  | some cur =>
    refine ⟨?_, h.answers⟩
    intro id read ht
    rcases Pool.tasks_modify_eq_some.mp ht with ⟨rfl, u, hu, rfl⟩ | ⟨-, ht⟩
    · exact h.reads _ u hu
    · exact h.reads id read ht

/-- A refusal is no success. -/
theorem refuse (h : PassportOrigins env asked es s) (userData : ℕ) (errorText : Option String) :
    PassportOrigins env asked es (s.answer ⟨userData, false, errorText, none⟩) := by
  refine ⟨h.reads, ?_⟩
  intro a ha hok
  rcases List.mem_append.mp ha with ha | ha
  · exact h.answers a ha hok
  · rw [List.mem_singleton.mp ha] at hok
    cases hok

/-- A request starts its read with its own keys. -/
theorem request (h : PassportOrigins env asked es s) (userData : ℕ)
    {start : Except String (PassportState G)}
    (hstart : ∀ chain, start = .ok chain → ReadFor env asked es userData chain) :
    PassportOrigins env asked es (passportRequest s start userData) := by
  rcases passportRequest_cases s start userData with ⟨-, text, heq⟩ | ⟨-, chain, hchain, heq⟩
  · rw [heq]
    exact h.refuse userData (some text)
  · rw [heq]
    refine ⟨?_, h.answers⟩
    intro id read ht
    rcases Pool.tasks_spawn_eq_some.mp ht with ⟨-, rfl⟩ | ⟨-, ht⟩
    · exact hstart chain hchain
    · exact h.reads id read ht

/-- What a callback goes on with. -/
theorem after {e : PassportEvent} {read : PassportTask G} (call : PassportCall)
    (hread : ReadFor env asked es read.userData read.chain) :
    ReadFor env asked (es ++ [e]) (read.after env call e).userData
      (read.after env call e).chain := by
  rw [after_userData]
  cases call with
  | tagProxy path => exact hread.mono (fun _ _ h => h) [e]
  | acquire path => exact hread.step e
  | transceive path apdu => exact hread.step e

/-- **A callback** leaves every other read alone. -/
theorem handled (h : PassportOrigins env asked es s) {i id : ℕ} {call : PassportCall}
    {read : PassportTask G} {e : PassportEvent} (ht : s.pool.tasks id = some read)
    (hh : PassportHandled env { s with pool := s.pool.take i } id read call e s') :
    PassportOrigins env asked (es ++ [e]) s' := by
  have hothers : PassportOrigins env asked (es ++ [e]) s := h.mono (fun _ _ h => h) [e]
  have hafter : ReadFor env asked (es ++ [e]) (read.after env call e).userData
      (read.after env call e).chain := after call (h.reads id read ht)
  cases hh with
  | acquires path hcall hreply =>
    refine ⟨?_, hothers.answers⟩
    intro j r hr
    rcases Pool.tasks_await_eq_some.mp hr with ⟨rfl, rfl⟩ | ⟨-, hr⟩
    · exact hothers.reads j read ht
    · exact hothers.reads j r hr
  | proceeds p request hcall hstatus =>
    refine ⟨?_, hothers.answers⟩
    intro j r hr
    rcases Pool.tasks_await_eq_some.mp hr with ⟨rfl, rfl⟩ | ⟨-, hr⟩
    · exact hafter
    · exact hothers.reads j r hr
  | finishes success errorText result hend =>
    constructor
    · intro j r hr
      rw [passportReadFinish_pool] at hr
      exact hothers.reads j r (Pool.tasks_free_eq_some.mp hr).2
    · intro a ha hok
      rw [passportReadFinish_answers] at ha
      rcases List.mem_append.mp ha with ha | ha
      · exact hothers.answers a ha hok
      · obtain rfl := List.mem_singleton.mp ha
        rcases hend with ⟨-, hno⟩ | ⟨-, hstatus⟩
        · exact absurd (hno.symm.trans hok) Bool.false_ne_true
        · obtain rfl : success = true := hok
          exact ⟨_, hafter, hstatus⟩
  | dies hcall hstatus => exact hothers.congr rfl rfl

/-- **One step.** -/
theorem step (h : PassportOrigins env asked es s) (glib : GlibText) {e : PassportsEvent}
    (hasked : ∀ userData start, e.Starts env userData start → asked userData start) :
    PassportOrigins env asked (es ++ e.exchanged.toList) (passportsStep env glib s e) := by
  have hsame : PassportOrigins env asked (es ++ []) s := h.mono (fun _ _ h => h) []
  have hfrom : ∀ userData start, e.Starts env userData start →
      ReadFor env asked (es ++ []) userData start.state := by
    intro userData start hstart
    exact ⟨start, hasked _ _ hstart, [], List.nil_sublist _, rfl⟩
  unfold passportsStep
  split
  · exact h.mono (fun _ _ h => h) _
  · cases e with
    | tag e =>
      cases e with
      | complete i reply => exact hsame.congr rfl rfl
      | tags tags =>
        dsimp only
        split
        · exact hsame
        · unfold passportUpdateTags
          split
          · exact hsame
          · exact hsame.abort.congr rfl rfl
    | readPassport documentNumber dateOfBirth dateOfExpiry readPhoto userData =>
      dsimp only
      split
      · exact hsame
      · apply hsame.request
        intro chain hchain
        unfold readPassportStart at hchain
        split at hchain
        · cases hchain
        · next keys hkeys =>
          cases hchain
          exact hfrom userData _ (.bac readPhoto hkeys)
    | readPassportPace can readPhoto userData =>
      dsimp only
      split
      · exact hsame
      · apply hsame.request
        intro chain hchain
        unfold readPassportPaceStart at hchain
        split at hchain
        · cases hchain
        · next k hk =>
          cases hchain
          exact hfrom userData _ (.pace readPhoto hk)
    | clientFree =>
      dsimp only
      split
      · exact hsame
      · exact hsame.abort.congr rfl rfl
    | complete i e =>
      rcases passportComplete_cases env s i e with heq | ⟨id, call, read, hi, ht, hh⟩
      · show PassportOrigins env asked (es ++ [e]) (passportComplete env s i e)
        rw [heq]
        exact h.mono (fun _ _ h => h) [e]
      · exact h.handled ht hh
    | nfcdAcquire k grant => exact hsame.congr rfl rfl
    | cleanup i =>
      show PassportOrigins env asked (es ++ []) (passportCleanup s i)
      unfold passportCleanup
      split <;> exact hsame.congr rfl rfl

end PassportOrigins

/-! ## What the service says of documents -/

/-- Members that only a document's reply has. -/
def Secret (obj : Object) : Prop :=
  obj.get? "mrz" ≠ none ∨ obj.get? "photoBase64" ≠ none

/-- A parameter of a message. -/
def LunaMessage.param (m : LunaMessage) (name : String) : Option Bytes :=
  (lunaServiceMessageParseAndValidate m.payload).bind fun obj =>
    getStringParam (jobjectGet obj name)

/-- The message asks for a read with keys that come from its own parameters. -/
inductive LunaMessage.AsksFor (env : PassportEnv G P) (m : LunaMessage) : PassportStart → Prop
  | bac {keys : BacStaticKeys} (readPhoto : Bool) (hmethod : m.method = .readPassport)
      (hkeys : bacDeriveStaticKeys env.ssl (m.param "documentNumber") (m.param "dateOfBirth")
        (m.param "dateOfExpiry") = some keys) : AsksFor env m (.bac keys readPhoto)
  | pace {k : Bytes} (readPhoto : Bool) (hmethod : m.method = .readPassportPACE)
      (hk : paceDeriveKCan (m.param "can") = some k) : AsksFor env m (.pace k readPhoto)

section Secret

variable {obj : Object}

theorem not_secret_put (h : ¬ Secret obj) {key : String} (hmrz : "mrz" ≠ key)
    (hphoto : "photoBase64" ≠ key) (value : Value) : ¬ Secret (obj.put key value) := by
  unfold Secret at h ⊢
  rw [Object.get?_put, Object.get?_put, if_neg hmrz, if_neg hphoto]
  exact h

theorem not_secret_put? (h : ¬ Secret obj) {key : String} (hmrz : "mrz" ≠ key)
    (hphoto : "photoBase64" ≠ key) (value : Option Value) : ¬ Secret (obj.put? key value) := by
  cases value with
  | none => exact h
  | some value => exact not_secret_put h hmrz hphoto value

/-- The start of every reply. -/
theorem not_secret_returnValue (success : Bool) :
    ¬ Secret (Object.put [] "returnValue" (.boolean success)) := by
  simp [Secret]

theorem not_secret_error (errorText : Bytes) :
    ¬ Secret (lunaServiceMessageReplyCustomError errorText) :=
  not_secret_put (not_secret_returnValue false) (by decide) (by decide) _

theorem not_secret_result (default : String) (success : Bool) (errorText : Option String) :
    ¬ Secret (resultReply default success errorText) := by
  unfold resultReply
  split
  · exact not_secret_returnValue true
  · exact not_secret_error _

theorem not_secret_status (client : NfcdClient) : ¬ Secret (buildStatus client) := by
  unfold buildStatus
  refine not_secret_put? ?_ (by decide) (by decide) _
  repeat refine not_secret_put ?_ (by decide) (by decide) _
  exact not_secret_returnValue true

theorem not_secret_tagInfo (client : NfcdClient) : ¬ Secret (buildTagInfo client) :=
  not_secret_put? (not_secret_put (not_secret_returnValue true) (by decide) (by decide) _)
    (by decide) (by decide) _

theorem not_secret_hceEvent (event : Option (String × Bool)) :
    ¬ Secret (buildHceEvent event) := by
  cases event with
  | none => exact not_secret_returnValue true
  | some event =>
    exact not_secret_put (not_secret_put (not_secret_returnValue true) (by decide) (by decide) _)
      (by decide) (by decide) _

end Secret

/-- What a handler answers at once is no secret; what it asks for comes from its message. -/
def LunaOutcome.Keeps (env : PassportEnv G P) (m : LunaMessage) : LunaOutcome → Prop
  | .reply obj => ¬ Secret obj
  | .passport e => e.exchanged = none ∧
      ∀ userData start, e.Starts env userData start → userData = m.id ∧ m.AsksFor env start
  | _ => True

section Handlers

variable {env : PassportEnv G P} {m : LunaMessage}

theorem withParsed_keeps {payload : Option Value} {f : Value → LunaOutcome}
    (h : ∀ obj, lunaServiceMessageParseAndValidate payload = some obj → (f obj).Keeps env m) :
    (withParsed payload f).Keeps env m := by
  unfold withParsed
  split
  · exact not_secret_error _
  · next obj hobj => exact h obj hobj

theorem LunaMessage.param_eq {obj : Value}
    (hobj : lunaServiceMessageParseAndValidate m.payload = some obj) (name : String) :
    getStringParam (jobjectGet obj name) = m.param name := by
  rw [LunaMessage.param, hobj, Option.bind_some]

theorem subscribedReply_keeps {body : Object} (h : ¬ Secret body) :
    (subscribedReply body m).Keeps env m :=
  not_secret_put h (by decide) (by decide) _

theorem serviceReadPassportCb_keeps (hmethod : m.method = .readPassport) :
    (serviceReadPassportCb m.payload m.id).Keeps env m := by
  apply withParsed_keeps
  intro obj hobj
  simp only [LunaMessage.param_eq hobj]
  split
  · next documentNumber dateOfBirth dateOfExpiry hnumber hbirth hexpiry =>
    refine ⟨rfl, ?_⟩
    rintro userData start ⟨readPhoto, hkeys⟩
    refine ⟨rfl, .bac _ hmethod ?_⟩
    rw [hnumber, hbirth, hexpiry]
    exact hkeys
  · exact not_secret_error _

theorem serviceReadPassportPaceCb_keeps (hmethod : m.method = .readPassportPACE) :
    (serviceReadPassportPaceCb m.payload m.id).Keeps env m := by
  apply withParsed_keeps
  intro obj hobj
  simp only [LunaMessage.param_eq hobj]
  split
  · next can hcan =>
    refine ⟨rfl, ?_⟩
    intro userData start hstart
    cases hstart with
    | pace readPhoto hk =>
    refine ⟨rfl, .pace _ hmethod ?_⟩
    rw [hcan]
    exact hk
  · exact not_secret_error _

/-- **Every handler.** -/
theorem handle_keeps (env : PassportEnv G P) (longBits : ℕ) (s : ServiceState G) (m : LunaMessage)
    (exported : Bool) : (s.handle longBits m exported).Keeps env m := by
  unfold ServiceState.handle
  cases hmethod : m.method with
  | getStatus => exact subscribedReply_keeps (not_secret_status _)
  | getTagInfo => exact subscribedReply_keeps (not_secret_tagInfo _)
  | getCardEmulationEvent => exact subscribedReply_keeps (not_secret_hceEvent _)
  | setEnabled =>
    apply withParsed_keeps
    intro obj _
    split
    · trivial
    · exact not_secret_error _
  | writeTag =>
    apply withParsed_keeps
    intro obj _
    split
    · trivial
    · exact not_secret_error _
    · trivial
  | lockTag => trivial
  | cloneTag =>
    apply withParsed_keeps
    intro obj _
    split
    · exact not_secret_error _
    · trivial
  | readPassport => exact serviceReadPassportCb_keeps hmethod
  | readPassportPACE => exact serviceReadPassportPaceCb_keeps hmethod
  | addCardEmulationProfile =>
    apply withParsed_keeps
    intro obj _
    split
    · exact not_secret_error _
    · trivial
  | removeCardEmulationProfile =>
    apply withParsed_keeps
    intro obj _
    split
    · exact not_secret_error _
    · trivial
  | clearCardEmulation => trivial

end Handlers

/-! ## What subscribers are told -/

theorem not_secret_stateChangedCb (client : NfcdClient) :
    ∀ post ∈ stateChangedCb client, ¬ Secret post.2 := by
  intro post hpost
  simp only [stateChangedCb, List.mem_cons, List.not_mem_nil, or_false] at hpost
  rcases hpost with rfl | rfl
  · exact not_secret_status client
  · exact not_secret_tagInfo client

theorem not_secret_tagChangedCbs (present : Bool) (old new : TagState) :
    ∀ post ∈ tagChangedCbs present old new, ¬ Secret post.2 := by
  intro post hpost
  obtain ⟨notice, -, rfl⟩ := List.mem_map.mp hpost
  exact not_secret_put? (not_secret_put (not_secret_returnValue true) (by decide) (by decide) _)
    (by decide) (by decide) _

namespace AdapterState

variable (s : AdapterState)

theorem not_secret_attachAdapterPosts (path : Option String) :
    ∀ post ∈ s.attachAdapterPosts path, ¬ Secret post.2 := by
  intro post hpost
  cases path with
  | none =>
    rcases List.mem_append.mp hpost with hpost | hpost
    · exact not_secret_tagChangedCbs _ _ _ post hpost
    · exact not_secret_stateChangedCb _ post hpost
  | some path => cases hpost

theorem not_secret_callbackPosts (call : AdapterCall) (reply : AdapterReply) :
    ∀ post ∈ s.callbackPosts call reply, ¬ Secret post.2 := by
  intro post hpost
  unfold callbackPosts at hpost
  split at hpost
  · exact not_secret_attachAdapterPosts _ _ post hpost
  · rcases List.mem_append.mp hpost with hpost | hpost
    · exact not_secret_stateChangedCb _ post hpost
    · exact not_secret_tagChangedCbs _ _ _ post hpost
  · exact not_secret_stateChangedCb _ post hpost
  · cases hpost

theorem not_secret_posts (glib : GlibText) (e : AdapterEvent) :
    ∀ post ∈ s.posts glib e, ¬ Secret post.2 := by
  intro post hpost
  cases e with
  | daemonAppeared => cases hpost
  | settingsAppeared => cases hpost
  | daemonVanished =>
    have hattach : post ∈ attachAdapterPosts
        { s with client := { s.client with daemonVersion := 0 } } none := hpost
    exact not_secret_attachAdapterPosts _ _ post hattach
  | adaptersChanged adapters => exact not_secret_attachAdapterPosts _ _ post hpost
  | adapterSignal adapter signal =>
    simp only [posts] at hpost
    split at hpost
    · cases signal with
      | tags tags => exact not_secret_tagChangedCbs _ _ _ post hpost
      | _ => exact not_secret_stateChangedCb _ post hpost
    · cases hpost
  | settingsVanished => exact not_secret_stateChangedCb _ post hpost
  | settingsEnabledChanged enabled => exact not_secret_stateChangedCb _ post hpost
  | complete i reply =>
    simp only [posts] at hpost
    split at hpost
    · cases hpost
    · exact not_secret_callbackPosts _ _ _ post hpost
  | tagComplete i reply => exact not_secret_tagChangedCbs _ _ _ post hpost

end AdapterState

/-! ## The service -/

/-- A read that some message received from `id` has asked for. -/
def ServiceState.Asked (env : PassportEnv G P) (s : ServiceState G) (id : ℕ)
    (start : PassportStart) : Prop :=
  ∃ m ∈ s.received, m.id = id ∧ m.AsksFor env start

/-- The reply is that of a read for the message replied to. -/
def ToldFor (env : PassportEnv G P) (asked : ℕ → PassportStart → Prop) (es : List PassportEvent)
    (reply : ℕ × Object) : Prop :=
  ∃ (chain : PassportState G) (errorText : Option String) (result : PassportResult),
    ReadFor env asked es reply.1 chain ∧
      chain.status = .finished true errorText (some result) ∧ reply.2 = passportReply result

/-- What passport reads are told by a step. -/
def ServiceEvent.exchanged : ServiceEvent → Option PassportEvent
  | passport _ e => some e
  | _ => none

/-- The invariant of every run; `es` is what passport reads have been told. -/
structure SecretsKept (env : PassportEnv G P) (es : List PassportEvent) (s : ServiceState G) :
    Prop where
  reads : PassportOrigins env (s.Asked env) es s.passports
  replies : ∀ r ∈ s.replies, Secret r.2 → ToldFor env (s.Asked env) es r
  posts : ∀ post ∈ s.posts, ¬ Secret post.2

namespace SecretsKept

variable {env : PassportEnv G P} {es : List PassportEvent} {s s' : ServiceState G}

/-- A step in which the passport reads have no part, and whose new replies are no secrets. -/
theorem of_replies (h : SecretsKept env es s) (hreceived : s'.received = s.received)
    (hpassports : s'.passports = s.passports) (hposts : s'.posts = s.posts)
    (hreplies : ∀ r ∈ s'.replies, r ∈ s.replies ∨ ¬ Secret r.2) : SecretsKept env es s' := by
  have hasked : s'.Asked env = s.Asked env := by
    funext id start
    rw [ServiceState.Asked, hreceived]
    rfl
  refine ⟨?_, ?_, ?_⟩
  · rw [hasked, hpassports]
    exact h.reads
  · intro r hr hsecret
    rw [hasked]
    rcases hreplies r hr with hold | hplain
    · exact h.replies r hold hsecret
    · exact absurd hsecret hplain
  · rw [hposts]
    exact h.posts

theorem reply (h : SecretsKept env es s) (id : ℕ) {obj : Object} (hobj : ¬ Secret obj) :
    SecretsKept env es (s.reply id obj) := by
  refine h.of_replies rfl rfl rfl ?_
  intro r hr
  rcases List.mem_append.mp hr with hr | hr
  · exact Or.inl hr
  · rw [List.mem_singleton.mp hr]
    exact Or.inr hobj

/-- A message arrives, and something is told to a read. -/
theorem mono (h : SecretsKept env es s) (new : List LunaMessage) (es' : List PassportEvent) :
    SecretsKept env (es ++ es') { s with received := s.received ++ new } := by
  have hasked : ∀ id start, s.Asked env id start →
      ({ s with received := s.received ++ new } : ServiceState G).Asked env id start := by
    rintro id start ⟨m, hm, hid, hstart⟩
    exact ⟨m, List.mem_append_left _ hm, hid, hstart⟩
  refine ⟨h.reads.mono hasked es', ?_, h.posts⟩
  intro r hr hsecret
  obtain ⟨chain, errorText, result, hread, hstatus, hreply⟩ := h.replies r hr hsecret
  exact ⟨chain, errorText, result, hread.mono hasked es', hstatus, hreply⟩

/-- The write and lock requests take a step. -/
theorem withWrites (h : SecretsKept env es s) (writes : WriteState) :
    SecretsKept env es (s.withWrites writes) := by
  refine h.of_replies rfl rfl rfl ?_
  intro r hr
  rcases List.mem_append.mp hr with hr | hr
  · exact Or.inl hr
  · obtain ⟨a, -, rfl⟩ := List.mem_map.mp hr
    refine Or.inr ?_
    unfold ServiceState.writeReply
    split <;> exact not_secret_result _ _ _

/-- **The passport reads take a step**: a success is told to the message its read is for. -/
theorem withPassports (h : SecretsKept env es s) (glib : GlibText) {e : PassportsEvent}
    (hasked : ∀ userData start, e.Starts env userData start → s.Asked env userData start) :
    SecretsKept env (es ++ e.exchanged.toList)
      (s.withPassports (passportsStep env glib s.passports e)) := by
  have hreads := h.reads.step glib hasked
  refine ⟨hreads, ?_, h.posts⟩
  intro r hr hsecret
  rcases List.mem_append.mp hr with hr | hr
  · obtain ⟨chain, errorText, result, hread, hstatus, hreply⟩ := h.replies r hr hsecret
    exact ⟨chain, errorText, result, hread.mono (fun _ _ h => h) _, hstatus, hreply⟩
  · obtain ⟨a, ha, hreply⟩ := List.mem_filterMap.mp hr
    obtain ⟨obj, hobj, rfl⟩ := Option.map_eq_some_iff.mp hreply
    unfold readPassportResultCb at hobj
    split at hobj
    · next hok =>
      obtain ⟨result, hresult, rfl⟩ := Option.map_eq_some_iff.mp hobj
      obtain ⟨chain, hread, hstatus⟩ := hreads.answers a (List.mem_of_mem_drop ha) hok
      rw [hresult] at hstatus
      exact ⟨chain, a.errorText, result, hread, hstatus, rfl⟩
    · cases hobj
      exact absurd hsecret (not_secret_error _)

theorem not_secret_cardReply (report : HceReport) : ¬ Secret (ServiceState.cardReply report) := by
  cases report <;> exact not_secret_result _ _ _

theorem cardRequest (h : SecretsKept env es s) (e : HceEvent) (id : ℕ) :
    SecretsKept env es (s.cardRequest e id) := by
  unfold ServiceState.cardRequest
  split
  · next report _ =>
    have hcards : SecretsKept env es { s with cards := s.cards.step e } :=
      h.of_replies rfl rfl rfl fun _ hr => Or.inl hr
    exact hcards.reply id (not_secret_cardReply report)
  · exact h.of_replies rfl rfl rfl fun _ hr => Or.inl hr

theorem cardDeliver (h : SecretsKept env es s) (i : ℕ) : SecretsKept env es (s.cardDeliver i) := by
  unfold ServiceState.cardDeliver
  split
  · next report n _ _ _ _ =>
    split
    · next id _ =>
      have hcards : SecretsKept env es { s with
          cards := s.cards.step (.deliver i)
          cardReqs := s.cardReqs.filter fun x => x.1 ≠ n } :=
        h.of_replies rfl rfl rfl fun _ hr => Or.inl hr
      exact hcards.reply id (not_secret_cardReply report)
    · exact h.of_replies rfl rfl rfl fun _ hr => Or.inl hr
  · exact h.of_replies rfl rfl rfl fun _ hr => Or.inl hr

/-- **A message**: what is asked for on its behalf is what it asks for. -/
theorem receive (h : SecretsKept env es s) (longBits : ℕ) (mismatch : String) (glib : GlibText)
    (m : LunaMessage) (exported : Bool) :
    SecretsKept env es (s.receive longBits env mismatch glib m exported) := by
  have harrived := h.mono [m] []
  rw [List.append_nil] at harrived
  have hkeeps := handle_keeps env longBits s m exported
  unfold ServiceState.receive
  generalize s.handle longBits m exported = outcome at hkeeps
  cases outcome with
  | reply obj => exact harrived.reply m.id hkeeps
  | setEnabled enabled =>
    dsimp only
    unfold ServiceState.nfcdClientSetEnabled
    split
    · exact harrived.reply m.id (not_secret_result _ _ _)
    · exact harrived.of_replies rfl rfl rfl fun _ hr => Or.inl hr
  | write e => exact harrived.withWrites _
  | passport e =>
    obtain ⟨hexchanged, hstarts⟩ := hkeeps
    have hstep := harrived.withPassports glib (e := e) (by
      intro userData start hstart
      obtain ⟨rfl, hasks⟩ := hstarts userData start hstart
      exact ⟨m, List.mem_append_right _ (List.mem_singleton_self m), rfl, hasks⟩)
    rw [hexchanged, Option.toList_none, List.append_nil] at hstep
    exact hstep
  | card e => exact harrived.cardRequest e m.id
  | abort => exact harrived.of_replies rfl rfl rfl fun _ hr => Or.inl hr

/-- The side of nfcd and its adapter. -/
theorem adapterEvent (h : SecretsKept env es s) (mismatch : String) (glib : GlibText)
    (e : AdapterEvent) : SecretsKept env es (s.adapterEvent env mismatch glib e) := by
  have hreads := h.reads.step glib (e := .tag (e.tagNews (adapterStep glib s.adapter e)))
    (fun _ _ hstart => nomatch hstart)
  have hnone : es ++ (PassportsEvent.exchanged
      (.tag (e.tagNews (adapterStep glib s.adapter e)))).toList = es := List.append_nil es
  rw [hnone] at hreads
  refine ⟨hreads, h.replies, ?_⟩
  intro post hpost
  rcases List.mem_append.mp hpost with hpost | hpost
  · exact h.posts post hpost
  · exact AdapterState.not_secret_posts s.adapter glib e post hpost

/-- A passport read takes a step that no message asks for. -/
theorem passportEvent (h : SecretsKept env es s) (glib : GlibText) {e : PassportsEvent}
    (hrequest : e.request = none) :
    SecretsKept env (es ++ e.exchanged.toList)
      (s.withPassports (passportsStep env glib s.passports e)) := by
  apply h.withPassports glib
  intro userData start hstart
  cases hstart <;> cases hrequest

/-- **One step.** -/
theorem step (h : SecretsKept env es s) (longBits : ℕ) (mismatch : String) (glib : GlibText)
    (e : ServiceEvent) :
    SecretsKept env (es ++ e.exchanged.toList) (serviceStep longBits env mismatch glib s e) := by
  have hsame : SecretsKept env (es ++ []) s := by
    rw [List.append_nil]
    exact h
  have hquiet : ∀ {t : ServiceState G}, t.received = s.received → t.passports = s.passports →
      t.posts = s.posts → t.replies = s.replies → SecretsKept env (es ++ []) t := by
    intro t hreceived hpassports hposts hreplies
    exact hsame.of_replies hreceived hpassports hposts fun r hr => Or.inl (hreplies ▸ hr)
  unfold serviceStep
  split
  · have hmono := h.mono [] e.exchanged.toList
    rw [List.append_nil] at hmono
    exact hmono
  · cases e with
    | message m exported => exact hsame.receive longBits mismatch glib m exported
    | adapter e => exact hsame.adapterEvent mismatch glib e
    | setEnabledReady i error =>
      show SecretsKept env (es ++ []) (s.setEnabledReady i error)
      unfold ServiceState.setEnabledReady
      split
      · exact hsame
      · next id enabled _ =>
        have hcalls : SecretsKept env (es ++ [])
            { s with setEnabledCalls := s.setEnabledCalls.eraseIdx i } := hquiet rfl rfl rfl rfl
        exact hcalls.reply id (not_secret_result _ _ _)
    | write i reply => exact hsame.withWrites _
    | passport i e => exact h.passportEvent glib (e := .complete i e) rfl
    | nfcdAcquire k grant => exact h.passportEvent glib (e := .nfcdAcquire k grant) rfl
    | passportCleanup i => exact h.passportEvent glib (e := .cleanup i) rfl
    | cardServe error => exact hquiet rfl rfl rfl rfl
    | cardDeliver i => exact hsame.cardDeliver i
    | process pointer ins =>
      show SecretsKept env (es ++ []) (s.process pointer ins)
      unfold ServiceState.process
      split <;> exact hquiet rfl rfl rfl rfl
    | responseStatus pointer ok =>
      show SecretsKept env (es ++ []) (s.responseStatus pointer ok)
      unfold ServiceState.responseStatus
      split
      · exact hsame
      · next profile _ =>
        refine ⟨hsame.reads, hsame.replies, ?_⟩
        intro post hpost
        rcases List.mem_append.mp hpost with hpost | hpost
        · exact h.posts post hpost
        · obtain rfl := List.mem_singleton.mp hpost
          exact not_secret_hceEvent (some (profile.aidHex, ok))

end SecretsKept

/-- **Every run.** -/
theorem serviceRun_secretsKept (longBits : ℕ) (env : PassportEnv G P) (mismatch : String)
    (glib : GlibText) (es : List ServiceEvent) :
    SecretsKept env (es.filterMap ServiceEvent.exchanged)
      (serviceRun longBits env mismatch glib es) := by
  induction es using List.reverseRecOn with
  | nil => exact ⟨PassportOrigins.init, (fun _ h => nomatch h), fun _ h => nomatch h⟩
  | append_singleton es e ih =>
    have hstep := ih.step longBits mismatch glib e
    have hexchanged : [e].filterMap ServiceEvent.exchanged = e.exchanged.toList := by
      cases he : e.exchanged <;> simp [he]
    rw [List.filterMap_append, hexchanged, serviceRun, run_concat]
    exact hstep

/-- The document behind a reply to `m`: keys that come from the parameters of `m` are proved in a
handshake, and the reply tells what was opened since then, DG1 and DG2 as their chunks.  All of it
was exchanged in the run, whose answers to passport reads are `es`. -/
structure DocumentFor (env : PassportEnv G P) (es : List PassportEvent) (m : LunaMessage)
    (reply : Object) (start : PassportStart) (before : List PassportEvent) (e : PassportEvent)
    (after : List PassportEvent) (hs : SmSession) : Prop where
  asksFor : m.AsksFor env start
  asked : (passportRun env start before).read.asked = start
  exchanged : (before ++ e :: after).Sublist es
  handshake : Handshake env (passportRun env start before) e hs
  opened : ∃ mrz dg2, bacParseDg1Mrz (trace (dg1Chunk env hs) (PassportState.step env)
      (passportRun env start (before ++ [e])) after).flatten = some mrz ∧
    (∀ data, dg2 = some data → data = (trace (dg2Chunk env hs) (PassportState.step env)
      (passportRun env start (before ++ [e])) after).flatten) ∧
    ReplyTells env mrz dg2 reply

/-- What a successful read has reported is its document. -/
theorem ToldFor.document {env : PassportEnv G P} {received : List LunaMessage}
    {es : List PassportEvent} {r : ℕ × Object}
    (h : ToldFor env (fun id start => ∃ m ∈ received, m.id = id ∧ m.AsksFor env start) es r) :
    ∃ m ∈ received, m.id = r.1 ∧
      ∃ start before e after hs, DocumentFor env es m r.2 start before e after hs := by
  obtain ⟨chain, errorText, result, ⟨start, ⟨m, hm, hid, hasks⟩, exchange, hsub, rfl⟩, hstatus,
    hreply⟩ := h
  have hinv := passportRun_inv env start exchange
  unfold PassportState.Inv at hinv
  rw [hstatus] at hinv
  obtain ⟨r', hr', hmrz⟩ := hinv
  obtain rfl := Option.some.inj hr'
  have hformed := formedState_run env start exchange true errorText result hstatus
  obtain ⟨before, e, after, hs, rfl, hhand, -, hdg1, hdg2⟩ :=
    document_history env start exchange (by rw [hstatus]; rfl)
  refine ⟨m, hm, hid, start, before, e, after, hs, hasks, passportRun_asked env start before, hsub,
    hhand, result.mrzText, _, ?_, ?_, hreply ▸ hformed.replyTells⟩
  · rw [← hdg1]
    exact hmrz
  · intro data hdata
    rw [← hdg2, PassportRead.dg2Bytes, hdata]
    rfl

/-- The libraries in a read of the specimen from the data printed in it. -/
def printedSpecimenEnv : PassportEnv Unit Unit :=
  ⟨{ specimenRecording with
      sha1 := specimenRecording.sha1 ++ [
        (text "L898902C<369080619406236",
          ⟨beBytes 20 0x239AB9CB282DAF66231DC5A4DF6BFBAEDF477565, rfl⟩),
        (beBytes 20 0x239AB9CB282DAF66231DC5A4DF6BFBAE00000001,
          ⟨beBytes 20 0xAB94FCEDF2664EDFB9B291F85D7F77F27F2F4A9D, rfl⟩),
        (beBytes 20 0x239AB9CB282DAF66231DC5A4DF6BFBAE00000002,
          ⟨beBytes 20 0x7862D9ECE03C1BCD4D77089DCF131442814EA70A, rfl⟩)] : Recording }.ssl,
    .failing Unit Unit, fun _ => none⟩

/-- A message that asks for a read with the data printed in the specimen. -/
def specimenMessage (id : ℕ) : ServiceEvent :=
  .message ⟨id, .readPassport, some (.object [("documentNumber", .string (text "L898902C")),
    ("dateOfBirth", .string (text "690806")), ("dateOfExpiry", .string (text "940623"))]),
    none⟩ true

/-- The specimen comes into the field and is read for message 9, while 10 asks for it too. -/
def passportSession : List ServiceEvent :=
  [.adapter .daemonAppeared, .adapter (.complete 0 .proxy),
    .adapter (.complete 0 (.daemon 1 ["/nfc0"])), .adapter (.complete 0 .proxy),
    .adapter (.complete 0 (.adapter ⟨true, true, 0, 0, true, ["/nfc0/tag0"], 0⟩)),
    .adapter (.tagComplete 0 .proxy),
    .adapter (.tagComplete 0 (.tagInfo ⟨true, 1, 8, 1, [], [], []⟩)),
    specimenMessage 9, .passport 0 (replyEvent []), specimenMessage 10] ++
  specimenEvents.map fun e => .passport 0 e

example : ((serviceRun 64 printedSpecimenEnv "mismatch" asciiGlib passportSession).replies.map
    fun r => (r.1, (r.2.get? "mrz").isSome)) = [(10, false), (9, true)] := by decide +kernel

end NfcAdapter
