/-
# Passport reads next to each other (`nfcd_client.c`)

The client's passport reads from the request to the caller's callback, with the calls they
make: the tag's proxy, Acquire, one Transceive() after the other, and after the end
Release and Deactivate, which nobody waits for.  A read that lost its tag is aborted and
runs on beside its successors.  nfcd is modelled as far as the exclusive access goes: it
processes an Acquire that has been sent, whatever has become of the caller.
-/
import NfcAdapter.PassportRead
import NfcAdapter.TagRead

namespace NfcAdapter

open TaskPool (Pool)

/-! ## Data -/

/-- The calls of a read, each with the path it is sent to. -/
inductive PassportCall where
  | tagProxy (path : Option String)
  | acquire (path : Option String)
  | transceive (path : Option String) (apdu : Bytes)
  deriving DecidableEq, Repr

/-- The calls that outlive the read they were made for. -/
inductive PassportCleanup where
  | release (read : ℕ) (path : Option String)
  | deactivate (read : ℕ) (path : Option String)
  deriving DecidableEq, Repr

/-- The rest of `struct passport_read`: `client` says whether it points at the client, `tag`
is the path its proxy was made for, `chain` the exchange with the chip.  `userData` tells
the callbacks of different requests apart. -/
structure PassportTask (G : Type) where
  client : Bool
  cancelled : Bool
  acquired : Bool
  tag : Option String
  userData : ℕ
  chain : PassportState G

/-- What a request's callback was called with. -/
structure PassportAnswer where
  userData : ℕ
  success : Bool
  errorText : Option String
  result : Option PassportResult
  deriving DecidableEq

/-- nfcd's side of the exclusive access: the Acquire messages it has not processed yet and
those it has granted, each with the read it is for. -/
structure NfcdLocks where
  pending : List (ℕ × Option String)
  granted : List (ℕ × Option String)
  deriving DecidableEq, Repr

/-- The client with its reads.  `cleanups` are the calls under way that no read waits for,
`released` and `deactivated` all of them ever sent.  `closed` says that the client has been
freed, `died` in the callback of which read the program has ended. -/
structure PassportsState (G : Type) where
  tag : TagState
  closed : Bool
  passportReading : Option ℕ
  pool : Pool (PassportTask G) PassportCall
  nfcd : NfcdLocks
  cleanups : List PassportCleanup
  released : List (ℕ × Option String)
  deactivated : List (ℕ × Option String)
  answers : List PassportAnswer
  died : Option ℕ

variable {G P : Type}

/-- Nothing has happened. -/
def PassportsState.init : PassportsState G :=
  ⟨.init, false, none, .empty, ⟨[], []⟩, [], [], [], [], none⟩

/-- A callback runs. -/
def PassportsState.answer (s : PassportsState G) (a : PassportAnswer) : PassportsState G :=
  { s with answers := s.answers ++ [a] }

/-! ## The end of a read -/

/-- The Release at the end of a read that has acquired its tag. -/
def passportRelease (s : PassportsState G) (id : ℕ) (read : PassportTask G) : PassportsState G :=
  if read.acquired ∧ read.tag.isSome then
    { s with cleanups := s.cleanups ++ [.release id read.tag]
             released := s.released ++ [(id, read.tag)] }
  else s

/-- `passport_read_finish`. -/
def passportReadFinish (s : PassportsState G) (id : ℕ) (read : PassportTask G) (success : Bool)
    (errorText : Option String) (result : Option PassportResult) : PassportsState G :=
  let reading :=
    if read.client ∧ s.passportReading = some id then none else s.passportReading
  let s := passportRelease { s with passportReading := reading } id read
  { s with pool := s.pool.free id }.answer ⟨read.userData, success, errorText, result⟩

/-- `passport_release_ready`: a failed Release is only logged, Deactivate follows it. -/
def passportReleaseReady (s : PassportsState G) (id : ℕ) (path : Option String) :
    PassportsState G :=
  { s with cleanups := s.cleanups ++ [.deactivate id path]
           deactivated := s.deactivated ++ [(id, path)] }

/-! ## The callbacks of a read -/

/-- An Acquire is sent; a call with a cancelled cancellable is not. -/
def NfcdLocks.send (locks : NfcdLocks) (id : ℕ) (read : PassportTask G) (path : Option String) :
    NfcdLocks :=
  if read.cancelled then locks else { locks with pending := locks.pending ++ [(id, path)] }

/-- `passport_tag_proxy_ready`. -/
def passportTagProxyReady (s : PassportsState G) (id : ℕ) (read : PassportTask G)
    (path : Option String) (reply : Option Bytes) : PassportsState G :=
  match reply with
  | none => passportReadFinish s id read false (some "Failed to reach the tag") none
  | some _ =>
    { s with pool := s.pool.await id { read with tag := path } (.acquire path)
             nfcd := s.nfcd.send id read path }

/-- What the exchange with the chip came to: the next Transceive(), or the end. -/
def passportGoOn (s : PassportsState G) (id : ℕ) (read : PassportTask G) : PassportsState G :=
  match read.chain.status with
  | .waiting _ request =>
    { s with pool := s.pool.await id read (.transceive read.tag request.apdu) }
  | .finished success errorText result => passportReadFinish s id read success errorText result
  | .crashed => { s with died := some id }

variable (env : PassportEnv G P) (glib : GlibText)

/-- The callback of a call. -/
def passportCallback (s : PassportsState G) (id : ℕ) (read : PassportTask G) (call : PassportCall)
    (e : PassportEvent) : PassportsState G :=
  match call with
  | .tagProxy path => passportTagProxyReady s id read path e.reply
  | .acquire _ =>
    passportGoOn s id { read with acquired := e.reply.isSome, chain := read.chain.step env e }
  | .transceive _ _ => passportGoOn s id { read with chain := read.chain.step env e }

/-! ## Requests -/

/-- `passport_read_precheck`: the text of the error. -/
def passportReadPrecheck (s : PassportsState G) : Option String :=
  if s.passportReading.isSome then some "A passport read is already in progress"
  else if s.tag.client.tagPath = none then some "No tag in the field"
  else if s.tag.client.tagProtocol ≠ 8 ∧ s.tag.client.tagProtocol ≠ 16 then
    some "Not an ISO-DEP tag - passports and eIDs need ISO-DEP (t4a/t4b)"
  else none

/-- `passport_read_dispatch`. -/
def passportReadDispatch (s : PassportsState G) (chain : PassportState G) (userData : ℕ) :
    PassportsState G :=
  { s with
    passportReading := some s.pool.next
    pool := s.pool.spawn ⟨true, false, false, none, userData, chain⟩
      (.tagProxy s.tag.client.tagPath) }

/-- A read for which everything is there, or the error. -/
def passportRequest (s : PassportsState G) (start : Except String (PassportState G))
    (userData : ℕ) : PassportsState G :=
  match passportReadPrecheck s, start with
  | some text, _ => s.answer ⟨userData, false, some text, none⟩
  | none, .error text => s.answer ⟨userData, false, some text, none⟩
  | none, .ok chain => passportReadDispatch s chain userData

/-- The parameters of `nfcd_client_read_passport`. -/
def readPassportStart (documentNumber dateOfBirth dateOfExpiry : Option Bytes)
    (readPhoto : Bool) : Except String (PassportState G) :=
  match bacDeriveStaticKeys env.ssl documentNumber dateOfBirth dateOfExpiry with
  | none => .error "Expected documentNumber, dateOfBirth and dateOfExpiry (YYMMDD)"
  | some keys => .ok (.startBac keys readPhoto)

/-- The parameters of `nfcd_client_read_passport_pace`. -/
def readPassportPaceStart (can : Option Bytes) (readPhoto : Bool) :
    Except String (PassportState G) :=
  match paceDeriveKCan can with
  | none => .error "Expected can (the Card Access Number printed on the document)"
  | some k => .ok (.startPace k readPhoto)

/-- `nfcd_client_read_passport`. -/
def nfcdClientReadPassport (s : PassportsState G)
    (documentNumber dateOfBirth dateOfExpiry : Option Bytes) (readPhoto : Bool) (userData : ℕ) :
    PassportsState G :=
  passportRequest s (readPassportStart env documentNumber dateOfBirth dateOfExpiry readPhoto)
    userData

/-- `nfcd_client_read_passport_pace`. -/
def nfcdClientReadPassportPace (s : PassportsState G) (can : Option Bytes) (readPhoto : Bool)
    (userData : ℕ) : PassportsState G :=
  passportRequest s (readPassportPaceStart can readPhoto) userData

/-! ## Aborts -/

/-- `passport_read_abort`. -/
def PassportTask.abort (read : PassportTask G) : PassportTask G :=
  { read with client := false, cancelled := true }

/-- The client's passport read, if there is one, is aborted. -/
def abortPassportReading (s : PassportsState G) : PassportsState G :=
  match s.passportReading with
  | none => s
  | some id => { s with passportReading := none, pool := s.pool.modify id PassportTask.abort }

/-- `update_tags`, with what `set_current_tag` does to the passport read. -/
def passportUpdateTags (s : PassportsState G) (tags : List String) : PassportsState G :=
  if s.tag.client.tagPath = tags.head? then s
  else { abortPassportReading s with tag := tagStep glib s.tag (.tags tags) }

/-- `nfcd_client_free`, as far as the reads go. -/
def nfcdClientFree (s : PassportsState G) : PassportsState G :=
  { abortPassportReading s with tag := abortReading s.tag, closed := true }

/-! ## Steps -/

/-- What can happen: something on the side of the reads of tags, a request, the end of the
client, the end of a read's call, nfcd's decision about an Acquire, or the end of a Release
or Deactivate. -/
inductive PassportsEvent where
  | tag (e : TagEvent)
  | readPassport (documentNumber dateOfBirth dateOfExpiry : Option Bytes) (readPhoto : Bool)
      (userData : ℕ)
  | readPassportPace (can : Option Bytes) (readPhoto : Bool) (userData : ℕ)
  | clientFree
  | complete (i : ℕ) (e : PassportEvent)
  | nfcdAcquire (k : ℕ) (grant : Bool)
  | cleanup (i : ℕ)

/-- The end of the call at position `i`. -/
def passportComplete (s : PassportsState G) (i : ℕ) (e : PassportEvent) : PassportsState G :=
  match s.pool.calls[i]? with
  | none => s
  | some (id, call) =>
    match s.pool.tasks id with
    | none => s
    | some read => passportCallback env { s with pool := s.pool.take i } id read call e

/-- nfcd processes the Acquire at position `k`. -/
def nfcdProcess (locks : NfcdLocks) (k : ℕ) (grant : Bool) : NfcdLocks :=
  match locks.pending[k]? with
  | none => locks
  | some x =>
    { pending := locks.pending.eraseIdx k
      granted := if grant then locks.granted ++ [x] else locks.granted }

/-- The end of the Release or Deactivate at position `i`. -/
def passportCleanup (s : PassportsState G) (i : ℕ) : PassportsState G :=
  match s.cleanups[i]? with
  | none => s
  | some (.release id path) =>
    passportReleaseReady { s with cleanups := s.cleanups.eraseIdx i } id path
  | some (.deactivate _ _) => { s with cleanups := s.cleanups.eraseIdx i }

/-- One step.  Nothing happens after the program has ended, and only completions once the
client has been freed. -/
def passportsStep (s : PassportsState G) (e : PassportsEvent) : PassportsState G :=
  if s.died.isSome then s
  else
    match e with
    | .tag (.tags tags) => if s.closed then s else passportUpdateTags glib s tags
    | .tag (.complete i reply) => { s with tag := tagStep glib s.tag (.complete i reply) }
    | .readPassport documentNumber dateOfBirth dateOfExpiry readPhoto userData =>
      if s.closed then s
      else
        nfcdClientReadPassport env s documentNumber dateOfBirth dateOfExpiry readPhoto userData
    | .readPassportPace can readPhoto userData =>
      if s.closed then s else nfcdClientReadPassportPace s can readPhoto userData
    | .clientFree => if s.closed then s else nfcdClientFree s
    | .complete i e => passportComplete env s i e
    | .nfcdAcquire k grant => { s with nfcd := nfcdProcess s.nfcd k grant }
    | .cleanup i => passportCleanup s i

end NfcAdapter
