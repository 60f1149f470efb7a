/-
# The service (`nfc_service.c`, over `nfcd_client.c`)

The whole program between the Luna bus and nfcd: messages arrive, their methods answer at
once or make a request to the client, and the callbacks of the requests reply; signals and
replies of nfcd arrive in any order.  The client's parts are those of the modules before,
and take the steps that concern them.
-/
import NfcAdapter.Adapter
import NfcAdapter.LunaService

namespace NfcAdapter

open Json (text Object)

/-- What `nfc_service.c` and the parts of the client know.  `settings` says whether
`client->settings` is set, `setEnabledCalls` are the `SetEnabled` calls under way with the
messages they are for, `cardReqs` the messages that wait for the answer to a
`RegisterLocalHostApp` call, by its serial number; `responseIds` are the `next_response_id` of
the profiles.  The history: the messages received, the replies and the subscription posts
sent, the responses to readers.  `aborted` records that GLib has ended the program. -/
structure ServiceState (G : Type) where
  adapter : AdapterState
  settings : Bool
  setEnabledCalls : List (ℕ × Bool)
  writes : WriteState
  passports : PassportsState G
  cards : HceState
  cardReqs : List (ℕ × ℕ)
  hceEvent : Option (String × Bool)
  responseIds : ℕ → UInt32
  received : List LunaMessage
  replies : List (ℕ × Object)
  posts : List (LunaMethod × Object)
  responses : List (ℕ × HceResponse)
  aborted : Bool

variable {G P : Type}

/-- `nfc_service_create`. -/
def nfcServiceCreate : ServiceState G where
  adapter := .init
  settings := false
  setEnabledCalls := []
  writes := .init
  passports := .init
  cards := .start
  cardReqs := []
  hceEvent := none
  responseIds := fun _ => 0
  received := []
  replies := []
  posts := []
  responses := []
  aborted := false

namespace ServiceState

/-- There is nothing more to follow: GLib has ended the program, a response has crashed it, or
memory was used that had been freed. -/
def ended (s : ServiceState G) : Bool :=
  s.aborted || s.writes.aborted || s.passports.died.isSome || s.cards.usedFreed ||
    s.adapter.client.tag.fault

/-- `LSMessageReply`. -/
def reply (s : ServiceState G) (id : ℕ) (obj : Object) : ServiceState G :=
  { s with replies := s.replies ++ [(id, obj)] }

/-- The method a request was made by. -/
def methodOf (s : ServiceState G) (id : ℕ) : Option LunaMethod :=
  (s.received.find? fun m => m.id = id).map LunaMessage.method

/-! ## The requests of the client -/

/-- The reply to a write or lock request. -/
def writeReply (s : ServiceState G) (a : WriteAnswer) : Object :=
  match s.methodOf a.userData with
  | some .lockTag => lockTagResultCb a.success a.errorText
  | some .cloneTag => cloneTagResultCb a.success a.errorText
  | _ => writeTagResultCb a.success a.errorText

/-- The write and lock requests have taken a step; callbacks that ran have replied. -/
def withWrites (s : ServiceState G) (writes : WriteState) : ServiceState G :=
  { s with
    writes := writes
    replies := s.replies ++
      (writes.answers.drop s.writes.answers.length).map fun a => (a.userData, s.writeReply a) }

/-- The reply to a passport read. -/
def passportAnswerReply (a : PassportAnswer) : Option (ℕ × Object) :=
  (readPassportResultCb a.success a.errorText a.result).map fun obj => (a.userData, obj)

/-- The passport reads have taken a step. -/
def withPassports (s : ServiceState G) (passports : PassportsState G) : ServiceState G :=
  { s with
    passports := passports
    replies := s.replies ++
      (passports.answers.drop s.passports.answers.length).filterMap passportAnswerReply }

/-- The reply to a card-emulation request. -/
def cardReply : HceReport → Object
  | .add _ success errorText => addCardEmulationResultCb success errorText
  | .remove _ success errorText => removeCardEmulationResultCb success errorText
  | .clear success => clearCardEmulationResultCb success none

/-- A card-emulation request for the message `id`. -/
def cardRequest (s : ServiceState G) (e : HceEvent) (id : ℕ) : ServiceState G :=
  match s.cards.report e with
  | some report => { s with cards := s.cards.step e }.reply id (cardReply report)
  | none =>
    -- the `hce_req` goes with the Register call, the last one made
    { s with
      cards := s.cards.step e
      cardReqs := s.cardReqs ++ [((s.cards.step e).calls.next - 1, id)] }

/-- An answer of nfcd to a card-emulation call arrives. -/
def cardDeliver (s : ServiceState G) (i : ℕ) : ServiceState G :=
  match s.cards.report (.deliver i), s.cards.calls.replies[i]? with
  | some report, some (n, _, _) =>
    match s.cardReqs.lookup n with
    | some id =>
      { s with
        cards := s.cards.step (.deliver i)
        cardReqs := s.cardReqs.filter fun x => x.1 ≠ n }.reply id (cardReply report)
    | none => { s with cards := s.cards.step (.deliver i) }
  | _, _ => { s with cards := s.cards.step (.deliver i) }

/-- `nfcd_client_set_enabled`. -/
def nfcdClientSetEnabled (s : ServiceState G) (enabled : Bool) (id : ℕ) : ServiceState G :=
  if s.settings = false then
    s.reply id (setEnabledResultCb false (some "nfcd settings interface is not available"))
  else { s with setEnabledCalls := s.setEnabledCalls ++ [(id, enabled)] }

/-- `set_enabled_ready` for the call at position `i`. -/
def setEnabledReady (s : ServiceState G) (i : ℕ) (error : Option String) : ServiceState G :=
  match s.setEnabledCalls[i]? with
  | none => s
  | some (id, _) =>
    { s with setEnabledCalls := s.setEnabledCalls.eraseIdx i }.reply id
      (setEnabledResultCb error.isNone error)

end ServiceState

/-! ## What subscribers are told -/

/-- `state_changed_cb`. -/
def stateChangedCb (client : NfcdClient) : List (LunaMethod × Object) :=
  [(.getStatus, buildStatus client), (.getTagInfo, buildTagInfo client)]

/-- `tag_changed_cb`, once for each `notify_tag` between two states of the reads. -/
def tagChangedCbs (present : Bool) (old new : TagState) : List (LunaMethod × Object) :=
  (new.client.notices.drop old.client.notices.length).map fun notice =>
    (.getTagInfo, ((Object.put [] "returnValue" (.boolean true)).put "present"
      (.boolean present)).put? "tag" (notice.2.map .object))

namespace AdapterState

variable (s : AdapterState)

/-- The posts of `update_tags`. -/
def updateTagsPosts (tags : List String) : List (LunaMethod × Object) :=
  tagChangedCbs s.client.present s.client.tag (s.updateTags tags).client.tag

/-- The posts of `attach_adapter`: the tag goes first. -/
def attachAdapterPosts (path : Option String) : List (LunaMethod × Object) :=
  match path with
  | none =>
    tagChangedCbs s.client.present s.client.tag (s.attachAdapter none).client.tag ++
      stateChangedCb (s.attachAdapter none).client
  | some _ => []

/-- The posts of a signal's handler. -/
def signalPosts : AdapterSignal → List (LunaMethod × Object)
  | .tags tags => s.updateTagsPosts tags
  | signal => stateChangedCb (s.signal signal).client

/-- The posts of `adapter_get_all_ready`: the state goes first. -/
def adapterGetAllPosts (info : AdapterInfo) : List (LunaMethod × Object) :=
  let client :=
    { s.client with
      adapterEnabled := info.enabled
      powered := info.powered
      supportedModes := info.supportedModes
      mode := info.mode
      present := info.present
      techs := info.supportedTechs
      available := true }
  stateChangedCb client ++ updateTagsPosts { s with client := client } info.tags

/-- The posts of a call's callback. -/
def callbackPosts (call : AdapterCall) (reply : AdapterReply) : List (LunaMethod × Object) :=
  match call, reply with
  | .daemonGetAll4, .daemon daemonVersion adapters =>
    attachAdapterPosts { s with client := { s.client with daemonVersion := daemonVersion } }
      adapters.head?
  | .adapterGetAll4 _, .adapter info => s.adapterGetAllPosts info
  | .settingsGetAll, .settings enabled =>
    stateChangedCb { s.client with settingsValid := true, settingsEnabled := enabled }
  | _, _ => []

/-- The posts of a step. -/
def posts (glib : GlibText) : AdapterEvent → List (LunaMethod × Object)
  | .daemonAppeared | .settingsAppeared => []
  | .daemonVanished =>
    attachAdapterPosts { s with client := { s.client with daemonVersion := 0 } } none
  | .adaptersChanged adapters => s.attachAdapterPosts adapters.head?
  | .adapterSignal adapter signal => if s.Alive adapter then s.signalPosts signal else []
  | .settingsVanished => stateChangedCb { s.client with settingsValid := false }
  | .settingsEnabledChanged enabled =>
    stateChangedCb { s.client with settingsValid := true, settingsEnabled := enabled }
  | .complete i reply =>
    match s.calls[i]? with
    | none => []
    | some call => callbackPosts { s with calls := s.calls.eraseIdx i } call reply
  | .tagComplete i reply =>
    tagChangedCbs s.client.present s.client.tag (tagStep glib s.client.tag (.complete i reply))

/-- What a step means for card emulation. -/
def cardNews : AdapterEvent → Option HceEvent
  | .daemonAppeared => some .appear
  | .daemonVanished => some .vanish
  | .complete i .proxy => if s.calls[i]? = some .daemonProxy then some .proxyReady else none
  | _ => none

/-- Whether `client->settings` is set after a step. -/
def settingsAfter (settings : Bool) : AdapterEvent → Bool
  | .settingsVanished => false
  | .complete i .proxy => settings || s.calls[i]? = some .settingsProxy
  | _ => settings

end AdapterState

/-- What a step of the adapter's part means for the others: the end of a call of a read, or the
tag that is current from now on. -/
def AdapterEvent.tagNews (after : AdapterState) : AdapterEvent → TagEvent
  | .tagComplete i reply => .complete i reply
  | _ => .tags after.client.tag.client.tagPath.toList

/-! ## Steps -/

/-- What can happen: a message with what exporting a card-emulation object will come to,
something on the side of nfcd and its adapter, the end of a call, or a reader that has
selected one of the profiles. -/
inductive ServiceEvent
  | message (m : LunaMessage) (exported : Bool)
  | adapter (e : AdapterEvent)
  | setEnabledReady (i : ℕ) (error : Option String)
  | write (i : ℕ) (reply : WriteReply)
  | passport (i : ℕ) (e : PassportEvent)
  | nfcdAcquire (k : ℕ) (grant : Bool)
  | passportCleanup (i : ℕ)
  | cardServe (error : Option String)
  | cardDeliver (i : ℕ)
  | process (pointer : ℕ) (ins : UInt8)
  | responseStatus (pointer : ℕ) (ok : Bool)

namespace ServiceState

variable (longBits : ℕ)

/-- The handler of a message's method. -/
def handle (s : ServiceState G) (m : LunaMessage) (exported : Bool) : LunaOutcome :=
  match m.method with
  | .getStatus => subscribedReply (buildStatus s.adapter.client) m
  | .setEnabled => serviceSetEnabledCb m.payload
  | .getTagInfo => subscribedReply (buildTagInfo s.adapter.client) m
  | .writeTag => serviceWriteTagCb longBits m.payload m.id
  | .lockTag => .write (.lockTag m.id)
  | .cloneTag => serviceCloneTagHandler m.payload m.id
  | .readPassport => serviceReadPassportCb m.payload m.id
  | .readPassportPACE => serviceReadPassportPaceCb m.payload m.id
  | .addCardEmulationProfile => serviceAddCardEmulationCb m.payload exported
  | .removeCardEmulationProfile => serviceRemoveCardEmulationCb m.payload
  | .clearCardEmulation => .card .clear
  | .getCardEmulationEvent => subscribedReply (buildHceEvent s.hceEvent) m

variable (env : PassportEnv G P) (mismatch : String) (glib : GlibText)

/-- A message arrives. -/
def receive (s : ServiceState G) (m : LunaMessage) (exported : Bool) : ServiceState G :=
  let t := { s with received := s.received ++ [m] }
  match s.handle longBits m exported with
  | .reply obj => t.reply m.id obj
  | .setEnabled enabled => t.nfcdClientSetEnabled enabled m.id
  | .write e => t.withWrites (writeStep mismatch glib s.writes e)
  | .passport e => t.withPassports (passportsStep env glib s.passports e)
  | .card e => t.cardRequest e m.id
  | .abort => { t with aborted := true }

/-- Something on the side of nfcd and its adapter. -/
def adapterEvent (s : ServiceState G) (e : AdapterEvent) : ServiceState G :=
  let adapter := adapterStep glib s.adapter e
  let news := e.tagNews adapter
  { s with
    adapter := adapter
    settings := s.adapter.settingsAfter s.settings e
    writes := writeStep mismatch glib s.writes (.tag news)
    passports := passportsStep env glib s.passports (.tag news)
    cards := (s.adapter.cardNews e).elim s.cards s.cards.step
    posts := s.posts ++ s.adapter.posts glib e }

/-- The profile at an address. -/
def profile? (s : ServiceState G) (pointer : ℕ) : Option HceProfile :=
  s.cards.hceProfiles.find? fun p => p.pointer = pointer

/-- `hce_handle_process` for a reader that has selected a profile. -/
def process (s : ServiceState G) (pointer : ℕ) (ins : UInt8) : ServiceState G :=
  match s.profile? pointer with
  | none => s
  | some profile =>
    let r := hceHandleProcess profile (s.responseIds pointer) ins
    { s with
      responseIds := Function.update s.responseIds pointer r.2
      responses := s.responses ++ [(pointer, r.1)] }

/-- `hce_handle_response_status` with `hce_changed_cb`. -/
def responseStatus (s : ServiceState G) (pointer : ℕ) (ok : Bool) : ServiceState G :=
  match s.profile? pointer with
  | none => s
  | some profile =>
    let event := some (profile.aidHex, ok)
    { s with
      hceEvent := event
      posts := s.posts ++ [(.getCardEmulationEvent, buildHceEvent event)] }

end ServiceState

variable (longBits : ℕ) (env : PassportEnv G P) (mismatch : String) (glib : GlibText)

open ServiceState in
/-- One step; after the end nothing happens any more. -/
def serviceStep (s : ServiceState G) (e : ServiceEvent) : ServiceState G :=
  if s.ended then s
  else
    match e with
    | .message m exported => s.receive longBits env mismatch glib m exported
    | .adapter e => s.adapterEvent env mismatch glib e
    | .setEnabledReady i error => s.setEnabledReady i error
    | .write i reply => s.withWrites (writeStep mismatch glib s.writes (.complete i reply))
    | .passport i e => s.withPassports (passportsStep env glib s.passports (.complete i e))
    | .nfcdAcquire k grant =>
      s.withPassports (passportsStep env glib s.passports (.nfcdAcquire k grant))
    | .passportCleanup i => s.withPassports (passportsStep env glib s.passports (.cleanup i))
    | .cardServe error => { s with cards := s.cards.step (.serve error) }
    | .cardDeliver i => s.cardDeliver i
    | .process pointer ins => s.process pointer ins
    | .responseStatus pointer ok => s.responseStatus pointer ok

end NfcAdapter
