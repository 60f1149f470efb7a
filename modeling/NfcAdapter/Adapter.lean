/-
# The daemon, its adapter and what subscribers are told (`nfcd_client.c`, `nfc_service.c`)

The client follows nfcd on the bus: it makes a proxy for the daemon, asks it for its
adapters, makes a proxy for the first of them and mirrors that adapter's state.  Each of
these is a call that ends later, and nothing orders the ends of calls: a reply may arrive
after the adapter it was asked for is gone.  A proxy that the client has let go of lives
on, and delivers signals, while a call of its own is under way.  What card emulation does
when the daemon comes and goes is modelled with it.
-/
import NfcAdapter.TagRead

namespace NfcAdapter

open Json (text Object)

/-! ## The client -/

/-- An `NfcdInterfaceAdapter`: which one it is, and the object it was made for. -/
structure AdapterProxy where
  id : ℕ
  path : String
  deriving DecidableEq, Repr

/-- The part of `struct nfcd_client` that mirrors the daemon, the adapter and the settings,
with the current tag. -/
structure NfcdClient where
  daemonVersion : ℤ
  adapter : Option AdapterProxy
  adapterPath : Option String
  available : Bool
  adapterEnabled : Bool
  powered : Bool
  supportedModes : ℕ
  mode : ℕ
  present : Bool
  techs : ℕ
  settingsValid : Bool
  settingsEnabled : Bool
  tag : TagState

/-- `nfcd_client_create`. -/
def NfcdClient.create : NfcdClient where
  daemonVersion := 0
  adapter := none
  adapterPath := none
  available := false
  adapterEnabled := false
  powered := false
  supportedModes := 0
  mode := 0
  present := false
  techs := 0
  settingsValid := false
  settingsEnabled := false
  tag := .init

/-- `nfcd_client_is_enabled`. -/
def NfcdClient.isEnabled (client : NfcdClient) : Bool :=
  if client.settingsValid then client.settingsEnabled else client.adapterEnabled

/-- `build_status`. -/
def buildStatus (client : NfcdClient) : Object :=
  let obj := Object.put [] "returnValue" (.boolean true)
  let obj := obj.put "available" (.boolean client.available)
  let obj := obj.put "enabled" (.boolean client.isEnabled)
  let obj := obj.put "powered" (.boolean client.powered)
  let obj := obj.put "present" (.boolean client.present)
  let obj := obj.put "mode" (.number (toInt32 client.mode))
  let obj := obj.put "supportedModes" (.number (toInt32 client.supportedModes))
  let obj := obj.put "techs" (.number (toInt32 client.techs))
  let obj := obj.put "daemonVersion" (.number client.daemonVersion)
  obj.put? "adapterPath" (client.adapterPath.map fun path => .string (text path))

/-- `build_tag_info`. -/
def buildTagInfo (client : NfcdClient) : Object :=
  let obj := Object.put [] "returnValue" (.boolean true)
  let obj := obj.put "present" (.boolean client.present)
  obj.put? "tag" (client.tag.client.tagJson.map .object)

/-! ## Calls -/

/-- The calls under way, with what each was made for. -/
inductive AdapterCall
  | daemonProxy
  | daemonGetAll4
  | adapterProxy (path : String)
  | adapterGetAll4 (adapter : AdapterProxy)
  | settingsProxy
  | settingsGetAll
  deriving DecidableEq, Repr

/-- The answer to `GetAll4` of an adapter. -/
structure AdapterInfo where
  enabled : Bool
  powered : Bool
  supportedModes : ℕ
  mode : ℕ
  present : Bool
  tags : List String
  supportedTechs : ℕ
  deriving DecidableEq, Repr

/-- How a call ends. -/
inductive AdapterReply
  | failed
  | proxy
  | daemon (daemonVersion : ℤ) (adapters : List String)
  | adapter (info : AdapterInfo)
  | settings (enabled : Bool)
  deriving DecidableEq, Repr

/-- The signals of an adapter. -/
inductive AdapterSignal
  | enabled (enabled : Bool)
  | powered (powered : Bool)
  | mode (mode : ℕ)
  | present (present : Bool)
  | tags (tags : List String)
  deriving DecidableEq, Repr

/-- The client, the calls under way, the number of the next adapter proxy, and the status
last pushed to the subscribers of `getStatus`. -/
structure AdapterState where
  client : NfcdClient
  calls : List AdapterCall
  next : ℕ
  pushed : Object

/-- The client has just been created; a subscriber has the status of that moment. -/
def AdapterState.init : AdapterState := ⟨.create, [], 0, buildStatus .create⟩

namespace AdapterState

/-- A call is made. -/
def call (s : AdapterState) (c : AdapterCall) : AdapterState := { s with calls := s.calls ++ [c] }

/-- `notify_state` with `state_changed_cb`. -/
def notifyState (s : AdapterState) : AdapterState := { s with pushed := buildStatus s.client }

/-- `update_tags`. -/
def updateTags (s : AdapterState) (tags : List String) : AdapterState :=
  { s with client := { s.client with tag := setCurrentTag s.client.tag tags.head? } }

/-- The proxy is alive: the client holds it, or a call made through it does. -/
def Alive (s : AdapterState) (adapter : AdapterProxy) : Prop :=
  s.client.adapter = some adapter ∨ .adapterGetAll4 adapter ∈ s.calls

instance (s : AdapterState) (adapter : AdapterProxy) : Decidable (s.Alive adapter) := by
  unfold Alive
  infer_instance

/-! ## The adapter -/

/-- `adapter_enabled_changed`. -/
def adapterEnabledChanged (s : AdapterState) (enabled : Bool) : AdapterState :=
  { s with client := { s.client with adapterEnabled := enabled } }.notifyState

/-- `adapter_powered_changed`. -/
def adapterPoweredChanged (s : AdapterState) (powered : Bool) : AdapterState :=
  { s with client := { s.client with powered := powered } }.notifyState

/-- `adapter_mode_changed`. -/
def adapterModeChanged (s : AdapterState) (mode : ℕ) : AdapterState :=
  { s with client := { s.client with mode := mode } }.notifyState

/-- `adapter_present_changed`. -/
def adapterPresentChanged (s : AdapterState) (present : Bool) : AdapterState :=
  { s with client := { s.client with present := present } }.notifyState

/-- `adapter_tags_changed`. -/
def adapterTagsChanged (s : AdapterState) (tags : List String) : AdapterState := s.updateTags tags

/-- The handler of a signal. -/
def signal (s : AdapterState) : AdapterSignal → AdapterState
  | .enabled enabled => s.adapterEnabledChanged enabled
  | .powered powered => s.adapterPoweredChanged powered
  | .mode mode => s.adapterModeChanged mode
  | .present present => s.adapterPresentChanged present
  | .tags tags => s.adapterTagsChanged tags

/-- `adapter_get_all_ready`. -/
def adapterGetAllReady (s : AdapterState) (reply : AdapterReply) : AdapterState :=
  match reply with
  | .adapter info =>
    let client :=
      { s.client with
        adapterEnabled := info.enabled
        powered := info.powered
        supportedModes := info.supportedModes
        mode := info.mode
        present := info.present
        techs := info.supportedTechs
        available := true }
    { s with client := client }.notifyState.updateTags info.tags
  | _ => s

/-- `adapter_proxy_ready`: the proxy takes the place of the one the client had. -/
def adapterProxyReady (s : AdapterState) (path : String) (reply : AdapterReply) : AdapterState :=
  match reply with
  | .proxy =>
    let adapter : AdapterProxy := ⟨s.next, path⟩
    { s with client := { s.client with adapter := some adapter }, next := s.next + 1 }.call
      (.adapterGetAll4 adapter)
  | _ => s

/-- `attach_adapter`. -/
def attachAdapter (s : AdapterState) (path : Option String) : AdapterState :=
  match path with
  | none =>
    let client := { s.client with adapter := none, adapterPath := none, available := false }
    ({ s with client := client }.updateTags []).notifyState
  | some path =>
    if s.client.adapterPath = some path then s
    else { s with client := { s.client with adapterPath := some path } }.call (.adapterProxy path)

/-! ## The daemon -/

/-- `daemon_adapters_changed`. -/
def daemonAdaptersChanged (s : AdapterState) (adapters : List String) : AdapterState :=
  s.attachAdapter adapters.head?

/-- `daemon_get_all_ready`. -/
def daemonGetAllReady (s : AdapterState) (reply : AdapterReply) : AdapterState :=
  match reply with
  | .daemon daemonVersion adapters =>
    { s with client := { s.client with daemonVersion := daemonVersion } }.attachAdapter
      adapters.head?
  | _ => s

/-- `daemon_proxy_ready`; the mode it requests as well is not part of the status. -/
def daemonProxyReady (s : AdapterState) (reply : AdapterReply) : AdapterState :=
  match reply with
  | .proxy => s.call .daemonGetAll4
  | _ => s

/-- `daemon_appeared`. -/
def daemonAppeared (s : AdapterState) : AdapterState := s.call .daemonProxy

/-- `daemon_vanished`. -/
def daemonVanished (s : AdapterState) : AdapterState :=
  { s with client := { s.client with daemonVersion := 0 } }.attachAdapter none

/-! ## The settings -/

/-- `settings_enabled_changed`. -/
def settingsEnabledChanged (s : AdapterState) (enabled : Bool) : AdapterState :=
  { s with
    client := { s.client with settingsValid := true, settingsEnabled := enabled } }.notifyState

/-- `settings_get_all_ready`. -/
def settingsGetAllReady (s : AdapterState) (reply : AdapterReply) : AdapterState :=
  match reply with
  | .settings enabled =>
    { s with
      client := { s.client with settingsValid := true, settingsEnabled := enabled } }.notifyState
  | _ => s

/-- `settings_proxy_ready`. -/
def settingsProxyReady (s : AdapterState) (reply : AdapterReply) : AdapterState :=
  match reply with
  | .proxy => s.call .settingsGetAll
  | _ => s

/-- `settings_appeared`. -/
def settingsAppeared (s : AdapterState) : AdapterState := s.call .settingsProxy

/-- `settings_vanished`. -/
def settingsVanished (s : AdapterState) : AdapterState :=
  { s with client := { s.client with settingsValid := false } }.notifyState

/-- The callback of a call. -/
def callback (s : AdapterState) (call : AdapterCall) (reply : AdapterReply) : AdapterState :=
  match call with
  | .daemonProxy => s.daemonProxyReady reply
  | .daemonGetAll4 => s.daemonGetAllReady reply
  | .adapterProxy path => s.adapterProxyReady path reply
  | .adapterGetAll4 _ => s.adapterGetAllReady reply
  | .settingsProxy => s.settingsProxyReady reply
  | .settingsGetAll => s.settingsGetAllReady reply

end AdapterState

/-! ## Steps -/

/-- What can happen: names come and go on the bus, signals arrive, calls end, and the reads
of tags go on. -/
inductive AdapterEvent
  | daemonAppeared
  | daemonVanished
  | adaptersChanged (adapters : List String)
  | adapterSignal (adapter : AdapterProxy) (signal : AdapterSignal)
  | settingsAppeared
  | settingsVanished
  | settingsEnabledChanged (enabled : Bool)
  | complete (i : ℕ) (reply : AdapterReply)
  | tagComplete (i : ℕ) (reply : TagReply)
  deriving DecidableEq, Repr

/-- One step. -/
def adapterStep (glib : GlibText) (s : AdapterState) : AdapterEvent → AdapterState
  | .daemonAppeared => s.daemonAppeared
  | .daemonVanished => s.daemonVanished
  | .adaptersChanged adapters => s.daemonAdaptersChanged adapters
  -- a proxy that is gone delivers nothing
  | .adapterSignal adapter signal => if s.Alive adapter then s.signal signal else s
  | .settingsAppeared => s.settingsAppeared
  | .settingsVanished => s.settingsVanished
  | .settingsEnabledChanged enabled => s.settingsEnabledChanged enabled
  | .complete i reply =>
    match s.calls[i]? with
    | none => s
    | some call => { s with calls := s.calls.eraseIdx i }.callback call reply
  | .tagComplete i reply =>
    { s with client := { s.client with tag := tagStep glib s.client.tag (.complete i reply) } }

end NfcAdapter
