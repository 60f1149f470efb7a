/-
# Card emulation (`nfcd_client.c`)

The client's table of card-emulation profiles and its calls to nfcd: every registration
asks for card-emulation mode and registers a LocalHostApp, asynchronously; removing a
profile frees it at once.  The other side is nfcd as far as these calls reach it, and the
bus, on which nfcd comes and goes.
-/
import NfcAdapter.AsyncCalls
import NfcAdapter.BerTlv

namespace NfcAdapter

open AsyncCalls

/-! ## Requests, calls and answers -/

/-- `ndef_bytes_to_hex`. -/
def ndefBytesToHex (data : Bytes) : String :=
  String.ofList (data.flatMap fun b => [Nat.digitChar (b.toNat / 16), Nat.digitChar (b.toNat % 16)])

/-- `NFCD_HCE_OBJECT_PATH`. -/
def nfcdHceObjectPath : String := "/org/webosports/nfc/hce"

/-- The object path of a profile, `"%s/%s"`. -/
def hceObjectPath (aidHex : String) : String := nfcdHceObjectPath ++ ("/" ++ aidHex)

/-- The arguments of `nfcd_client_add_card_emulation_profile`. -/
structure AddRequest where
  aid : Bytes
  payload : Bytes
  implicit : Bool
  deriving DecidableEq, Repr

/-- `struct hce_req`: the profile by its address, and the caller's callback. -/
structure HceReq where
  profile : ℕ
  request : AddRequest
  deriving DecidableEq, Repr

/-- The calls to nfcd, with the data of the callbacks that wait for their answers. -/
inductive NfcdCall where
  | requestMode
  | registerLocalHostApp (objectPath : String) (aid : Bytes) (implicit : Bool) (req : HceReq)
  | unregisterLocalHostApp (objectPath : String)
  | releaseMode (id : ℕ)
  deriving DecidableEq, Repr

/-- The answers. -/
inductive NfcdReply where
  | granted (id : ℕ)
  | registered
  | error (text : String)
  deriving DecidableEq, Repr

/-- An error as the answer to a call; two calls are made without a callback. -/
def NfcdCall.error (text : String) : NfcdCall → Option NfcdReply
  | .requestMode => some (.error text)
  | .registerLocalHostApp .. => some (.error text)
  | .unregisterLocalHostApp _ => none
  | .releaseMode _ => none

/-- What the callback of a request is called with. -/
inductive HceReport where
  | add (request : AddRequest) (success : Bool) (errorText : Option String)
  | remove (aid : Bytes) (success : Bool) (errorText : Option String)
  | clear (success : Bool)
  deriving DecidableEq, Repr

/-! ## State -/

/-- `struct hce_profile`, at its address. -/
structure HceProfile where
  pointer : ℕ
  aidHex : String
  objectPath : String
  payload : Bytes
  implicit : Bool
  registered : Bool
  deriving DecidableEq, Repr

/-- One run of nfcd: its registrations, the modes it holds for this client, and the id it
will give out next. -/
structure Nfcd where
  apps : List (String × Bool)
  modes : List ℕ
  nextModeId : ℕ
  deriving DecidableEq, Repr

/-- nfcd right after its start. -/
def Nfcd.start : Nfcd := ⟨[], [], 1⟩

/-- The flag an object path is registered with. -/
def Nfcd.holds (nfcd : Nfcd) (objectPath : String) : Option Bool := nfcd.apps.lookup objectPath

/-- The client's side, nfcd if it is on the bus, and what is under way between them.
`daemon` says whether `client->daemon` is set, `proxies` counts the proxies being created,
`usedFreed` records a write to a freed profile. -/
structure HceState where
  daemon : Bool
  hceProfiles : List HceProfile
  hceModeRequestId : ℕ
  nextPointer : ℕ
  usedFreed : Bool
  nfcd : Option Nfcd
  calls : Channel NfcdCall NfcdReply
  proxies : ℕ
  deriving DecidableEq

/-- Before anything has happened. -/
def HceState.start : HceState := ⟨false, [], 0, 0, false, none, .empty, 0⟩

/-- What happens next: a request, with the outcome of exporting its object, an answer of
nfcd to its oldest call, the arrival of an answer, or news from the bus. -/
inductive HceEvent where
  | add (request : AddRequest) (exported : Bool)
  | remove (aid : Bytes)
  | clear
  | serve (error : Option String)
  | deliver (i : ℕ)
  | appear
  | proxyReady
  | vanish
  deriving DecidableEq, Repr

/-! ## The client -/

/-- What the bus answers while nobody owns nfcd's name. -/
def serviceUnknown : String :=
  "The name org.sailfishos.nfc.daemon was not provided by any .service files"

/-- What the bus answers for an owner that went away. -/
def noReply : String := "Message recipient disconnected from message bus without replying"

/-- A call through the daemon's proxy. -/
def HceState.call (s : HceState) (c : NfcdCall) : HceState :=
  { s with
    calls :=
      if s.nfcd.isSome then s.calls.send c else s.calls.fail c (c.error serviceUnknown) }

/-- `g_hash_table_lookup`. -/
def HceState.lookup (s : HceState) (aidHex : String) : Option HceProfile :=
  s.hceProfiles.find? fun profile => profile.aidHex = aidHex

/-- The table after an update of one profile in place. -/
def HceState.update (s : HceState) (pointer : ℕ) (f : HceProfile → HceProfile) : HceState :=
  { s with hceProfiles := s.hceProfiles.map fun p => if p.pointer = pointer then f p else p }

/-- `hce_do_register`. -/
def hceDoRegister (s : HceState) (profile : HceProfile) (request : AddRequest) :
    HceState × Option HceReport :=
  if s.daemon = false then (s, some (.add request false (some "nfcd is not available")))
  else
    ((s.call .requestMode).call (.registerLocalHostApp profile.objectPath request.aid
      profile.implicit ⟨profile.pointer, request⟩), none)

/-- The profile of a new AID. -/
def HceState.newProfile (s : HceState) (request : AddRequest) : HceProfile where
  pointer := s.nextPointer
  aidHex := ndefBytesToHex request.aid
  objectPath := hceObjectPath (ndefBytesToHex request.aid)
  payload := request.payload
  implicit := request.implicit
  registered := false

/-- `g_hash_table_insert` of a new AID's profile. -/
def HceState.insert (s : HceState) (profile : HceProfile) : HceState :=
  { s with hceProfiles := s.hceProfiles ++ [profile], nextPointer := s.nextPointer + 1 }

/-- `nfcd_client_add_card_emulation_profile`; `exported` is what `hce_export_skeleton`
returns. -/
def nfcdClientAddCardEmulationProfile (s : HceState) (request : AddRequest) (exported : Bool) :
    HceState × Option HceReport :=
  if request.aid = [] then (s, some (.add request false (some "AID is required")))
  else
    match s.lookup (ndefBytesToHex request.aid) with
    | some profile =>
      let s := s.update profile.pointer fun p =>
        { p with payload := request.payload, implicit := request.implicit }
      -- nfcd has to be told of a new flag, and has no call that changes it
      if profile.implicit ≠ request.implicit ∧ s.daemon = true then
        hceDoRegister
          ((s.update profile.pointer fun p => { p with registered := false }).call
            (.unregisterLocalHostApp profile.objectPath))
          { profile with implicit := request.implicit } request
      -- the answer looks neither at the registered flag nor at what is under way
      else (s, some (.add request true none))
    | none =>
      if exported = false then
        (s, some (.add request false (some "Failed to export card emulation object")))
      else hceDoRegister (s.insert (s.newProfile request)) (s.newProfile request) request

/-- The Unregister call of a profile that is taken away, if its flag asks for one. -/
def hceUnregister (s : HceState) (profile : HceProfile) : HceState :=
  if profile.registered = true ∧ s.daemon = true then
    s.call (.unregisterLocalHostApp profile.objectPath)
  else s

/-- The release of card-emulation mode. -/
def hceReleaseMode (s : HceState) : HceState :=
  if s.hceModeRequestId ≠ 0 ∧ s.daemon = true then
    { s.call (.releaseMode s.hceModeRequestId) with hceModeRequestId := 0 }
  else s

/-- `g_hash_table_remove`: the profile is freed. -/
def HceState.erase (s : HceState) (aidHex : String) : HceState :=
  { s with hceProfiles := s.hceProfiles.filter fun profile => profile.aidHex ≠ aidHex }

/-- `nfcd_client_remove_card_emulation_profile`. -/
def nfcdClientRemoveCardEmulationProfile (s : HceState) (aid : Bytes) :
    HceState × Option HceReport :=
  if aid = [] then (s, some (.remove aid false (some "AID is required")))
  else
    match s.lookup (ndefBytesToHex aid) with
    | none => (s, some (.remove aid true none))
    | some profile =>
      let s := (hceUnregister s profile).erase (ndefBytesToHex aid)
      (if s.hceProfiles = [] then hceReleaseMode s else s, some (.remove aid true none))

/-- `nfcd_client_clear_card_emulation`. -/
def nfcdClientClearCardEmulation (s : HceState) : HceState × Option HceReport :=
  let s := s.hceProfiles.foldl hceUnregister s
  (hceReleaseMode { s with hceProfiles := [] }, some (.clear true))

/-- `hce_mode_ready`. -/
def hceModeReady (s : HceState) : NfcdReply → HceState
  | .granted id => { s with hceModeRequestId := id }
  | _ => s

/-- `hce_register_ready`: it writes to the profile at the address it was given. -/
def hceRegisterReady (s : HceState) (req : HceReq) : NfcdReply → HceState × Option HceReport
  | .error text => (s, some (.add req.request false (some text)))
  | _ =>
    -- the profile may have been freed since the call was made
    ({ s.update req.profile (fun p => { p with registered := true }) with
        usedFreed := s.usedFreed || !s.hceProfiles.any (·.pointer = req.profile) },
      some (.add req.request true none))

/-- An answer arrives. -/
def HceState.deliver (s : HceState) (i : ℕ) : HceState × Option HceReport :=
  match s.calls.replies[i]? with
  | none => (s, none)
  | some (_, call, reply) =>
    -- the answers to Unregister and ReleaseMode are dropped
    let s := { s with calls := s.calls.deliver i }
    match call with
    | .requestMode => (hceModeReady s reply, none)
    | .registerLocalHostApp _ _ _ req => hceRegisterReady s req reply
    | _ => (s, none)

/-! ## nfcd and the bus -/

/-- nfcd handles a call; `error` is its refusal of one that asks for something. -/
def Nfcd.handle (nfcd : Nfcd) (c : NfcdCall) (error : Option String) : Nfcd × Option NfcdReply :=
  match c with
  | .requestMode =>
    match error with
    | some text => (nfcd, some (.error text))
    | none =>
      ({ nfcd with modes := nfcd.modes ++ [nfcd.nextModeId], nextModeId := nfcd.nextModeId + 1 },
        some (.granted nfcd.nextModeId))
  | .registerLocalHostApp objectPath _ implicit _ =>
    match error with
    | some text => (nfcd, some (.error text))
    | none =>
      ({ nfcd with
          apps := (objectPath, implicit) :: nfcd.apps.filter fun app => app.1 ≠ objectPath },
        some .registered)
  | .unregisterLocalHostApp objectPath =>
    ({ nfcd with apps := nfcd.apps.filter fun app => app.1 ≠ objectPath }, none)
  | .releaseMode id => ({ nfcd with modes := nfcd.modes.filter fun mode => mode ≠ id }, none)

/-- nfcd handles the oldest call. -/
def HceState.serve (s : HceState) (error : Option String) : HceState :=
  match s.nfcd, s.calls.queue with
  | some nfcd, (_, c) :: _ =>
    let r := nfcd.handle c error
    { s with nfcd := some r.1, calls := s.calls.serve r.2 }
  | _, _ => s

/-- `daemon_appeared`: a new nfcd, and a proxy for it is being created. -/
def daemonAppeared (s : HceState) : HceState :=
  match s.nfcd with
  | none => { s with nfcd := some .start, proxies := s.proxies + 1 }
  | some _ => s

/-- `daemon_proxy_ready`, as far as card emulation goes. -/
def daemonProxyReady (s : HceState) : HceState :=
  if s.proxies = 0 then s else { s with proxies := s.proxies - 1, daemon := true }

/-- `daemon_vanished`, as far as card emulation goes; with nfcd go its registrations and
modes, and every call under way is answered by the bus. -/
def daemonVanished (s : HceState) : HceState :=
  match s.nfcd with
  | none => s
  | some _ =>
    -- neither the registered flags nor the mode id are reset
    { s with daemon := false, nfcd := none, calls := s.calls.disconnect (NfcdCall.error noReply) }

/-! ## The machine -/

/-- One event, and the callback it leads to. -/
def HceState.react (s : HceState) : HceEvent → HceState × Option HceReport
  | .add request exported => nfcdClientAddCardEmulationProfile s request exported
  | .remove aid => nfcdClientRemoveCardEmulationProfile s aid
  | .clear => nfcdClientClearCardEmulation s
  | .serve error => (s.serve error, none)
  | .deliver i => s.deliver i
  | .appear => (daemonAppeared s, none)
  | .proxyReady => (daemonProxyReady s, none)
  | .vanish => (daemonVanished s, none)

/-- One event. -/
def HceState.step (s : HceState) (e : HceEvent) : HceState := (s.react e).1

/-- The callback of an event. -/
def HceState.report (s : HceState) (e : HceEvent) : Option HceReport := (s.react e).2

/-- nfcd on the bus, with a proxy. -/
def nfcdReady : List HceEvent := [.appear, .proxyReady]

/-- The request for a profile that answers one AID. -/
def badgeRequest (aid : Bytes) : AddRequest := ⟨aid, [0xBA, 0xDE], false⟩

/-- A badge is registered, and the answers have arrived. -/
def badgeRegistered : List HceEvent :=
  nfcdReady ++ [.add (badgeRequest [0xF0, 0x01]) true, .serve none, .serve none, .deliver 0,
    .deliver 0]

end NfcAdapter
