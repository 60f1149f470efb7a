/-
# What readers are told

A reader that has selected a profile gets the payload of the last message that added one for its
AID, whatever else the service does meanwhile, and never an older one or another profile's.  The
responses of a profile are numbered so that nfcd can tell them apart.
-/
import NfcAdapter.CardEmulationServed
import NfcAdapter.NfcServiceServed

namespace NfcAdapter

open Runs
open Json (Value)

variable {G P : Type}

/-! ## Response numbers -/

/-- The `next_response_id` of a profile after `n` responses: the numbers from 1 on, over and
over. -/
def turn (n : ℕ) : UInt32 := if n = 0 then 0 else UInt32.ofNat ((n - 1) % (2 ^ 32 - 1) + 1)

theorem toNat_turn_succ (n : ℕ) : (turn (n + 1)).toNat = n % (2 ^ 32 - 1) + 1 := by
  rw [turn, if_neg (Nat.succ_ne_zero n), UInt32.toNat_ofNat', Nat.add_sub_cancel]
  omega

theorem turn_succ_ne_zero (n : ℕ) : turn (n + 1) ≠ 0 := by
  intro hzero
  have hnat := toNat_turn_succ n
  rw [hzero, UInt32.toNat_zero] at hnat
  omega

/-- Numbers that are close together differ. -/
theorem turn_apart {i j : ℕ} (hij : i < j) (hj : j < i + (2 ^ 32 - 1)) :
    turn (i + 1) ≠ turn (j + 1) := by
  intro heq
  have hnat := congrArg UInt32.toNat heq
  rw [toNat_turn_succ, toNat_turn_succ] at hnat
  omega

/-- **A response takes the next number**, which skips 0. -/
theorem hceHandleProcess_turn (profile : HceProfile) (n : ℕ) (ins : UInt8) :
    (hceHandleProcess profile (turn n) ins).2 = turn (n + 1) := by
  apply UInt32.toNat_inj.mp
  rw [toNat_turn_succ]
  unfold hceHandleProcess
  dsimp only
  rcases n with - | n
  · rfl
  · have hturn := toNat_turn_succ n
    have hadd : (turn (n + 1) + 1).toNat = (n % (2 ^ 32 - 1) + 1 + 1) % 2 ^ 32 := by
      rw [UInt32.toNat_add, hturn]
      rfl
    split
    · next hwrap =>
      have hzero := congrArg UInt32.toNat hwrap
      rw [hadd, UInt32.toNat_zero] at hzero
      rw [UInt32.toNat_add, hturn]
      show (n % (2 ^ 32 - 1) + 1 + 2) % 2 ^ 32 = _
      omega
    · next hwrap =>
      have hpos : (turn (n + 1) + 1).toNat ≠ 0 := by
        intro hzero
        exact hwrap (UInt32.toNat_inj.mp hzero)
      rw [hadd] at hpos ⊢
      omega

theorem hceHandleProcess_responseId (profile : HceProfile) (nextResponseId : UInt32)
    (ins : UInt8) : (hceHandleProcess profile nextResponseId ins).1.responseId
      = (hceHandleProcess profile nextResponseId ins).2 := by
  unfold hceHandleProcess
  dsimp only
  split
  · rfl
  · split <;> rfl

/-- Only reads have data. -/
theorem hceHandleProcess_data (profile : HceProfile) (nextResponseId : UInt32) (ins : UInt8) :
    (hceHandleProcess profile nextResponseId ins).1.data
      = if ins = 0xB0 ∨ ins = 0xCA then profile.payload else [] := by
  by_cases hread : ins = 0xB0 ∨ ins = 0xCA
  · rw [hceHandleProcess_read profile nextResponseId hread, if_pos hread]
  · rw [if_neg hread]
    unfold hceHandleProcess
    dsimp only
    rw [if_neg hread]
    split <;> rfl

/-! ## Card emulation in a run of the service -/

/-- The profile that a message asks for. -/
def LunaMessage.addRequest (m : LunaMessage) : Option AddRequest :=
  match m.method with
  | .addCardEmulationProfile => do
    let obj ← lunaServiceMessageParseAndValidate m.payload
    let aid ← ndefHexToBytes (getStringParam (jobjectGet obj "aidHex"))
    some ⟨aid, (ndefHexToBytes (getStringParam (jobjectGet obj "payloadHex"))).getD [],
      getBoolParam (jobjectGet obj "implicit")⟩
  | _ => none

theorem LunaMessage.aid_addRequest {m : LunaMessage} {request : AddRequest}
    (h : m.addRequest = some request) : request.aid ≠ [] := by
  unfold LunaMessage.addRequest at h
  split at h
  · simp only [Option.bind_eq_bind, Option.bind_eq_some_iff] at h
    obtain ⟨obj, -, aid, haid, hrequest⟩ := h
    obtain rfl := Option.some.inj hrequest
    exact ndefHexToBytes_ne_nil haid
  · cases h

/-- The last profile asked for with an AID. -/
def lastAdd (received : List LunaMessage) (aid : Bytes) : Option AddRequest :=
  ((received.filterMap LunaMessage.addRequest).filter fun request => request.aid = aid).getLast?

theorem lastAdd_append (received : List LunaMessage) (arrival : Option LunaMessage) (aid : Bytes) :
    lastAdd (received ++ arrival.toList) aid
      = ((arrival.bind LunaMessage.addRequest).filter fun request => request.aid = aid).or
        (lastAdd received aid) := by
  unfold lastAdd
  cases arrival with
  | none => simp
  | some m =>
    cases hrequest : m.addRequest with
    | none => simp [hrequest]
    | some request => by_cases haid : request.aid = aid <;> simp [hrequest, haid, Option.filter]

/-- The profile that an event adds. -/
def HceEvent.added : HceEvent → Option AddRequest
  | .add request _ => some request
  | _ => none

/-- The profile that a handler asks the client for. -/
def LunaOutcome.added : LunaOutcome → Option AddRequest
  | .card e => e.added
  | _ => none

theorem added_withParsed {payload : Option Value} {f : Value → LunaOutcome}
    (h : ∀ obj, (f obj).added = none) : (withParsed payload f).added = none := by
  unfold withParsed
  split
  · rfl
  · exact h _

/-- **A handler asks for the profile that its message asks for.** -/
theorem added_handle (longBits : ℕ) (s : ServiceState G) (m : LunaMessage) (exported : Bool) :
    (s.handle longBits m exported).added = m.addRequest := by
  unfold ServiceState.handle LunaMessage.addRequest
  cases m.method with
  | addCardEmulationProfile =>
    dsimp only [serviceAddCardEmulationCb, withParsed, CardEvent.toClient]
    cases lunaServiceMessageParseAndValidate m.payload with
    | none => rfl
    | some obj =>
      dsimp only [Option.bind_eq_bind, Option.bind_some]
      cases ndefHexToBytes (getStringParam (jobjectGet obj "aidHex")) <;> rfl
  | removeCardEmulationProfile =>
    apply added_withParsed
    intro obj
    dsimp only [CardEvent.toClient]
    cases ndefHexToBytes (getStringParam (jobjectGet obj "aidHex")) <;> rfl
  | setEnabled | writeTag | cloneTag | readPassportPACE =>
    apply added_withParsed
    intro obj
    split <;> rfl
  | readPassport =>
    apply added_withParsed
    intro obj
    dsimp only
    split <;> rfl
  | _ => rfl

section Parts

variable (longBits : ℕ) (env : PassportEnv G P) (mismatch : String) (glib : GlibText)

/-- What a step of the service is to card emulation. -/
def ServiceState.cardEvent (s : ServiceState G) (e : ServiceEvent) : Option HceEvent :=
  if s.ended then none
  else
    match e with
    | .message m exported =>
      match s.handle longBits m exported with
      | .card e => some e
      | _ => none
    | .adapter e => s.adapter.cardNews e
    | .cardServe error => some (.serve error)
    | .cardDeliver i => some (.deliver i)
    | _ => none

/-- Only these steps reach card emulation. -/
theorem cards_serviceStep (s : ServiceState G) (e : ServiceEvent) :
    (serviceStep longBits env mismatch glib s e).cards
      = (s.cardEvent longBits e).elim s.cards s.cards.step := by
  unfold serviceStep ServiceState.cardEvent
  split
  · rfl
  · cases e with
    | message m exported =>
      dsimp only [ServiceState.receive]
      cases s.handle longBits m exported with
      | setEnabled enabled =>
        dsimp only [ServiceState.nfcdClientSetEnabled]
        split <;> rfl
      | card e =>
        dsimp only [ServiceState.cardRequest]
        split <;> rfl
      | _ => rfl
    | setEnabledReady i error =>
      dsimp only [ServiceState.setEnabledReady]
      split <;> rfl
    | cardDeliver i =>
      dsimp only [ServiceState.cardDeliver]
      split
      · split <;> rfl
      · rfl
    | process pointer ins =>
      dsimp only [ServiceState.process]
      split <;> rfl
    | responseStatus pointer ok =>
      dsimp only [ServiceState.responseStatus]
      split <;> rfl
    | _ => rfl

/-- **Card emulation adds what the messages ask for**, and nothing else. -/
theorem added_cardEvent (s : ServiceState G) (e : ServiceEvent) :
    (s.cardEvent longBits e).bind HceEvent.added = (s.arrival e).bind LunaMessage.addRequest := by
  unfold ServiceState.cardEvent ServiceState.arrival
  split
  · rfl
  · cases e with
    | message m exported =>
      have hadded := added_handle longBits s m exported
      dsimp only [Option.bind_some]
      rw [← hadded]
      cases s.handle longBits m exported <;> rfl
    | adapter e =>
      dsimp only [AdapterState.cardNews]
      split
      · rfl
      · rfl
      · split <;> rfl
      · rfl
    | _ => rfl

/-! ## Exchanges with readers -/

/-- A command of a reader to a profile, and the response. -/
structure ReaderExchange where
  pointer : ℕ
  aidHex : String
  ins : UInt8
  response : HceResponse

/-- The exchange that a step is. -/
def ServiceState.exchange (s : ServiceState G) (e : ServiceEvent) : Option ReaderExchange :=
  if s.ended then none
  else
    match e with
    | .process pointer ins => (s.profile? pointer).map fun profile =>
      ⟨pointer, profile.aidHex, ins, (hceHandleProcess profile (s.responseIds pointer) ins).1⟩
    | _ => none

/-- Only exchanges give responses and take numbers. -/
theorem readers_serviceStep (s : ServiceState G) (e : ServiceEvent) :
    (serviceStep longBits env mismatch glib s e).responses
        = s.responses ++ (s.exchange e).toList.map (fun x => (x.pointer, x.response)) ∧
      (serviceStep longBits env mismatch glib s e).responseIds
        = (s.exchange e).elim s.responseIds fun x =>
            Function.update s.responseIds x.pointer x.response.responseId := by
  have hstay : s.responses = s.responses ++
      (none : Option ReaderExchange).toList.map (fun x => (x.pointer, x.response)) :=
    (List.append_nil s.responses).symm
  unfold serviceStep ServiceState.exchange
  split
  · exact ⟨hstay, rfl⟩
  · cases e with
    | message m exported =>
      dsimp only [ServiceState.receive]
      cases s.handle longBits m exported with
      | setEnabled enabled =>
        dsimp only [ServiceState.nfcdClientSetEnabled]
        split <;> exact ⟨hstay, rfl⟩
      | card e =>
        dsimp only [ServiceState.cardRequest]
        split <;> exact ⟨hstay, rfl⟩
      | _ => exact ⟨hstay, rfl⟩
    | setEnabledReady i error =>
      dsimp only [ServiceState.setEnabledReady]
      split <;> exact ⟨hstay, rfl⟩
    | cardDeliver i =>
      dsimp only [ServiceState.cardDeliver]
      split
      · split <;> exact ⟨hstay, rfl⟩
      · exact ⟨hstay, rfl⟩
    | process pointer ins =>
      dsimp only [ServiceState.process]
      cases s.profile? pointer with
      | none => exact ⟨hstay, rfl⟩
      | some profile =>
        refine ⟨rfl, ?_⟩
        dsimp only [Option.map_some, Option.elim_some]
        rw [hceHandleProcess_responseId]
    | responseStatus pointer ok =>
      dsimp only [ServiceState.responseStatus]
      split <;> exact ⟨hstay, rfl⟩
    | _ => exact ⟨hstay, rfl⟩

end Parts

/-! ## The invariant -/

/-- Every profile has the payload of the last one asked for with its AID. -/
structure LatestInv (received : List LunaMessage) (cards : HceState) : Prop where
  table : TableInv cards
  latest : ∀ p ∈ cards.hceProfiles, ∃ request, lastAdd received request.aid = some request ∧
    p.aidHex = ndefBytesToHex request.aid ∧ p.payload = request.payload

namespace LatestInv

variable {received : List LunaMessage} {cards : HceState}

theorem start : LatestInv [] .start := ⟨tableInv_start, fun _ hp => nomatch hp⟩

/-- Nobody asks for a profile. -/
theorem other (h : LatestInv received cards) {arrival : Option LunaMessage}
    {event : Option HceEvent} (harrival : arrival.bind LunaMessage.addRequest = none)
    (hevent : event.bind HceEvent.added = none) :
    LatestInv (received ++ arrival.toList) (event.elim cards cards.step) := by
  have hlast : ∀ aid, lastAdd (received ++ arrival.toList) aid = lastAdd received aid := by
    intro aid
    rw [lastAdd_append, harrival]
    rfl
  cases event with
  | none =>
    refine ⟨h.table, ?_⟩
    intro p hp
    obtain ⟨request, hrequest, hp⟩ := h.latest p hp
    exact ⟨request, (hlast request.aid).trans hrequest, hp⟩
  | some e =>
    have he : ∀ request exported, e ≠ .add request exported := by
      rintro request exported rfl
      cases hevent
    refine ⟨h.table.step e, ?_⟩
    intro p hp
    obtain ⟨q, hq, hname, hpayload⟩ := payloads_kept he hp
    obtain ⟨request, hrequest, hqname, hqpayload⟩ := h.latest q hq
    exact ⟨request, (hlast request.aid).trans hrequest, hname.trans hqname,
      hpayload.trans hqpayload⟩

/-- A message asks for a profile, and gets it unless its object cannot be exported. -/
theorem add (h : LatestInv received cards) {m : LunaMessage} {request : AddRequest}
    (hrequest : m.addRequest = some request) (exported : Bool) :
    LatestInv (received ++ [m]) (cards.step (.add request exported)) := by
  have hlast : ∀ aid, lastAdd (received ++ [m]) aid
      = if request.aid = aid then some request else lastAdd received aid := by
    intro aid
    rw [← Option.toList_some, lastAdd_append, Option.bind_some, hrequest]
    by_cases haid : request.aid = aid <;> simp [haid, Option.filter]
  have hold : ∀ p ∈ cards.hceProfiles, p.aidHex ≠ ndefBytesToHex request.aid →
      ∃ request', lastAdd (received ++ [m]) request'.aid = some request' ∧
        p.aidHex = ndefBytesToHex request'.aid ∧ p.payload = request'.payload := by
    intro p hp hother
    obtain ⟨request', hrequest', hname, hpayload⟩ := h.latest p hp
    refine ⟨request', ?_, hname, hpayload⟩
    rw [hlast, if_neg]
    · exact hrequest'
    · intro haid
      exact hother (hname.trans (congrArg ndefBytesToHex haid.symm))
  refine ⟨h.table.step _, ?_⟩
  intro p hp
  rcases add_payloads h.table request exported (LunaMessage.aid_addRequest hrequest) with
    ⟨hnone, -, hprofiles, -⟩ | ⟨-, hwritten, -⟩
  · rw [hprofiles] at hp
    exact hold p hp (lookup_eq_none.mp hnone p hp)
  · rcases hwritten p hp with ⟨hname, hpayload⟩ | ⟨hother, hp⟩
    · exact ⟨request, (hlast request.aid).trans (if_pos rfl), hname, hpayload⟩
    · exact hold p hp hother

/-- **One step**, of which card emulation and the messages know the same. -/
theorem step (h : LatestInv received cards) {arrival : Option LunaMessage}
    {event : Option HceEvent} (hadded : event.bind HceEvent.added = arrival.bind LunaMessage.addRequest) :
    LatestInv (received ++ arrival.toList) (event.elim cards cards.step) := by
  cases harrival : arrival.bind LunaMessage.addRequest with
  | none => exact h.other harrival (hadded.trans harrival)
  | some request =>
    obtain ⟨m, rfl, hrequest⟩ := Option.bind_eq_some_iff.mp harrival
    obtain ⟨e, rfl, he⟩ := Option.bind_eq_some_iff.mp (hadded.trans harrival)
    cases e with
    | add request' exported =>
      obtain rfl := Option.some.inj he
      exact h.add hrequest exported
    | _ => cases he

end LatestInv

/-- The numbers of the responses of a profile. -/
def responseIdsOf (responses : List (ℕ × HceResponse)) (pointer : ℕ) : List UInt32 :=
  (responses.filter fun x => x.1 = pointer).map fun x => x.2.responseId

/-- The invariant of every run. -/
structure ReadersInv (s : ServiceState G) : Prop where
  latest : LatestInv s.received s.cards
  next : ∀ pointer, s.responseIds pointer = turn (responseIdsOf s.responses pointer).length
  turns : ∀ pointer, responseIdsOf s.responses pointer
    = (List.range (responseIdsOf s.responses pointer).length).map fun n => turn (n + 1)

namespace ReadersInv

variable {s : ServiceState G}

theorem create : ReadersInv (nfcServiceCreate : ServiceState G) :=
  ⟨.start, fun _ => rfl, fun _ => rfl⟩

/-- An exchange has the next number. -/
theorem exchange_number (h : ReadersInv s) {e : ServiceEvent} {x : ReaderExchange}
    (hx : s.exchange e = some x) :
    x.response.responseId = turn ((responseIdsOf s.responses x.pointer).length + 1) := by
  unfold ServiceState.exchange at hx
  split at hx
  · cases hx
  · cases e with
    | process pointer ins =>
      obtain ⟨profile, -, rfl⟩ := Option.map_eq_some_iff.mp hx
      dsimp only
      rw [hceHandleProcess_responseId, h.next, hceHandleProcess_turn]
    | _ => cases hx

/-- **One step.** -/
theorem step (h : ReadersInv s) (longBits : ℕ) (env : PassportEnv G P) (mismatch : String)
    (glib : GlibText) (e : ServiceEvent) :
    ReadersInv (serviceStep longBits env mismatch glib s e) := by
  obtain ⟨hresponses, hids⟩ := readers_serviceStep longBits env mismatch glib s e
  have hlatest : LatestInv (serviceStep longBits env mismatch glib s e).received
      (serviceStep longBits env mismatch glib s e).cards := by
    rw [received_serviceStep, cards_serviceStep]
    exact h.latest.step (added_cardEvent longBits s e)
  cases hx : s.exchange e with
  | none =>
    rw [hx] at hresponses hids
    have hsame : (serviceStep longBits env mismatch glib s e).responses = s.responses :=
      hresponses.trans (List.append_nil s.responses)
    refine ⟨hlatest, ?_, ?_⟩
    · rw [hsame, hids]
      exact h.next
    · rw [hsame]
      exact h.turns
  | some x =>
    have hnumber := h.exchange_number hx
    rw [hx] at hresponses hids
    have hof : ∀ pointer, responseIdsOf (serviceStep longBits env mismatch glib s e).responses
        pointer = responseIdsOf s.responses pointer
          ++ if x.pointer = pointer then [x.response.responseId] else [] := by
      intro pointer
      rw [hresponses]
      unfold responseIdsOf
      rw [List.filter_append, List.map_append]
      by_cases hpointer : x.pointer = pointer <;> simp [hpointer]
    refine ⟨hlatest, ?_, ?_⟩
    · intro pointer
      rw [hof, hids]
      by_cases hpointer : x.pointer = pointer
      · subst hpointer
        rw [if_pos rfl, List.length_append, Option.elim_some, Function.update_self, hnumber]
        rfl
      · rw [if_neg hpointer, List.append_nil, Option.elim_some,
          Function.update_of_ne (Ne.symm hpointer)]
        exact h.next pointer
    · intro pointer
      rw [hof]
      by_cases hpointer : x.pointer = pointer
      · subst hpointer
        rw [if_pos rfl, List.length_append, List.length_singleton, List.range_succ, List.map_append,
          ← h.turns, hnumber]
        rfl
      · rw [if_neg hpointer, List.append_nil]
        exact h.turns pointer

end ReadersInv

/-! ## Every run -/

/-- The numbers do for telling responses apart: none is 0, with which nfcd would not report what
became of the response, and any 2³² - 1 in a row are different. -/
structure Numbered (ids : List UInt32) : Prop where
  ne_zero : (0 : UInt32) ∉ ids
  apart : ∀ i j, i < j → j < i + (2 ^ 32 - 1) → j < ids.length → ids[i]? ≠ ids[j]?

theorem numbered_turns (n : ℕ) : Numbered ((List.range n).map fun k => turn (k + 1)) := by
  constructor
  · intro hmem
    obtain ⟨k, -, hzero⟩ := List.mem_map.mp hmem
    exact turn_succ_ne_zero k hzero
  · intro i j hij hclose hj heq
    rw [List.length_map, List.length_range] at hj
    rw [List.getElem?_map, List.getElem?_map, List.getElem?_range (hij.trans hj),
      List.getElem?_range hj] at heq
    exact turn_apart hij hclose (Option.some.inj heq)

section Run

variable (longBits : ℕ) (env : PassportEnv G P) (mismatch : String) (glib : GlibText)

theorem serviceRun_readersInv (es : List ServiceEvent) :
    ReadersInv (serviceRun longBits env mismatch glib es) :=
  invariant ReadersInv (fun _ e h => h.step longBits env mismatch glib e) .create es

/-- The exchanges with readers in a run of the service. -/
def serviceExchanges (es : List ServiceEvent) : List ReaderExchange :=
  trace ServiceState.exchange (serviceStep longBits env mismatch glib) nfcServiceCreate es

/-- What readers are told in a run: the responses are those of the exchanges; in each of them a
read returns the payload of the last profile asked for with the AID, by a message received before;
and the responses of each profile are numbered. -/
structure ReadersTold (es : List ServiceEvent) : Prop where
  responses : (serviceRun longBits env mismatch glib es).responses
    = (serviceExchanges longBits env mismatch glib es).map fun x => (x.pointer, x.response)
  latest : ∀ before e after x, es = before ++ e :: after →
    (serviceRun longBits env mismatch glib before).exchange e = some x →
    ∃ request, lastAdd (serviceRun longBits env mismatch glib before).received request.aid
        = some request ∧
      x.aidHex = ndefBytesToHex request.aid ∧
      x.response.data = if x.ins = 0xB0 ∨ x.ins = 0xCA then request.payload else []
  numbered : ∀ pointer,
    Numbered (responseIdsOf (serviceRun longBits env mismatch glib es).responses pointer)

/-- **Readers are told what was added last.** In every run of the service, a reader that has
selected an AID gets the payload of the last message that asked for a profile with it, and the
responses of a profile can be told apart. -/
theorem readers_are_told_the_last_add (es : List ServiceEvent) :
    ReadersTold longBits env mismatch glib es := by
  refine ⟨?_, ?_, ?_⟩
  · refine trace_invariant (fun (s : ServiceState G) (log : List ReaderExchange) =>
      s.responses = log.map fun x => (x.pointer, x.response)) ?_ rfl es
    intro s log e h
    rw [(readers_serviceStep longBits env mismatch glib s e).1, h, List.map_append]
  · intro before e after x _ hx
    have hinv := serviceRun_readersInv longBits env mismatch glib before
    generalize serviceRun longBits env mismatch glib before = s at hinv hx ⊢
    unfold ServiceState.exchange at hx
    split at hx
    · cases hx
    · cases e with
      | process pointer ins =>
        obtain ⟨profile, hprofile, rfl⟩ := Option.map_eq_some_iff.mp hx
        obtain ⟨request, hrequest, hname, hpayload⟩ :=
          hinv.latest.latest profile (List.mem_of_find?_eq_some hprofile)
        refine ⟨request, hrequest, hname, ?_⟩
        rw [← hpayload]
        exact hceHandleProcess_data profile _ ins
      | _ => cases hx
  · intro pointer
    rw [(serviceRun_readersInv longBits env mismatch glib es).turns pointer]
    exact numbered_turns _

end Run

end NfcAdapter
