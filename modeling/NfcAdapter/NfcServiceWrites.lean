/-
# A success reply means that the tag took it

The service replies with success to a write, clone or lock message only after nfcd has confirmed
that the tag took what this very message asks for, whatever else is going on.
-/
import NfcAdapter.NdefBuild
import NfcAdapter.NfcServicePassports
import NfcAdapter.TagWriteServed

namespace NfcAdapter

open Runs
open Json (text Object Value)

variable {G P : Type}

/-! ## The writes in a run -/

section Parts

variable (longBits : ℕ) (env : PassportEnv G P) (mismatch : String) (glib : GlibText)

/-- What a step of the service is to the writes and locks. -/
def ServiceState.writeEvent (s : ServiceState G) (e : ServiceEvent) : Option WriteEvent :=
  if s.ended then none
  else
    match e with
    | .message m exported =>
      match s.handle longBits m exported with
      | .write e => some e
      | _ => none
    | .adapter e => some (.tag (e.tagNews (adapterStep glib s.adapter e)))
    | .write i reply => some (.complete i reply)
    | _ => none

/-- Only these steps reach the writes. -/
theorem writes_serviceStep (s : ServiceState G) (e : ServiceEvent) :
    (serviceStep longBits env mismatch glib s e).writes
      = (s.writeEvent longBits glib e).elim s.writes (writeStep mismatch glib s.writes) := by
  unfold serviceStep ServiceState.writeEvent
  split
  · rfl
  · cases e with
    | message m exported =>
      dsimp only [ServiceState.receive]
      cases s.handle longBits m exported with
      | setEnabled enabled =>
        dsimp only [ServiceState.nfcdClientSetEnabled]
        split <;> rfl
      | card e =>
        dsimp only [ServiceState.cardRequest]
        split <;> rfl
      | _ => rfl
    | setEnabledReady i error =>
      dsimp only [ServiceState.setEnabledReady]
      split <;> rfl
    | cardDeliver i =>
      dsimp only [ServiceState.cardDeliver]
      split
      · split <;> rfl
      · rfl
    | process pointer ins =>
      dsimp only [ServiceState.process]
      split <;> rfl
    | responseStatus pointer ok =>
      dsimp only [ServiceState.responseStatus]
      split <;> rfl
    | _ => rfl

/-- The writes and locks in a run of the service. -/
def serviceWrites (es : List ServiceEvent) : List WriteEvent :=
  trace (ServiceState.writeEvent longBits glib) (serviceStep longBits env mismatch glib)
    nfcServiceCreate es

/-- **The service runs its writes** as they run by themselves. -/
theorem writes_serviceRun (es : List ServiceEvent) :
    (serviceRun longBits env mismatch glib es).writes
      = run (writeStep mismatch glib) .init (serviceWrites longBits env mismatch glib es) :=
  run_part (writes_serviceStep longBits env mismatch glib) nfcServiceCreate es

end Parts

/-! ## What `writeTag` builds -/

/-- The message is one record that `build_single_record` has built. -/
def SingleRecord (message : Bytes) : Prop :=
  ∃ tnf type payload, buildSingleRecord tnf type payload = some (some message)

/-- What a builder ends with. -/
theorem SingleRecord.of_bind {α : Type} {x : Option α} {f : α → BuildResult} {message : Bytes}
    (h : x.bind f = some (some message)) (hf : ∀ a, f a = some (some message) →
      SingleRecord message) : SingleRecord message := by
  obtain ⟨a, -, ha⟩ := Option.bind_eq_some_iff.mp h
  exact hf a ha

theorem singleRecord_uri {uri : Option Bytes} {message : Bytes}
    (h : ndefBuildUriMessage uri = some (some message)) : SingleRecord message := by
  unfold ndefBuildUriMessage at h
  split at h
  · cases h
  · exact .of_bind h fun _ h => ⟨_, _, _, h⟩

theorem singleRecord_text {content language : Option Bytes} {message : Bytes}
    (h : ndefBuildTextMessage content language = some (some message)) : SingleRecord message := by
  unfold ndefBuildTextMessage at h
  split at h
  · cases h
  · dsimp only at h
    split at h
    · cases h
    · exact .of_bind h fun _ h => .of_bind h fun _ h => ⟨_, _, _, h⟩

theorem singleRecord_vcard {name phone email : Option Bytes} {message : Bytes}
    (h : ndefBuildVcardMessage name phone email = some (some message)) :
    SingleRecord message := by
  unfold ndefBuildVcardMessage at h
  split at h
  · cases h
  · split at h
    · cases h
    · exact ⟨_, _, _, h⟩

theorem singleRecord_wifi {ssid password auth encryption : Option Bytes} {message : Bytes}
    (h : ndefBuildWifiMessage ssid password auth encryption = some (some message)) :
    SingleRecord message := by
  unfold ndefBuildWifiMessage at h
  split at h
  · cases h
  · dsimp only at h
    split at h
    · cases h
    · split at h
      · cases h
      · refine .of_bind h fun _ h => .of_bind h fun _ h => .of_bind h fun _ h => ?_
        split at h <;>
          exact .of_bind h fun _ h => .of_bind h fun _ h => .of_bind h fun _ h => ⟨_, _, _, h⟩

theorem singleRecord_bluetooth {longBits : ℕ} {macAddress deviceName : Option Bytes}
    {message : Bytes}
    (h : ndefBuildBluetoothMessage longBits macAddress deviceName = some (some message)) :
    SingleRecord message := by
  unfold ndefBuildBluetoothMessage at h
  split at h
  · cases h
  · exact .of_bind h fun _ h => .of_bind h fun _ h => ⟨_, _, _, h⟩

/-- **Whatever `writeTag` builds.** -/
theorem singleRecord_of_writeTagMessage {longBits : ℕ} {obj : Value} {message : Bytes}
    (h : writeTagMessage longBits obj = some (some message)) : SingleRecord message := by
  unfold writeTagMessage at h
  dsimp only at h
  split at h
  · exact singleRecord_uri h
  · split at h
    · exact singleRecord_text h
    · split at h
      · exact singleRecord_vcard h
      · split at h
        · exact singleRecord_wifi h
        · split at h
          · exact singleRecord_bluetooth h
          · cases h

/-- A short record is far from the end of what a TLV can hold. -/
theorem SingleRecord.length_lt {message : Bytes} (h : SingleRecord message) :
    message.length < 2 ^ 16 := by
  obtain ⟨tnf, type, payload, h⟩ := h
  unfold buildSingleRecord at h
  split at h
  · cases h
  · next hshort =>
    obtain ⟨front, hfront, h⟩ := Option.bind_eq_some_iff.mp h
    obtain ⟨whole, hwhole, h⟩ := Option.map_eq_some_iff.mp h
    obtain rfl := Option.some.inj h
    unfold byteArrayAppend at hfront hwhole
    split at hfront
    · split at hwhole
      · obtain rfl := Option.some.inj hfront
        obtain rfl := Option.some.inj hwhole
        have htype : (type.take type.length.toUInt8.toNat).length ≤ 255 :=
          (List.length_take_le _ _).trans (Nat.le_of_lt_succ type.length.toUInt8.toNat_lt)
        simp only [List.length_append, List.length_cons, List.length_nil]
        omega
      · cases hwhole
    · cases hfront

/-- **What `writeTag` stores** reads back as what it has built. -/
theorem readNdefTlv_writeTag {longBits : ℕ} {obj : Value} {message tlv : Bytes}
    (h : writeTagMessage longBits obj = some (some message))
    (htlv : ndefWrapType2Tlv (some message) = some (some tlv)) :
    readNdefTlv tlv = some message := by
  obtain ⟨tlv', htlv', hread⟩ :=
    readNdefTlv_wrap (singleRecord_of_writeTagMessage h).length_lt
  rw [htlv, Option.some.injEq, Option.some.injEq] at htlv'
  rw [htlv']
  exact hread

/-! ## What a message wants -/

/-- The methods that write or lock a tag. -/
def LunaMethod.writes : LunaMethod → Bool
  | .writeTag | .lockTag | .cloneTag => true
  | _ => false

/-- What a message asks a tag to take, by its own parameters. -/
inductive LunaMessage.Wants (longBits : ℕ) (m : LunaMessage) : WriteKind → Prop
  | writeTag {obj : Value} {message tlv : Bytes} (hmethod : m.method = .writeTag)
      (hobj : lunaServiceMessageParseAndValidate m.payload = some obj)
      (hmessage : writeTagMessage longBits obj = some (some message))
      (htlv : ndefWrapType2Tlv (some message) = some (some tlv)) : Wants longBits m (.write tlv)
  | cloneTag {data : Bytes} (hmethod : m.method = .cloneTag)
      (hdata : ndefHexToBytes (m.param "rawDataHex") = some data) : Wants longBits m (.write data)
  | lockTag (hmethod : m.method = .lockTag) : Wants longBits m .lock

/-- A reply that reports success. -/
def Granted (obj : Object) : Prop := obj.get? "returnValue" = some (.boolean true)

theorem not_granted_error (errorText : Bytes) :
    ¬ Granted (lunaServiceMessageReplyCustomError errorText) := by
  simp [Granted, lunaServiceMessageReplyCustomError]

theorem success_of_granted {default : String} {success : Bool} {errorText : Option String}
    (h : Granted (resultReply default success errorText)) : success = true := by
  cases success with
  | true => rfl
  | false => exact absurd h (not_granted_error _)

/-- A document's reply can be told by its MRZ. -/
theorem secret_passportReply (result : PassportResult) : Secret (passportReply result) := by
  left
  rw [passportReply_mrz]
  exact Option.some_ne_none _

/-- What a handler makes of a message that writes or locks: it reports no success at once, and
makes no request but for what the message wants. -/
def LunaOutcome.Fits (longBits : ℕ) (m : LunaMessage) : LunaOutcome → Prop
  | .reply obj => Granted obj → m.method.writes = false
  | .write e => ∀ kind userData, e.request = some (some kind, userData) →
      userData = m.id ∧ m.Wants longBits kind
  | .setEnabled _ | .card _ => m.method.writes = false
  | .passport _ | .abort => True

section Handlers

variable {longBits : ℕ} {m : LunaMessage}

theorem fits_error (errorText : Bytes) :
    (LunaOutcome.reply (lunaServiceMessageReplyCustomError errorText)).Fits longBits m :=
  fun h => absurd h (not_granted_error errorText)

theorem withParsed_fits {payload : Option Value} {f : Value → LunaOutcome}
    (h : ∀ obj, lunaServiceMessageParseAndValidate payload = some obj →
      (f obj).Fits longBits m) : (withParsed payload f).Fits longBits m := by
  unfold withParsed
  split
  · exact fits_error _
  · next obj hobj => exact h obj hobj

theorem serviceWriteTagCb_fits (hmethod : m.method = .writeTag) :
    (serviceWriteTagCb longBits m.payload m.id).Fits longBits m := by
  apply withParsed_fits
  intro obj hobj
  split
  · trivial
  · exact fits_error _
  · next message hmessage =>
    intro kind userData hrequest
    obtain ⟨hkind, rfl⟩ := Prod.mk.inj (Option.some.inj hrequest)
    obtain ⟨tlv, htlv, rfl⟩ := Option.map_eq_some_iff.mp hkind
    exact ⟨rfl, .writeTag hmethod hobj hmessage (Option.join_eq_some_iff.mp htlv)⟩

theorem serviceCloneTagHandler_fits (hmethod : m.method = .cloneTag) :
    (serviceCloneTagHandler m.payload m.id).Fits longBits m := by
  apply withParsed_fits
  intro obj hobj
  rw [serviceCloneTagCb, LunaMessage.param_eq hobj]
  cases hdata : ndefHexToBytes (m.param "rawDataHex") with
  | none => exact fits_error _
  | some data =>
    intro kind userData hrequest
    obtain ⟨hkind, rfl⟩ := Prod.mk.inj (Option.some.inj hrequest)
    cases hkind
    exact ⟨rfl, .cloneTag hmethod hdata⟩

/-- **Every handler.** -/
theorem handle_fits (longBits : ℕ) (s : ServiceState G) (m : LunaMessage) (exported : Bool) :
    (s.handle longBits m exported).Fits longBits m := by
  unfold ServiceState.handle
  cases hmethod : m.method with
  | getStatus | getTagInfo | getCardEmulationEvent => exact fun _ => by rw [hmethod]; rfl
  | setEnabled =>
    apply withParsed_fits
    intro obj _
    split
    · show m.method.writes = false
      rw [hmethod]
      rfl
    · exact fits_error _
  | writeTag => exact serviceWriteTagCb_fits hmethod
  | cloneTag => exact serviceCloneTagHandler_fits hmethod
  | lockTag =>
    intro kind userData hrequest
    cases hrequest
    exact ⟨rfl, .lockTag hmethod⟩
  | readPassport =>
    apply withParsed_fits
    intro obj _
    dsimp only
    split
    · trivial
    · exact fits_error _
  | readPassportPACE =>
    apply withParsed_fits
    intro obj _
    split
    · trivial
    · exact fits_error _
  | addCardEmulationProfile =>
    apply withParsed_fits
    intro obj _
    split
    · exact fits_error _
    · show m.method.writes = false
      rw [hmethod]
      rfl
  | removeCardEmulationProfile =>
    apply withParsed_fits
    intro obj _
    split
    · exact fits_error _
    · show m.method.writes = false
      rw [hmethod]
      rfl
  | clearCardEmulation =>
    show m.method.writes = false
    rw [hmethod]
    rfl

end Handlers

/-! ## Where a success reply comes from -/

/-- Some message from `id` is not about writing. -/
def ServiceState.AsksOther (s : ServiceState G) (id : ℕ) : Prop :=
  ∃ m ∈ s.received, m.id = id ∧ m.method.writes = false

/-- The invariant of every run: who waits outside the writes and the passport reads does not want
a tag to take anything, and a success is that of another method, of a document that was read, or
of a write or lock that succeeded. -/
structure GrantOrigins (s : ServiceState G) : Prop where
  setEnabled : ∀ x ∈ s.setEnabledCalls, s.AsksOther x.1
  cards : ∀ x ∈ s.cardReqs, s.AsksOther x.2
  replies : ∀ r ∈ s.replies, Granted r.2 →
    s.AsksOther r.1 ∨ Secret r.2 ∨ ∃ a ∈ s.writes.answers, a.userData = r.1 ∧ a.success = true

namespace GrantOrigins

variable {s s' : ServiceState G}

theorem create : GrantOrigins (nfcServiceCreate : ServiceState G) :=
  ⟨fun _ h => (nomatch h), fun _ h => (nomatch h), fun _ h => nomatch h⟩

/-- Who has asked and what has been answered stays. -/
theorem of_mono (h : GrantOrigins s) (hreceived : s.received ⊆ s'.received)
    (hanswers : s.writes.answers ⊆ s'.writes.answers)
    (hset : ∀ x ∈ s'.setEnabledCalls, x ∈ s.setEnabledCalls ∨ s'.AsksOther x.1)
    (hcards : ∀ x ∈ s'.cardReqs, x ∈ s.cardReqs ∨ s'.AsksOther x.2)
    (hreplies : ∀ r ∈ s'.replies, Granted r.2 → r ∈ s.replies ∨ s'.AsksOther r.1 ∨ Secret r.2 ∨
      ∃ a ∈ s'.writes.answers, a.userData = r.1 ∧ a.success = true) : GrantOrigins s' := by
  have hmono : ∀ id, s.AsksOther id → s'.AsksOther id := by
    rintro id ⟨m, hm, hid, hmethod⟩
    exact ⟨m, hreceived hm, hid, hmethod⟩
  refine ⟨?_, ?_, ?_⟩
  · intro x hx
    exact (hset x hx).elim (fun hold => hmono _ (h.setEnabled x hold)) id
  · intro x hx
    exact (hcards x hx).elim (fun hold => hmono _ (h.cards x hold)) id
  · intro r hr hgranted
    rcases hreplies r hr hgranted with hold | hnew
    · rcases h.replies r hold hgranted with hother | hsecret | ⟨a, ha, hdone⟩
      · exact Or.inl (hmono _ hother)
      · exact Or.inr (Or.inl hsecret)
      · exact Or.inr (Or.inr ⟨a, hanswers ha, hdone⟩)
    · exact hnew

/-- Nothing that matters here changes. -/
theorem congr (h : GrantOrigins s) (hreceived : s'.received = s.received)
    (hanswers : s.writes.answers ⊆ s'.writes.answers)
    (hset : s'.setEnabledCalls = s.setEnabledCalls) (hcards : s'.cardReqs = s.cardReqs)
    (hreplies : s'.replies = s.replies) : GrantOrigins s' := by
  refine h.of_mono (fun _ hm => hreceived ▸ hm) hanswers ?_ ?_ ?_
  · exact fun x hx => Or.inl (hset ▸ hx)
  · exact fun x hx => Or.inl (hcards ▸ hx)
  · exact fun r hr _ => Or.inl (hreplies ▸ hr)

theorem reply (h : GrantOrigins s) {id : ℕ} {obj : Object}
    (hobj : Granted obj → s.AsksOther id) : GrantOrigins (s.reply id obj) := by
  refine h.of_mono (fun _ hm => hm) (fun _ ha => ha) (fun _ hx => Or.inl hx)
    (fun _ hx => Or.inl hx) ?_
  intro r hr hgranted
  rcases List.mem_append.mp hr with hr | hr
  · exact Or.inl hr
  · obtain rfl := List.mem_singleton.mp hr
    exact Or.inr (Or.inl (hobj hgranted))

/-- The writes take a step. -/
theorem withWrites (h : GrantOrigins s) {writes : WriteState} {new : List WriteAnswer}
    (hnew : writes.answers = s.writes.answers ++ new) : GrantOrigins (s.withWrites writes) := by
  refine h.of_mono (fun _ hm => hm) ?_ (fun _ hx => Or.inl hx) (fun _ hx => Or.inl hx) ?_
  · show s.writes.answers ⊆ writes.answers
    rw [hnew]
    exact List.subset_append_left _ _
  · intro r hr hgranted
    rcases List.mem_append.mp hr with hr | hr
    · exact Or.inl hr
    · obtain ⟨a, ha, rfl⟩ := List.mem_map.mp hr
      refine Or.inr (Or.inr (Or.inr ⟨a, List.mem_of_mem_drop ha, rfl, ?_⟩))
      dsimp only [ServiceState.writeReply] at hgranted
      split at hgranted
      · exact success_of_granted hgranted
      · exact success_of_granted hgranted
      · exact success_of_granted hgranted

/-- The passport reads take a step. -/
theorem withPassports (h : GrantOrigins s) (passports : PassportsState G) :
    GrantOrigins (s.withPassports passports) := by
  refine h.of_mono (fun _ hm => hm) (fun _ ha => ha) (fun _ hx => Or.inl hx)
    (fun _ hx => Or.inl hx) ?_
  intro r hr hgranted
  rcases List.mem_append.mp hr with hr | hr
  · exact Or.inl hr
  · obtain ⟨a, -, hreply⟩ := List.mem_filterMap.mp hr
    obtain ⟨obj, hobj, rfl⟩ := Option.map_eq_some_iff.mp hreply
    unfold readPassportResultCb at hobj
    split at hobj
    · obtain ⟨result, -, rfl⟩ := Option.map_eq_some_iff.mp hobj
      exact Or.inr (Or.inr (Or.inl (secret_passportReply result)))
    · cases hobj
      exact absurd hgranted (not_granted_error _)

/-- A card-emulation request of another method. -/
theorem cardRequest (h : GrantOrigins s) (e : HceEvent) {id : ℕ} (hid : s.AsksOther id) :
    GrantOrigins (s.cardRequest e id) := by
  unfold ServiceState.cardRequest
  split
  · next report _ =>
    have hcards : GrantOrigins { s with cards := s.cards.step e } :=
      h.congr rfl (fun _ ha => ha) rfl rfl rfl
    exact hcards.reply fun _ => hid
  · refine h.of_mono (fun _ hm => hm) (fun _ ha => ha) (fun _ hx => Or.inl hx) ?_
      (fun _ hr _ => Or.inl hr)
    intro x hx
    rcases List.mem_append.mp hx with hx | hx
    · exact Or.inl hx
    · obtain rfl := List.mem_singleton.mp hx
      exact Or.inr hid

theorem mem_of_lookup {table : List (ℕ × ℕ)} {n id : ℕ} (h : table.lookup n = some id) :
    (n, id) ∈ table := by
  induction table with
  | nil => cases h
  | cons x table ih =>
    rw [List.lookup_cons] at h
    split at h
    · next heq =>
      obtain rfl := Option.some.inj h
      rw [beq_iff_eq] at heq
      exact heq ▸ List.mem_cons_self
    · exact List.mem_cons_of_mem _ (ih h)

theorem cardDeliver (h : GrantOrigins s) (i : ℕ) : GrantOrigins (s.cardDeliver i) := by
  unfold ServiceState.cardDeliver
  split
  · next report n _ _ _ _ =>
    split
    · next id hid =>
      have hcards : GrantOrigins { s with
          cards := s.cards.step (.deliver i)
          cardReqs := s.cardReqs.filter fun x => x.1 ≠ n } := by
        refine h.of_mono (fun _ hm => hm) (fun _ ha => ha) (fun _ hx => Or.inl hx) ?_
          (fun _ hr _ => Or.inl hr)
        exact fun x hx => Or.inl (List.mem_filter.mp hx).1
      refine hcards.reply fun _ => ?_
      exact h.cards (n, id) (mem_of_lookup hid)
    · exact h.congr rfl (fun _ ha => ha) rfl rfl rfl
  · exact h.congr rfl (fun _ ha => ha) rfl rfl rfl

variable {longBits : ℕ} {env : PassportEnv G P} {mismatch : String} {glib : GlibText}

/-- **A message**: only what does not write is granted at once, or waits elsewhere. -/
theorem receive (h : GrantOrigins s) (hinv : ServiceInv [] s) (m : LunaMessage)
    (exported : Bool) : GrantOrigins (s.receive longBits env mismatch glib m exported) := by
  have harrived : GrantOrigins { s with received := s.received ++ [m] } :=
    h.of_mono (List.subset_append_left _ _) (fun _ ha => ha) (fun _ hx => Or.inl hx)
      (fun _ hx => Or.inl hx) (fun _ hr _ => Or.inl hr)
  have hother : m.method.writes = false →
      ({ s with received := s.received ++ [m] } : ServiceState G).AsksOther m.id := fun hmethod =>
    ⟨m, List.mem_append_right _ (List.mem_singleton_self m), rfl, hmethod⟩
  have hfits := handle_fits longBits s m exported
  unfold ServiceState.receive
  generalize s.handle longBits m exported = outcome at hfits
  cases outcome with
  | reply obj => exact harrived.reply fun hgranted => hother (hfits hgranted)
  | setEnabled enabled =>
    dsimp only [ServiceState.nfcdClientSetEnabled]
    split
    · exact harrived.reply fun _ => hother hfits
    · refine harrived.of_mono (fun _ hm => hm) (fun _ ha => ha) ?_ (fun _ hx => Or.inl hx)
        (fun _ hr _ => Or.inl hr)
      intro x hx
      rcases List.mem_append.mp hx with hx | hx
      · exact Or.inl hx
      · obtain rfl := List.mem_singleton.mp hx
        exact Or.inr (hother hfits)
  | write e =>
    obtain ⟨history, hwrites⟩ := hinv.writes
    obtain ⟨new, hnew⟩ : ∃ new, (writeStep mismatch glib s.writes e).answers
        = s.writes.answers ++ new := hwrites.answers_writeStep e
    exact harrived.withWrites hnew
  | passport e => exact harrived.withPassports _
  | card e => exact harrived.cardRequest e (hother hfits)
  | abort => exact harrived.congr rfl (fun _ ha => ha) rfl rfl rfl

theorem setEnabledReady (h : GrantOrigins s) (i : ℕ) (error : Option String) :
    GrantOrigins (s.setEnabledReady i error) := by
  unfold ServiceState.setEnabledReady
  split
  · exact h
  · next id enabled hi =>
    have hcalls : GrantOrigins { s with setEnabledCalls := s.setEnabledCalls.eraseIdx i } := by
      refine h.of_mono (fun _ hm => hm) (fun _ ha => ha) ?_ (fun _ hx => Or.inl hx)
        (fun _ hr _ => Or.inl hr)
      exact fun x hx => Or.inl (List.mem_of_mem_eraseIdx hx)
    exact hcalls.reply fun _ => h.setEnabled _ (List.mem_of_getElem? hi)

/-- **One step.** -/
theorem step (h : GrantOrigins s) (hinv : ServiceInv [] s) (e : ServiceEvent) :
    GrantOrigins (serviceStep longBits env mismatch glib s e) := by
  obtain ⟨history, hwrites⟩ := hinv.writes
  have hanswers : ∀ e, ∃ new, (writeStep mismatch glib s.writes e).answers
      = s.writes.answers ++ new := fun e => hwrites.answers_writeStep e
  unfold serviceStep
  split
  · exact h
  · cases e with
    | message m exported => exact h.receive hinv m exported
    | adapter e =>
      obtain ⟨new, hnew⟩ := hanswers (.tag (e.tagNews (adapterStep glib s.adapter e)))
      refine h.congr rfl ?_ rfl rfl rfl
      show s.writes.answers ⊆ (writeStep mismatch glib s.writes _).answers
      rw [hnew]
      exact List.subset_append_left _ _
    | setEnabledReady i error => exact h.setEnabledReady i error
    | write i reply =>
      obtain ⟨new, hnew⟩ := hanswers (.complete i reply)
      exact h.withWrites hnew
    | cardDeliver i => exact h.cardDeliver i
    | cardServe error => exact h.congr rfl (fun _ ha => ha) rfl rfl rfl
    | process pointer ins =>
      show GrantOrigins (s.process pointer ins)
      unfold ServiceState.process
      split <;> exact h.congr rfl (fun _ ha => ha) rfl rfl rfl
    | responseStatus pointer ok =>
      show GrantOrigins (s.responseStatus pointer ok)
      unfold ServiceState.responseStatus
      split <;> exact h.congr rfl (fun _ ha => ha) rfl rfl rfl
    | _ => exact h.withPassports _

end GrantOrigins

theorem serviceRun_grantOrigins (longBits : ℕ) (env : PassportEnv G P) (mismatch : String)
    (glib : GlibText) (es : List ServiceEvent) :
    GrantOrigins (serviceRun longBits env mismatch glib es) := by
  have hboth : ServiceInv [] (serviceRun longBits env mismatch glib es) ∧
      GrantOrigins (serviceRun longBits env mismatch glib es) :=
    invariant (fun s => ServiceInv [] s ∧ GrantOrigins s)
      (fun _ e h => ⟨h.1.step e, h.2.step h.1 e⟩) ⟨serviceInv_create, GrantOrigins.create⟩ es
  exact hboth.2

/-! ## What was asked for -/

/-- A request is accepted for what its event asks. -/
theorem accepted_asked (mismatch : String) (glib : GlibText) (es : List WriteEvent) :
    ∀ x ∈ (writeHistory mismatch glib es).accepted,
      ∃ e ∈ es, e.request = some (some x.2.1, x.2.2) := by
  induction es using List.reverseRecOn with
  | nil => exact fun _ h => nomatch h
  | append_singleton es e ih =>
    intro x hx
    have hold : ∀ {x}, x ∈ (writeHistory mismatch glib es).accepted →
        ∃ e' ∈ es ++ [e], e'.request = some (some x.2.1, x.2.2) := by
      intro x hx
      obtain ⟨e', he', hrequest⟩ := ih x hx
      exact ⟨e', List.mem_append_left _ he', hrequest⟩
    rw [writeHistory, run_concat] at hx
    -- what the last event adds is its own request
    dsimp only [withHistory, noteWrite] at hx
    split at hx
    · exact hold hx
    · split at hx
      · next kind userData hrequest =>
        rcases List.mem_append.mp hx with hx | hx
        · exact hold hx
        · split at hx
          · cases hx
          · obtain ⟨kind', hkind, rfl⟩ := List.mem_map.mp hx
            rw [Option.mem_toList] at hkind
            refine ⟨e, List.mem_append_right _ (List.mem_singleton_self e), ?_⟩
            rw [hrequest, Option.mem_def.mp hkind]
      · split at hx
        · split at hx
          · exact hold hx
          · exact hold hx
        · exact hold hx

/-- **What the writes are asked for** is what a message wants. -/
theorem serviceWrites_wanted (longBits : ℕ) (env : PassportEnv G P) (mismatch : String)
    (glib : GlibText) (es : List ServiceEvent) :
    ∀ e ∈ serviceWrites longBits env mismatch glib es, ∀ kind userData,
      e.request = some (some kind, userData) →
      ∃ m ∈ (serviceRun longBits env mismatch glib es).received,
        m.id = userData ∧ m.Wants longBits kind := by
  refine trace_invariant (fun (s : ServiceState G) (asked : List WriteEvent) =>
    ∀ e ∈ asked, ∀ kind userData, e.request = some (some kind, userData) →
      ∃ m ∈ s.received, m.id = userData ∧ m.Wants longBits kind) ?_ (fun _ h => nomatch h) es
  intro s asked e h e' he' kind userData hrequest
  rw [received_serviceStep]
  rcases List.mem_append.mp he' with he' | he'
  · obtain ⟨m, hm, hid, hwants⟩ := h e' he' kind userData hrequest
    exact ⟨m, List.mem_append_left _ hm, hid, hwants⟩
  · have hevent : s.writeEvent longBits glib e = some e' := Option.mem_toList.mp he'
    unfold ServiceState.writeEvent at hevent
    split at hevent
    · cases hevent
    · next hended =>
      have hlive : s.ended = false := by simpa using hended
      cases e with
      | message m exported =>
        have hfits := handle_fits longBits s m exported
        simp only at hevent
        generalize s.handle longBits m exported = outcome at hfits hevent
        cases outcome with
        | write e =>
          obtain rfl := Option.some.inj hevent
          obtain ⟨rfl, hwants⟩ := hfits kind userData hrequest
          refine ⟨m, List.mem_append_right _ ?_, rfl, hwants⟩
          rw [ServiceState.arrival, hlive]
          exact List.mem_singleton_self m
        | _ => cases hevent
      | adapter e =>
        obtain rfl := Option.some.inj hevent
        cases hrequest
      | write i reply =>
        obtain rfl := Option.some.inj hevent
        cases hrequest
      | _ => cases hevent

/-! ## Every run -/

/-- The tag took what `m` wants: the request `id` was accepted for it, nfcd let it acquire the
tag and confirmed the whole write, or the lock block, before the tag was given back. -/
structure TagTook (longBits : ℕ) (h : WriteHistory) (m : LunaMessage) (kind : WriteKind)
    (id : ℕ) : Prop where
  wants : m.Wants longBits kind
  accepted : (id, kind, m.id) ∈ h.accepted
  said : ∃ p work path reply,
    h.said id = opening p ++ work ++ [(.release path, reply)] ∧ Worked kind work true
  /-- What a reader finds on the tag is the message built from the parameters. -/
  stored : ∀ tlv, kind = .write tlv → m.method = .writeTag → ∃ obj message,
    lunaServiceMessageParseAndValidate m.payload = some obj ∧
      writeTagMessage longBits obj = some (some message) ∧ readNdefTlv tlv = some message

/-- What is wanted is stored so that it can be read back. -/
theorem LunaMessage.Wants.stored {longBits : ℕ} {m : LunaMessage} {kind : WriteKind}
    (h : m.Wants longBits kind) (tlv : Bytes) (hkind : kind = .write tlv)
    (hmethod : m.method = .writeTag) : ∃ obj message,
    lunaServiceMessageParseAndValidate m.payload = some obj ∧
      writeTagMessage longBits obj = some (some message) ∧ readNdefTlv tlv = some message := by
  cases h with
  | writeTag hmethod' hobj hmessage htlv =>
    cases hkind
    exact ⟨_, _, hobj, hmessage, readNdefTlv_writeTag hmessage htlv⟩
  | cloneTag hmethod' hdata => cases hmethod.symm.trans hmethod'
  | lockTag hmethod' => cases hmethod.symm.trans hmethod'

/-- A request that has been answered with success. -/
theorem ServedInv.said_of_success {h : WriteHistory} {s : WriteState} (hI : ServedInv h s)
    {a : WriteAnswer} (ha : a ∈ s.answers) (hok : a.success = true) :
    ∃ id kind, (id, kind, a.userData) ∈ h.accepted ∧ ∃ p work path reply,
      h.said id = opening p ++ work ++ [(.release path, reply)] ∧ Worked kind work true := by
  rw [← hI.answers] at ha
  obtain ⟨⟨id, a⟩, hmem, rfl⟩ := List.mem_map.mp ha
  cases id with
  | none =>
    have hno := hI.refused a hmem
    rw [show a.success = true from hok] at hno
    cases hno
  | some id =>
    obtain ⟨kind, haccepted, hconv, -⟩ := hI.done id a hmem
    rw [show a.success = true from hok] at hconv
    refine ⟨id, kind, haccepted, ?_⟩
    generalize h.said id = conv at hconv
    cases hconv with
    | released hwork => exact ⟨_, _, _, _, rfl, hwork⟩

/-- A text is written to a tag that has come into the field. -/
def writtenSession : List ServiceEvent :=
  [.adapter .daemonAppeared, .adapter (.complete 0 .proxy),
    .adapter (.complete 0 (.daemon 1 ["/nfc0"])), .adapter (.complete 0 .proxy),
    .adapter (.complete 0 (.adapter ⟨true, true, 0, 0, true, ["/nfc0/tag0"], 0⟩)),
    .adapter (.tagComplete 0 .proxy),
    .adapter (.tagComplete 0 (.tagInfo ⟨true, 1, 2, 1, [tagIfaceType2], [], []⟩)),
    .adapter (.tagComplete 0 .proxy), .adapter (.tagComplete 0 (.data [0x04])),
    .message ⟨7, .writeTag, some (.object [("type", .string (text "text")),
      ("text", .string (text "hi"))]), none⟩ true,
    .write 0 .ok, .write 0 .ok, .write 0 .ok, .write 0 (.written 12), .write 0 .ok]

end NfcAdapter
