/-
# Every message is answered once

Over every run of the service: a message has been replied to, or it is held by one request
with a call under way, and never both.
-/
import NfcAdapter.NfcServiceAccounts

namespace NfcAdapter

open Runs AsyncCalls
open Json (text Object Value)
open TaskPool (Pool)

variable {G P : Type} {longBits : ℕ} {env : PassportEnv G P} {mismatch : String} {glib : GlibText}

/-! ## Counting -/

namespace ServiceState

/-- How often the message `id` has arrived. -/
def receivedOf (s : ServiceState G) (id : ℕ) : ℕ := s.received.countP fun m => m.id = id

/-- How often it has been replied to. -/
def repliesTo (s : ServiceState G) (id : ℕ) : ℕ := s.replies.countP fun r => r.1 = id

/-- How many calls are under way on its behalf. -/
def held (s : ServiceState G) (id : ℕ) : ℕ :=
  s.setEnabledCalls.countP (fun x => x.1 = id) +
    s.writes.pool.count none (fun req => req.userData = id) + s.passports.unanswered id +
    s.cardReqs.countP fun x => x.2 = id

/-- No call of a request is under way. -/
def Idle (s : ServiceState G) : Prop :=
  s.setEnabledCalls = [] ∧ s.writes.pool.calls = [] ∧ s.passports.pool.calls = [] ∧
    s.cards.calls.Idle

end ServiceState

/-! ## The invariant -/

/-- The invariant of every run, in the middle of a step: the messages `owed` have arrived, and
nothing has been done for them yet. -/
structure ServiceInv (owed : List ℕ) (s : ServiceState G) : Prop where
  writesTag : s.writes.tag = s.adapter.client.tag
  passportsTag : s.passports.tag = s.adapter.client.tag
  opened : s.passports.closed = false
  writes : ∃ h, ServedInv h s.writes
  passports : PassportsInv s.passports
  reads : ∃ asked, Balanced s.passports asked
  cards : CardsAccount (s.cardReqs.map Prod.fst) s.cards
  served : s.ended = false → ∀ id, s.repliesTo id + s.held id + owed.count id = s.receivedOf id

theorem serviceInv_create : ServiceInv [] (nfcServiceCreate : ServiceState G) where
  writesTag := rfl
  passportsTag := rfl
  opened := rfl
  writes := ⟨_, servedInv_init⟩
  passports := passportsInv_init
  reads := ⟨[], fun _ => rfl⟩
  cards := ⟨List.Perm.refl _, List.nodup_nil, fun _ h => nomatch h⟩
  served := fun _ _ => rfl

/-- The parts of a state that has not ended. -/
theorem not_ended {s : ServiceState G} (h : s.ended = false) :
    s.aborted = false ∧ s.writes.aborted = false ∧ s.passports.died = none ∧
      s.cards.usedFreed = false ∧ s.adapter.client.tag.fault = false := by
  unfold ServiceState.ended at h
  simp only [Bool.or_eq_false_iff, Option.isSome_eq_false_iff, Option.isNone_iff_eq_none] at h
  obtain ⟨⟨⟨⟨h₁, h₂⟩, h₃⟩, h₄⟩, h₅⟩ := h
  exact ⟨h₁, h₂, h₃, h₄, h₅⟩

/-- The entry of a key in a table without repetitions, and the others. -/
theorem lookup_of_nodup {table : List (ℕ × ℕ)} (h : (table.map Prod.fst).Nodup) {x : ℕ × ℕ}
    (hx : x ∈ table) :
    ∃ value, table.lookup x.1 = some value ∧
      table.Perm ((x.1, value) :: table.filter fun y => y.1 ≠ x.1) := by
  induction table with
  | nil => cases hx
  | cons y table ih =>
    obtain ⟨hy, hnodup⟩ := List.nodup_cons.mp h
    by_cases hkey : x.1 = y.1
    · refine ⟨y.2, by rw [hkey, List.lookup_cons_self], ?_⟩
      have hrest : (table.filter fun z => z.1 ≠ x.1) = table := by
        rw [List.filter_eq_self]
        intro z hz
        simp only [ne_eq, decide_not, Bool.not_eq_eq_eq_not, Bool.not_true,
          decide_eq_false_iff_not, hkey]
        intro heq
        exact hy (heq ▸ List.mem_map_of_mem hz)
      rw [List.filter_cons_of_neg (by simp [hkey]), hrest, hkey]
    · have hmem : x ∈ table := by
        rcases List.mem_cons.mp hx with rfl | hx
        · exact absurd rfl hkey
        · exact hx
      obtain ⟨value, hlookup, hperm⟩ := ih hnodup hmem
      refine ⟨value, ?_, ?_⟩
      · rw [List.lookup_cons, beq_false_of_ne hkey]
        exact hlookup
      · rw [List.filter_cons_of_pos (by simpa using Ne.symm hkey)]
        exact (hperm.cons y).trans (List.Perm.swap _ _ _)

/-! ## What a handler asks for -/

/-- The outcome is about the message `id`. -/
def LunaOutcome.For (id : ℕ) : LunaOutcome → Prop
  | .write e => e.request.map Prod.snd = some id ∧ ∀ e', e ≠ .tag e'
  | .passport e => e.request = some id ∧ e.OfReads
  | .card e => (∃ request exported, e = .add request exported) ∨ (∃ aid, e = .remove aid) ∨
      e = .clear
  | .reply _ | .setEnabled _ | .abort => True

theorem withParsed_for {payload : Option Value} {f : Value → LunaOutcome} {id : ℕ}
    (h : ∀ obj, (f obj).For id) : (withParsed payload f).For id := by
  unfold withParsed
  split
  · trivial
  · exact h _

/-- Every handler asks for something on behalf of its own message. -/
theorem handle_for (longBits : ℕ) (s : ServiceState G) (m : LunaMessage) (exported : Bool) :
    (s.handle longBits m exported).For m.id := by
  unfold ServiceState.handle
  cases m.method with
  | getStatus | getTagInfo | getCardEmulationEvent => trivial
  | setEnabled =>
    apply withParsed_for
    intro obj
    split <;> trivial
  | writeTag =>
    apply withParsed_for
    intro obj
    split
    · trivial
    · trivial
    · exact ⟨rfl, by simp⟩
  | lockTag => exact ⟨rfl, by simp⟩
  | cloneTag =>
    apply withParsed_for
    intro obj
    unfold serviceCloneTagCb
    cases ndefHexToBytes (getStringParam (jobjectGet obj "rawDataHex")) with
    | none => trivial
    | some rawData => exact ⟨rfl, by simp⟩
  | readPassport =>
    apply withParsed_for
    intro obj
    dsimp only
    split
    · exact ⟨rfl, trivial⟩
    · trivial
  | readPassportPACE =>
    apply withParsed_for
    intro obj
    split
    · exact ⟨rfl, trivial⟩
    · trivial
  | addCardEmulationProfile =>
    apply withParsed_for
    intro obj
    rcases haid : ndefHexToBytes (getStringParam (jobjectGet obj "aidHex")) with _ | aid <;>
      simp only [CardEvent.toClient, haid, Option.map_none, Option.map_some]
    · trivial
    · exact Or.inl ⟨_, _, rfl⟩
  | removeCardEmulationProfile =>
    apply withParsed_for
    intro obj
    rcases haid : ndefHexToBytes (getStringParam (jobjectGet obj "aidHex")) with _ | aid <;>
      simp only [CardEvent.toClient, haid, Option.map_none, Option.map_some]
    · trivial
    · exact Or.inr (Or.inl ⟨_, rfl⟩)
  | clearCardEmulation => exact Or.inr (Or.inr rfl)

/-- A removal is answered at once. -/
theorem report_remove (s : HceState) (aid : Bytes) :
    ∃ report, s.report (.remove aid) = some report := by
  show ∃ report, (nfcdClientRemoveCardEmulationProfile s aid).2 = some report
  unfold nfcdClientRemoveCardEmulationProfile
  split
  · exact ⟨_, rfl⟩
  · split <;> exact ⟨_, rfl⟩

namespace ServiceInv

variable {owed : List ℕ} {s : ServiceState G}

/-- A message arrives. -/
theorem arrive (h : ServiceInv [] s) (m : LunaMessage) :
    ServiceInv [m.id] { s with received := s.received ++ [m] } := by
  refine ⟨h.writesTag, h.passportsTag, h.opened, h.writes, h.passports, h.reads, h.cards, ?_⟩
  intro hend id
  have hserved := h.served hend id
  simp only [ServiceState.repliesTo, ServiceState.held, ServiceState.receivedOf,
    List.countP_append, List.countP_singleton, List.count_singleton, List.count_nil] at hserved ⊢
  simp only [beq_iff_eq, decide_eq_true_eq]
  omega

/-- It is replied to. -/
theorem reply {id : ℕ} (h : ServiceInv [id] s) (obj : Object) : ServiceInv [] (s.reply id obj) := by
  refine ⟨h.writesTag, h.passportsTag, h.opened, h.writes, h.passports, h.reads, h.cards, ?_⟩
  intro hend j
  have hserved := h.served hend j
  simp only [ServiceState.reply, ServiceState.repliesTo, ServiceState.held,
    ServiceState.receivedOf, List.countP_append, List.countP_singleton, List.count_singleton,
    List.count_nil] at hserved ⊢
  simp only [beq_iff_eq, decide_eq_true_eq] at hserved ⊢
  omega

/-- The program ends. -/
theorem abort (h : ServiceInv owed s) : ServiceInv [] { s with aborted := true } :=
  ⟨h.writesTag, h.passportsTag, h.opened, h.writes, h.passports, h.reads, h.cards,
    fun hend => nomatch hend⟩

/-- **The write and lock requests** take a step. -/
theorem withWrites {e : WriteEvent} (h : ServiceInv (e.request.map Prod.snd).toList s)
    (hlive : s.ended = false) (he : ∀ e', e ≠ .tag e') :
    ServiceInv [] (s.withWrites (writeStep mismatch glib s.writes e)) := by
  obtain ⟨history, hwrites⟩ := h.writes
  refine ⟨(hwrites.tag_writeStep he).trans h.writesTag, h.passportsTag, h.opened,
    ⟨_, hwrites.step e⟩, h.passports, h.reads, h.cards, ?_⟩
  intro hend id
  have ha : (writeStep mismatch glib s.writes e).aborted = false := (not_ended hend).2.1
  obtain ⟨new, hnew, haccount⟩ := hwrites.account e (not_ended hlive).2.1 ha
  have hserved := h.served hlive id
  have hpart := haccount id
  have hreplies : (new.map fun a => (a.userData, s.writeReply a)).countP (fun r => r.1 = id)
      = new.countP fun a => a.userData = id := List.countP_map
  simp only [ServiceState.withWrites, ServiceState.repliesTo, ServiceState.held,
    ServiceState.receivedOf, hnew, List.drop_left, List.countP_append, hreplies,
    List.count_nil] at hserved ⊢
  omega

/-- **The passport reads** take a step. -/
theorem withPassports {e : PassportsEvent} (h : ServiceInv e.request.toList s)
    (hlive : s.ended = false) (he : e.OfReads) :
    ServiceInv [] (s.withPassports (passportsStep env glib s.passports e)) := by
  obtain ⟨asked, hreads⟩ := h.reads
  obtain ⟨htag, hclosed⟩ := frame_passportsStep env glib s.passports he
  refine ⟨h.writesTag, htag.trans h.passportsTag, hclosed.trans h.opened, h.writes,
    h.passports.step e, ⟨_, hreads.step h.passports e⟩, h.cards, ?_⟩
  intro hend id
  obtain ⟨new, hnew, hresults, haccount⟩ := hreads.account env glib h.passports e
  have hserved := h.served hlive id
  have hpart := haccount id
  have hasked : passportAsked s.passports e = e.request := by
    rw [passportAsked, (not_ended hlive).2.2.1, h.opened]
    simp
  rw [hasked] at hpart
  have hreplies := countP_passportReplies hresults id
  simp only [ServiceState.withPassports, ServiceState.repliesTo, ServiceState.held,
    ServiceState.receivedOf, hnew, List.drop_left, List.countP_append, hreplies,
    List.count_nil] at hserved ⊢
  omega

/-- A step of card emulation that leaves the messages that wait where they are. -/
theorem withCards {cards : HceState} (h : ServiceInv owed s) (hlive : s.ended = false)
    (hcards : CardsAccount (s.cardReqs.map Prod.fst) cards) :
    ServiceInv owed { s with cards := cards } :=
  ⟨h.writesTag, h.passportsTag, h.opened, h.writes, h.passports, h.reads, hcards,
    fun _ => h.served hlive⟩

/-- **A card-emulation request**: answered, or one message more that waits. -/
theorem cardRequest {id : ℕ} (h : ServiceInv [id] s) (hlive : s.ended = false) {e : HceEvent}
    (he : (∃ report, s.cards.report e = some report ∧
        CardsAccount (s.cardReqs.map Prod.fst) (s.cards.step e)) ∨
      (s.cards.report e = none ∧
        CardsAccount (s.cardReqs.map Prod.fst ++ [(s.cards.step e).calls.next - 1])
          (s.cards.step e))) :
    ServiceInv [] (s.cardRequest e id) := by
  unfold ServiceState.cardRequest
  rcases he with ⟨report, hreport, hcards⟩ | ⟨hreport, hcards⟩
  · rw [hreport]
    exact (h.withCards hlive hcards).reply _
  · rw [hreport]
    refine ⟨h.writesTag, h.passportsTag, h.opened, h.writes, h.passports, h.reads, ?_, ?_⟩
    · rw [List.map_append]
      exact hcards
    · intro _ j
      have hserved := h.served hlive j
      simp only [ServiceState.repliesTo, ServiceState.held, ServiceState.receivedOf,
        List.countP_append, List.countP_singleton, List.count_singleton,
        List.count_nil] at hserved ⊢
      simp only [beq_iff_eq, decide_eq_true_eq] at hserved ⊢
      omega

/-- **An answer to a card-emulation call**: the message that waits for it is replied to. -/
theorem cardDeliver (h : ServiceInv [] s) (hlive : s.ended = false) (i : ℕ) :
    ServiceInv [] (s.cardDeliver i) := by
  unfold ServiceState.cardDeliver
  rcases h.cards.deliver i with ⟨n, c, r, report, hi, hreport, hmem, hcards⟩ | ⟨hreport, hcards⟩
  · rw [hreport, hi]
    obtain ⟨x, hx, rfl⟩ := List.mem_map.mp hmem
    obtain ⟨id, hlookup, hperm⟩ := lookup_of_nodup h.cards.nodup hx
    simp only [hlookup]
    have hwaits : ServiceInv [id] { s with
        cards := s.cards.step (.deliver i)
        cardReqs := s.cardReqs.filter fun y => y.1 ≠ x.1 } := by
      refine ⟨h.writesTag, h.passportsTag, h.opened, h.writes, h.passports, h.reads, ?_, ?_⟩
      · rw [List.filter_map] at hcards
        exact hcards
      · intro _ j
        have hserved := h.served hlive j
        have hcount := hperm.countP_eq fun y => y.2 = j
        simp only [ServiceState.repliesTo, ServiceState.held, ServiceState.receivedOf,
          List.countP_cons, List.count_singleton, List.count_nil] at hserved hcount ⊢
        simp only [beq_iff_eq, decide_eq_true_eq] at hserved hcount ⊢
        omega
    exact hwaits.reply _
  · rw [hreport]
    exact h.withCards hlive hcards

/-- **`setEnabled`.** -/
theorem setEnabled {id : ℕ} (h : ServiceInv [id] s) (enabled : Bool) :
    ServiceInv [] (s.nfcdClientSetEnabled enabled id) := by
  unfold ServiceState.nfcdClientSetEnabled
  split
  · exact h.reply _
  · refine ⟨h.writesTag, h.passportsTag, h.opened, h.writes, h.passports, h.reads, h.cards, ?_⟩
    intro hend j
    have hserved := h.served hend j
    simp only [ServiceState.repliesTo, ServiceState.held, ServiceState.receivedOf,
      List.countP_append, List.countP_singleton, List.count_singleton,
      List.count_nil] at hserved ⊢
    simp only [beq_iff_eq, decide_eq_true_eq] at hserved ⊢
    omega

theorem setEnabledReady (h : ServiceInv [] s) (i : ℕ) (error : Option String) :
    ServiceInv [] (s.setEnabledReady i error) := by
  unfold ServiceState.setEnabledReady
  split
  · exact h
  · next id enabled hi =>
    have hwaits : ServiceInv [id]
        { s with setEnabledCalls := s.setEnabledCalls.eraseIdx i } := by
      refine ⟨h.writesTag, h.passportsTag, h.opened, h.writes, h.passports, h.reads, h.cards, ?_⟩
      intro hend j
      have hserved := h.served hend j
      have hcount := (TaskPool.perm_cons_eraseIdx hi).countP_eq fun y => y.1 = j
      simp only [ServiceState.repliesTo, ServiceState.held, ServiceState.receivedOf,
        List.countP_cons, List.count_singleton, List.count_nil] at hserved hcount ⊢
      simp only [beq_iff_eq, decide_eq_true_eq] at hserved hcount ⊢
      omega
    exact hwaits.reply _

/-- **The side of nfcd and its adapter**: no request is made or ended there. -/
theorem adapterEvent (h : ServiceInv [] s) (hlive : s.ended = false) (e : AdapterEvent) :
    ServiceInv [] (s.adapterEvent env mismatch glib e) := by
  obtain ⟨history, hwrites⟩ := h.writes
  obtain ⟨asked, hreads⟩ := h.reads
  obtain ⟨-, hwritesLive, hdied, -, -⟩ := not_ended hlive
  have hnews := tagStep_tagNews glib s.adapter e
  generalize hnewsDef : e.tagNews (adapterStep glib s.adapter e) = news at hnews
  have hwritesStep : writeStep mismatch glib s.writes (.tag news)
      = { s.writes with tag := tagStep glib s.writes.tag news } := by
    simp [writeStep, hwritesLive]
  obtain ⟨htag, hclosed, hunanswered⟩ :=
    tag_passportsStep env glib s.passports news hdied h.opened
  have hcards : CardsAccount (s.cardReqs.map Prod.fst)
      ((s.adapter.cardNews e).elim s.cards s.cards.step) := by
    cases e with
    | daemonAppeared => exact h.cards.appear
    | daemonVanished => exact h.cards.vanish
    | complete i reply =>
      cases reply with
      | proxy =>
        simp only [AdapterState.cardNews]
        split
        · exact h.cards.proxyReady
        · exact h.cards
      | _ => exact h.cards
    | _ => exact h.cards
  have hwritesNext : ServedInv (noteWrite mismatch glib history s.writes (.tag news))
      (writeStep mismatch glib s.writes (.tag news)) := hwrites.step (.tag news)
  unfold ServiceState.adapterEvent
  simp only [hnewsDef]
  refine ⟨?_, ?_, hclosed, ⟨_, hwritesNext⟩, h.passports.step _,
    ⟨_, hreads.step h.passports _⟩, hcards, ?_⟩
  · rw [hwritesStep, h.writesTag]
    exact hnews
  · rw [htag, h.passportsTag]
    exact hnews
  · intro hend id
    have hserved := h.served hlive id
    simp only [ServiceState.repliesTo, ServiceState.held, ServiceState.receivedOf, hwritesStep,
      hunanswered] at hserved ⊢
    exact hserved

/-- **A message**: whatever its method makes of it, it is replied to or held. -/
theorem receive (h : ServiceInv [] s) (hlive : s.ended = false) (m : LunaMessage)
    (exported : Bool) : ServiceInv [] (s.receive longBits env mismatch glib m exported) := by
  have harrived := h.arrive m
  have hfor := handle_for longBits s m exported
  unfold ServiceState.receive
  generalize s.handle longBits m exported = outcome at hfor
  cases outcome with
  | reply obj => exact harrived.reply obj
  | setEnabled enabled => exact harrived.setEnabled enabled
  | write e =>
    obtain ⟨hrequest, htag⟩ := hfor
    refine withWrites ?_ hlive htag
    rw [hrequest]
    exact harrived
  | passport e =>
    obtain ⟨hrequest, hreads⟩ := hfor
    refine withPassports ?_ hlive hreads
    rw [hrequest]
    exact harrived
  | card e =>
    refine harrived.cardRequest hlive ?_
    rcases hfor with ⟨request, exported, rfl⟩ | ⟨aid, rfl⟩ | rfl
    · exact h.cards.add request exported
    · obtain ⟨report, hreport⟩ := report_remove s.cards aid
      exact Or.inl ⟨report, hreport, h.cards.remove aid⟩
    · exact Or.inl ⟨_, rfl, h.cards.clear⟩
  | abort => exact harrived.abort

/-- The readers' side takes part in no request. -/
theorem readers (h : ServiceInv [] s) (responseIds : ℕ → UInt32)
    (responses : List (ℕ × HceResponse)) (hceEvent : Option (String × Bool))
    (posts : List (LunaMethod × Object)) :
    ServiceInv [] { s with
      responseIds := responseIds, responses := responses, hceEvent := hceEvent, posts := posts } :=
  ⟨h.writesTag, h.passportsTag, h.opened, h.writes, h.passports, h.reads, h.cards, h.served⟩

/-- **One step.** -/
theorem step (h : ServiceInv [] s) (e : ServiceEvent) :
    ServiceInv [] (serviceStep longBits env mismatch glib s e) := by
  unfold serviceStep
  split
  · exact h
  · next hended =>
    have hlive : s.ended = false := by simpa using hended
    cases e with
    | message m exported => exact h.receive hlive m exported
    | adapter e => exact h.adapterEvent hlive e
    | setEnabledReady i error => exact h.setEnabledReady i error
    | write i reply =>
      exact withWrites (e := .complete i reply) h hlive (by simp)
    | passport i e => exact withPassports (e := .complete i e) h hlive trivial
    | nfcdAcquire k grant => exact withPassports (e := .nfcdAcquire k grant) h hlive trivial
    | passportCleanup i => exact withPassports (e := .cleanup i) h hlive trivial
    | cardServe error => exact h.withCards hlive (h.cards.serve error)
    | cardDeliver i => exact h.cardDeliver hlive i
    | process pointer ins =>
      show ServiceInv [] (s.process pointer ins)
      unfold ServiceState.process
      split
      · exact h
      · exact h.readers _ _ _ _
    | responseStatus pointer ok =>
      show ServiceInv [] (s.responseStatus pointer ok)
      unfold ServiceState.responseStatus
      split
      · exact h
      · exact h.readers _ _ _ _

end ServiceInv

/-! ## What has been received -/

/-- The message that a step receives. -/
def ServiceState.arrival (s : ServiceState G) (e : ServiceEvent) : Option LunaMessage :=
  if s.ended then none
  else
    match e with
    | .message m _ => some m
    | _ => none

/-- **A message that arrives is received**, and what has been received stays. -/
theorem received_serviceStep (longBits : ℕ) (env : PassportEnv G P) (mismatch : String)
    (glib : GlibText) (s : ServiceState G) (e : ServiceEvent) :
    (serviceStep longBits env mismatch glib s e).received
      = s.received ++ (s.arrival e).toList := by
  have hstay : s.received = s.received ++ (none : Option LunaMessage).toList :=
    (List.append_nil s.received).symm
  unfold serviceStep ServiceState.arrival
  split
  · exact hstay
  · cases e with
    | message m exported =>
      dsimp only [ServiceState.receive]
      cases s.handle longBits m exported with
      | setEnabled enabled =>
        dsimp only [ServiceState.nfcdClientSetEnabled]
        split <;> rfl
      | card e =>
        dsimp only [ServiceState.cardRequest]
        split <;> rfl
      | _ => rfl
    | setEnabledReady i error =>
      dsimp only [ServiceState.setEnabledReady]
      split <;> exact hstay
    | cardDeliver i =>
      dsimp only [ServiceState.cardDeliver]
      split
      · split <;> exact hstay
      · exact hstay
    | process pointer ins =>
      dsimp only [ServiceState.process]
      split <;> exact hstay
    | responseStatus pointer ok =>
      dsimp only [ServiceState.responseStatus]
      split <;> exact hstay
    | _ => exact hstay

/-! ## Every run -/

/-- The service after the events `es`. -/
def serviceRun (longBits : ℕ) (env : PassportEnv G P) (mismatch : String) (glib : GlibText)
    (es : List ServiceEvent) : ServiceState G :=
  run (serviceStep longBits env mismatch glib) nfcServiceCreate es

theorem serviceRun_inv (longBits : ℕ) (env : PassportEnv G P) (mismatch : String)
    (glib : GlibText) (es : List ServiceEvent) :
    ServiceInv [] (serviceRun longBits env mismatch glib es) :=
  invariant (ServiceInv []) (fun _ e h => h.step e) serviceInv_create es

/-- Where no call is under way, no message is held. -/
theorem ServiceInv.held_of_idle {s : ServiceState G} (h : ServiceInv [] s) (hlive : s.ended = false)
    (hidle : s.Idle) (id : ℕ) : s.held id = 0 := by
  obtain ⟨hset, hwrites, hreads, hqueue, hreplies⟩ := hidle
  have hcards : s.cardReqs = [] := by
    have hperm := h.cards.perm
    rw [Channel.pending, hqueue, hreplies] at hperm
    exact List.map_eq_nil_iff.mp hperm.eq_nil
  have hunanswered : s.passports.unanswered id = 0 := by
    rw [PassportsState.unanswered, (not_ended hlive).2.2.1]
    exact Pool.count_of_idle hreads
  rw [ServiceState.held, hset, hcards, Pool.count_of_idle hwrites, hunanswered]
  rfl

/-- What the service owes its messages. -/
structure AnsweredOnce (s : ServiceState G) : Prop where
  /-- A message has been replied to, or a request with a call under way holds it, and never
  both. -/
  accounted : ∀ id, s.repliesTo id + s.held id = s.receivedOf id
  /-- When nothing is under way any more, every message has its one reply. -/
  settled : s.Idle → ∀ id, s.repliesTo id = s.receivedOf id

/-- **Every message is answered once**, in every run that has not ended. -/
theorem every_message_is_answered_once (longBits : ℕ) (env : PassportEnv G P) (mismatch : String)
    (glib : GlibText) (es : List ServiceEvent)
    (hlive : (serviceRun longBits env mismatch glib es).ended = false) :
    AnsweredOnce (serviceRun longBits env mismatch glib es) := by
  have hinv := serviceRun_inv longBits env mismatch glib es
  have haccounted : ∀ id, (serviceRun longBits env mismatch glib es).repliesTo id +
      (serviceRun longBits env mismatch glib es).held id
        = (serviceRun longBits env mismatch glib es).receivedOf id :=
    fun id => hinv.served hlive id
  refine ⟨haccounted, fun hidle id => ?_⟩
  have hheld := hinv.held_of_idle hlive hidle id
  have hall := haccounted id
  omega

/-- A badge is registered while other messages come: a lock without a tag, a payload that does
not parse, and a write that is missing its text. -/
def badgeSession : List ServiceEvent :=
  [.adapter .daemonAppeared, .adapter (.complete 0 .proxy),
    .message ⟨1, .addCardEmulationProfile, some (.object [("aidHex", .string (text "F001"))]), none⟩
      true,
    .message ⟨2, .lockTag, none, none⟩ true, .cardServe none,
    .message ⟨3, .setEnabled, none, none⟩ true, .cardServe none,
    .message ⟨4, .writeTag, some (.object [("type", .string (text "text"))]), none⟩ true,
    .cardDeliver 1, .message ⟨5, .getStatus, none, some true⟩ true, .cardDeliver 0]

theorem every_message_is_answered_once_badge :
    AnsweredOnce (serviceRun 64 specimenEnv "mismatch" asciiGlib badgeSession) :=
  every_message_is_answered_once 64 specimenEnv "mismatch" asciiGlib badgeSession
    (by decide +kernel)

end NfcAdapter
