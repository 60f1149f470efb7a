/-
# Every write and lock request is answered once

Each request holds a conversation with nfcd: a call, its reply, the next call.  The
invariant of all runs says which conversations there are at each call under way and how
each of them ends; that a request is answered once, releases what it acquired and
succeeds exactly when the tag took what it was sent is read off the conversation.
-/
import NfcAdapter.Runs
import NfcAdapter.TagWrite

namespace NfcAdapter

open Runs
open TaskPool (Pool)

/-! ## The history of a run -/

/-- The requests made (by user data), those accepted with what they are for, the calls
that have ended with their replies, and the callbacks that have run.  A callback run while
its request is being made has no request number. -/
structure WriteHistory where
  asked : List ℕ
  accepted : List (ℕ × WriteKind × ℕ)
  ended : List (ℕ × WriteCall × WriteReply)
  answered : List (Option ℕ × WriteAnswer)

/-- Nothing has happened. -/
def WriteHistory.empty : WriteHistory := ⟨[], [], [], []⟩

/-- What a request asks for, where it can be sent to a tag, and its user data. -/
def WriteEvent.request : WriteEvent → Option (Option WriteKind × ℕ)
  | .writeTag message userData =>
    some ((ndefWrapType2Tlv message).join.map WriteKind.write, userData)
  | .cloneTag rawData userData => some (rawData.map WriteKind.write, userData)
  | .lockTag userData => some (some .lock, userData)
  | .tag _ | .complete _ _ => none

variable (mismatch : String) (glib : GlibText)

/-- What a step adds to the history; the callbacks it ran are the new answers. -/
def noteWrite (h : WriteHistory) (s : WriteState) (e : WriteEvent) : WriteHistory :=
  let s' := writeStep mismatch glib s e
  let new := s'.answers.drop s.answers.length
  if s.aborted then h
  else
    match e.request with
    | some (kind, userData) =>
      { h with
        asked := h.asked ++ [userData]
        accepted := h.accepted ++
          if s'.pool.next = s.pool.next then [] else kind.toList.map (s.pool.next, ·, userData)
        answered := h.answered ++ new.map (none, ·) }
    | none =>
      match e with
      | .complete i reply =>
        match s.pool.calls[i]? with
        | none => h
        | some (id, call) =>
          { h with
            ended := h.ended ++ [(id, call, reply)]
            answered := h.answered ++ new.map (some id, ·) }
      | _ => h

/-- The conversation of the request `id`. -/
def WriteHistory.said (h : WriteHistory) (id : ℕ) : List (WriteCall × WriteReply) :=
  (h.ended.filter fun x => x.1 = id).map Prod.snd

/-- The calls the request `id` has made. -/
def WriteState.sentBy (s : WriteState) (id : ℕ) : List WriteCall :=
  (s.sent.filter fun x => x.1 = id).map Prod.snd

/-- The call gives the tag back. -/
def WriteCall.isRelease : WriteCall → Bool
  | .release _ => true
  | _ => false

namespace WriteHistory

/-- The Acquire of the request `id` was answered with success. -/
def Acquired (h : WriteHistory) (id : ℕ) : Prop := ∃ path, (id, .acquire path, .ok) ∈ h.ended

/-- The Release of the request `id` was answered. -/
def Released (h : WriteHistory) (id : ℕ) : Prop :=
  ∃ path reply, (id, .release path, reply) ∈ h.ended

/-- The callback of the accepted request `id` has run. -/
def Answered (h : WriteHistory) (id : ℕ) : Prop := ∃ a, (some id, a) ∈ h.answered

theorem mem_said {h : WriteHistory} {id : ℕ} {x : WriteCall × WriteReply} :
    x ∈ h.said id ↔ (id, x) ∈ h.ended := by
  simp [said]

theorem acquired_iff {h : WriteHistory} {id : ℕ} :
    h.Acquired id ↔ ∃ path, (.acquire path, .ok) ∈ h.said id := by
  simp only [mem_said, Acquired]

theorem released_iff {h : WriteHistory} {id : ℕ} :
    h.Released id ↔ ∃ path reply, (.release path, reply) ∈ h.said id := by
  simp only [mem_said, Released]

end WriteHistory

theorem mem_sentBy {s : WriteState} {id : ℕ} {call : WriteCall} :
    call ∈ s.sentBy id ↔ (id, call) ∈ s.sent := by
  simp [WriteState.sentBy]

/-! ## Conversations -/

/-- What is said between the Acquire and the Release, and whether the tag took what it was
sent. -/
inductive Worked : WriteKind → List (WriteCall × WriteReply) → Bool → Prop
  | noProxy {kind : WriteKind} {path : Option String} {reply : WriteReply} (h : reply ≠ .ok) :
    Worked kind [(.type2Proxy path, reply)] false
  | wrote {data : Bytes} {path : Option String} {reply : WriteReply} :
    Worked (.write data) [(.type2Proxy path, .ok), (.writeData path 0 data, reply)]
      (reply = .written data.length)
  | noRead {path : Option String} {reply : WriteReply}
    (h : ∀ b₀ b₁ b₂ b₃, reply ≠ .data [b₀, b₁, b₂, b₃]) :
    Worked .lock [(.type2Proxy path, .ok), (.read path 0 2, reply)] false
  | locked {path : Option String} {b₀ b₁ b₂ b₃ : UInt8} {reply : WriteReply} :
    Worked .lock [(.type2Proxy path, .ok), (.read path 0 2, .data [b₀, b₁, b₂, b₃]),
      (.write path 0 2 [b₀, b₁, 0xFF, 0xFF], reply)] (reply = .written 4)

/-- The replies that give a request the tag. -/
def opening (path : Option String) : List (WriteCall × WriteReply) :=
  [(.tagProxy path, .ok), (.acquire path, .ok)]

/-- What the callback of the Release reports. -/
def WriteReq.success (req : WriteReq) : Bool :=
  match req.kind with
  | .write _ => req.written
  | .lock => req.errorText.isNone

/-- The request has nothing to report yet. -/
def WriteReq.Blank (req : WriteReq) : Prop := req.written = false ∧ req.errorText = none

/-- The conversation of a request whose call `call` is under way. -/
def Talking (req : WriteReq) (conv : List (WriteCall × WriteReply)) : WriteCall → Prop
  | .tagProxy _ => req.Blank ∧ conv = []
  | .acquire path => req.Blank ∧ conv = [(.tagProxy path, .ok)]
  | .type2Proxy _ => req.Blank ∧ ∃ p, conv = opening p
  | .writeData path offset data => req.kind = .write data ∧ offset = 0 ∧
    ∃ p, conv = opening p ++ [(.type2Proxy path, .ok)]
  | .read path sector block => req.kind = .lock ∧ req.Blank ∧ sector = 0 ∧ block = 2 ∧
    req.type2 = path ∧ ∃ p, conv = opening p ++ [(.type2Proxy path, .ok)]
  | .write path sector block data => req.kind = .lock ∧ req.Blank ∧ sector = 0 ∧ block = 2 ∧
    ∃ p b₀ b₁ b₂ b₃, data = [b₀, b₁, 0xFF, 0xFF] ∧
      conv = opening p ++ [(.type2Proxy path, .ok), (.read path 0 2, .data [b₀, b₁, b₂, b₃])]
  | .release _ => ∃ p work, conv = opening p ++ work ∧ Worked req.kind work req.success

/-- The conversation of a request that has been answered. -/
inductive Concluded : WriteKind → List (WriteCall × WriteReply) → Bool → Prop
  | noTag {kind : WriteKind} {path : Option String} {reply : WriteReply} (h : reply ≠ .ok) :
    Concluded kind [(.tagProxy path, reply)] false
  | notAcquired {kind : WriteKind} {path : Option String} {reply : WriteReply}
    (h : reply ≠ .ok) : Concluded kind [(.tagProxy path, .ok), (.acquire path, reply)] false
  | released {kind : WriteKind} {p path : Option String} {reply : WriteReply}
    {work : List (WriteCall × WriteReply)} {success : Bool} (h : Worked kind work success) :
    Concluded kind (opening p ++ work ++ [(.release path, reply)]) success

/-! ## What a callback does with the conversation -/

/-- A request with an error text and nothing written reports a failure. -/
theorem success_of_failed {req : WriteReq} (hwritten : req.written = false) {text : String} :
    ({ req with errorText := some text } : WriteReq).success = false := by
  unfold WriteReq.success
  split
  · exact hwritten
  · rfl

/-- A write reports what its flag says. -/
theorem worked_write {req : WriteReq} {data : Bytes} (hkind : req.kind = .write data)
    {path : Option String} {reply : WriteReply}
    (hwritten : req.written = decide (reply = .written data.length)) :
    Worked req.kind [(.type2Proxy path, .ok), (.writeData path 0 data, reply)] req.success := by
  rw [WriteReq.success, hkind]
  simp only
  rw [hwritten]
  exact .wrote

/-- A lock reports whether it has an error text. -/
theorem worked_lock {req : WriteReq} (hkind : req.kind = .lock) {path : Option String}
    {b₀ b₁ b₂ b₃ : UInt8} {reply : WriteReply}
    (hnone : req.errorText.isNone = decide (reply = .written 4)) :
    Worked req.kind [(.type2Proxy path, .ok), (.read path 0 2, .data [b₀, b₁, b₂, b₃]),
      (.write path 0 2 [b₀, b₁, 0xFF, 0xFF], reply)] req.success := by
  rw [WriteReq.success, hkind]
  simp only
  rw [hnone]
  exact .locked

/-- **The callbacks.** Each goes on with a call the conversation allows, or runs the request's
callback at the end of one. -/
theorem writeCallback_cases (s : WriteState) (id : ℕ) {req : WriteReq} {call : WriteCall}
    (reply : WriteReply) {conv : List (WriteCall × WriteReply)} (h : Talking req conv call) :
    (∃ req' call', writeCallback mismatch s id req call reply = s.await id req' call' ∧
      req'.kind = req.kind ∧ req'.userData = req.userData ∧
      Talking req' (conv ++ [(call, reply)]) call') ∨
    ∃ success text, writeCallback mismatch s id req call reply =
        writeReqFinish s id req success text ∧
      Concluded req.kind (conv ++ [(call, reply)]) success := by
  cases call with
  | tagProxy path =>
    obtain ⟨hblank, rfl⟩ := h
    rcases writeTagProxyReady_cases mismatch s id req path reply with ⟨rfl, heq⟩ | ⟨hno, text, heq⟩
    · exact Or.inl ⟨_, _, heq, rfl, rfl, hblank, rfl⟩
    · exact Or.inr ⟨_, _, heq, .noTag hno⟩
  | acquire path =>
    obtain ⟨hblank, rfl⟩ := h
    rcases acquireReady_cases mismatch s id req reply with ⟨rfl, heq⟩ | ⟨hno, text, heq⟩
    · exact Or.inl ⟨_, _, heq, rfl, rfl, hblank, path, rfl⟩
    · exact Or.inr ⟨_, _, heq, .notAcquired hno⟩
  | type2Proxy path =>
    obtain ⟨hblank, p, rfl⟩ := h
    left
    rcases type2ProxyReady_cases mismatch s id req path reply with
      ⟨rfl, data, hkind, heq⟩ | ⟨rfl, hkind, heq⟩ | ⟨hno, text, heq⟩
    · exact ⟨_, _, heq, rfl, rfl, hkind, rfl, p, rfl⟩
    · exact ⟨_, _, heq, rfl, rfl, hkind, hblank, rfl, rfl, rfl, p, rfl⟩
    · refine ⟨_, _, heq, rfl, rfl, p, _, rfl, ?_⟩
      rw [success_of_failed hblank.1]
      exact .noProxy hno
  | writeData path offset data =>
    obtain ⟨hkind, rfl, p, rfl⟩ := h
    left
    rcases writeDataReady_cases mismatch s id req data reply with ⟨rfl, heq⟩ | ⟨hno, text, heq⟩
    · refine ⟨_, _, heq, rfl, rfl, p, _, rfl, ?_⟩
      apply worked_write
      · exact hkind
      · simp
    · refine ⟨_, _, heq, rfl, rfl, p, _, rfl, ?_⟩
      apply worked_write
      · exact hkind
      · simp [hno]
  | read path sector block =>
    obtain ⟨hkind, hblank, rfl, rfl, htype2, p, rfl⟩ := h
    left
    rcases lockReadReady_cases mismatch s id req reply with
      ⟨b₀, b₁, b₂, b₃, rfl, heq⟩ | ⟨hno, text, heq⟩
    · rw [htype2] at heq
      exact ⟨_, _, heq, rfl, rfl, hkind, hblank, rfl, rfl, p, b₀, b₁, b₂, b₃, rfl, rfl⟩
    · refine ⟨_, _, heq, rfl, rfl, p, _, rfl, ?_⟩
      rw [success_of_failed hblank.1]
      simp only [hkind]
      exact .noRead hno
  | write path sector block data =>
    obtain ⟨hkind, hblank, rfl, rfl, p, b₀, b₁, b₂, b₃, rfl, rfl⟩ := h
    left
    rcases lockWriteReady_cases mismatch s id req reply with ⟨rfl, heq⟩ | ⟨hno, text, heq⟩
    · refine ⟨_, _, heq, rfl, rfl, p, _, rfl, ?_⟩
      apply worked_lock
      · exact hkind
      · simp [hblank.2]
    · refine ⟨_, _, heq, rfl, rfl, p, _, rfl, ?_⟩
      apply worked_lock
      · exact hkind
      · simp [hno]
  | release path =>
    obtain ⟨p, work, rfl, hwork⟩ := h
    refine Or.inr ⟨req.success, req.errorText, ?_, .released hwork⟩
    unfold WriteReq.success
    cases hkind : req.kind <;>
      simp only [writeCallback, hkind, writeReleaseReady, lockReleaseReady]

/-! ## What a request event does -/

/-- **The requests.** Each is refused at once, ends the program, or is accepted. -/
theorem request_cases {s : WriteState} {e : WriteEvent} {kind : Option WriteKind} {userData : ℕ}
    (he : e.request = some (kind, userData)) (ha : s.aborted = false) :
    (∃ text, writeStep mismatch glib s e = s.answer userData false text) ∨
    writeStep mismatch glib s e = { s with aborted := true } ∨
    ∃ k, kind = some k ∧ writeStep mismatch glib s e = startRequest s k userData := by
  cases e with
  | tag e => cases he
  | complete i reply => cases he
  | writeTag message u =>
    cases he
    simp only [writeStep, ha, Bool.false_eq_true, if_false]
    unfold nfcdClientWriteTag
    split
    · exact Or.inl ⟨_, rfl⟩
    · split
      · exact Or.inl ⟨_, rfl⟩
      · split
        · exact Or.inr (Or.inl rfl)
        · exact Or.inl ⟨_, rfl⟩
        · next tlv htlv =>
          refine Or.inr (Or.inr ⟨.write tlv, ?_, rfl⟩)
          rw [htlv]
          rfl
  | cloneTag rawData u =>
    cases he
    simp only [writeStep, ha, Bool.false_eq_true, if_false]
    unfold nfcdClientWriteRaw
    split
    · exact Or.inl ⟨_, rfl⟩
    · split
      · exact Or.inl ⟨_, rfl⟩
      · split
        · exact Or.inl ⟨_, rfl⟩
        · exact Or.inl ⟨_, rfl⟩
        · exact Or.inr (Or.inr ⟨_, rfl, rfl⟩)
  | lockTag u =>
    cases he
    simp only [writeStep, ha, Bool.false_eq_true, if_false]
    unfold nfcdClientLockTag
    split
    · exact Or.inl ⟨_, rfl⟩
    · split
      · exact Or.inl ⟨_, rfl⟩
      · exact Or.inr (Or.inr ⟨_, rfl, rfl⟩)

/-! ## The invariant -/

variable {mismatch glib}

/-- The invariant of every run. -/
structure ServedInv (h : WriteHistory) (s : WriteState) : Prop where
  wf : s.pool.WF none
  answers : h.answered.map Prod.snd = s.answers
  freed : h.answered.filterMap Prod.fst = s.pool.freed
  once : s.aborted = false → ∀ u, s.answers.countP (·.userData = u) +
    s.pool.count none (·.userData = u) = h.asked.count u
  refused : ∀ a, (none, a) ∈ h.answered → a.success = false
  accepted : h.accepted.map Prod.fst = List.range s.pool.next
  fresh : ∀ id, s.pool.next ≤ id → h.said id = [] ∧ s.sentBy id = []
  live : ∀ id req call, (id, call) ∈ s.pool.calls → s.pool.tasks id = some req →
    (id, req.kind, req.userData) ∈ h.accepted ∧ Talking req (h.said id) call ∧
      s.sentBy id = (h.said id).map Prod.fst ++ [call]
  done : ∀ id a, (some id, a) ∈ h.answered → ∃ kind, (id, kind, a.userData) ∈ h.accepted ∧
    Concluded kind (h.said id) a.success ∧ s.sentBy id = (h.said id).map Prod.fst

theorem servedInv_init : ServedInv .empty .init := by
  refine ⟨Pool.wf_empty, rfl, rfl, fun _ _ => rfl, ?_, rfl, fun _ _ => ⟨rfl, rfl⟩, ?_, ?_⟩ <;>
    simp [WriteHistory.empty, WriteState.init, Pool.empty]

namespace ServedInv

/-- What leaves requests, calls and answers alone. -/
theorem of_eq {h : WriteHistory} {s s' : WriteState} (hI : ServedInv h s)
    (hpool : s'.pool = s.pool) (hsent : s'.sent = s.sent) (hanswers : s'.answers = s.answers)
    (haborted : s'.aborted = s.aborted) : ServedInv h s' := by
  obtain ⟨tag, pool, sent, answers, aborted⟩ := s
  obtain ⟨tag', pool', sent', answers', aborted'⟩ := s'
  cases hpool
  cases hsent
  cases hanswers
  cases haborted
  exact ⟨hI.wf, hI.answers, hI.freed, hI.once, hI.refused, hI.accepted, hI.fresh, hI.live,
    hI.done⟩

/-- An answered request is no longer there. -/
theorem gone {h : WriteHistory} {s : WriteState} (hI : ServedInv h s) {id : ℕ} {a : WriteAnswer}
    (ha : (some id, a) ∈ h.answered) : id < s.pool.next ∧ s.pool.tasks id = none := by
  have hmem : id ∈ h.answered.filterMap Prod.fst := List.mem_filterMap.mpr ⟨_, ha, rfl⟩
  rw [hI.freed] at hmem
  exact (hI.wf.freed_iff id).mp hmem

/-- A request that is refused while it is made. -/
theorem refuse {h : WriteHistory} {s : WriteState} (hI : ServedInv h s) (userData : ℕ)
    (text : Option String) :
    ServedInv
      { h with
        asked := h.asked ++ [userData]
        answered := h.answered ++ [(none, ⟨userData, false, text⟩)] }
      (s.answer userData false text) := by
  refine ⟨hI.wf, ?_, ?_, ?_, ?_, hI.accepted, hI.fresh, hI.live, ?_⟩
  · rw [List.map_append, hI.answers]
    rfl
  · rw [List.filterMap_append, hI.freed]
    exact List.append_nil _
  · intro ha u
    have honce := hI.once ha u
    simp only [WriteState.answer, List.countP_append, List.count_append, List.countP_singleton,
      List.count_singleton, decide_eq_true_eq, beq_iff_eq]
    omega
  · intro a ha
    rcases List.mem_append.mp ha with ha | ha
    · exact hI.refused a ha
    · cases List.mem_singleton.mp ha
      rfl
  · intro id a ha
    rcases List.mem_append.mp ha with ha | ha
    · exact hI.done id a ha
    · cases List.mem_singleton.mp ha

/-- A request that ends the program. -/
theorem abort {h : WriteHistory} {s : WriteState} (hI : ServedInv h s) (userData : ℕ) :
    ServedInv { h with asked := h.asked ++ [userData] } { s with aborted := true } :=
  ⟨hI.wf, hI.answers, hI.freed, (fun ha => nomatch ha), hI.refused, hI.accepted, hI.fresh, hI.live,
    hI.done⟩

/-- A request that is accepted. -/
theorem start {h : WriteHistory} {s : WriteState} (hI : ServedInv h s) (kind : WriteKind)
    (userData : ℕ) :
    ServedInv
      { h with
        asked := h.asked ++ [userData]
        accepted := h.accepted ++ [(s.pool.next, kind, userData)] }
      (startRequest s kind userData) := by
  have hold : ∀ id, id < s.pool.next →
      (startRequest s kind userData).sentBy id = s.sentBy id := by
    intro id hid
    have hne : s.pool.next ≠ id := by omega
    simp [WriteState.sentBy, startRequest, hne]
  refine ⟨hI.wf.spawn _ _, hI.answers, hI.freed, ?_, hI.refused, ?_, ?_, ?_, ?_⟩
  · intro ha u
    have honce := hI.once ha u
    simp only [startRequest, Pool.count_spawn hI.wf, List.count_append, List.count_singleton,
      beq_iff_eq]
    by_cases hu : userData = u <;> simp [hu] <;> omega
  · rw [List.map_append, hI.accepted]
    exact List.range_succ.symm
  · intro id hid
    have hid' : s.pool.next + 1 ≤ id := hid
    have hne : s.pool.next ≠ id := by omega
    obtain ⟨hsaid, hsent⟩ := hI.fresh id (by omega)
    refine ⟨hsaid, ?_⟩
    rw [← hsent]
    simp [WriteState.sentBy, startRequest, hne]
  · intro id req call hc hr
    rcases hI.wf.spawn_cases hc hr with ⟨rfl, rfl, rfl⟩ | ⟨hne, hc, hr⟩
    · -- the number is new, so nothing was said under it
      obtain ⟨hsaid, hsent⟩ := hI.fresh s.pool.next (Nat.le_refl _)
      have hsaid' : WriteHistory.said { h with
          asked := h.asked ++ [userData]
          accepted := h.accepted ++ [(s.pool.next, kind, userData)] } s.pool.next = [] := hsaid
      refine ⟨List.mem_append_right _ (List.mem_singleton_self _), ⟨⟨rfl, rfl⟩, hsaid'⟩, ?_⟩
      rw [hsaid']
      simp only [WriteState.sentBy] at hsent
      simp [WriteState.sentBy, startRequest, hsent]
    · obtain ⟨hacc, htalk, hsent⟩ := hI.live id req call hc hr
      refine ⟨List.mem_append_left _ hacc, htalk, ?_⟩
      rw [hold id (hI.wf.lt_next hr)]
      exact hsent
  · intro id a ha
    obtain ⟨k, hacc, hconv, hsent⟩ := hI.done id a ha
    refine ⟨k, List.mem_append_left _ hacc, hconv, ?_⟩
    rw [hold id (hI.gone ha).1]
    exact hsent

/-- A callback that goes on with another call. -/
theorem await {h : WriteHistory} {s : WriteState} (hI : ServedInv h s) {i id : ℕ}
    {call call' : WriteCall} {req req' : WriteReq} {reply : WriteReply}
    (hi : s.pool.calls[i]? = some (id, call)) (ht : s.pool.tasks id = some req)
    (hkind : req'.kind = req.kind) (hdata : req'.userData = req.userData)
    (htalk : Talking req' (h.said id ++ [(call, reply)]) call') :
    ServedInv { h with ended := h.ended ++ [(id, call, reply)] }
      ({ s with pool := s.pool.take i }.await id req' call') := by
  have hmem := List.mem_of_getElem? hi
  obtain ⟨hacc, -, hsent⟩ := hI.live id req call hmem ht
  have hlt := hI.wf.lt_next ht
  -- only the conversation of this request goes on
  have hsaid : ∀ j, j ≠ id →
      WriteHistory.said { h with ended := h.ended ++ [(id, call, reply)] } j = h.said j := by
    intro j hj
    simp [WriteHistory.said, hj.symm]
  have hothers : ∀ j, j ≠ id →
      ({ s with pool := s.pool.take i }.await id req' call').sentBy j = s.sentBy j := by
    intro j hj
    simp [WriteState.sentBy, WriteState.await, hj.symm]
  have hsaid' : WriteHistory.said { h with ended := h.ended ++ [(id, call, reply)] } id
      = h.said id ++ [(call, reply)] := by
    simp [WriteHistory.said]
  refine ⟨(hI.wf.take hi).await req' call', hI.answers, hI.freed, ?_, hI.refused, hI.accepted, ?_,
    ?_, ?_⟩
  · -- the request waits again, under the same user data
    intro ha u
    have hsame : decide (req'.userData = u) = decide (req.userData = u) := by rw [hdata]
    have hcount := Pool.count_await (hI.wf.take hi) ht call'
      (f := fun r : WriteReq => decide (r.userData = u)) hsame
    rw [Pool.count_take hi] at hcount
    have honce := hI.once ha u
    rw [← hcount] at honce
    exact honce
  · intro j hj
    have hj' : s.pool.next ≤ j := hj
    have hne : j ≠ id := by omega
    rw [hsaid j hne, hothers j hne]
    exact hI.fresh j hj'
  · intro j r c hc hr
    rcases hI.wf.await_cases hi hc hr with ⟨rfl, rfl, rfl⟩ | ⟨hj, hc, hr⟩
    · rw [hsaid', hkind, hdata]
      refine ⟨hacc, htalk, ?_⟩
      rw [List.map_append, List.map_singleton, ← hsent]
      simp [WriteState.sentBy, WriteState.await]
    · rw [hsaid j hj, hothers j hj]
      exact hI.live j r c hc hr
  · intro j a ha
    have hj : j ≠ id := by
      rintro rfl
      rw [(hI.gone ha).2] at ht
      cases ht
    rw [hsaid j hj, hothers j hj]
    exact hI.done j a ha

/-- A callback that answers its request. -/
theorem finish {h : WriteHistory} {s : WriteState} (hI : ServedInv h s) {i id : ℕ}
    {call : WriteCall} {req : WriteReq} {reply : WriteReply}
    (hi : s.pool.calls[i]? = some (id, call)) (ht : s.pool.tasks id = some req) {success : Bool}
    (text : Option String)
    (hconv : Concluded req.kind (h.said id ++ [(call, reply)]) success) :
    ServedInv
      { h with
        ended := h.ended ++ [(id, call, reply)]
        answered := h.answered ++ [(some id, ⟨req.userData, success, text⟩)] }
      (writeReqFinish { s with pool := s.pool.take i } id req success text) := by
  have hmem := List.mem_of_getElem? hi
  obtain ⟨hacc, -, hsent⟩ := hI.live id req call hmem ht
  have hlt := hI.wf.lt_next ht
  have hsaid : ∀ j, j ≠ id → ((h.ended ++ [(id, call, reply)]).filter fun x => x.1 = j).map Prod.snd
      = h.said j := by
    intro j hj
    simp [WriteHistory.said, hj.symm]
  have hsaid' : ((h.ended ++ [(id, call, reply)]).filter fun x => x.1 = id).map Prod.snd
      = h.said id ++ [(call, reply)] := by
    simp [WriteHistory.said]
  refine ⟨(hI.wf.take hi).free, ?_, ?_, ?_, ?_, hI.accepted, ?_, ?_, ?_⟩
  · rw [List.map_append, hI.answers]
    rfl
  · rw [List.filterMap_append, hI.freed]
    rfl
  · intro ha u
    have hcount := Pool.count_free (hI.wf.take hi) ht
      (fun r : WriteReq => decide (r.userData = u))
    rw [Pool.count_take hi] at hcount
    have honce := hI.once ha u
    simp only [writeReqFinish, WriteState.answer, List.countP_append, List.countP_singleton,
      decide_eq_true_eq]
    by_cases hu : req.userData = u <;> simp [hu] at hcount ⊢ <;> omega
  · intro a ha
    rcases List.mem_append.mp ha with ha | ha
    · exact hI.refused a ha
    · cases List.mem_singleton.mp ha
  · intro j hj
    have hj' : s.pool.next ≤ j := hj
    obtain ⟨hsaidj, hsentj⟩ := hI.fresh j hj'
    exact ⟨(hsaid j (by omega)).trans hsaidj, hsentj⟩
  · intro j r c hc hr
    obtain ⟨hj, hc, hr⟩ := hI.wf.free_cases hi hc hr
    rw [WriteHistory.said, hsaid j hj]
    exact hI.live j r c hc hr
  · intro j a ha
    rcases List.mem_append.mp ha with hold | hnew
    · -- a request answered before is not the one whose callback runs now
      have hj : j ≠ id := by
        rintro rfl
        rw [(hI.gone hold).2] at ht
        cases ht
      rw [WriteHistory.said, hsaid j hj]
      exact hI.done j a hold
    · cases List.mem_singleton.mp hnew
      refine ⟨req.kind, hacc, ?_, ?_⟩
      · rw [WriteHistory.said, hsaid']
        exact hconv
      · rw [WriteHistory.said, hsaid', List.map_append, List.map_singleton, ← hsent]
        rfl

/-- **One step.** -/
theorem step {h : WriteHistory} {s : WriteState} (hI : ServedInv h s) (e : WriteEvent) :
    ServedInv (noteWrite mismatch glib h s e) (writeStep mismatch glib s e) := by
  cases ha : s.aborted with
  | true => simpa [noteWrite, writeStep, ha] using hI
  | false =>
    cases he : e.request with
    | some request =>
      obtain ⟨kind, userData⟩ := request
      simp only [noteWrite, ha, Bool.false_eq_true, if_false, he]
      rcases request_cases mismatch glib he ha with
        ⟨text, hstep⟩ | hstep | ⟨k, rfl, hstep⟩
      · rw [hstep]
        simpa [WriteState.answer] using hI.refuse userData text
      · rw [hstep]
        simpa using hI.abort userData
      · rw [hstep]
        simpa [startRequest] using hI.start k userData
    | none =>
      cases e with
      | writeTag message userData => cases he
      | cloneTag rawData userData => cases he
      | lockTag userData => cases he
      | tag e =>
        have hstep : writeStep mismatch glib s (.tag e)
            = { s with tag := tagStep glib s.tag e } := by
          simp [writeStep, ha]
        have hnote : noteWrite mismatch glib h s (.tag e) = h := by simp [noteWrite, he]
        -- the reads have tasks of their own
        rw [hstep, hnote]
        exact hI.of_eq rfl rfl rfl rfl
      | complete i reply =>
        cases hi : s.pool.calls[i]? with
        | none => simpa [noteWrite, writeStep, ha, he, hi] using hI
        | some x =>
          obtain ⟨id, call⟩ := x
          obtain ⟨req, ht⟩ := hI.wf.exists_task (List.mem_of_getElem? hi)
          obtain ⟨-, htalk, -⟩ := hI.live id req call (List.mem_of_getElem? hi) ht
          have hstep : writeStep mismatch glib s (.complete i reply)
              = writeCallback mismatch { s with pool := s.pool.take i } id req call reply := by
            simp [writeStep, ha, hi, ht]
          have hnote : noteWrite mismatch glib h s (.complete i reply) =
              { h with
                ended := h.ended ++ [(id, call, reply)]
                answered := h.answered ++ ((writeStep mismatch glib s
                  (.complete i reply)).answers.drop s.answers.length).map (some id, ·) } := by
            simp [noteWrite, ha, he, hi]
          rw [hnote, hstep]
          rcases writeCallback_cases mismatch { s with pool := s.pool.take i } id reply htalk with
            ⟨req', call', heq, hkind, hdata, htalk'⟩ | ⟨success, text, heq, hconv⟩
          · rw [heq]
            simpa [WriteState.await] using hI.await hi ht hkind hdata htalk'
          · rw [heq]
            simpa [writeReqFinish, WriteState.answer] using hI.finish hi ht text hconv

end ServedInv

/-! ## What the conversations say -/

/-- The calls in a conversation that give the tag back. -/
def releases (calls : List WriteCall) : ℕ := calls.countP (·.isRelease)

/-- A block write of a lock: block 2 of sector 0 with its first two bytes as they were read. -/
def LockWrite (conv : List (WriteCall × WriteReply)) : WriteCall → Prop
  | .write path sector block data => sector = 0 ∧ block = 2 ∧ ∃ b₀ b₁ b₂ b₃,
    data = [b₀, b₁, 0xFF, 0xFF] ∧ (.read path 0 2, .data [b₀, b₁, b₂, b₃]) ∈ conv
  | _ => True

/-- The call writes a block. -/
def WriteCall.isBlockWrite : WriteCall → Bool
  | .write _ _ _ _ => true
  | _ => false

/-- What holds of the calls a request has made and of its conversation, whether or not it
has been answered. -/
structure Orderly (kind : WriteKind) (conv : List (WriteCall × WriteReply))
    (calls : List WriteCall) : Prop where
  once : releases calls ≤ 1
  acquired : 0 < releases calls → ∃ path, (.acquire path, .ok) ∈ conv
  locks : ∀ call ∈ calls, LockWrite conv call
  blockWrite : ∀ call ∈ calls, call.isBlockWrite = true → kind = .lock
  short : conv.length ≤ 6

namespace Worked

variable {kind : WriteKind} {work : List (WriteCall × WriteReply)} {success : Bool}

theorem length_le (h : Worked kind work success) : work.length ≤ 3 := by
  cases h <;> simp

theorem releases_eq (h : Worked kind work success) : releases (work.map Prod.fst) = 0 := by
  cases h <;> rfl

theorem not_release (h : Worked kind work success) {path : Option String} {reply : WriteReply} :
    (.release path, reply) ∉ work := by
  cases h <;> simp

theorem locks (h : Worked kind work success) : ∀ call ∈ work.map Prod.fst, LockWrite work call := by
  cases h <;> simp [LockWrite]

theorem blockWrite (h : Worked kind work success) :
    ∀ call ∈ work.map Prod.fst, call.isBlockWrite = true → kind = .lock := by
  cases h <;> simp [WriteCall.isBlockWrite]

/-- A write succeeds iff all of its data was written. -/
theorem write_iff {data : Bytes} (h : Worked (.write data) work success) :
    success = true ↔ ∃ path, (.writeData path 0 data, .written data.length) ∈ work := by
  cases h with
  | noProxy _ => simp
  | wrote => simp [eq_comm]

/-- A lock succeeds iff the block was read and written with its lock bits. -/
theorem lock_iff (h : Worked .lock work success) :
    success = true ↔ ∃ path b₀ b₁ b₂ b₃, (.read path 0 2, .data [b₀, b₁, b₂, b₃]) ∈ work ∧
      (.write path 0 2 [b₀, b₁, 0xFF, 0xFF], .written 4) ∈ work := by
  cases h with
  | noProxy _ => simp
  | noRead _ => simp
  | locked => simp [eq_comm]

end Worked

theorem LockWrite.mono {conv more : List (WriteCall × WriteReply)} {call : WriteCall}
    (h : LockWrite conv call) (hsub : conv ⊆ more) : LockWrite more call := by
  cases call with
  | write path sector block data =>
    obtain ⟨hsector, hblock, b₀, b₁, b₂, b₃, hdata, hread⟩ := h
    exact ⟨hsector, hblock, b₀, b₁, b₂, b₃, hdata, hsub hread⟩
  | _ => trivial

theorem releases_append (calls more : List WriteCall) :
    releases (calls ++ more) = releases calls + releases more := List.countP_append

/-- The conversation that ends in the Release. -/
theorem orderly_released {kind : WriteKind} {work : List (WriteCall × WriteReply)} {success : Bool}
    (h : Worked kind work success) (p path : Option String)
    {conv : List (WriteCall × WriteReply)} (hsub : opening p ++ work ⊆ conv)
    (hlen : conv.length ≤ 6) :
    Orderly kind conv ((opening p ++ work).map Prod.fst ++ [.release path]) := by
  have hone : releases ((opening p ++ work).map Prod.fst ++ [.release path]) = 1 := by
    rw [List.map_append, releases_append, releases_append, h.releases_eq]
    rfl
  refine ⟨hone.le, fun _ => ⟨p, hsub (by simp [opening])⟩, ?_, ?_, hlen⟩
  · intro call hcall
    simp only [List.map_append, List.append_assoc, List.mem_append, List.mem_singleton] at hcall
    rcases hcall with hopen | hwork | rfl
    · simp only [opening, List.map_cons, List.map_nil, List.mem_cons, List.not_mem_nil,
        or_false] at hopen
      rcases hopen with rfl | rfl <;> trivial
    · exact (h.locks call hwork).mono fun x hx => hsub (List.mem_append_right _ hx)
    · trivial
  · intro call hcall hblock
    simp only [List.map_append, List.append_assoc, List.mem_append, List.mem_singleton] at hcall
    rcases hcall with hopen | hwork | rfl
    · simp only [opening, List.map_cons, List.map_nil, List.mem_cons, List.not_mem_nil,
        or_false] at hopen
      rcases hopen with rfl | rfl <;> cases hblock
    · exact h.blockWrite call hwork hblock
    · cases hblock

/-- **Requests under way.** -/
theorem Talking.orderly {req : WriteReq} {conv : List (WriteCall × WriteReply)} {call : WriteCall}
    (h : Talking req conv call) : Orderly req.kind conv (conv.map Prod.fst ++ [call]) := by
  cases call with
  | tagProxy path =>
    obtain ⟨-, rfl⟩ := h
    constructor <;> simp [releases, LockWrite, WriteCall.isRelease, WriteCall.isBlockWrite]
  | acquire path =>
    obtain ⟨-, rfl⟩ := h
    constructor <;> simp [releases, LockWrite, WriteCall.isRelease, WriteCall.isBlockWrite]
  | type2Proxy path =>
    obtain ⟨-, p, rfl⟩ := h
    constructor <;>
      simp [opening, releases, LockWrite, WriteCall.isRelease, WriteCall.isBlockWrite]
  | writeData path offset data =>
    obtain ⟨-, -, p, rfl⟩ := h
    constructor <;>
      simp [opening, releases, LockWrite, WriteCall.isRelease, WriteCall.isBlockWrite]
  | read path sector block =>
    obtain ⟨-, -, -, -, -, p, rfl⟩ := h
    constructor <;>
      simp [opening, releases, LockWrite, WriteCall.isRelease, WriteCall.isBlockWrite]
  | write path sector block data =>
    obtain ⟨hkind, -, rfl, rfl, p, b₀, b₁, b₂, b₃, rfl, rfl⟩ := h
    constructor <;>
      simp [opening, releases, LockWrite, WriteCall.isRelease, WriteCall.isBlockWrite, hkind]
  | release path =>
    obtain ⟨p, work, rfl, hwork⟩ := h
    have hlen := hwork.length_le
    refine orderly_released hwork p path (fun _ hx => hx) ?_
    rw [List.length_append]
    simp only [opening, List.length_cons, List.length_nil]
    omega

/-- A request under way has not released its tag. -/
theorem Talking.not_released {req : WriteReq} {conv : List (WriteCall × WriteReply)}
    {call : WriteCall} (h : Talking req conv call) {path : Option String} {reply : WriteReply} :
    (.release path, reply) ∉ conv := by
  cases call with
  | tagProxy path => simp [h.2]
  | acquire path => simp [h.2]
  | type2Proxy path =>
    obtain ⟨-, p, rfl⟩ := h
    simp [opening]
  | writeData path offset data =>
    obtain ⟨-, -, p, rfl⟩ := h
    simp [opening]
  | read path sector block =>
    obtain ⟨-, -, -, -, -, p, rfl⟩ := h
    simp [opening]
  | write path sector block data =>
    obtain ⟨-, -, -, -, p, b₀, b₁, b₂, b₃, -, rfl⟩ := h
    simp [opening]
  | release path =>
    obtain ⟨p, work, rfl, hwork⟩ := h
    simp [opening, hwork.not_release]

namespace Concluded

variable {kind : WriteKind} {conv : List (WriteCall × WriteReply)} {success : Bool}

/-- **Requests that have been answered.** -/
theorem orderly (h : Concluded kind conv success) : Orderly kind conv (conv.map Prod.fst) := by
  cases h with
  | noTag hok =>
    constructor <;> simp [releases, LockWrite, WriteCall.isRelease, WriteCall.isBlockWrite]
  | notAcquired hok =>
    constructor <;> simp [releases, LockWrite, WriteCall.isRelease, WriteCall.isBlockWrite]
  | released hwork =>
    have hlen := hwork.length_le
    rw [List.map_append]
    refine orderly_released hwork _ _ (List.subset_append_left _ _) ?_
    simp only [opening, List.length_append, List.length_cons, List.length_nil]
    omega

/-- Where the tag was acquired, it has been released. -/
theorem released_of_acquired (h : Concluded kind conv success)
    (hacq : ∃ path, (.acquire path, .ok) ∈ conv) :
    (∃ path reply, (.release path, reply) ∈ conv) ∧ releases (conv.map Prod.fst) = 1 := by
  cases h with
  | noTag hok => simp at hacq
  | notAcquired hok => simp [hok.symm] at hacq
  | released hwork =>
    refine ⟨⟨_, _, List.mem_append_right _ (List.mem_singleton_self _)⟩, ?_⟩
    rw [List.map_append, List.map_append, releases_append, releases_append, hwork.releases_eq]
    rfl

theorem write_iff {data : Bytes} (h : Concluded (.write data) conv success) :
    success = true ↔ ∃ path, (.writeData path 0 data, .written data.length) ∈ conv := by
  cases h with
  | noTag hok => simp
  | notAcquired hok => simp
  | released hwork => simp [opening, hwork.write_iff]

theorem lock_iff (h : Concluded .lock conv success) :
    success = true ↔ ∃ path b₀ b₁ b₂ b₃, (.read path 0 2, .data [b₀, b₁, b₂, b₃]) ∈ conv ∧
      (.write path 0 2 [b₀, b₁, 0xFF, 0xFF], .written 4) ∈ conv := by
  cases h with
  | noTag hok => simp
  | notAcquired hok => simp
  | released hwork => simp [opening, hwork.lock_iff]

end Concluded

/-! ## Every run -/

/-- What a run has done for its requests.  Every callback comes from one request, an accepted
request is answered or has a call under way, and it ends after at most six replies; only a tag
that was acquired is released, once, and the callback then follows the reply to the Release;
writes and locks report success exactly when the tag took what they sent, and the only block
ever written is the one that locks. -/
structure WritesServed (h : WriteHistory) (s : WriteState) : Prop where
  answers : h.answered.map Prod.snd = s.answers
  once : s.aborted = false → ∀ u, s.answers.countP (·.userData = u) +
    s.pool.count none (·.userData = u) = h.asked.count u
  idle : s.aborted = false → s.pool.calls = [] → ∀ u,
    s.answers.countP (·.userData = u) = h.asked.count u
  callbackOnce : (h.answered.filterMap Prod.fst).Nodup
  accepted : (h.accepted.map Prod.fst).Nodup
  answeredOrPending : ∀ id ∈ h.accepted.map Prod.fst,
    h.Answered id ↔ ∀ call, (id, call) ∉ s.pool.calls
  short : ∀ id, (h.said id).length ≤ 6
  refused : ∀ a, (none, a) ∈ h.answered → a.success = false
  releaseOnce : ∀ id, releases (s.sentBy id) ≤ 1
  releaseAcquired : ∀ id, 0 < releases (s.sentBy id) → h.Acquired id
  released : ∀ id, h.Acquired id → h.Answered id → releases (s.sentBy id) = 1
  afterRelease : ∀ id, h.Acquired id → (h.Answered id ↔ h.Released id)
  write : ∀ id data u a, (id, .write data, u) ∈ h.accepted → (some id, a) ∈ h.answered →
    (a.success = true ↔ ∃ path, (id, .writeData path 0 data, .written data.length) ∈ h.ended)
  lock : ∀ id u a, (id, .lock, u) ∈ h.accepted → (some id, a) ∈ h.answered →
    (a.success = true ↔ ∃ path b₀ b₁ b₂ b₃,
      (id, .read path 0 2, .data [b₀, b₁, b₂, b₃]) ∈ h.ended ∧
      (id, .write path 0 2 [b₀, b₁, 0xFF, 0xFF], .written 4) ∈ h.ended)
  blockWrite : ∀ id path sector block data, (id, .write path sector block data) ∈ s.sent →
    (∃ u, (id, .lock, u) ∈ h.accepted) ∧ sector = 0 ∧ block = 2 ∧ ∃ b₀ b₁ b₂ b₃,
      data = [b₀, b₁, 0xFF, 0xFF] ∧ (id, .read path 0 2, .data [b₀, b₁, b₂, b₃]) ∈ h.ended

namespace ServedInv

variable {h : WriteHistory} {s : WriteState}

/-- A request that has made a call is under way or has been answered. -/
theorem under_way_or_answered (hI : ServedInv h s) {id : ℕ} (hid : id < s.pool.next) :
    (∃ req call, (id, call) ∈ s.pool.calls ∧ s.pool.tasks id = some req) ∨
    ∃ a, (some id, a) ∈ h.answered := by
  cases ht : s.pool.tasks id with
  | some req =>
    have hlive := (hI.wf.live_iff id).mp (by rw [ht]; rfl)
    rcases hlive with hmem | hrunning
    · obtain ⟨⟨j, call⟩, hcall, rfl⟩ := List.mem_map.mp hmem
      exact Or.inl ⟨req, call, hcall, rfl⟩
    · cases hrunning
  | none =>
    have hfreed := (hI.wf.freed_iff id).mpr ⟨hid, ht⟩
    rw [← hI.freed] at hfreed
    obtain ⟨⟨j, a⟩, ha, rfl⟩ := List.mem_filterMap.mp hfreed
    exact Or.inr ⟨a, ha⟩

/-- **Every request is orderly**, as far as it has got. -/
theorem orderly (hI : ServedInv h s) (id : ℕ) :
    (∃ kind u, (id, kind, u) ∈ h.accepted ∧ Orderly kind (h.said id) (s.sentBy id)) ∨
    (h.said id = [] ∧ s.sentBy id = []) := by
  by_cases hid : id < s.pool.next
  · left
    rcases hI.under_way_or_answered hid with ⟨req, call, hc, ht⟩ | ⟨a, ha⟩
    · obtain ⟨hacc, htalk, hsent⟩ := hI.live id req call hc ht
      refine ⟨_, _, hacc, ?_⟩
      rw [hsent]
      exact htalk.orderly
    · obtain ⟨kind, hacc, hconv, hsent⟩ := hI.done id a ha
      refine ⟨_, _, hacc, ?_⟩
      rw [hsent]
      exact hconv.orderly
  · exact Or.inr (hI.fresh id (by omega))

/-- What an accepted request is for is settled when it is accepted. -/
theorem accepted_unique (hI : ServedInv h s) {id u u' : ℕ} {kind kind' : WriteKind}
    (ha : (id, kind, u) ∈ h.accepted) (ha' : (id, kind', u') ∈ h.accepted) : kind = kind' := by
  have hnodup : (h.accepted.map Prod.fst).Nodup := by
    rw [hI.accepted]
    exact List.nodup_range
  have heq := List.inj_on_of_nodup_map hnodup ha ha' rfl
  exact (Prod.mk.inj (Prod.mk.inj heq).2).1

/-- The conversation of an answered request. -/
theorem concluded (hI : ServedInv h s) {id u : ℕ} {kind : WriteKind} {a : WriteAnswer}
    (hacc : (id, kind, u) ∈ h.accepted) (ha : (some id, a) ∈ h.answered) :
    Concluded kind (h.said id) a.success ∧ s.sentBy id = (h.said id).map Prod.fst := by
  obtain ⟨kind', hacc', hconv, hsent⟩ := hI.done id a ha
  rw [hI.accepted_unique hacc hacc']
  exact ⟨hconv, hsent⟩

theorem served (hI : ServedInv h s) : WritesServed h s where
  answers := hI.answers
  once := hI.once
  idle := by
    intro ha hcalls u
    have honce := hI.once ha u
    rw [Pool.count_of_idle hcalls, Nat.add_zero] at honce
    exact honce
  callbackOnce := hI.freed ▸ hI.wf.freed_nodup
  accepted := hI.accepted ▸ List.nodup_range
  answeredOrPending := by
    intro id hid
    rw [hI.accepted, List.mem_range] at hid
    constructor
    · rintro ⟨a, ha⟩ call hc
      obtain ⟨req, ht⟩ := hI.wf.exists_task hc
      rw [(hI.gone ha).2] at ht
      cases ht
    · intro hno
      rcases hI.under_way_or_answered hid with ⟨req, call, hc, -⟩ | ha
      · exact absurd hc (hno call)
      · exact ha
  short := by
    intro id
    rcases hI.orderly id with ⟨kind, u, -, horderly⟩ | ⟨hsaid, -⟩
    · exact horderly.short
    · rw [hsaid]
      exact Nat.zero_le 6
  refused := hI.refused
  releaseOnce := by
    intro id
    rcases hI.orderly id with ⟨kind, u, -, horderly⟩ | ⟨-, hsent⟩
    · exact horderly.once
    · rw [hsent]
      exact Nat.zero_le 1
  releaseAcquired := by
    intro id hpos
    rcases hI.orderly id with ⟨kind, u, -, horderly⟩ | ⟨-, hsent⟩
    · exact WriteHistory.acquired_iff.mpr (horderly.acquired hpos)
    · rw [hsent] at hpos
      cases hpos
  released := by
    rintro id hacq ⟨a, ha⟩
    obtain ⟨kind, -, hconv, hsent⟩ := hI.done id a ha
    rw [hsent]
    exact (hconv.released_of_acquired (WriteHistory.acquired_iff.mp hacq)).2
  afterRelease := by
    intro id hacq
    rw [WriteHistory.acquired_iff] at hacq
    rw [WriteHistory.released_iff]
    constructor
    · rintro ⟨a, ha⟩
      obtain ⟨kind, -, hconv, -⟩ := hI.done id a ha
      exact (hconv.released_of_acquired hacq).1
    · rintro ⟨path, reply, hrel⟩
      have hid : id < s.pool.next := by
        by_contra hge
        rw [(hI.fresh id (by omega)).1] at hrel
        cases hrel
      rcases hI.under_way_or_answered hid with ⟨req, call, hc, ht⟩ | ha
      · exact absurd hrel (hI.live id req call hc ht).2.1.not_released
      · exact ha
  write := by
    intro id data u a hacc ha
    simp only [(hI.concluded hacc ha).1.write_iff, WriteHistory.mem_said]
  lock := by
    intro id u a hacc ha
    simp only [(hI.concluded hacc ha).1.lock_iff, WriteHistory.mem_said]
  blockWrite := by
    intro id path sector block data hmem
    have hcall := mem_sentBy.mpr hmem
    rcases hI.orderly id with ⟨kind, u, hacc, horderly⟩ | ⟨-, hsent⟩
    · have hkind := horderly.blockWrite _ hcall rfl
      obtain ⟨hsector, hblock, b₀, b₁, b₂, b₃, hdata, hread⟩ := horderly.locks _ hcall
      rw [hkind] at hacc
      exact ⟨⟨u, hacc⟩, hsector, hblock, b₀, b₁, b₂, b₃, hdata, WriteHistory.mem_said.mp hread⟩
    · rw [hsent] at hcall
      cases hcall

end ServedInv

/-- The history of a run. -/
def writeHistory (mismatch : String) (glib : GlibText) (es : List WriteEvent) : WriteHistory :=
  (run (withHistory (writeStep mismatch glib) (noteWrite mismatch glib)) (.init, .empty) es).2

/-- The invariant holds along every run, of the history the run is noted in. -/
theorem servedInv_run (mismatch : String) (glib : GlibText) (es : List WriteEvent) :
    ServedInv
      (run (withHistory (writeStep mismatch glib) (noteWrite mismatch glib)) (.init, .empty) es).2
      (run (withHistory (writeStep mismatch glib) (noteWrite mismatch glib))
        (.init, .empty) es).1 :=
  invariant (fun x : WriteState × WriteHistory => ServedInv x.2 x.1) (fun _ e hx => hx.step e)
    servedInv_init es

/-- **Every write and lock request is served**, in every run: whatever requests are made and
however their calls end, in any order. -/
theorem requests_served (mismatch : String) (glib : GlibText) (es : List WriteEvent) :
    WritesServed (writeHistory mismatch glib es) (run (writeStep mismatch glib) .init es) := by
  have hserved := (servedInv_run mismatch glib es).served
  rw [run_withHistory_fst] at hserved
  exact hserved

end NfcAdapter
