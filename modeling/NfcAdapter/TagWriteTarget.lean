/-
# Which tag a write or lock reaches

A request takes the path of its Type 2 proxy from the client, at the moment its Acquire
succeeds; everything else it addresses by the path that was current when it was made.  As
long as these two paths agree at that moment a request reaches its own tag only.
-/
import NfcAdapter.Runs
import NfcAdapter.TagWrite

namespace NfcAdapter

open Runs
open TaskPool (Pool)

/-! ## The tag a request was made for -/

/-- The path in the first call of a request, which is made while the request is accepted. -/
def requestedPath (sent : List (ℕ × WriteCall)) (id : ℕ) : Option String :=
  (sent.find? fun x => x.1 = id).bind fun x => x.2.target

/-- Every call of every request is sent to the tag the request was made for. -/
def AllOnTarget (s : WriteState) : Prop :=
  ∀ x ∈ s.sent, ∃ path, requestedPath s.sent x.1 = some path ∧ x.2.target = some path

/-- When a successful Acquire is answered, its tag is still the current one. -/
def WriteEvent.OnTarget (s : WriteState) : WriteEvent → Prop
  | .complete i .ok =>
    match s.pool.calls[i]? with
    | some (_, .acquire path) => s.tag.client.tagPath = path
    | _ => True
  | _ => True

instance (s : WriteState) (e : WriteEvent) : Decidable (e.OnTarget s) := by
  unfold WriteEvent.OnTarget
  split
  · split <;> infer_instance
  · infer_instance

/-- Later calls do not change what was asked for. -/
theorem requestedPath_append {sent : List (ℕ × WriteCall)} {x : ℕ × WriteCall} (hx : x ∈ sent)
    (more : List (ℕ × WriteCall)) :
    requestedPath (sent ++ more) x.1 = requestedPath sent x.1 := by
  rw [requestedPath, requestedPath, List.find?_append]
  cases hfind : sent.find? fun y => y.1 = x.1 with
  | none =>
    have hno := List.find?_eq_none.mp hfind x hx
    simp at hno
  | some y => rfl

/-- The first call of a new request is the one that counts. -/
theorem requestedPath_new {sent : List (ℕ × WriteCall)} {id : ℕ} (h : ∀ x ∈ sent, x.1 < id)
    (call : WriteCall) : requestedPath (sent ++ [(id, call)]) id = call.target := by
  have hnone : (sent.find? fun x => x.1 = id) = none := by
    apply List.find?_eq_none.mpr
    intro x hx
    have := h x hx
    simp only [decide_eq_true_eq]
    omega
  rw [requestedPath, List.find?_append, hnone]
  simp

theorem AllOnTarget.append {s : WriteState} (h : AllOnTarget s) {id : ℕ} {call call' : WriteCall}
    (hsent : (id, call) ∈ s.sent) (htarget : call'.target = call.target) {s' : WriteState}
    (heq : s'.sent = s.sent ++ [(id, call')]) : AllOnTarget s' := by
  intro x hx
  rw [heq] at hx ⊢
  rcases List.mem_append.mp hx with hx | hx
  · rw [requestedPath_append hx]
    exact h x hx
  · obtain ⟨path, hpath, hcall⟩ := h _ hsent
    rw [List.mem_singleton.mp hx]
    exact ⟨path, (requestedPath_append hsent _).trans hpath, htarget.trans hcall⟩

/-! ## The invariant -/

/-- The call makes a proxy for the tag, so the request has none yet. -/
def WriteCall.isFirst : WriteCall → Bool
  | .tagProxy _ => true
  | _ => false

/-- The invariant of runs whose Acquires are answered while their tag is current. -/
structure WriteInv (s : WriteState) : Prop where
  wf : s.pool.WF none
  ids : ∀ x ∈ s.sent, x.1 < s.pool.next
  onTarget : AllOnTarget s
  pending : ∀ x ∈ s.pool.calls, x ∈ s.sent
  tag : ∀ id call req, (id, call) ∈ s.pool.calls → s.pool.tasks id = some req →
    call.isFirst = false → req.tag = call.target
  type2 : ∀ id path sector block req, (id, .read path sector block) ∈ s.pool.calls →
    s.pool.tasks id = some req → req.type2 = path

theorem writeInv_init : WriteInv .init := by
  refine ⟨Pool.wf_empty, ?_, ?_, ?_, ?_, ?_⟩ <;> simp [WriteState.init, Pool.empty, AllOnTarget]

/-- A callback that goes on with a call to the same tag. -/
theorem WriteInv.await {s : WriteState} (h : WriteInv s) {i id : ℕ} {call call' : WriteCall}
    {req' : WriteReq} (hi : s.pool.calls[i]? = some (id, call))
    (htarget : call'.target = call.target) (htag : call'.isFirst = false → req'.tag = call'.target)
    (htype2 : ∀ path sector block, call' = .read path sector block → req'.type2 = path) :
    WriteInv ({ s with pool := s.pool.take i }.await id req' call') := by
  have hsent := h.pending _ (List.mem_of_getElem? hi)
  refine ⟨(h.wf.take hi).await req' call', ?_, h.onTarget.append hsent htarget rfl, ?_, ?_, ?_⟩
  · intro x hx
    rcases List.mem_append.mp hx with hx | hx
    · exact h.ids x hx
    · rw [List.mem_singleton.mp hx]
      exact h.ids (id, call) hsent
  · intro x hx
    rcases List.mem_append.mp hx with hx | hx
    · exact List.mem_append_left _ (h.pending x (List.mem_of_mem_eraseIdx hx))
    · exact List.mem_append_right _ hx
  · intro j c r hc hr hfirst
    rcases h.wf.await_cases hi hc hr with ⟨-, rfl, rfl⟩ | ⟨-, hc, hr⟩
    · exact htag hfirst
    · exact h.tag j c r hc hr hfirst
  · intro j path sector block r hc hr
    rcases h.wf.await_cases hi hc hr with ⟨-, hcall, rfl⟩ | ⟨-, hc, hr⟩
    · exact htype2 path sector block hcall.symm
    · exact h.type2 j path sector block r hc hr

/-- A callback that ends its request. -/
theorem WriteInv.finish {s : WriteState} (h : WriteInv s) {i id : ℕ} {call : WriteCall}
    {req : WriteReq} (hi : s.pool.calls[i]? = some (id, call)) (success : Bool)
    (errorText : Option String) :
    WriteInv (writeReqFinish { s with pool := s.pool.take i } id req success errorText) := by
  refine ⟨(h.wf.take hi).free, h.ids, h.onTarget, ?_, ?_, ?_⟩
  · intro x hx
    exact h.pending x (List.mem_of_mem_eraseIdx hx)
  · intro j c r hc hr
    obtain ⟨-, hc, hr⟩ := h.wf.free_cases hi hc hr
    exact h.tag j c r hc hr
  · intro j path sector block r hc hr
    obtain ⟨-, hc, hr⟩ := h.wf.free_cases hi hc hr
    exact h.type2 j path sector block r hc hr

/-- A callback that goes on to the release. -/
theorem WriteInv.release {s : WriteState} (h : WriteInv s) {i id : ℕ} {call : WriteCall}
    {req' : WriteReq} (hi : s.pool.calls[i]? = some (id, call)) (htag : req'.tag = call.target) :
    WriteInv (writeRelease { s with pool := s.pool.take i } id req') := by
  refine h.await hi htag (fun _ => rfl) ?_
  intro path sector block hcall
  cases hcall

/-- A new request is made for the current tag. -/
theorem WriteInv.start {s : WriteState} (h : WriteInv s) (kind : WriteKind) (userData : ℕ)
    {path : String} (hpath : s.tag.client.tagPath = some path) :
    WriteInv (startRequest s kind userData) := by
  refine ⟨h.wf.spawn _ _, ?_, ?_, ?_, ?_, ?_⟩
  · intro x hx
    rcases List.mem_append.mp hx with hx | hx
    · exact Nat.lt_succ_of_lt (h.ids x hx)
    · rw [List.mem_singleton.mp hx]
      exact Nat.lt_succ_self _
  · intro x hx
    rcases List.mem_append.mp hx with hx | hx
    · rw [startRequest, requestedPath_append hx]
      exact h.onTarget x hx
    -- the new request's first call says which tag it is for
    · rw [List.mem_singleton.mp hx, startRequest, requestedPath_new h.ids]
      exact ⟨path, hpath, hpath⟩
  · intro x hx
    rcases List.mem_append.mp hx with hx | hx
    · exact List.mem_append_left _ (h.pending x hx)
    · exact List.mem_append_right _ hx
  · intro j c r hc hr hfirst
    rcases h.wf.spawn_cases hc hr with ⟨-, rfl, -⟩ | ⟨-, hc, hr⟩
    · cases hfirst
    · exact h.tag j c r hc hr hfirst
  · intro j path sector block r hc hr
    rcases h.wf.spawn_cases hc hr with ⟨-, hcall, -⟩ | ⟨-, hc, hr⟩
    · cases hcall
    · exact h.type2 j path sector block r hc hr

/-- What leaves the requests and their calls alone keeps the invariant. -/
theorem WriteInv.of_eq {s s' : WriteState} (h : WriteInv s) (hpool : s'.pool = s.pool)
    (hsent : s'.sent = s.sent) : WriteInv s' := by
  obtain ⟨wf, ids, onTarget, pending, tag, type2⟩ := h
  unfold AllOnTarget at onTarget
  rw [← hpool] at wf ids pending tag type2
  rw [← hsent] at ids onTarget pending
  exact ⟨wf, ids, onTarget, pending, tag, type2⟩

/-! ## One event -/

variable {mismatch : String}

/-- **The callbacks.** -/
theorem WriteInv.callback {s : WriteState} (h : WriteInv s) {i id : ℕ} {call : WriteCall}
    {req : WriteReq} {reply : WriteReply} (hi : s.pool.calls[i]? = some (id, call))
    (ht : s.pool.tasks id = some req) (hcond : WriteEvent.OnTarget s (.complete i reply)) :
    WriteInv (writeCallback mismatch { s with pool := s.pool.take i } id req call reply) := by
  have hmem := List.mem_of_getElem? hi
  have htag := h.tag id call req hmem ht
  -- one case for each callback, and in it for what the callback can do
  cases call with
  | tagProxy path =>
    rcases writeTagProxyReady_cases mismatch { s with pool := s.pool.take i } id req path reply with
      ⟨-, heq⟩ | ⟨-, text, heq⟩ <;> rw [writeCallback, heq]
    · exact h.await hi rfl (fun _ => rfl) (by simp)
    · exact h.finish hi _ _
  | acquire path =>
    rcases acquireReady_cases mismatch { s with pool := s.pool.take i } id req reply with
      ⟨rfl, heq⟩ | ⟨-, text, heq⟩ <;> rw [writeCallback, heq]
    · -- the path now current has to be the one that was acquired
      have hcurrent : s.tag.client.tagPath = path := by
        simpa only [WriteEvent.OnTarget, hi] using hcond
      exact h.await hi hcurrent (fun _ => (htag rfl).trans hcurrent.symm) (by simp)
    · exact h.finish hi _ _
  | type2Proxy path =>
    -- a write goes on with its data, a lock with the block it is to change
    rcases type2ProxyReady_cases mismatch { s with pool := s.pool.take i } id req path reply with
      ⟨-, data, -, heq⟩ | ⟨-, -, heq⟩ | ⟨-, text, heq⟩ <;> rw [writeCallback, heq]
    · exact h.await hi rfl (fun _ => htag rfl) (by simp)
    · refine h.await hi rfl (fun _ => htag rfl) ?_
      intro path' sector block hcall
      cases hcall
      rfl
    · exact h.release hi (htag rfl)
  | writeData path offset data =>
    rcases writeDataReady_cases mismatch { s with pool := s.pool.take i } id req data reply with
      ⟨-, heq⟩ | ⟨-, text, heq⟩ <;> rw [writeCallback, heq]
    · exact h.release hi (htag rfl)
    · exact h.release hi (htag rfl)
  | read path sector block =>
    -- the lock block is written where it was read
    have htype2 := h.type2 id path sector block req hmem ht
    rcases lockReadReady_cases mismatch { s with pool := s.pool.take i } id req reply with
      ⟨b₀, b₁, b₂, b₃, -, heq⟩ | ⟨-, text, heq⟩ <;> rw [writeCallback, heq]
    · exact h.await hi htype2 (fun _ => (htag rfl).trans htype2.symm) (by simp)
    · exact h.release hi (htag rfl)
  | write path sector block data =>
    rcases lockWriteReady_cases mismatch { s with pool := s.pool.take i } id req reply with
      ⟨-, heq⟩ | ⟨-, text, heq⟩ <;> rw [writeCallback, heq]
    · exact h.release hi (htag rfl)
    · exact h.release hi (htag rfl)
  | release path =>
    cases hkind : req.kind with
    | write data =>
      simp only [writeCallback, hkind]
      exact h.finish hi _ _
    | lock =>
      simp only [writeCallback, hkind]
      exact h.finish hi _ _

/-- **One step.** -/
theorem WriteInv.step {glib : GlibText} {s : WriteState} (h : WriteInv s) {e : WriteEvent}
    (hcond : e.OnTarget s) : WriteInv (writeStep mismatch glib s e) := by
  unfold writeStep
  split
  · exact h
  cases e with
  | tag e => exact h.of_eq rfl rfl
  | writeTag message userData =>
    show WriteInv (nfcdClientWriteTag s message userData)
    unfold nfcdClientWriteTag
    split
    · exact h.of_eq rfl rfl
    · next hnone =>
      obtain ⟨path, hpath⟩ := Option.ne_none_iff_exists'.mp hnone
      split
      · exact h.of_eq rfl rfl
      · split
        · exact h.of_eq rfl rfl
        · exact h.of_eq rfl rfl
        · exact h.start _ _ hpath
  | cloneTag rawData userData =>
    show WriteInv (nfcdClientWriteRaw s rawData userData)
    unfold nfcdClientWriteRaw
    split
    · exact h.of_eq rfl rfl
    · next hnone =>
      obtain ⟨path, hpath⟩ := Option.ne_none_iff_exists'.mp hnone
      split
      · exact h.of_eq rfl rfl
      · split
        · exact h.of_eq rfl rfl
        · exact h.of_eq rfl rfl
        · exact h.start _ _ hpath
  | lockTag userData =>
    show WriteInv (nfcdClientLockTag s userData)
    unfold nfcdClientLockTag
    split
    · exact h.of_eq rfl rfl
    · next hnone =>
      obtain ⟨path, hpath⟩ := Option.ne_none_iff_exists'.mp hnone
      split
      · exact h.of_eq rfl rfl
      · exact h.start _ _ hpath
  | complete i reply =>
    simp only
    split
    · exact h
    · next id call hi =>
      split
      · exact h
      · next req ht => exact h.callback hi ht hcond

/-! ## Every run -/

/-- **A write or lock reaches the tag it was made for**, in every run in which successful
Acquires are answered while their tag is still the current one. -/
theorem requests_stay_on_target (mismatch : String) (glib : GlibText) (es : List WriteEvent)
    (h : Along WriteEvent.OnTarget (writeStep mismatch glib) WriteState.init es) :
    AllOnTarget (run (writeStep mismatch glib) WriteState.init es) :=
  (Along.invariant WriteInv (fun _ _ hs he => hs.step he) writeInv_init h).onTarget

/-- A Type 2 tag comes into the field and is read. -/
def type2TagArrives : List WriteEvent :=
  [.tag (.tags ["/nfc0/tag0"]), .tag (.complete 0 .proxy),
    .tag (.complete 0 (.tagInfo ⟨true, 1, 2, 1, [tagIfaceType2], [], []⟩)),
    .tag (.complete 0 .proxy), .tag (.complete 0 (.data [0x04]))]

/-- The lock of a tag that stays. -/
def lockedTag : List WriteEvent :=
  type2TagArrives ++
    [.lockTag 0, .complete 0 .ok, .complete 0 .ok, .complete 0 .ok,
      .complete 0 (.data [0x01, 0x02, 0x00, 0x00])]

theorem requests_stay_on_target_lockedTag :
    AllOnTarget (run (writeStep "" asciiGlib) WriteState.init lockedTag) :=
  requests_stay_on_target "" asciiGlib lockedTag (by decide +kernel)

/-- The same requests, but another tag becomes current before the Acquire is answered. -/
def overtakenLock : List WriteEvent :=
  type2TagArrives ++
    [.lockTag 0, .complete 0 .ok, .tag (.tags ["/nfc0/tag1"]), .complete 0 .ok, .complete 0 .ok,
      .complete 0 (.data [0x01, 0x02, 0x00, 0x00])]

/-- The lock asked for one tag is written to another. -/
theorem lock_reaches_another_tag :
    ¬ AllOnTarget (run (writeStep "" asciiGlib) WriteState.init overtakenLock) := by
  have hwrite : (0, WriteCall.write (some "/nfc0/tag1") 0 2 [0x01, 0x02, 0xFF, 0xFF]) ∈
      (run (writeStep "" asciiGlib) WriteState.init overtakenLock).sent := by decide +kernel
  have hrequested :
      requestedPath (run (writeStep "" asciiGlib) WriteState.init overtakenLock).sent 0
        = some "/nfc0/tag0" := by decide +kernel
  intro h
  obtain ⟨path, hpath, htarget⟩ := h _ hwrite
  rw [hrequested] at hpath
  rw [← hpath] at htarget
  exact absurd htarget (by decide)

end NfcAdapter
