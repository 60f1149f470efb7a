/-
# Writing and locking a tag (`nfcd_client.c`)

Write and lock requests beside the reads of tags: a request makes a proxy for the tag,
acquires it, makes a proxy for its Type 2 interface, writes (or reads and writes the lock
block), and releases the tag.  Any number of requests may be under way while the current
tag changes.
-/
import NfcAdapter.TagRead

namespace NfcAdapter

open TaskPool (Pool)

/-! ## Requests, calls and answers -/

/-- What a request is for: a write of a data area, or the lock. -/
inductive WriteKind
  | write (tlv : Bytes)
  | lock
  deriving DecidableEq, Repr

/-- `struct write_req` and `struct lock_req`.  A proxy is given by the path it was made for;
`userData` tells the callbacks of different requests apart. -/
structure WriteReq where
  kind : WriteKind
  tag : Option String
  type2 : Option String
  userData : ℕ
  written : Bool
  errorText : Option String
  deriving DecidableEq, Repr

/-- The calls of a request, each with the path it is sent to; a path may be NULL. -/
inductive WriteCall
  | tagProxy (path : Option String)
  | acquire (path : Option String)
  | type2Proxy (path : Option String)
  | writeData (path : Option String) (offset : ℕ) (data : Bytes)
  | read (path : Option String) (sector block : ℕ)
  | write (path : Option String) (sector block : ℕ) (data : Bytes)
  | release (path : Option String)
  deriving DecidableEq, Repr

/-- The path a call is sent to. -/
def WriteCall.target : WriteCall → Option String
  | tagProxy path | acquire path | type2Proxy path | writeData path _ _ | read path _ _
  | write path _ _ _ | release path => path

/-- How a call ends; `failed` carries the message of the error. -/
inductive WriteReply
  | failed (message : String)
  | ok
  | written (n : ℕ)
  | data (bytes : Bytes)
  deriving DecidableEq, Repr

/-- The message of an error reply; a reply of another type than the call expects is an error
to the D-Bus library, whose message is `mismatch`. -/
def WriteReply.message (mismatch : String) : WriteReply → String
  | failed message => message
  | _ => mismatch

/-- What a request's callback was called with. -/
structure WriteAnswer where
  userData : ℕ
  success : Bool
  errorText : Option String
  deriving DecidableEq, Repr

/-- The client, its reads, its write and lock requests, the calls they have made and the
callbacks that have run.  `aborted` records that GLib has ended the program. -/
structure WriteState where
  tag : TagState
  pool : Pool WriteReq WriteCall
  sent : List (ℕ × WriteCall)
  answers : List WriteAnswer
  aborted : Bool

/-- Nothing has happened. -/
def WriteState.init : WriteState := ⟨.init, .empty, [], [], false⟩

namespace WriteState

/-- The running callback of the request at `id` makes its next call. -/
def await (s : WriteState) (id : ℕ) (req : WriteReq) (call : WriteCall) : WriteState :=
  { s with pool := s.pool.await id req call, sent := s.sent ++ [(id, call)] }

/-- A callback runs. -/
def answer (s : WriteState) (userData : ℕ) (success : Bool) (errorText : Option String) :
    WriteState :=
  { s with answers := s.answers ++ [⟨userData, success, errorText⟩] }

end WriteState

/-! ## The callbacks -/

/-- `write_req_finish` and `lock_req_finish`. -/
def writeReqFinish (s : WriteState) (id : ℕ) (req : WriteReq) (success : Bool)
    (errorText : Option String) : WriteState :=
  { s.answer req.userData success errorText with pool := s.pool.free id }

/-- `write_release` and `lock_release`. -/
def writeRelease (s : WriteState) (id : ℕ) (req : WriteReq) : WriteState :=
  s.await id req (.release req.tag)

/-- `write_release_ready`; a failed release is only logged. -/
def writeReleaseReady (s : WriteState) (id : ℕ) (req : WriteReq) : WriteState :=
  writeReqFinish s id req req.written req.errorText

/-- `lock_release_ready`. -/
def lockReleaseReady (s : WriteState) (id : ℕ) (req : WriteReq) : WriteState :=
  writeReqFinish s id req req.errorText.isNone req.errorText

variable (mismatch : String)

/-- `write_data_ready`. -/
def writeDataReady (s : WriteState) (id : ℕ) (req : WriteReq) (tlv : Bytes) (reply : WriteReply) :
    WriteState :=
  match reply with
  -- a short write is an error, and the tag is released either way
  | .written n =>
    writeRelease s id
      (if n = tlv.length then { req with written := true }
      else { req with
        written := false
        errorText := some s!"Only {n} of {tlv.length} bytes reached the tag" })
  | _ => writeRelease s id { req with
      written := false
      errorText := some ("Failed to write the tag: " ++ reply.message mismatch) }

/-- `lock_write_ready`. -/
def lockWriteReady (s : WriteState) (id : ℕ) (req : WriteReq) (reply : WriteReply) : WriteState :=
  match reply with
  | .written n =>
    writeRelease s id
      (if n = 4 then req
      else { req with errorText := some s!"Short write of the lock block: {n} of 4 bytes" })
  | _ => writeRelease s id { req with
      errorText := some ("Failed to write the lock bytes: " ++ reply.message mismatch) }

/-- `lock_read_ready`. -/
def lockReadReady (s : WriteState) (id : ℕ) (req : WriteReq) (reply : WriteReply) : WriteState :=
  match reply with
  | .data [b₀, b₁, _, _] =>
    -- bytes 0 and 1 are preserved, 2 and 3 are the lock bytes
    s.await id req (.write req.type2 0 2 [b₀, b₁, 0xFF, 0xFF])
  | .data bytes => writeRelease s id { req with
      errorText := some s!"Unexpected lock block size: {bytes.length} bytes" }
  | _ => writeRelease s id { req with
      errorText := some ("Failed to read the lock block: " ++ reply.message mismatch) }

/-- `write_type2_proxy_ready` and `lock_type2_proxy_ready`, which differ in the call that
follows. -/
def type2ProxyReady (s : WriteState) (id : ℕ) (req : WriteReq) (path : Option String)
    (reply : WriteReply) : WriteState :=
  match reply with
  | .ok =>
    let req := { req with type2 := path }
    match req.kind with
    | .write tlv => s.await id req (.writeData path 0 tlv)
    | .lock => s.await id req (.read path 0 2)
  | _ => writeRelease s id { req with
      errorText := some ("Failed to reach the tag: " ++ reply.message mismatch) }

/-- `write_acquire_ready` and `lock_acquire_ready`: the Type 2 proxy is made for the path
that is current now. -/
def acquireReady (s : WriteState) (id : ℕ) (req : WriteReq) (reply : WriteReply) : WriteState :=
  match reply with
  | .ok => s.await id req (.type2Proxy s.tag.client.tagPath)
  | _ =>
    writeReqFinish s id req false (some ("Failed to acquire the tag: " ++ reply.message mismatch))

/-- `write_tag_proxy_ready` and `lock_tag_proxy_ready`. -/
def writeTagProxyReady (s : WriteState) (id : ℕ) (req : WriteReq) (path : Option String)
    (reply : WriteReply) : WriteState :=
  match reply with
  | .ok => s.await id { req with tag := path } (.acquire path)
  | _ =>
    writeReqFinish s id req false (some ("Failed to reach the tag: " ++ reply.message mismatch))

/-- The callback of a call. -/
def writeCallback (s : WriteState) (id : ℕ) (req : WriteReq) (call : WriteCall)
    (reply : WriteReply) : WriteState :=
  match call with
  | .tagProxy path => writeTagProxyReady mismatch s id req path reply
  | .acquire _ => acquireReady mismatch s id req reply
  | .type2Proxy path => type2ProxyReady mismatch s id req path reply
  | .writeData _ _ data => writeDataReady mismatch s id req data reply
  | .read _ _ _ => lockReadReady mismatch s id req reply
  | .write _ _ _ _ => lockWriteReady mismatch s id req reply
  | .release _ =>
    match req.kind with
    | .write _ => writeReleaseReady s id req
    | .lock => lockReleaseReady s id req

/-! ## What each callback does -/

section Callbacks

variable (s : WriteState) (id : ℕ) (req : WriteReq)

theorem writeTagProxyReady_cases (path : Option String) (reply : WriteReply) :
    (reply = .ok ∧
      writeTagProxyReady mismatch s id req path reply
        = s.await id { req with tag := path } (.acquire path)) ∨
    (reply ≠ .ok ∧ ∃ text,
      writeTagProxyReady mismatch s id req path reply
        = writeReqFinish s id req false (some text)) := by
  cases reply with
  | ok => exact Or.inl ⟨rfl, rfl⟩
  | _ => exact Or.inr ⟨by simp, _, rfl⟩

theorem acquireReady_cases (reply : WriteReply) :
    (reply = .ok ∧
      acquireReady mismatch s id req reply = s.await id req (.type2Proxy s.tag.client.tagPath)) ∨
    (reply ≠ .ok ∧ ∃ text,
      acquireReady mismatch s id req reply = writeReqFinish s id req false (some text)) := by
  cases reply with
  | ok => exact Or.inl ⟨rfl, rfl⟩
  | _ => exact Or.inr ⟨by simp, _, rfl⟩

/-- The tag has been acquired, so a failure is reported after the Release, here and below. -/
theorem type2ProxyReady_cases (path : Option String) (reply : WriteReply) :
    (reply = .ok ∧ ∃ data, req.kind = .write data ∧
      type2ProxyReady mismatch s id req path reply
        = s.await id { req with type2 := path } (.writeData path 0 data)) ∨
    (reply = .ok ∧ req.kind = .lock ∧
      type2ProxyReady mismatch s id req path reply
        = s.await id { req with type2 := path } (.read path 0 2)) ∨
    (reply ≠ .ok ∧ ∃ text,
      type2ProxyReady mismatch s id req path reply
        = writeRelease s id { req with errorText := some text }) := by
  cases reply with
  | ok =>
    cases hkind : req.kind with
    | write data =>
      refine Or.inl ⟨rfl, data, rfl, ?_⟩
      simp only [type2ProxyReady, hkind]
    | lock =>
      refine Or.inr (Or.inl ⟨rfl, rfl, ?_⟩)
      simp only [type2ProxyReady, hkind]
  | _ => exact Or.inr (Or.inr ⟨by simp, _, rfl⟩)

theorem writeDataReady_cases (tlv : Bytes) (reply : WriteReply) :
    (reply = .written tlv.length ∧
      writeDataReady mismatch s id req tlv reply
        = writeRelease s id { req with written := true }) ∨
    (reply ≠ .written tlv.length ∧ ∃ text,
      writeDataReady mismatch s id req tlv reply
        = writeRelease s id { req with written := false, errorText := some text }) := by
  cases reply with
  | written n =>
    by_cases hn : n = tlv.length
    · subst hn
      refine Or.inl ⟨rfl, ?_⟩
      simp only [writeDataReady, if_true]
    · refine Or.inr ⟨by simp [hn], s!"Only {n} of {tlv.length} bytes reached the tag", ?_⟩
      simp only [writeDataReady, if_neg hn]
  | _ => exact Or.inr ⟨by simp, _, rfl⟩

theorem lockReadReady_cases (reply : WriteReply) :
    (∃ b₀ b₁ b₂ b₃, reply = .data [b₀, b₁, b₂, b₃] ∧
      lockReadReady mismatch s id req reply
        = s.await id req (.write req.type2 0 2 [b₀, b₁, 0xFF, 0xFF])) ∨
    ((∀ b₀ b₁ b₂ b₃, reply ≠ .data [b₀, b₁, b₂, b₃]) ∧ ∃ text,
      lockReadReady mismatch s id req reply
        = writeRelease s id { req with errorText := some text }) := by
  by_cases hfour : ∃ b₀ b₁ b₂ b₃, reply = .data [b₀, b₁, b₂, b₃]
  · obtain ⟨b₀, b₁, b₂, b₃, rfl⟩ := hfour
    exact Or.inl ⟨b₀, b₁, b₂, b₃, rfl, rfl⟩
  · simp only [not_exists] at hfour
    refine Or.inr ⟨hfour, ?_⟩
    unfold lockReadReady
    split
    · next b₀ b₁ b₂ b₃ => exact absurd rfl (hfour b₀ b₁ b₂ b₃)
    · exact ⟨_, rfl⟩
    · exact ⟨_, rfl⟩

theorem lockWriteReady_cases (reply : WriteReply) :
    (reply = .written 4 ∧ lockWriteReady mismatch s id req reply = writeRelease s id req) ∨
    (reply ≠ .written 4 ∧ ∃ text,
      lockWriteReady mismatch s id req reply
        = writeRelease s id { req with errorText := some text }) := by
  cases reply with
  | written n =>
    by_cases hn : n = 4
    · subst hn
      exact Or.inl ⟨rfl, rfl⟩
    · refine Or.inr ⟨by simp [hn], s!"Short write of the lock block: {n} of 4 bytes", ?_⟩
      simp only [lockWriteReady, if_neg hn]
  | _ => exact Or.inr ⟨by simp, _, rfl⟩

end Callbacks

/-! ## Requests -/

/-- `start_type2_write` and the end of `nfcd_client_lock_tag`. -/
def startRequest (s : WriteState) (kind : WriteKind) (userData : ℕ) : WriteState :=
  -- only this call takes the path while the request is accepted
  let call := WriteCall.tagProxy s.tag.client.tagPath
  { s with
    pool := s.pool.spawn ⟨kind, none, none, userData, false, none⟩ call
    sent := s.sent ++ [(s.pool.next, call)] }

/-- `nfcd_client_write_tag`. -/
def nfcdClientWriteTag (s : WriteState) (message : Option Bytes) (userData : ℕ) : WriteState :=
  if s.tag.client.tagPath = none then s.answer userData false (some "No tag in the field")
  else if !s.tag.client.tagIsType2 then
    s.answer userData false (some "Only Type 2 tags can be written")
  else
    match ndefWrapType2Tlv message with
    | none => { s with aborted := true }
    | some none => s.answer userData false (some "Failed to encode the NDEF message")
    | some (some tlv) => startRequest s (.write tlv) userData

/-- `nfcd_client_write_raw`. -/
def nfcdClientWriteRaw (s : WriteState) (rawData : Option Bytes) (userData : ℕ) : WriteState :=
  if s.tag.client.tagPath = none then s.answer userData false (some "No tag in the field")
  else if !s.tag.client.tagIsType2 then
    s.answer userData false (some "Only Type 2 tags can be written")
  else
    match rawData with
    | none | some [] => s.answer userData false (some "Nothing to write")
    | some data => startRequest s (.write data) userData

/-- `nfcd_client_lock_tag`. -/
def nfcdClientLockTag (s : WriteState) (userData : ℕ) : WriteState :=
  if s.tag.client.tagPath = none then s.answer userData false (some "No tag in the field")
  else if !s.tag.client.tagIsType2 then
    s.answer userData false (some "Only Type 2 tags can be locked")
  else startRequest s .lock userData

/-! ## Steps -/

/-- What can happen: something on the side of the reads, a request, or the end of a
request's call. -/
inductive WriteEvent
  | tag (e : TagEvent)
  | writeTag (message : Option Bytes) (userData : ℕ)
  | cloneTag (rawData : Option Bytes) (userData : ℕ)
  | lockTag (userData : ℕ)
  | complete (i : ℕ) (reply : WriteReply)
  deriving DecidableEq, Repr

/-- One step; after an abort nothing happens any more. -/
def writeStep (glib : GlibText) (s : WriteState) (e : WriteEvent) : WriteState :=
  if s.aborted then s
  else
    match e with
    | .tag e => { s with tag := tagStep glib s.tag e }
    | .writeTag message userData => nfcdClientWriteTag s message userData
    | .cloneTag rawData userData => nfcdClientWriteRaw s rawData userData
    | .lockTag userData => nfcdClientLockTag s userData
    | .complete i reply =>
      match s.pool.calls[i]? with
      | none => s
      | some (id, call) =>
        match s.pool.tasks id with
        | none => s
        | some req => writeCallback mismatch { s with pool := s.pool.take i } id req call reply

end NfcAdapter
