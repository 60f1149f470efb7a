/-
# What the callbacks of a tag read do

Every callback of a read that still points at the client either makes the read's next call
or frees it, and touches the client only to publish what belongs to the read's own tag;
every callback of a detached read only frees it.
-/
import NfcAdapter.TagRead

namespace NfcAdapter

open Json (text Value Object)
open TaskPool (Pool)

/-! ## Publishing -/

/-- The JSON of a tag carries the tag's path. -/
def ShowsPath (path : String) (obj : Object) : Prop := obj.get? "path" = some (.string (text path))

theorem ShowsPath.put {path : String} {obj : Object} (h : ShowsPath path obj) {key : String}
    (hkey : key ≠ "path") (value : Value) : ShowsPath path (obj.put key value) := by
  rw [ShowsPath, Object.get?_put, if_neg (Ne.symm hkey)]
  exact h

theorem showsPath_tagObject (path : String) (info : TagInfo) :
    ShowsPath path (tagObject path info) := by
  simp [ShowsPath, tagObject]

/-- A later state of the same read, with the tag's information in hand. -/
structure Follows (read read' : TagRead) : Prop where
  client : read'.client = read.client
  path : read'.path = read.path
  cancelled : read'.cancelled = read.cancelled
  isType2 : read'.isType2 = read.isType2
  shows : ShowsPath read.path read'.tagObj

/-- What a callback of an attached read may do to the client. -/
structure ClientStep (read : TagRead) (c c' : TagClient) : Prop where
  tagPath : c'.tagPath = c.tagPath
  tagProtocol : c'.tagProtocol = c.tagProtocol
  tagIsType2 : c'.tagIsType2 = c.tagIsType2 ∨ c'.tagIsType2 = read.isType2
  tagJson : c'.tagJson = c.tagJson ∨ ∃ obj, c'.tagJson = some obj ∧ ShowsPath read.path obj
  notices : ∀ n ∈ c'.notices, n ∈ c.notices ∨
    ∃ obj, n = (c.tagPath, some obj) ∧ ShowsPath read.path obj

theorem ClientStep.refl (read : TagRead) (c : TagClient) : ClientStep read c c :=
  ⟨rfl, rfl, Or.inl rfl, Or.inl rfl, fun _ hn => Or.inl hn⟩

theorem ClientStep.trans {read : TagRead} {c c' c'' : TagClient} (h : ClientStep read c c')
    (h' : ClientStep read c' c'') : ClientStep read c c'' where
  tagPath := h'.tagPath.trans h.tagPath
  tagProtocol := h'.tagProtocol.trans h.tagProtocol
  tagIsType2 := by
    rcases h'.tagIsType2 with heq | heq
    · rw [heq]
      exact h.tagIsType2
    · exact Or.inr heq
  tagJson := by
    rcases h'.tagJson with heq | hobj
    · rw [heq]
      exact h.tagJson
    · exact Or.inr hobj
  notices := by
    intro n hn
    rcases h'.notices n hn with hn | ⟨obj, rfl, hobj⟩
    · exact h.notices n hn
    · rw [h.tagPath]
      exact Or.inr ⟨obj, rfl, hobj⟩

/-- Publishing JSON of the read's tag. -/
theorem clientStep_publish {read : TagRead} {c : TagClient} {obj : Object} (type2 : Bool)
    (reading : Option ℕ) (htype2 : type2 = c.tagIsType2 ∨ type2 = read.isType2)
    (hobj : ShowsPath read.path obj) :
    ClientStep read c (notifyTag
      { c with tagJson := some obj, tagIsType2 := type2, reading := reading }) where
  tagPath := rfl
  tagProtocol := rfl
  tagIsType2 := htype2
  tagJson := Or.inr ⟨obj, rfl, hobj⟩
  notices := by
    intro n hn
    rcases List.mem_append.mp hn with hn | hn
    · exact Or.inl hn
    · rw [List.mem_singleton.mp hn]
      exact Or.inr ⟨obj, rfl, hobj⟩

/-! ## Calls -/

/-- The tag's information has arrived before this call was made. -/
def TagCall.hasInfo : TagCall → Bool
  | .tagProxy _ | .getAll3 _ => false
  | _ => true

/-- The tag a call is addressed to by its path. -/
def TagCall.onTag : TagCall → Option String
  | .tagProxy path | .getAll3 path | .type2Proxy path | .readAllData path => some path
  | _ => none

/-- What a callback of an attached read does, from the moment its read has the tag's
information on. -/
inductive Handled (s : TagState) (id : ℕ) (read : TagRead) : TagState → Prop
  | awaits (client : TagClient) (read' : TagRead) (call : TagCall)
      (hclient : ClientStep read s.client client) (hreading : client.reading = s.client.reading)
      (hfollows : Follows read read') (hinfo : call.hasInfo = true)
      (haddressed : ∀ path ∈ call.onTag, path = read.path) :
      Handled s id read ({ s with client := client }.await id read' call)
  | frees (client : TagClient) (hclient : ClientStep read s.client client)
      (hreading : client.reading = none) :
      Handled s id read ({ s with client := client }.free id)

/-- The client may be changed first. -/
theorem Handled.of_client {s s' : TagState} {id : ℕ} {read : TagRead} {client : TagClient}
    (hclient : ClientStep read s.client client) (hreading : client.reading = s.client.reading)
    (h : Handled { s with client := client } id read s') : Handled s id read s' := by
  cases h with
  | awaits client' read' call hclient' hreading' hfollows hinfo haddressed =>
    exact .awaits client' read' call (hclient.trans hclient') (hreading'.trans hreading) hfollows
      hinfo haddressed
  | frees client' hclient' hreading' => exact .frees client' (hclient.trans hclient') hreading'

/-- A call that leaves the client alone. -/
theorem handled_await {s : TagState} {id : ℕ} {read read' : TagRead} {call : TagCall}
    (hfollows : Follows read read') (hinfo : call.hasInfo = true)
    (haddressed : ∀ path ∈ call.onTag, path = read.path) :
    Handled s id read (s.await id read' call) :=
  .awaits s.client read' call (.refl read s.client) rfl hfollows hinfo haddressed

theorem handled_finish {s : TagState} {id : ℕ} {read read' : TagRead} (h : Follows read read')
    (hclient : read.client = true) : Handled s id read (tagReadFinish s id read') := by
  have hattached : (!read'.client) = false := by rw [h.client, hclient]; rfl
  rw [tagReadFinish, hattached]
  refine .frees _ (clientStep_publish read'.isType2 none (Or.inr h.isType2) ?_) rfl
  exact h.shows.put (by decide) _

/-! ## MIFARE Classic -/

theorem handled_sendAuth {s : TagState} {id : ℕ} {read read' : TagRead} (h : Follows read read')
    (key : Bytes) : Handled s id read (mifareSendAuth s id read' key) := by
  refine handled_await ?_ rfl ?_
  · exact ⟨h.client, h.path, h.cancelled, h.isType2, h.shows⟩
  · intro path hpath
    cases hpath

theorem clientStep_publishProgress {read read' : TagRead} (c : TagClient)
    (h : Follows read read') : ClientStep read c (mifarePublishProgress c read') := by
  refine clientStep_publish c.tagIsType2 c.reading (Or.inl rfl) ?_
  exact (h.shows.put (by decide) _).put (by decide) _

theorem handled_nextSector {s : TagState} {id : ℕ} {read read' : TagRead}
    (h : Follows read read') (hclient : read.client = true) :
    Handled s id read (tagReadMifareNextSector s id read') := by
  have hattached : (!read'.client) = false := by rw [h.client, hclient]; rfl
  rw [tagReadMifareNextSector, hattached]
  simp only [Bool.false_eq_true, if_false]
  split
  -- the sweep is over
  · apply handled_finish _ hclient
    exact ⟨h.client, h.path, h.cancelled, h.isType2,
      (h.shows.put (by decide) _).put (by decide) _⟩
  -- another sector: progress is published, then the cached key or the first default one is sent
  · apply Handled.of_client (clientStep_publishProgress s.client h) rfl
    split
    · apply handled_sendAuth
      exact ⟨h.client, h.path, h.cancelled, h.isType2, h.shows⟩
    · apply handled_sendAuth
      exact ⟨h.client, h.path, h.cancelled, h.isType2, h.shows⟩

theorem handled_tryKey {s : TagState} {id : ℕ} {read read' : TagRead} (h : Follows read read')
    (hclient : read.client = true) : Handled s id read (tagReadMifareTryKey s id read') := by
  have hattached : (!read'.client) = false := by rw [h.client, hclient]; rfl
  rw [tagReadMifareTryKey, hattached]
  split
  · exact handled_nextSector ⟨h.client, h.path, h.cancelled, h.isType2, h.shows⟩ hclient
  · exact handled_sendAuth h _

theorem follows_nextKey {read read' : TagRead} (h : Follows read read') :
    Follows read (mifareNextKey read') := by
  unfold mifareNextKey
  split
  · exact ⟨h.client, h.path, h.cancelled, h.isType2, h.shows⟩
  · exact ⟨h.client, h.path, h.cancelled, h.isType2, h.shows⟩

theorem handled_readBlock {s : TagState} {id : ℕ} {read read' : TagRead} (h : Follows read read')
    (block : ℕ) : Handled s id read (mifareReadBlock s id read' block) := by
  apply handled_await h rfl
  intro path hpath
  cases hpath

theorem clientStep_cacheStore (read : TagRead) (c : TagClient) (uid : Option String)
    (sector : ℕ) (key : Bytes) : ClientStep read c (mifareCacheStore c uid sector key) := by
  cases uid with
  | none => exact .refl read c
  | some uid => exact ⟨rfl, rfl, Or.inl rfl, Or.inl rfl, fun _ hn => Or.inl hn⟩

theorem reading_cacheStore (c : TagClient) (uid : Option String) (sector : ℕ) (key : Bytes) :
    (mifareCacheStore c uid sector key).reading = c.reading := by
  cases uid <;> rfl

theorem handled_sectorDone {s : TagState} {id : ℕ} {read read' : TagRead}
    (h : Follows read read') (hclient : read.client = true) :
    Handled s id read (mifareSectorDone s id read') := by
  apply Handled.of_client (clientStep_cacheStore read s.client read'.mifareUid
    read'.mifareSector read'.mifareKey) (reading_cacheStore _ _ _ _)
  exact handled_nextSector ⟨h.client, h.path, h.cancelled, h.isType2, h.shows⟩ hclient

/-- An authentication, unless the client's own call was cancelled. -/
theorem handled_mifareAuthReady {s : TagState} {id : ℕ} {read : TagRead} {reply : TagReply}
    (hshows : ShowsPath read.path read.tagObj) (hclient : read.client = true)
    (hcancelled : reply.cancelled = false) :
    Handled s id read (mifareAuthReady s id read reply) := by
  have hfollows : Follows read read := ⟨rfl, rfl, rfl, rfl, hshows⟩
  have hattached : (!read.client) = false := by rw [hclient]; rfl
  simp only [mifareAuthReady, hattached, hcancelled, Bool.false_eq_true, if_false]
  split
  · exact handled_tryKey (follows_nextKey hfollows) hclient
  · apply handled_readBlock
    exact ⟨rfl, rfl, rfl, rfl, hshows⟩

theorem handled_mifareBlockReadReady {s : TagState} {id : ℕ} {read : TagRead} {reply : TagReply}
    (hshows : ShowsPath read.path read.tagObj) (hclient : read.client = true) :
    Handled s id read (mifareBlockReadReady s id read reply) := by
  have hfollows : ∀ blocks offset, Follows read
      { read with mifareBlocksArr := blocks, mifareBlockOffset := offset } :=
    fun _ _ => ⟨rfl, rfl, rfl, rfl, hshows⟩
  have hattached : (!read.client) = false := by rw [hclient]; rfl
  simp only [mifareBlockReadReady, hattached, Bool.false_eq_true, if_false]
  split
  · split
    · exact handled_sectorDone (hfollows _ _) hclient
    · apply handled_readBlock
      exact hfollows _ _
  · split
    · exact handled_tryKey (follows_nextKey (hfollows _ _)) hclient
    · exact handled_sectorDone (hfollows _ _) hclient

/-! ## Records and raw data -/

theorem handled_rawData {s : TagState} {id : ℕ} {read read' : TagRead} (h : Follows read read')
    (hclient : read.client = true) : Handled s id read (tagReadRawData s id read') := by
  unfold tagReadRawData
  split
  · exact handled_finish h hclient
  · apply handled_await h rfl
    intro path hpath
    rw [← Option.some.inj hpath]
    exact h.path

theorem handled_nextRecord {s : TagState} {id : ℕ} {read read' : TagRead}
    (h : Follows read read') (hclient : read.client = true) :
    Handled s id read (tagReadNextRecord s id read') := by
  unfold tagReadNextRecord
  split
  · exact handled_rawData h hclient
  · apply handled_await h rfl
    intro path hpath
    cases hpath

theorem handled_rawDataReady {s : TagState} {id : ℕ} {read : TagRead} {reply : TagReply}
    (hshows : ShowsPath read.path read.tagObj) (hclient : read.client = true) :
    Handled s id read (rawDataReady s id read reply) := by
  have hattached : (!read.client) = false := by rw [hclient]; rfl
  simp only [rawDataReady, hattached, Bool.false_eq_true, if_false]
  split
  · refine handled_finish ?_ hclient
    exact ⟨rfl, rfl, rfl, rfl, hshows.put (by decide) _⟩
  · exact handled_finish ⟨rfl, rfl, rfl, rfl, hshows⟩ hclient

theorem handled_rawDataProxyReady {s : TagState} {id : ℕ} {read : TagRead} {path : String}
    {reply : TagReply} (hshows : ShowsPath read.path read.tagObj) (hclient : read.client = true)
    (hpath : path = read.path) :
    Handled s id read (rawDataProxyReady s id read path reply) := by
  have hfollows : Follows read read := ⟨rfl, rfl, rfl, rfl, hshows⟩
  have hattached : (!read.client) = false := by rw [hclient]; rfl
  simp only [rawDataProxyReady, hattached, Bool.false_eq_true, if_false]
  split
  · apply handled_await hfollows rfl
    intro path' hpath'
    rw [← Option.some.inj hpath']
    exact hpath
  · exact handled_finish hfollows hclient

variable {glib : GlibText}

theorem handled_ndefGetAllReady {s : TagState} {id : ℕ} {read : TagRead} {reply : TagReply}
    (hshows : ShowsPath read.path read.tagObj) (hclient : read.client = true) :
    Handled s id read (ndefGetAllReady glib s id read reply) := by
  have hattached : (!read.client) = false := by rw [hclient]; rfl
  simp only [ndefGetAllReady, hattached, Bool.false_eq_true, if_false]
  refine handled_nextRecord ?_ hclient
  exact ⟨rfl, rfl, rfl, rfl, hshows⟩

theorem handled_ndefProxyReady {s : TagState} {id : ℕ} {read : TagRead} {path : String}
    {reply : TagReply} (hshows : ShowsPath read.path read.tagObj) (hclient : read.client = true) :
    Handled s id read (ndefProxyReady s id read path reply) := by
  have hattached : (!read.client) = false := by rw [hclient]; rfl
  simp only [ndefProxyReady, hattached, Bool.false_eq_true, if_false]
  split
  · apply handled_await ⟨rfl, rfl, rfl, rfl, hshows⟩ rfl
    intro path' hpath'
    cases hpath'
  · refine handled_nextRecord ?_ hclient
    exact ⟨rfl, rfl, rfl, rfl, hshows⟩

/-- **Callbacks with information.** The callback of every later call. -/
theorem handled_tagCallback {s : TagState} {id : ℕ} {read : TagRead} {call : TagCall}
    {reply : TagReply} (hshows : ShowsPath read.path read.tagObj) (hclient : read.client = true)
    (hinfo : call.hasInfo = true) (haddressed : ∀ path ∈ call.onTag, path = read.path)
    (hcancelled : reply.cancelled = false) :
    Handled s id read (tagCallback glib s id read call reply) := by
  cases call with
  -- the first two calls are made before the information is there
  | tagProxy path => cases hinfo
  | getAll3 path => cases hinfo
  | ndefProxy path => exact handled_ndefProxyReady hshows hclient
  | ndefGetAll path => exact handled_ndefGetAllReady hshows hclient
  | type2Proxy path => exact handled_rawDataProxyReady hshows hclient (haddressed path rfl)
  | readAllData path => exact handled_rawDataReady hshows hclient
  | mifareAuth command => exact handled_mifareAuthReady hshows hclient hcancelled
  | mifareBlock command => exact handled_mifareBlockReadReady hshows hclient

/-! ## The first two calls -/

/-- Giving up before anything was published. -/
theorem tagReadGiveUp_of_attached {s : TagState} {id : ℕ} {read : TagRead}
    (hclient : read.client = true) :
    tagReadGiveUp s id read = { s with client := { s.client with reading := none } }.free id := by
  rw [tagReadGiveUp, hclient]
  rfl

/-- The read once the tag's information has arrived. -/
def TagRead.withInfo (read : TagRead) (info : TagInfo) : TagRead :=
  { read with
    tagObj := tagObject read.path info
    isType2 := info.isType2
    recordsArr := []
    recordPaths := info.ndefRecords
    recordIndex := 0 }

/-- The tag's information arrives: the protocol is published, and the read goes on. -/
theorem handled_tagGetAllReady (s : TagState) (id : ℕ) {read : TagRead} {reply : TagReply}
    {info : TagInfo} (hclient : read.client = true) (hinfo : reply.tagInfo? = some info) :
    Handled { s with client := { s.client with tagProtocol := info.protocol } } id
      (read.withInfo info) (tagGetAllReady s id read reply) := by
  have hshows := showsPath_tagObject read.path info
  have hattached : (!read.client) = false := by rw [hclient]; rfl
  simp only [tagGetAllReady, hinfo, hattached, Bool.false_eq_true, if_false]
  split
  · refine handled_nextSector ?_ hclient
    exact ⟨rfl, rfl, rfl, rfl, hshows⟩
  · refine handled_nextRecord ?_ hclient
    exact ⟨rfl, rfl, rfl, rfl, hshows⟩

/-! ## The end of a call -/

/-- The end of a call runs its callback, on the pool without the call. -/
theorem tagStep_complete {s : TagState} {i id : ℕ} {call : TagCall} {read : TagRead}
    (reply : TagReply) (hi : s.pool.calls[i]? = some (id, call))
    (ht : s.pool.tasks id = some read) :
    tagStep glib s (.complete i reply) =
      tagCallback glib { s with pool := s.pool.take i } id read call reply := by
  simp only [tagStep, hi, ht]

/-! ## Detached reads -/

/-- **Detached reads.** Whatever its call and however it ends, the callback of a read that
no longer points at the client frees the read and does nothing else. -/
theorem tagCallback_of_detached {s : TagState} {id : ℕ} {read : TagRead} (call : TagCall)
    (reply : TagReply) (hclient : read.client = false) :
    tagCallback glib s id read call reply = s.free id := by
  cases call with
  | tagProxy path =>
    show tagProxyReady s id read path reply = _
    rw [tagProxyReady, tagReadGiveUp, hclient]
    split <;> rfl
  | getAll3 path =>
    show tagGetAllReady s id read reply = _
    rw [tagGetAllReady, tagReadGiveUp, hclient]
    split <;> rfl
  | ndefProxy path =>
    show ndefProxyReady s id read path reply = _
    rw [ndefProxyReady, hclient]
    rfl
  | ndefGetAll path =>
    show ndefGetAllReady glib s id read reply = _
    rw [ndefGetAllReady, hclient]
    rfl
  | type2Proxy path =>
    show rawDataProxyReady s id read path reply = _
    rw [rawDataProxyReady, hclient]
    rfl
  | readAllData path =>
    show rawDataReady s id read reply = _
    rw [rawDataReady, hclient]
    rfl
  | mifareAuth command =>
    show mifareAuthReady s id read reply = _
    rw [mifareAuthReady, hclient]
    rfl
  | mifareBlock command =>
    show mifareBlockReadReady s id read reply = _
    rw [mifareBlockReadReady, hclient]
    rfl

end NfcAdapter
