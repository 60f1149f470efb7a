/-
# Tag information is shown of a current tag only

Whatever a tag read does next, and however its calls end, it leaves the current tag's path
alone, and a read that still points at the client is the client's current one.  So while
there is no current tag there is no tag information either.
-/
import NfcAdapter.TagReadSteps

namespace NfcAdapter

open TaskPool (Pool)

/-! ## What a callback may do to the client -/

/-- A callback of an attached read makes the next call or frees the read; the current tag
stays, and so does the read the client points at while the read goes on. -/
inductive Advances (s : TagState) (id : ℕ) : TagState → Prop
  | awaits (client : TagClient) (read : TagRead) (call : TagCall)
      (hpath : client.tagPath = s.client.tagPath) (hreading : client.reading = s.client.reading)
      (hclient : read.client = true) :
    Advances s id ({ s with client := client }.await id read call)
  | frees (client : TagClient) (hpath : client.tagPath = s.client.tagPath) :
      Advances s id ({ s with client := client }.free id)

/-- The client may be changed first. -/
theorem Advances.of_client {s s' : TagState} {id : ℕ} (client : TagClient)
    (hpath : client.tagPath = s.client.tagPath) (hreading : client.reading = s.client.reading)
    (h : Advances { s with client := client } id s') : Advances s id s' := by
  cases h with
  | awaits client' read call hpath' hreading' hclient =>
    exact .awaits client' read call (hpath'.trans hpath) (hreading'.trans hreading) hclient
  | frees client' hpath' => exact .frees client' (hpath'.trans hpath)

section Callbacks

variable {s : TagState} {id : ℕ} {read : TagRead}

theorem advances_await (call : TagCall) (h : read.client = true) :
    Advances s id (s.await id read call) :=
  .awaits s.client read call rfl rfl h

theorem advances_free : Advances s id (s.free id) := .frees s.client rfl

theorem advances_finish : Advances s id (tagReadFinish s id read) := by
  unfold tagReadFinish
  split
  · exact advances_free
  · exact .frees _ rfl

theorem advances_giveUp : Advances s id (tagReadGiveUp s id read) := by
  unfold tagReadGiveUp
  split
  · exact .frees _ rfl
  · exact advances_free

theorem advances_sendAuth (key : Bytes) (h : read.client = true) :
    Advances s id (mifareSendAuth s id read key) := advances_await _ h

theorem advances_nextSector (h : read.client = true) :
    Advances s id (tagReadMifareNextSector s id read) := by
  unfold tagReadMifareNextSector
  split
  · exact advances_free
  · split
    · exact advances_finish
    -- progress is published before the next sector
    · refine Advances.of_client (mifarePublishProgress s.client read) rfl rfl ?_
      simp only
      split
      · exact advances_sendAuth _ h
      · exact advances_sendAuth _ h

theorem advances_tryKey (h : read.client = true) :
    Advances s id (tagReadMifareTryKey s id read) := by
  unfold tagReadMifareTryKey
  split
  · exact advances_nextSector h
  · split
    · exact advances_free
    · exact advances_sendAuth _ h

theorem client_nextKey (read : TagRead) : (mifareNextKey read).client = read.client := by
  unfold mifareNextKey
  split <;> rfl

theorem advances_sectorDone (h : read.client = true) :
    Advances s id (mifareSectorDone s id read) := by
  refine Advances.of_client (mifareCacheStore s.client read.mifareUid read.mifareSector
    read.mifareKey) ?_ (reading_cacheStore _ _ _ _) (advances_nextSector h)
  cases read.mifareUid <;> rfl

theorem advances_rawData (h : read.client = true) : Advances s id (tagReadRawData s id read) := by
  unfold tagReadRawData
  split
  · exact advances_finish
  · exact advances_await _ h

theorem advances_nextRecord (h : read.client = true) :
    Advances s id (tagReadNextRecord s id read) := by
  unfold tagReadNextRecord
  split
  · exact advances_rawData h
  · exact advances_await _ h

/-- **Every callback.** -/
theorem advances_tagCallback (glib : GlibText) (call : TagCall) (reply : TagReply) :
    Advances s id (tagCallback glib s id read call reply) := by
  by_cases hdetached : read.client = false
  · rw [tagCallback_of_detached call reply hdetached]
    exact advances_free
  have h : read.client = true := by simpa using hdetached
  have hattached : (!read.client) = false := by rw [h]; rfl
  cases call with
  | tagProxy path =>
    simp only [tagCallback, tagProxyReady, hattached, Bool.false_eq_true, if_false]
    split
    · exact advances_giveUp
    · exact advances_await _ h
  | getAll3 path =>
    simp only [tagCallback, tagGetAllReady, hattached, Bool.false_eq_true, if_false]
    split
    · exact advances_giveUp
    · next info _ =>
      refine Advances.of_client { s.client with tagProtocol := info.protocol } rfl rfl ?_
      split
      · exact advances_nextSector h
      · exact advances_nextRecord h
  | ndefProxy path =>
    simp only [tagCallback, ndefProxyReady, hattached, Bool.false_eq_true, if_false]
    split
    · exact advances_await _ h
    · exact advances_nextRecord h
  | ndefGetAll path =>
    simp only [tagCallback, ndefGetAllReady, hattached, Bool.false_eq_true, if_false]
    exact advances_nextRecord h
  | type2Proxy path =>
    simp only [tagCallback, rawDataProxyReady, hattached, Bool.false_eq_true, if_false]
    split
    · exact advances_await _ h
    · exact advances_finish
  | readAllData path =>
    simp only [tagCallback, rawDataReady, hattached, Bool.false_eq_true, if_false]
    split
    · exact advances_finish
    · exact advances_finish
  | mifareAuth command =>
    simp only [tagCallback, mifareAuthReady, hattached, Bool.false_eq_true, if_false]
    split
    · split
      · exact advances_free
      · exact advances_tryKey ((client_nextKey read).trans h)
    · exact advances_await _ h
  | mifareBlock command =>
    simp only [tagCallback, mifareBlockReadReady, hattached, Bool.false_eq_true, if_false]
    split
    · split
      · exact advances_sectorDone h
      · exact advances_await _ h
    · split
      · exact advances_tryKey ((client_nextKey _).trans h)
      · exact advances_sectorDone h

end Callbacks

/-! ## The current tag's path -/

theorem Advances.tagPath {s s' : TagState} {id : ℕ} (h : Advances s id s') :
    s'.client.tagPath = s.client.tagPath := by
  cases h with
  | awaits client read call hpath _ _ => exact hpath
  | frees client hpath => exact hpath

/-- The end of a read's call does not change the current tag. -/
theorem tagStep_complete_tagPath (glib : GlibText) (s : TagState) (i : ℕ) (reply : TagReply) :
    (tagStep glib s (.complete i reply)).client.tagPath = s.client.tagPath := by
  unfold tagStep
  simp only
  split
  · rfl
  · split
    · rfl
    · exact (advances_tagCallback glib _ reply).tagPath

theorem setCurrentTag_tagPath (s : TagState) (path : Option String) :
    (setCurrentTag s path).client.tagPath = path := by
  unfold setCurrentTag
  split
  · next h => exact h
  · cases path <;> rfl

/-! ## The invariant -/

/-- A read that points at the client is the current one and has a current tag, and without a
current tag no tag information is shown. -/
structure Shown (s : TagState) : Prop where
  wf : s.pool.WF none
  attached : ∀ id read, s.pool.tasks id = some read → read.client = true →
    s.client.reading = some id ∧ s.client.tagPath ≠ none
  json : s.client.tagPath = none → s.client.tagJson = none

theorem shown_init : Shown .init := by
  refine ⟨Pool.wf_empty, ?_, fun _ => rfl⟩
  intro id read ht
  cases ht

/-- **A call ends.** -/
theorem Shown.complete {s : TagState} (h : Shown s) (glib : GlibText) (i : ℕ) (reply : TagReply) :
    Shown (tagStep glib s (.complete i reply)) := by
  cases hi : s.pool.calls[i]? with
  | none => simpa [tagStep, hi] using h
  | some entry =>
    obtain ⟨id, call⟩ := entry
    obtain ⟨read, ht⟩ := h.wf.exists_task (List.mem_of_getElem? hi)
    rw [tagStep_complete reply hi ht]
    by_cases hdetached : read.client = false
    · rw [tagCallback_of_detached call reply hdetached]
      refine ⟨(h.wf.take hi).free, ?_, h.json⟩
      intro j r hr hc
      exact h.attached j r (Pool.tasks_free_eq_some.mp hr).2 hc
    obtain ⟨hreading, htag⟩ := h.attached id read ht (by simpa using hdetached)
    -- the client points at this read, so no other one is attached
    have hother : ∀ j r, j ≠ id → s.pool.tasks j = some r → r.client = true → False := by
      intro j r hj hr hc
      have hcur := (h.attached j r hr hc).1
      rw [hreading] at hcur
      exact hj (Option.some.inj hcur).symm
    have hadv : Advances { s with pool := s.pool.take i } id
        (tagCallback glib { s with pool := s.pool.take i } id read call reply) :=
      advances_tagCallback glib call reply
    generalize tagCallback glib { s with pool := s.pool.take i } id read call reply = s' at hadv
    cases hadv with
    | awaits client read' call' hpath hreading' hclient =>
      refine ⟨(h.wf.take hi).await _ _, ?_, fun hnone => absurd (hpath.symm.trans hnone) htag⟩
      intro j r hr hc
      rcases Pool.tasks_await_eq_some.mp hr with ⟨rfl, rfl⟩ | ⟨hj, hr⟩
      · exact ⟨hreading'.trans hreading, fun hnone => htag (hpath.symm.trans hnone)⟩
      · exact (hother j r hj hr hc).elim
    | frees client hpath =>
      refine ⟨(h.wf.take hi).free, ?_, fun hnone => absurd (hpath.symm.trans hnone) htag⟩
      intro j r hr hc
      obtain ⟨hj, hr⟩ := Pool.tasks_free_eq_some.mp hr
      exact (hother j r hj hr hc).elim

/-- After an abortion no read is attached. -/
theorem Shown.abortReading {s : TagState} (h : Shown s) :
    (abortReading s).pool.WF none ∧
      ∀ id read, (abortReading s).pool.tasks id = some read → read.client = false := by
  unfold NfcAdapter.abortReading
  split
  · next hnone =>
    refine ⟨h.wf, ?_⟩
    intro id read ht
    by_contra hc
    have hreading := (h.attached id read ht (by simpa using hc)).1
    rw [hnone] at hreading
    cases hreading
  · next cur hcur =>
    refine ⟨h.wf.modify cur TagRead.abort, ?_⟩
    intro id read ht
    rcases Pool.tasks_modify_eq_some.mp ht with ⟨-, r, -, rfl⟩ | ⟨hid, ht⟩
    · rfl
    · by_contra hc
      have hreading := (h.attached id read ht (by simpa using hc)).1
      rw [hcur] at hreading
      exact hid (Option.some.inj hreading).symm

/-- **Another tag becomes current**, or none. -/
theorem Shown.setCurrentTag {s : TagState} (h : Shown s) (path : Option String) :
    Shown (setCurrentTag s path) := by
  obtain ⟨hwf, hdetached⟩ := h.abortReading
  unfold NfcAdapter.setCurrentTag
  split
  · exact h
  · cases path with
    | none =>
      refine ⟨hwf, ?_, fun _ => rfl⟩
      intro id read ht hc
      rw [hdetached id read ht] at hc
      cases hc
    | some path =>
      refine ⟨hwf.spawn _ _, ?_, fun hnone => nomatch hnone⟩
      intro id read ht hc
      rcases Pool.tasks_spawn_eq_some.mp ht with ⟨rfl, rfl⟩ | ⟨hid, ht⟩
      · exact ⟨rfl, fun hnone => nomatch hnone⟩
      · rw [hdetached id read ht] at hc
        cases hc

end NfcAdapter
