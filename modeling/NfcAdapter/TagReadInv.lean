/-
# Tag information never belongs to another tag

The invariant of the client and its reads over every order of tag changes and replies: the
read that points at the client follows the current tag, what is published was read from
it, and detached reads only wait for their last call.
-/
import NfcAdapter.TagReadSteps

namespace NfcAdapter

open Json (text Value Object)
open Runs
open TaskPool (Pool)

/-! ## The current tag's session -/

/-- What a run has seen since the current tag became current: the read started for it, and
the answer to that read's `GetAll3` with the path it was sent to. -/
structure Session where
  read : Option ℕ
  info : Option (String × TagInfo)

/-- The session after an event that `s` handles. -/
def Session.next (ses : Session) (s : TagState) : TagEvent → Session
  | .tags tags =>
    if s.client.tagPath = tags.head? then ses else ⟨tags.head?.map fun _ => s.pool.next, none⟩
  | .complete i reply =>
    match s.pool.calls[i]? with
    | some (id, .getAll3 path) =>
      if ses.read = some id then
        { ses with info := (reply.tagInfo?.map fun info => (path, info)).or ses.info }
      else ses
    | _ => ses

/-- The session at the end of a run. -/
def sessionAfter (glib : GlibText) (es : List TagEvent) : Session :=
  (run (withHistory (tagStep glib) Session.next) (TagState.init, ⟨none, none⟩) es).2

/-! ## The invariant -/

/-- The invariant of every run. -/
structure TagInv (s : TagState) (ses : Session) : Prop where
  wf : s.pool.WF none
  sound : s.fault = false
  attached : ∀ id read, s.pool.tasks id = some read → read.client = true →
    s.client.reading = some id ∧ s.client.tagPath = some read.path ∧ read.cancelled = false
  current : ∀ id, s.client.reading = some id →
    ses.read = some id ∧ ∃ read, s.pool.tasks id = some read ∧ read.client = true
  session : ∀ id read, ses.read = some id → s.pool.tasks id = some read → read.client = true
  addressed : ∀ id call read, (id, call) ∈ s.pool.calls → s.pool.tasks id = some read →
    ∀ path ∈ call.onTag, path = read.path
  shows : ∀ id call read, (id, call) ∈ s.pool.calls → s.pool.tasks id = some read →
    call.hasInfo = true → ShowsPath read.path read.tagObj
  json : ∀ obj, s.client.tagJson = some obj →
    ∃ path, s.client.tagPath = some path ∧ ShowsPath path obj
  notices : ∀ tag obj, (tag, some obj) ∈ s.client.notices → ∃ path, tag = some path ∧
    ShowsPath path obj
  protocol : s.client.tagProtocol = (ses.info.map (·.2.protocol)).getD 0
  info_path : ∀ x, ses.info = some x → s.client.tagPath = some x.1
  type2 : s.client.tagIsType2 = true → ∃ x, ses.info = some x ∧ x.2.isType2 = true
  before : ∀ id call read, (id, call) ∈ s.pool.calls → s.pool.tasks id = some read →
    read.client = true → call.hasInfo = false → ses.info = none
  after : ∀ id call read, (id, call) ∈ s.pool.calls → s.pool.tasks id = some read →
    read.client = true → call.hasInfo = true → ∃ x, ses.info = some x ∧ read.isType2 = x.2.isType2

theorem tagInv_init : TagInv TagState.init ⟨none, none⟩ := by
  constructor
  case wf => exact TaskPool.Pool.wf_empty
  all_goals simp [TagState.init, Pool.empty]

/-! ## One callback -/

/-- What a client's publication may leave, seen from the invariant. -/
structure Published (s : TagState) (ses : Session) (client : TagClient) : Prop where
  tagPath : client.tagPath = s.client.tagPath
  json : ∀ obj, client.tagJson = some obj →
    ∃ path, client.tagPath = some path ∧ ShowsPath path obj
  notices : ∀ tag obj, (tag, some obj) ∈ client.notices → ∃ path, tag = some path ∧
    ShowsPath path obj
  protocol : client.tagProtocol = (ses.info.map (·.2.protocol)).getD 0
  info_path : ∀ x, ses.info = some x → client.tagPath = some x.1
  type2 : client.tagIsType2 = true → ∃ x, ses.info = some x ∧ x.2.isType2 = true

/-- While a read is attached no other one is. -/
theorem TagInv.detached_of_ne {s : TagState} {ses : Session} (h : TagInv s ses) {id j : ℕ}
    {read r : TagRead} (ht : s.pool.tasks id = some read) (hattached : read.client = true)
    (hj : j ≠ id) (hr : s.pool.tasks j = some r) : r.client = false := by
  by_contra hc
  have hid := (h.attached id read ht hattached).1
  have hjd := (h.attached j r hr (by simpa using hc)).1
  rw [hid] at hjd
  exact hj (Option.some.inj hjd).symm

/-- The running read makes its next call. -/
theorem TagInv.awaits {s : TagState} {ses ses' : Session} {client : TagClient} {i id : ℕ}
    {call call' : TagCall} {read read' : TagRead} (h : TagInv s ses)
    (hi : s.pool.calls[i]? = some (id, call)) (ht : s.pool.tasks id = some read)
    (hattached : read.client = true) (hpub : Published s ses' client)
    (hreading : client.reading = s.client.reading) (hread : ses'.read = ses.read)
    (hclient : read'.client = true) (hpath : read'.path = read.path)
    (hcancelled : read'.cancelled = read.cancelled)
    (haddressed : ∀ path ∈ call'.onTag, path = read.path)
    (hshows : call'.hasInfo = true → ShowsPath read.path read'.tagObj)
    (hbefore : call'.hasInfo = false → ses'.info = none)
    (hafter : call'.hasInfo = true → ∃ x, ses'.info = some x ∧ read'.isType2 = x.2.isType2) :
    TagInv ⟨client, (s.pool.take i).await id read' call', s.fault⟩ ses' := by
  obtain ⟨hrid, hrpath, hrcancelled⟩ := h.attached id read ht hattached
  refine ⟨(h.wf.take hi).await read' call', h.sound, ?_, ?_, ?_, ?_, ?_, hpub.json, hpub.notices,
    hpub.protocol, hpub.info_path, hpub.type2, ?_, ?_⟩
  · intro j r hr hc
    rcases Pool.tasks_await_eq_some.mp hr with ⟨rfl, rfl⟩ | ⟨hj, hr⟩
    · exact ⟨hreading.trans hrid, by rw [hpub.tagPath, hrpath, hpath],
        by rw [hcancelled, hrcancelled]⟩
    · rw [h.detached_of_ne ht hattached hj hr] at hc
      cases hc
  · intro j hj
    rw [hreading] at hj
    obtain ⟨hses, r, hr, hrc⟩ := h.current j hj
    refine ⟨by rw [hread, hses], ?_⟩
    simp only [Pool.tasks_await]
    split
    · exact ⟨read', rfl, hclient⟩
    · exact ⟨r, hr, hrc⟩
  · intro j r hj hr
    rcases Pool.tasks_await_eq_some.mp hr with ⟨-, rfl⟩ | ⟨-, hr⟩
    · exact hclient
    · exact h.session j r (hread ▸ hj) hr
  · intro j c r hc hr path hp
    rcases h.wf.await_cases hi hc hr with ⟨-, rfl, rfl⟩ | ⟨-, hc, hr⟩
    · rw [hpath]
      exact haddressed path hp
    · exact h.addressed j c r hc hr path hp
  · intro j c r hc hr hinfo
    rcases h.wf.await_cases hi hc hr with ⟨-, rfl, rfl⟩ | ⟨-, hc, hr⟩
    · rw [hpath]
      exact hshows hinfo
    · exact h.shows j c r hc hr hinfo
  · intro j c r hc hr hrc hinfo
    rcases h.wf.await_cases hi hc hr with ⟨-, rfl, -⟩ | ⟨hj, -, hr⟩
    · exact hbefore hinfo
    · rw [h.detached_of_ne ht hattached hj hr] at hrc
      cases hrc
  · intro j c r hc hr hrc hinfo
    rcases h.wf.await_cases hi hc hr with ⟨-, rfl, rfl⟩ | ⟨hj, -, hr⟩
    · exact hafter hinfo
    · rw [h.detached_of_ne ht hattached hj hr] at hrc
      cases hrc

/-- The running read is freed: by then the client points at another read, or at none. -/
theorem TagInv.frees {s : TagState} {ses ses' : Session} {client : TagClient} {i id : ℕ}
    {call : TagCall} (h : TagInv s ses) (hi : s.pool.calls[i]? = some (id, call))
    (hpub : Published s ses' client) (hread : ses'.read = ses.read)
    (hreading : ∀ j, client.reading = some j → j ≠ id ∧ s.client.reading = some j)
    (hkept : ∀ j read, j ≠ id → s.pool.tasks j = some read → read.client = true →
      client.reading = some j ∧ ses'.info = ses.info) :
    TagInv ⟨client, (s.pool.take i).free id, s.fault⟩ ses' := by
  refine ⟨(h.wf.take hi).free, h.sound, ?_, ?_, ?_, ?_, ?_, hpub.json, hpub.notices,
    hpub.protocol, hpub.info_path, hpub.type2, ?_, ?_⟩
  · intro j r hr hc
    obtain ⟨hj, hr⟩ := Pool.tasks_free_eq_some.mp hr
    obtain ⟨-, hp, hcancelled⟩ := h.attached j r hr hc
    exact ⟨(hkept j r hj hr hc).1, by rw [hpub.tagPath, hp], hcancelled⟩
  · intro j hj
    obtain ⟨hne, hj⟩ := hreading j hj
    obtain ⟨hses, r, hr, hrc⟩ := h.current j hj
    exact ⟨by rw [hread, hses], r, Pool.tasks_free_eq_some.mpr ⟨hne, hr⟩, hrc⟩
  · intro j r hj hr
    exact h.session j r (hread ▸ hj) (Pool.tasks_free_eq_some.mp hr).2
  · intro j c r hc hr
    obtain ⟨-, hc, hr⟩ := h.wf.free_cases hi hc hr
    exact h.addressed j c r hc hr
  · intro j c r hc hr
    obtain ⟨-, hc, hr⟩ := h.wf.free_cases hi hc hr
    exact h.shows j c r hc hr
  · intro j c r hc hr hrc hinfo
    obtain ⟨hj, hc, hr⟩ := h.wf.free_cases hi hc hr
    rw [(hkept j r hj hr hrc).2]
    exact h.before j c r hc hr hrc hinfo
  · intro j c r hc hr hrc hinfo
    obtain ⟨hj, hc, hr⟩ := h.wf.free_cases hi hc hr
    rw [(hkept j r hj hr hrc).2]
    exact h.after j c r hc hr hrc hinfo

theorem published_of_clientStep {s : TagState} {ses : Session} {client client' : TagClient}
    {read : TagRead} (hpub : Published s ses client) (hstep : ClientStep read client client')
    (hpath : s.client.tagPath = some read.path)
    (htype2 : ∃ x, ses.info = some x ∧ read.isType2 = x.2.isType2) : Published s ses client' where
  tagPath := hstep.tagPath.trans hpub.tagPath
  json := by
    intro obj hobj
    rw [hstep.tagPath]
    rcases hstep.tagJson with heq | ⟨obj', heq, hshows⟩
    · exact hpub.json obj (heq ▸ hobj)
    · rw [heq] at hobj
      obtain rfl := Option.some.inj hobj
      exact ⟨read.path, hpub.tagPath.trans hpath, hshows⟩
  notices := by
    intro tag obj hmem
    rcases hstep.notices _ hmem with hmem | ⟨obj', heq, hshows⟩
    · exact hpub.notices tag obj hmem
    · obtain ⟨rfl, hobj⟩ := Prod.mk.inj heq
      obtain rfl := Option.some.inj hobj
      exact ⟨read.path, hpub.tagPath.trans hpath, hshows⟩
  protocol := hstep.tagProtocol.trans hpub.protocol
  info_path := by
    intro x hx
    rw [hstep.tagPath]
    exact hpub.info_path x hx
  type2 := by
    intro hon
    rcases hstep.tagIsType2 with heq | heq
    · exact hpub.type2 (heq ▸ hon)
    · obtain ⟨x, hx, hsame⟩ := htype2
      exact ⟨x, hx, by rw [← hsame, ← heq, hon]⟩

theorem TagInv.published {s : TagState} {ses : Session} (h : TagInv s ses) :
    Published s ses s.client :=
  ⟨rfl, h.json, h.notices, h.protocol, h.info_path, h.type2⟩

/-- A callback of the attached read, from the moment the information is there on. -/
theorem TagInv.handled {s s' : TagState} {ses ses' : Session} {client : TagClient} {i id : ℕ}
    {call : TagCall} {read base : TagRead} (h : TagInv s ses)
    (hi : s.pool.calls[i]? = some (id, call)) (ht : s.pool.tasks id = some read)
    (hattached : read.client = true) (hh : Handled ⟨client, s.pool.take i, s.fault⟩ id base s')
    (hpub : Published s ses' client)
    (hreading : client.reading = s.client.reading) (hread : ses'.read = ses.read)
    (hbase : base.client = read.client) (hpath : base.path = read.path)
    (hcancelled : base.cancelled = read.cancelled)
    (hinfo : ∃ x, ses'.info = some x ∧ base.isType2 = x.2.isType2) : TagInv s' ses' := by
  have htag : s.client.tagPath = some base.path := by
    rw [(h.attached id read ht hattached).2.1, hpath]
  cases hh with
  | awaits client' read' call' hclient hreading' hfollows hcall haddressed =>
    obtain ⟨x, hx, hsame⟩ := hinfo
    refine h.awaits hi ht hattached
      (published_of_clientStep hpub hclient htag ⟨x, hx, hsame⟩) (hreading'.trans hreading) hread
      (by rw [hfollows.client, hbase, hattached]) (hfollows.path.trans hpath)
      (hfollows.cancelled.trans hcancelled) (fun path hp => (haddressed path hp).trans hpath)
      (fun _ => hpath ▸ hfollows.shows) ?_ ?_
    · intro hnot
      rw [hcall] at hnot
      cases hnot
    · intro _
      exact ⟨x, hx, hfollows.isType2.trans hsame⟩
  | frees client' hclient hnone =>
    refine h.frees hi (published_of_clientStep hpub hclient htag hinfo) hread ?_ ?_
    · intro j hj
      rw [hnone] at hj
      cases hj
    -- no other read points at the client
    · intro j r hj hr hrc
      rw [h.detached_of_ne ht hattached hj hr] at hrc
      cases hrc

/-- The attached read gives up. -/
theorem TagInv.giveUp {s : TagState} {ses : Session} {i id : ℕ} {call : TagCall} {read : TagRead}
    (h : TagInv s ses) (hi : s.pool.calls[i]? = some (id, call))
    (ht : s.pool.tasks id = some read) (hattached : read.client = true) :
    TagInv (tagReadGiveUp { s with pool := s.pool.take i } id read) ses := by
  rw [tagReadGiveUp_of_attached hattached]
  have hpub := h.published
  refine h.frees hi ⟨hpub.tagPath, hpub.json, hpub.notices, hpub.protocol, hpub.info_path,
    hpub.type2⟩ rfl ?_ ?_
  · intro j hj
    cases hj
  · intro j r hj hr hrc
    rw [h.detached_of_ne ht hattached hj hr] at hrc
    cases hrc

/-! ## One event -/

section Steps

variable {glib : GlibText}

/-- The callback of a detached read. -/
theorem TagInv.detached {s : TagState} {ses : Session} {i id : ℕ} {call : TagCall}
    {read : TagRead} (h : TagInv s ses) (hi : s.pool.calls[i]? = some (id, call))
    (ht : s.pool.tasks id = some read) (hdetached : read.client = false) :
    TagInv ({ s with pool := s.pool.take i }.free id) ses := by
  refine h.frees hi h.published rfl ?_ ?_
  · intro j hj
    refine ⟨?_, hj⟩
    -- the client's current read points back, and this one does not
    rintro rfl
    obtain ⟨-, r, hr, hrc⟩ := h.current j hj
    rw [ht] at hr
    obtain rfl := Option.some.inj hr
    rw [hdetached] at hrc
    cases hrc
  · intro j r hj hr hrc
    exact ⟨(h.attached j r hr hrc).1, rfl⟩

/-- A session other than that of the call's read learns nothing. -/
theorem Session.next_of_ne {ses : Session} {s : TagState} {i id : ℕ} {call : TagCall}
    {reply : TagReply} (hi : s.pool.calls[i]? = some (id, call))
    (h : ses.read ≠ some id ∨ call.hasInfo = true ∨ reply.tagInfo? = none ∨
      ∃ path, call = .tagProxy path) : ses.next s (.complete i reply) = ses := by
  simp only [Session.next, hi]
  cases call with
  | getAll3 path =>
    rcases h with h | h | h | ⟨path', h⟩
    · exact if_neg h
    · cases h
    · simp only [h, Option.map_none, Option.none_or, ite_self]
    · cases h
  | _ => rfl

/-- **A call ends.** -/
theorem TagInv.complete {s : TagState} {ses : Session} (h : TagInv s ses) {i : ℕ}
    {reply : TagReply} (hhonest : TagEvent.Honest s (.complete i reply)) :
    TagInv (tagStep glib s (.complete i reply)) (ses.next s (.complete i reply)) := by
  cases hi : s.pool.calls[i]? with
  | none => simpa [tagStep, Session.next, hi] using h
  | some entry =>
    obtain ⟨id, call⟩ := entry
    obtain ⟨read, ht⟩ := h.wf.exists_task (List.mem_of_getElem? hi)
    rw [tagStep_complete reply hi ht]
    by_cases hdetached : read.client = false
    -- the read was aborted: it is freed, and the session is another one's
    · rw [tagCallback_of_detached call reply hdetached, Session.next_of_ne hi]
      · exact h.detached hi ht hdetached
      · left
        intro hses
        rw [h.session id read hses ht] at hdetached
        cases hdetached
    have hattached : read.client = true := by simpa using hdetached
    obtain ⟨hrid, hrpath, hrcancelled⟩ := h.attached id read ht hattached
    have hses := (h.current id hrid).1
    have hmem := List.mem_of_getElem? hi
    -- an attached read has not been cancelled, so its call was not
    have hcancelled : reply.cancelled = false := by
      by_contra hc
      have hreally := hhonest (by simpa using hc)
      rw [hi, Option.bind_some, ht, Option.all_some, hrcancelled] at hreally
      cases hreally
    -- with the information there all callbacks are alike; the first two calls come before it
    by_cases hinfo : call.hasInfo = true
    · rw [Session.next_of_ne hi (Or.inr (Or.inl hinfo))]
      have hh : Handled ⟨s.client, s.pool.take i, s.fault⟩ id read
          (tagCallback glib { s with pool := s.pool.take i } id read call reply) :=
        handled_tagCallback (h.shows id call read hmem ht hinfo) hattached hinfo
          (h.addressed id call read hmem ht) hcancelled
      exact h.handled hi ht hattached hh h.published rfl rfl rfl rfl rfl
        (h.after id call read hmem ht hattached hinfo)
    cases call with
    | tagProxy path =>
      rw [Session.next_of_ne hi (Or.inr (Or.inr (Or.inr ⟨path, rfl⟩)))]
      have hnone := h.before id _ read hmem ht hattached rfl
      show TagInv (tagProxyReady { s with pool := s.pool.take i } id read path reply) ses
      rw [tagProxyReady]
      split
      · exact h.giveUp hi ht hattached
      · rw [if_neg (by rw [hattached]; decide)]
        refine h.awaits hi ht hattached h.published rfl rfl hattached rfl rfl ?_ ?_ ?_ ?_
        · intro path' hp
          rw [← Option.some.inj hp]
          exact h.addressed id _ read hmem ht path rfl
        · intro hc
          cases hc
        · intro _
          exact hnone
        · intro hc
          cases hc
    | getAll3 path =>
      cases hreply : reply.tagInfo? with
      | none =>
        rw [Session.next_of_ne hi (Or.inr (Or.inr (Or.inl hreply)))]
        show TagInv (tagGetAllReady { s with pool := s.pool.take i } id read reply) ses
        rw [tagGetAllReady, hreply]
        exact h.giveUp hi ht hattached
      | some info =>
        have hnext : ses.next s (.complete i reply) = { ses with info := some (path, info) } := by
          simp only [Session.next, hi, if_pos hses, hreply, Option.map_some, Option.some_or]
        have hpath := h.addressed id _ read hmem ht path rfl
        have hpub := h.published
        have hh : Handled ⟨{ s.client with tagProtocol := info.protocol }, s.pool.take i, s.fault⟩
            id (read.withInfo info)
            (tagGetAllReady { s with pool := s.pool.take i } id read reply) :=
          handled_tagGetAllReady { s with pool := s.pool.take i } id hattached hreply
        rw [hnext]
        refine h.handled hi ht hattached hh ⟨hpub.tagPath, hpub.json, hpub.notices, rfl, ?_, ?_⟩
          rfl rfl rfl rfl rfl ⟨(path, info), rfl, rfl⟩
        · intro x hx
          rw [← Option.some.inj hx, hpath]
          exact hrpath
        · -- whatever was published before came with information of the same session
          intro hon
          obtain ⟨x, hx, -⟩ := h.type2 hon
          rw [h.before id _ read hmem ht hattached rfl] at hx
          cases hx
    | _ => exact absurd rfl hinfo

/-! ## Another tag becomes current -/

/-- What the abortion of the current read leaves. -/
structure Abandoned (s s' : TagState) : Prop where
  client : s'.client = { s.client with reading := none }
  sound : s'.fault = false
  wf : s'.pool.WF none
  next : s'.pool.next = s.pool.next
  calls : s'.pool.calls = s.pool.calls
  detached : ∀ id read, s'.pool.tasks id = some read → read.client = false ∧
    ∃ r, s.pool.tasks id = some r ∧ read.path = r.path ∧ read.tagObj = r.tagObj

theorem TagInv.abandoned {s : TagState} {ses : Session} (h : TagInv s ses) :
    Abandoned s (abortReading s) := by
  unfold abortReading
  cases hreading : s.client.reading with
  | none =>
    refine ⟨?_, h.sound, h.wf, rfl, rfl, fun id read ht => ⟨?_, read, ht, rfl, rfl⟩⟩
    · show s.client = { s.client with reading := none }
      rw [← hreading]
    · by_contra hc
      have hid := (h.attached id read ht (by simpa using hc)).1
      rw [hreading] at hid
      cases hid
  | some id =>
    obtain ⟨-, read, ht, hattached⟩ := h.current id hreading
    refine ⟨rfl, ?_, h.wf.modify id TagRead.abort, rfl, rfl, fun j r hr => ?_⟩
    · simp only [h.sound, ht, Option.isNone_some, Bool.or_self]
    · rcases Pool.tasks_modify_eq_some.mp hr with ⟨rfl, u, hu, rfl⟩ | ⟨hj, hr⟩
      · exact ⟨rfl, u, hu, rfl, rfl⟩
      · exact ⟨h.detached_of_ne ht hattached hj hr, r, hr, rfl, rfl⟩

/-- An abandoned read's calls still concern its own tag. -/
theorem Abandoned.addressed {s s₁ : TagState} {ses : Session} (hab : Abandoned s s₁)
    (h : TagInv s ses) {id : ℕ} {call : TagCall} {read : TagRead}
    (hc : (id, call) ∈ s₁.pool.calls) (ht : s₁.pool.tasks id = some read) :
    ∀ path ∈ call.onTag, path = read.path := by
  intro path hp
  obtain ⟨-, r, hr, hpath, -⟩ := hab.detached id read ht
  rw [hpath]
  exact h.addressed id call r (hab.calls ▸ hc) hr path hp

theorem Abandoned.shows {s s₁ : TagState} {ses : Session} (hab : Abandoned s s₁)
    (h : TagInv s ses) {id : ℕ} {call : TagCall} {read : TagRead}
    (hc : (id, call) ∈ s₁.pool.calls) (ht : s₁.pool.tasks id = some read)
    (hinfo : call.hasInfo = true) : ShowsPath read.path read.tagObj := by
  obtain ⟨-, r, hr, hpath, hobj⟩ := hab.detached id read ht
  rw [hpath, hobj]
  exact h.shows id call r (hab.calls ▸ hc) hr hinfo

/-- A change of tag is announced without information. -/
theorem Abandoned.notices {s s₁ : TagState} {ses : Session} (hab : Abandoned s s₁)
    (h : TagInv s ses) {tagPath tag : Option String} {obj : Object}
    (hmem : (tag, some obj) ∈ s₁.client.notices ++ [(tagPath, none)]) :
    ∃ path, tag = some path ∧ ShowsPath path obj := by
  rw [hab.client] at hmem
  rcases List.mem_append.mp hmem with hmem | hmem
  · exact h.notices tag obj hmem
  · have heq := (Prod.mk.inj (List.mem_singleton.mp hmem)).2
    cases heq

/-- **The current tag changes.** -/
theorem TagInv.tags {s : TagState} {ses : Session} (h : TagInv s ses) (tags : List String) :
    TagInv (tagStep glib s (.tags tags)) (ses.next s (.tags tags)) := by
  show TagInv (setCurrentTag s tags.head?) (ses.next s (.tags tags))
  rw [setCurrentTag, Session.next]
  split
  · exact h
  have hab := h.abandoned
  generalize abortReading s = s₁ at hab ⊢
  -- what is required of attached reads holds of none, until a new one starts
  have hno : ∀ {P : Prop} id read, s₁.pool.tasks id = some read → read.client = true → P := by
    intro P id read ht hc
    rw [(hab.detached id read ht).1] at hc
    cases hc
  cases htag : tags.head? with
  | none =>
    refine ⟨hab.wf, hab.sound, fun id read ht hc => hno id read ht hc, ?_, ?_,
      fun _ _ _ hc ht => hab.addressed h hc ht, fun _ _ _ hc ht => hab.shows h hc ht, ?_,
      fun _ _ hmem => hab.notices h hmem, rfl, ?_, ?_,
      fun id call read _ ht hc => hno id read ht hc,
      fun id call read _ ht hc => hno id read ht hc⟩
    · intro id hid
      have hid : s₁.client.reading = some id := hid
      rw [hab.client] at hid
      cases hid
    · intro id read hid
      cases hid
    · intro obj hobj
      cases hobj
    · intro x hx
      cases hx
    · intro hon
      cases hon
  | some path =>
    refine ⟨hab.wf.spawn _ _, hab.sound, ?_, ?_, ?_, ?_, ?_, ?_,
      fun _ _ hmem => hab.notices h hmem, rfl, ?_, ?_, ?_, ?_⟩
    · intro id read ht hc
      rcases Pool.tasks_spawn_eq_some.mp ht with ⟨rfl, rfl⟩ | ⟨-, ht⟩
      · exact ⟨rfl, rfl, rfl⟩
      · exact hno id read ht hc
    · intro id hid
      obtain rfl := Option.some.inj hid
      exact ⟨by rw [Option.map_some]; exact congrArg some hab.next.symm, TagRead.new path,
        Pool.tasks_spawn_eq_some.mpr (Or.inl ⟨rfl, rfl⟩), rfl⟩
    · intro id read hid ht
      have hid : some s.pool.next = some id := hid
      rcases Pool.tasks_spawn_eq_some.mp ht with ⟨-, rfl⟩ | ⟨hne, -⟩
      · rfl
      · exact absurd (by rw [hab.next, Option.some.inj hid]) hne
    · intro id call read hc ht path' hp
      rcases hab.wf.spawn_cases hc ht with ⟨-, rfl, rfl⟩ | ⟨-, hc, ht⟩
      · exact (Option.some.inj hp).symm
      · exact hab.addressed h hc ht path' hp
    · intro id call read hc ht hinfo
      rcases hab.wf.spawn_cases hc ht with ⟨-, rfl, -⟩ | ⟨-, hc, ht⟩
      · cases hinfo
      · exact hab.shows h hc ht hinfo
    · intro obj hobj
      cases hobj
    · intro x hx
      cases hx
    · intro hon
      cases hon
    · intro id call read hc ht hrc hinfo
      rfl
    · intro id call read hc ht hrc hinfo
      rcases hab.wf.spawn_cases hc ht with ⟨-, rfl, -⟩ | ⟨-, -, ht⟩
      · cases hinfo
      · exact hno id read ht hrc

/-! ## Every run -/

theorem TagInv.step {s : TagState} {ses : Session} (h : TagInv s ses) {e : TagEvent}
    (hhonest : e.Honest s) : TagInv (tagStep glib s e) (ses.next s e) := by
  cases e with
  | tags tags => exact h.tags tags
  | complete i reply => exact h.complete hhonest

/-- The invariant holds after every run in which cancellation errors are honest. -/
theorem tagInv_run {es : List TagEvent}
    (h : Along TagEvent.Honest (tagStep glib) TagState.init es) :
    TagInv (run (tagStep glib) TagState.init es) (sessionAfter glib es) := by
  have hrun : TagInv (run (withHistory (tagStep glib) Session.next)
      (TagState.init, ⟨none, none⟩) es).1
      (run (withHistory (tagStep glib) Session.next) (TagState.init, ⟨none, none⟩) es).2 := by
    refine Along.invariant (fun x : TagState × Session => TagInv x.1 x.2)
      (fun x e hx he => hx.step he) tagInv_init ?_
    exact along_withHistory.mpr h
  rw [run_withHistory_fst] at hrun
  exact hrun

/-! ## The end of a read -/

theorem Handled.pool_cases {s s' : TagState} {id : ℕ} {read : TagRead} (h : Handled s id read s') :
    (∃ read' call, s'.pool = s.pool.await id read' call) ∨ s'.pool = s.pool.free id := by
  cases h with
  | awaits client read' call => exact Or.inl ⟨read', call, rfl⟩
  | frees client => exact Or.inr rfl

/-- The callback of a call makes the next call for its read or frees it. -/
theorem TagInv.pool_complete {s : TagState} {ses : Session} (h : TagInv s ses) {i id : ℕ}
    {call : TagCall} {reply : TagReply} (hi : s.pool.calls[i]? = some (id, call))
    (hhonest : TagEvent.Honest s (.complete i reply)) :
    (∃ read' call', (tagStep glib s (.complete i reply)).pool
        = (s.pool.take i).await id read' call') ∨
      (tagStep glib s (.complete i reply)).pool = (s.pool.take i).free id := by
  obtain ⟨read, ht⟩ := h.wf.exists_task (List.mem_of_getElem? hi)
  have hmem := List.mem_of_getElem? hi
  rw [tagStep_complete reply hi ht]
  by_cases hdetached : read.client = false
  · rw [tagCallback_of_detached call reply hdetached]
    exact Or.inr rfl
  have hattached : read.client = true := by simpa using hdetached
  have hcancelled : reply.cancelled = false := by
    by_contra hc
    have hreally := hhonest (by simpa using hc)
    rw [hi, Option.bind_some, ht, Option.all_some, (h.attached id read ht hattached).2.2] at hreally
    cases hreally
  have hgiveUp : (tagReadGiveUp { s with pool := s.pool.take i } id read).pool
      = (s.pool.take i).free id := by
    rw [tagReadGiveUp_of_attached hattached]
    rfl
  cases call with
  | tagProxy path =>
    show (∃ read' call', (tagProxyReady { s with pool := s.pool.take i } id read path reply).pool
        = _) ∨ (tagProxyReady { s with pool := s.pool.take i } id read path reply).pool = _
    rw [tagProxyReady]
    split
    · exact Or.inr hgiveUp
    · rw [if_neg (by rw [hattached]; decide)]
      exact Or.inl ⟨read, .getAll3 path, rfl⟩
  | getAll3 path =>
    show (∃ read' call', (tagGetAllReady { s with pool := s.pool.take i } id read reply).pool
        = _) ∨ (tagGetAllReady { s with pool := s.pool.take i } id read reply).pool = _
    cases hreply : reply.tagInfo? with
    | none =>
      rw [tagGetAllReady, hreply]
      exact Or.inr hgiveUp
    | some info =>
      exact (handled_tagGetAllReady { s with pool := s.pool.take i } id hattached
        hreply).pool_cases
  | _ =>
    exact (handled_tagCallback (h.shows id _ read hmem ht rfl) hattached rfl
      (h.addressed id _ read hmem ht) hcancelled).pool_cases

/-- An address is freed by the callback of a call of its read. -/
theorem TagInv.freed_step {s : TagState} {ses : Session} (h : TagInv s ses) {e : TagEvent}
    (hhonest : e.Honest s) {id : ℕ} (hid : id ∈ (tagStep glib s e).pool.freed) :
    id ∈ s.pool.freed ∨
      ∃ i reply call, e = .complete i reply ∧ s.pool.calls[i]? = some (id, call) := by
  cases e with
  | tags tags =>
    left
    -- a change of tag detaches a read and leaves it to its callback
    have hsame : (tagStep glib s (.tags tags)).pool.freed = s.pool.freed := by
      show (setCurrentTag s tags.head?).pool.freed = s.pool.freed
      have habort : (abortReading s).pool.freed = s.pool.freed := by
        unfold abortReading
        split <;> rfl
      rw [setCurrentTag]
      split
      · rfl
      · cases tags.head? with
        | none => exact habort
        | some path => exact habort
    rwa [hsame] at hid
  | complete i reply =>
    cases hi : s.pool.calls[i]? with
    | none =>
      left
      simpa [tagStep, hi] using hid
    | some entry =>
      obtain ⟨j, call⟩ := entry
      have hfreed : id ∈ s.pool.freed ∨ id = j := by
        rcases h.pool_complete hi hhonest with ⟨read', call', hpool⟩ | hpool
        · rw [hpool] at hid
          exact Or.inl hid
        · rw [hpool, Pool.freed_free, List.mem_append, List.mem_singleton] at hid
          exact hid
      rcases hfreed with hfreed | rfl
      · exact Or.inl hfreed
      · exact Or.inr ⟨i, reply, call, rfl, hi⟩

end Steps

/-! ## The main result -/

/-- Tag information and reads as they should be. -/
structure TagOk (glib : GlibText) (s : TagState) (ses : Session) : Prop where
  /-- The published JSON is that of the current tag. -/
  json : ∀ obj, s.client.tagJson = some obj →
    ∃ path, s.client.tagPath = some path ∧ ShowsPath path obj
  /-- The protocol is reset, or was answered for the current tag since it became current. -/
  protocol : s.client.tagProtocol = 0 ∨ ∃ path info, s.client.tagPath = some path ∧
    ses.info = some (path, info) ∧ s.client.tagProtocol = info.protocol
  /-- So is the Type 2 flag. -/
  type2 : s.client.tagIsType2 = false ∨ ∃ path info, s.client.tagPath = some path ∧
    ses.info = some (path, info) ∧ s.client.tagIsType2 = info.isType2
  /-- A read that points at the client is the client's current one and follows its tag. -/
  reader : ∀ id read, s.pool.tasks id = some read → read.client = true →
    s.client.reading = some id ∧ s.client.tagPath = some read.path
  /-- The client's current read exists and points back. -/
  current : ∀ id, s.client.reading = some id →
    ∃ read, s.pool.tasks id = some read ∧ read.client = true
  /-- No read has two calls under way. -/
  one_call : (s.pool.calls.map Prod.fst).Nodup
  /-- Nothing is freed twice, and no freed read is used. -/
  freed_once : s.pool.freed.Nodup ∧ s.fault = false
  /-- A read is freed by the callback of its call and at no other time. -/
  freed_at : ∀ e id, TagEvent.Honest s e → id ∈ (tagStep glib s e).pool.freed →
    id ∈ s.pool.freed ∨
      ∃ i reply call, e = .complete i reply ∧ s.pool.calls[i]? = some (id, call)
  /-- When the call of a detached read ends, the read is freed and nothing else happens. -/
  detached : ∀ i id call read reply, s.pool.calls[i]? = some (id, call) →
    s.pool.tasks id = some read → read.client = false →
    tagStep glib s (.complete i reply) = { s with pool := (s.pool.take i).free id }

/-- **Tag information never belongs to another tag.** -/
theorem tag_info_of_current_tag (glib : GlibText) (es : List TagEvent)
    (h : Along TagEvent.Honest (tagStep glib) TagState.init es) :
    TagOk glib (run (tagStep glib) TagState.init es) (sessionAfter glib es) := by
  have hinv := tagInv_run h
  generalize run (tagStep glib) TagState.init es = s at hinv ⊢
  generalize sessionAfter glib es = ses at hinv ⊢
  refine ⟨hinv.json, ?_, ?_, ?_, ?_, hinv.wf.calls_nodup, ⟨hinv.wf.freed_nodup, hinv.sound⟩, ?_,
    ?_⟩
  · cases hinfo : ses.info with
    | none =>
      left
      rw [hinv.protocol, hinfo]
      rfl
    | some x =>
      right
      refine ⟨x.1, x.2, hinv.info_path x hinfo, rfl, ?_⟩
      rw [hinv.protocol, hinfo]
      rfl
  · cases hon : s.client.tagIsType2 with
    | false => exact Or.inl rfl
    | true =>
      obtain ⟨x, hx, htype2⟩ := hinv.type2 hon
      exact Or.inr ⟨x.1, x.2, hinv.info_path x hx, hx, htype2.symm⟩
  · intro id read ht hc
    obtain ⟨hreading, hpath, -⟩ := hinv.attached id read ht hc
    exact ⟨hreading, hpath⟩
  · intro id hid
    exact (hinv.current id hid).2
  · intro e id hhonest hid
    exact hinv.freed_step hhonest hid
  · intro i id call read reply hi ht hdetached
    rw [tagStep_complete reply hi ht, tagCallback_of_detached call reply hdetached]
    rfl

/-- A tag is replaced while its information is asked for. -/
def replacedTag : List TagEvent :=
  [.tags ["/nfc0/tag0"], .complete 0 .proxy, .tags ["/nfc0/tag1"], .complete 0 (.failed true)]

theorem tag_info_of_current_tag_replacedTag :
    TagOk asciiGlib (run (tagStep asciiGlib) TagState.init replacedTag)
      (sessionAfter asciiGlib replacedTag) :=
  tag_info_of_current_tag asciiGlib replacedTag (by decide +kernel)

end NfcAdapter

