/-
# What subscribers have been told

Who subscribes gets the current reply and from then on the posts.  Every change of what
getTagInfo or getCardEmulationEvent would return is posted, whatever order messages,
signals and the ends of calls arrive in; the status posted last is the one the client's
part has noted.
-/
import NfcAdapter.Mirror
import NfcAdapter.NfcServiceServed

namespace NfcAdapter

open Runs Mirror
open Json (text Object Value)

variable {G P : Type}

/-! ## Reads of tags -/

/-- The tag information at each `notify_tag`. -/
def TagClient.notified (c : TagClient) : List (Option Object) := c.notices.map Prod.snd

/-- Who hears every `notify_tag` knows the tag information. -/
def TagClient.Tells (c c' : TagClient) : Prop :=
  KeepsUp TagClient.notified TagClient.tagJson c c'

namespace TagClient.Tells

variable {c c' : TagClient}

/-- The client's other members. -/
theorem quiet (hnotices : c'.notices = c.notices) (hjson : c'.tagJson = c.tagJson) :
    c.Tells c' := by
  apply KeepsUp.of_eq _ hjson
  rw [notified, hnotices, notified]

/-- Whatever has changed, `notify_tag` tells it. -/
theorem notify (hnotices : c'.notices = c.notices) : c.Tells (notifyTag c') := by
  apply KeepsUp.of_post
  show (c'.notices ++ [(c'.tagPath, c'.tagJson)]).map Prod.snd = _
  rw [hnotices, List.map_append]
  rfl

end TagClient.Tells

open TagClient (Tells)

section Callbacks

variable {s : TagState} {id : ℕ} {read : TagRead}

theorem tells_finish : s.client.Tells (tagReadFinish s id read).client := by
  unfold tagReadFinish
  split
  · exact .quiet rfl rfl
  · exact .notify rfl

theorem tells_giveUp : s.client.Tells (tagReadGiveUp s id read).client := by
  unfold tagReadGiveUp
  split <;> exact .quiet rfl rfl

/-- The sectors so far are published before the next one. -/
theorem tells_nextSector : s.client.Tells (tagReadMifareNextSector s id read).client := by
  unfold tagReadMifareNextSector
  split
  · exact .quiet rfl rfl
  · split
    · exact tells_finish
    · have hprogress : s.client.Tells (mifarePublishProgress s.client read) := .notify rfl
      dsimp only
      split <;> exact hprogress

theorem tells_tryKey : s.client.Tells (tagReadMifareTryKey s id read).client := by
  unfold tagReadMifareTryKey
  split
  · exact tells_nextSector
  · split <;> exact .quiet rfl rfl

theorem tells_sectorDone : s.client.Tells (mifareSectorDone s id read).client := by
  have hstore : s.client.Tells
      (mifareCacheStore s.client read.mifareUid read.mifareSector read.mifareKey) := by
    cases read.mifareUid <;> exact .quiet rfl rfl
  exact hstore.trans tells_nextSector

theorem tells_rawData : s.client.Tells (tagReadRawData s id read).client := by
  unfold tagReadRawData
  split
  · exact tells_finish
  · exact .quiet rfl rfl

theorem tells_nextRecord : s.client.Tells (tagReadNextRecord s id read).client := by
  unfold tagReadNextRecord
  split
  · exact tells_rawData
  · exact .quiet rfl rfl

/-- **Every callback** of a read of a tag. -/
theorem tells_tagCallback (glib : GlibText) (call : TagCall) (reply : TagReply) :
    s.client.Tells (tagCallback glib s id read call reply).client := by
  have hquiet : s.client.Tells s.client := .quiet rfl rfl
  cases call with
  | tagProxy path =>
    show s.client.Tells (tagProxyReady s id read path reply).client
    unfold tagProxyReady
    split
    · exact tells_giveUp
    · split <;> exact hquiet
  | getAll3 path =>
    show s.client.Tells (tagGetAllReady s id read reply).client
    unfold tagGetAllReady
    split
    · exact tells_giveUp
    · split
      · exact hquiet
      · next info _ _ =>
        have hprotocol : s.client.Tells { s.client with tagProtocol := info.protocol } :=
          .quiet rfl rfl
        dsimp only
        split
        · exact hprotocol.trans tells_nextSector
        · exact hprotocol.trans tells_nextRecord
  | ndefProxy path =>
    show s.client.Tells (ndefProxyReady s id read path reply).client
    unfold ndefProxyReady
    split
    · exact hquiet
    · split
      · exact hquiet
      · exact tells_nextRecord
  | ndefGetAll path =>
    show s.client.Tells (ndefGetAllReady glib s id read reply).client
    unfold ndefGetAllReady
    split
    · exact hquiet
    · exact tells_nextRecord
  | type2Proxy path =>
    show s.client.Tells (rawDataProxyReady s id read path reply).client
    unfold rawDataProxyReady
    split
    · exact hquiet
    · split
      · exact hquiet
      · exact tells_finish
  | readAllData path =>
    show s.client.Tells (rawDataReady s id read reply).client
    unfold rawDataReady
    split
    · exact hquiet
    · split <;> exact tells_finish
  | mifareAuth command =>
    show s.client.Tells (mifareAuthReady s id read reply).client
    unfold mifareAuthReady
    split
    · exact hquiet
    · split
      · split
        · exact hquiet
        · exact tells_tryKey
      · exact hquiet
  | mifareBlock command =>
    show s.client.Tells (mifareBlockReadReady s id read reply).client
    unfold mifareBlockReadReady
    split
    · exact hquiet
    · split
      · dsimp only
        split
        · exact tells_sectorDone
        · exact hquiet
      · split
        · exact tells_tryKey
        · exact tells_sectorDone

end Callbacks

/-- Another tag is told of before its read starts. -/
theorem tells_setCurrentTag (s : TagState) (path : Option String) :
    s.client.Tells (setCurrentTag s path).client := by
  unfold setCurrentTag
  split
  · exact .quiet rfl rfl
  · have hnotices : (abortReading s).client.notices = s.client.notices := by
      unfold abortReading
      split <;> rfl
    cases path with
    | none => exact .notify hnotices
    | some path =>
      have hnotify : s.client.Tells (notifyTag { (abortReading s).client with
          tagPath := some path, tagIsType2 := false, tagProtocol := 0, tagJson := none }) :=
        .notify hnotices
      exact hnotify.trans (Tells.quiet rfl rfl)

/-- **Every step** of the reads of tags. -/
theorem tells_tagStep (glib : GlibText) (s : TagState) (e : TagEvent) :
    s.client.Tells (tagStep glib s e).client := by
  cases e with
  | tags tags => exact tells_setCurrentTag s tags.head?
  | complete i reply =>
    unfold tagStep
    dsimp only
    split
    · exact .quiet rfl rfl
    · split
      · exact .quiet rfl rfl
      · exact tells_tagCallback glib _ reply

/-! ## The client's part -/

/-- The posts of one method. -/
def postsOf (m : LunaMethod) (posts : List (LunaMethod × Object)) : List Object :=
  (posts.filter fun post => post.1 = m).map Prod.snd

@[simp] theorem postsOf_nil (m : LunaMethod) : postsOf m [] = [] := rfl

@[simp] theorem postsOf_append (m : LunaMethod) (posts posts' : List (LunaMethod × Object)) :
    postsOf m (posts ++ posts') = postsOf m posts ++ postsOf m posts' := by
  simp [postsOf]

@[simp] theorem postsOf_stateChangedCb_status (client : NfcdClient) :
    postsOf .getStatus (stateChangedCb client) = [buildStatus client] := rfl

@[simp] theorem postsOf_stateChangedCb_tagInfo (client : NfcdClient) :
    postsOf .getTagInfo (stateChangedCb client) = [buildTagInfo client] := rfl

@[simp] theorem postsOf_tagChangedCbs_status (present : Bool) (old new : TagState) :
    postsOf .getStatus (tagChangedCbs present old new) = [] := by
  unfold postsOf tagChangedCbs
  rw [List.filter_map, List.filter_eq_nil_iff.mpr (by simp)]
  rfl

/-- The reply of getTagInfo with this tag information. -/
def tagInfoReply (present : Bool) (tagJson : Option Object) : Object :=
  ((Object.put [] "returnValue" (.boolean true)).put "present" (.boolean present)).put? "tag"
    (tagJson.map .object)

theorem postsOf_tagChangedCbs_tagInfo (present : Bool) (old new : TagState) :
    postsOf .getTagInfo (tagChangedCbs present old new)
      = (new.client.notified.drop old.client.notified.length).map (tagInfoReply present) := by
  unfold postsOf tagChangedCbs TagClient.notified
  rw [List.filter_map, List.filter_eq_self.mpr (by simp), List.map_map, List.length_map,
    ← List.map_drop, List.map_map]
  rfl

/-- Posting every `notify_tag` tells who follows getTagInfo. -/
theorem latest_tagChangedCbs {present : Bool} {old new : TagState}
    (h : old.client.Tells new.client) :
    latest (tagInfoReply present old.client.tagJson)
        (postsOf .getTagInfo (tagChangedCbs present old new))
      = tagInfoReply present new.client.tagJson := by
  rw [postsOf_tagChangedCbs_tagInfo, latest_map, ← h.eq_latest_drop]

namespace AdapterState

/-- The posts leave those who knew the replies of `s` with the replies of `s'`. -/
structure ToldBy (s s' : AdapterState) (posts : List (LunaMethod × Object)) : Prop where
  status : latest s.pushed (postsOf .getStatus posts) = s'.pushed
  tagInfo : latest (buildTagInfo s.client) (postsOf .getTagInfo posts) = buildTagInfo s'.client
  cardEvent : postsOf .getCardEmulationEvent posts = []

variable {s t : AdapterState}

/-- Nothing that is shown has changed. -/
theorem ToldBy.quiet (hpushed : t.pushed = s.pushed)
    (htagInfo : buildTagInfo t.client = buildTagInfo s.client) : s.ToldBy t [] :=
  ⟨hpushed.symm, htagInfo.symm, rfl⟩

/-- `notify_state` tells everything. -/
theorem toldBy_notifyState (s t : AdapterState) :
    s.ToldBy t.notifyState (stateChangedCb t.client) :=
  ⟨rfl, rfl, rfl⟩

theorem cardEvent_tagChangedCbs (present : Bool) (old new : TagState) :
    postsOf .getCardEmulationEvent (tagChangedCbs present old new) = [] := by
  unfold postsOf tagChangedCbs
  rw [List.filter_map, List.filter_eq_nil_iff.mpr (by simp)]
  rfl

/-- `update_tags`. -/
theorem toldBy_updateTags (s : AdapterState) (tags : List String) :
    s.ToldBy (s.updateTags tags) (s.updateTagsPosts tags) := by
  refine ⟨?_, ?_, cardEvent_tagChangedCbs _ _ _⟩
  · rw [updateTagsPosts, postsOf_tagChangedCbs_status]
    rfl
  · apply latest_tagChangedCbs
    exact tells_setCurrentTag s.client.tag tags.head?

/-- One part after the other. -/
theorem ToldBy.trans {s' s'' : AdapterState} {posts posts' : List (LunaMethod × Object)}
    (h : s.ToldBy s' posts) (h' : s'.ToldBy s'' posts') : s.ToldBy s'' (posts ++ posts') where
  status := by rw [postsOf_append, latest_append, h.status, h'.status]
  tagInfo := by rw [postsOf_append, latest_append, h.tagInfo, h'.tagInfo]
  cardEvent := by rw [postsOf_append, h.cardEvent, h'.cardEvent, List.append_nil]

/-- `attach_adapter`. -/
theorem toldBy_attachAdapter (s : AdapterState) (path : Option String) :
    s.ToldBy (s.attachAdapter path) (s.attachAdapterPosts path) := by
  cases path with
  | none =>
    -- the tag goes first, and then everything is told
    refine ⟨?_, ?_, ?_⟩
    · rw [attachAdapterPosts, postsOf_append, postsOf_stateChangedCb_status, latest_concat]
      rfl
    · rw [attachAdapterPosts, postsOf_append, postsOf_stateChangedCb_tagInfo, latest_concat]
    · rw [attachAdapterPosts, postsOf_append, cardEvent_tagChangedCbs]
      rfl
  | some path =>
    unfold attachAdapterPosts attachAdapter
    dsimp only
    split <;> exact .quiet rfl rfl

/-- **Every step** of the client's part. -/
theorem toldBy_adapterStep (glib : GlibText) (s : AdapterState) (e : AdapterEvent) :
    s.ToldBy (adapterStep glib s e) (s.posts glib e) := by
  cases e with
  | daemonAppeared => exact .quiet rfl rfl
  | daemonVanished =>
    exact ⟨(toldBy_attachAdapter _ none).status, (toldBy_attachAdapter _ none).tagInfo,
      (toldBy_attachAdapter _ none).cardEvent⟩
  | adaptersChanged adapters => exact toldBy_attachAdapter s adapters.head?
  | adapterSignal adapter signal =>
    simp only [adapterStep, posts]
    split
    · cases signal with
      | tags tags => exact toldBy_updateTags s tags
      | _ => exact toldBy_notifyState s _
    · exact .quiet rfl rfl
  | settingsAppeared => exact .quiet rfl rfl
  | settingsVanished => exact toldBy_notifyState s _
  | settingsEnabledChanged enabled => exact toldBy_notifyState s _
  | complete i reply =>
    cases hi : s.calls[i]? with
    | none =>
      simp only [adapterStep, posts, hi]
      exact .quiet rfl rfl
    | some call =>
      simp only [adapterStep, posts, hi]
      have hquiet : s.ToldBy { s with calls := s.calls.eraseIdx i } [] := .quiet rfl rfl
      cases call with
      | daemonGetAll4 =>
        cases reply with
        | daemon version adapters =>
          have hattach := toldBy_attachAdapter { s with
            calls := s.calls.eraseIdx i
            client := { s.client with daemonVersion := version } } adapters.head?
          exact ⟨hattach.status, hattach.tagInfo, hattach.cardEvent⟩
        | _ => exact hquiet
      | adapterGetAll4 adapter =>
        cases reply with
        | adapter info => exact (toldBy_notifyState s _).trans (toldBy_updateTags _ info.tags)
        | _ => exact hquiet
      | settingsGetAll =>
        cases reply with
        | settings enabled => exact toldBy_notifyState s _
        | _ => exact hquiet
      | _ => cases reply <;> exact .quiet rfl rfl
  | tagComplete i reply =>
    refine ⟨?_, ?_, cardEvent_tagChangedCbs _ _ _⟩
    · rw [posts, postsOf_tagChangedCbs_status]
      rfl
    · apply latest_tagChangedCbs
      exact tells_tagStep glib s.client.tag (.complete i reply)

end AdapterState

/-! ## The service -/

/-- What followers of a method have been told between two states, and what it shows. -/
structure KeptInformed (s s' : ServiceState G) : Prop where
  /-- Who follows getTagInfo knows what a call would return. -/
  tagInfo : KeepsUp (fun s => postsOf .getTagInfo s.posts)
    (fun s : ServiceState G => buildTagInfo s.adapter.client) s s'
  /-- Who follows getCardEmulationEvent knows what a call would return. -/
  cardEvent : KeepsUp (fun s => postsOf .getCardEmulationEvent s.posts)
    (fun s : ServiceState G => buildHceEvent s.hceEvent) s s'
  /-- Who follows getStatus knows the status of the last `notify_state`. -/
  status : KeepsUp (fun s => postsOf .getStatus s.posts)
    (fun s : ServiceState G => s.adapter.pushed) s s'

namespace KeptInformed

variable {s s' : ServiceState G}

theorem of_eq (hposts : s'.posts = s.posts) (hadapter : s'.adapter = s.adapter)
    (hevent : s'.hceEvent = s.hceEvent) : KeptInformed s s' := by
  refine ⟨KeepsUp.of_eq ?_ ?_, KeepsUp.of_eq ?_ ?_, KeepsUp.of_eq ?_ ?_⟩ <;>
    simp only [hposts, hadapter, hevent]

end KeptInformed

variable {longBits : ℕ} {env : PassportEnv G P} {mismatch : String} {glib : GlibText}

/-- A message is answered; subscribers hear nothing of it. -/
theorem keptInformed_receive (s : ServiceState G) (m : LunaMessage) (exported : Bool) :
    KeptInformed s (s.receive longBits env mismatch glib m exported) := by
  unfold ServiceState.receive
  dsimp only
  split
  · exact .of_eq rfl rfl rfl
  · unfold ServiceState.nfcdClientSetEnabled
    split <;> exact .of_eq rfl rfl rfl
  · exact .of_eq rfl rfl rfl
  · exact .of_eq rfl rfl rfl
  · unfold ServiceState.cardRequest
    split <;> exact .of_eq rfl rfl rfl
  · exact .of_eq rfl rfl rfl

theorem keptInformed_cardDeliver (s : ServiceState G) (i : ℕ) :
    KeptInformed s (s.cardDeliver i) := by
  unfold ServiceState.cardDeliver
  split
  · split <;> exact .of_eq rfl rfl rfl
  · exact .of_eq rfl rfl rfl

/-- What nfcd and its adapter do is posted. -/
theorem keptInformed_adapterEvent (s : ServiceState G) (e : AdapterEvent) :
    KeptInformed s (s.adapterEvent env mismatch glib e) := by
  have htold := AdapterState.toldBy_adapterStep glib s.adapter e
  refine ⟨⟨_, postsOf_append _ _ _, htold.tagInfo.symm⟩, ⟨_, postsOf_append _ _ _, ?_⟩,
    ⟨_, postsOf_append _ _ _, htold.status.symm⟩⟩
  rw [htold.cardEvent]
  rfl

/-- A reader has taken a response, or has not. -/
theorem keptInformed_responseStatus (s : ServiceState G) (pointer : ℕ) (ok : Bool) :
    KeptInformed s (s.responseStatus pointer ok) := by
  unfold ServiceState.responseStatus
  split
  · exact .of_eq rfl rfl rfl
  · exact ⟨⟨_, postsOf_append _ _ _, rfl⟩, ⟨_, postsOf_append _ _ _, rfl⟩,
      ⟨_, postsOf_append _ _ _, rfl⟩⟩

/-- **One step.** -/
theorem keptInformed_serviceStep (longBits : ℕ) (env : PassportEnv G P) (mismatch : String)
    (glib : GlibText) (s : ServiceState G) (e : ServiceEvent) :
    KeptInformed s (serviceStep longBits env mismatch glib s e) := by
  unfold serviceStep
  split
  · exact .of_eq rfl rfl rfl
  · cases e with
    | message m exported => exact keptInformed_receive s m exported
    | adapter e => exact keptInformed_adapterEvent s e
    | setEnabledReady i error =>
      show KeptInformed s (s.setEnabledReady i error)
      unfold ServiceState.setEnabledReady
      split <;> exact .of_eq rfl rfl rfl
    | cardDeliver i => exact keptInformed_cardDeliver s i
    | process pointer ins =>
      show KeptInformed s (s.process pointer ins)
      unfold ServiceState.process
      split <;> exact .of_eq rfl rfl rfl
    | responseStatus pointer ok => exact keptInformed_responseStatus s pointer ok
    | _ => exact .of_eq rfl rfl rfl

/-- **Subscribers are kept informed.** After any run, whoever subscribed then and has read the
posts of any run since knows what getTagInfo and getCardEmulationEvent would return now, and
the status of the last `notify_state`. -/
theorem subscribers_are_kept_informed (longBits : ℕ) (env : PassportEnv G P) (mismatch : String)
    (glib : GlibText) (es es' : List ServiceEvent) :
    KeptInformed (serviceRun longBits env mismatch glib es)
      (serviceRun longBits env mismatch glib (es ++ es')) := by
  have hstep := keptInformed_serviceStep longBits env mismatch glib
  unfold serviceRun
  rw [run_append]
  exact ⟨KeepsUp.run (fun s e => (hstep s e).tagInfo) _ es',
    KeepsUp.run (fun s e => (hstep s e).cardEvent) _ es',
    KeepsUp.run (fun s e => (hstep s e).status) _ es'⟩

end NfcAdapter
