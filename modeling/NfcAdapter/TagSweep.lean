/-
# The sweep of a tag reports what it read

Every callback of a sweep goes on with its record: it waits for the reply to the next call of
the sector under way, or the sweep has ended.  So what is shown of a tag, and what is kept of
its keys, was read with the calls that have been made, for every content of the key cache and
however the calls end.
-/
import NfcAdapter.MifareSweep
import NfcAdapter.TagReadInv

namespace NfcAdapter

open Json (text Value Object)
open Runs
open TaskPool (Pool)
open Trials

/-! ## What is shown and kept -/

/-- A block in the JSON of a sector. -/
def blockJson (block : Bytes) : Value := .string (text (ndefBytesToHex block))

/-- The JSON of a sector. -/
def SectorReport.toJson (r : SectorReport) : Value :=
  let obj := Object.put [] "sector" (.number (toInt32 r.sector))
  let obj := obj.put "keyType" (.string (text "A"))
  let obj := obj.put "key" (.string (text (ndefBytesToHex r.key)))
  .object (obj.put "blocks" (.array (r.blocks.map blockJson)))

/-- The tag's JSON shows these sectors, and whether more may follow. -/
def ShowsSectors (c : TagClient) (reports : List SectorReport) (scanning : Bool) : Prop :=
  ∃ obj : Object, c.tagJson = some obj ∧
    obj.get? "sectors" = some (.array (reports.map SectorReport.toJson)) ∧
    obj.get? "scanning" = some (.boolean scanning)

/-- The keys that the reports are good for, newest first. -/
def gained (uid : Option String) (reports : List SectorReport) : KeyCache :=
  match uid with
  | none => []
  | some uid => (reports.map fun r => ((uid, r.sector), r.key)).reverse

theorem gained_concat (uid : String) (reports : List SectorReport) (r : SectorReport) :
    gained (some uid) (reports ++ [r]) = ((uid, r.sector), r.key) :: gained (some uid) reports := by
  simp [gained]

/-- What was gained for other sectors does not change a lookup. -/
theorem lookup_gained {uid : String} {reports : List SectorReport} {sector : ℕ}
    (h : ∀ r ∈ reports, r.sector < sector) (cache : KeyCache) :
    (gained (some uid) reports ++ cache).lookup (uid, sector) = cache.lookup (uid, sector) := by
  induction reports using List.reverseRecOn with
  | nil => rfl
  | append_singleton reports r ih =>
    have hr := h r (by simp)
    have hne : ((uid, sector) == (uid, r.sector)) = false :=
      beq_eq_false_iff_ne.mpr fun heq => hr.ne (Prod.mk.inj heq).2.symm
    rw [gained_concat, List.cons_append, List.lookup_cons, hne]
    exact ih fun r' hr' => h r' (List.mem_append_left _ hr')

/-! ## A sweep under way -/

/-- The keys that are tried if the current one fails. -/
def TagRead.keysLeft (read : TagRead) : List Bytes :=
  mifareDefaultKeys.drop
    (if read.mifareCachedAttempt then read.mifareKeyIndex else read.mifareKeyIndex + 1)

/-- A read whose sweep has made these reports. -/
structure Reporting (uid : Option String) (cache : KeyCache) (c : TagClient) (read : TagRead)
    (reports : List SectorReport) : Prop where
  attached : read.client = true
  known : read.mifareUid = uid
  sectors : read.mifareSectorsArr = reports.map SectorReport.toJson
  cache : c.mifareKeyCache = gained uid reports ++ cache

/-- The reply that a sweep waits for: to an authentication, or to a read with a key that was
accepted. -/
inductive Waits (uid : Option String) (cache : KeyCache) (read : TagRead)
    (reports : List SectorReport) : List Exchange → TagCall → Prop
  | auth {log : List Exchange}
      (h : Trying uid cache read.mifareSector (read.mifareKey :: read.keysLeft) log reports) :
    Waits uid cache read reports log (authCall read.mifareSector read.mifareKey)
  | read {log opened : List Exchange} {blocks : List Bytes}
      (h : Trying uid cache read.mifareSector (read.mifareKey :: read.keysLeft) log reports)
      (hopened : Opened read.mifareSector read.mifareKey opened blocks)
      (hlen : blocks.length < mifareSectorBlockCount read.mifareSector)
      (hoffset : read.mifareBlockOffset = blocks.length)
      (hblocks : read.mifareBlocksArr = blocks.map blockJson) :
    Waits uid cache read reports (log ++ opened) (nextRead read.mifareSector blocks)

/-- The sweep of a read waits for the reply to a call. -/
structure Sweeping (uid : Option String) (cache : KeyCache) (c : TagClient) (read : TagRead)
    (reports : List SectorReport) (log : List Exchange) (call : TagCall) : Prop where
  reporting : Reporting uid cache c read reports
  keyA : read.mifareAuthType = 0
  shown : ShowsSectors c reports true
  waits : Waits uid cache read reports log call

/-- The sweep is over: all sectors were tried, or the client's own call was cancelled. -/
inductive SweepOver (uid : Option String) (cache : KeyCache) (c : TagClient)
    (reports : List SectorReport) (log : List Exchange) : Prop
  | finished (hshown : ShowsSectors c reports false) (hreading : c.reading = none)
      (hswept : Swept (SectorLog uid cache) mifareNumSectors log reports)
  | cancelled (hshown : ShowsSectors c reports true) (hreached : Reached uid cache log reports)
      (hlast : ∃ x, log.getLast? = some x ∧ x.2.cancelled = true)

/-- What a callback of the sweep does. -/
inductive SweepStep (uid : Option String) (cache : KeyCache) (s : TagState) (id : ℕ)
    (log : List Exchange) : TagState → Prop
  | awaits {client : TagClient} {read : TagRead} {call : TagCall} {reports : List SectorReport}
      (h : Sweeping uid cache client read reports log call) :
    SweepStep uid cache s id log ({ s with client := client }.await id read call)
  | frees {client : TagClient} {reports : List SectorReport}
      (hcache : client.mifareKeyCache = gained uid reports ++ cache)
      (h : SweepOver uid cache client reports log) :
    SweepStep uid cache s id log ({ s with client := client }.free id)

/-- The client may be changed first. -/
theorem SweepStep.of_client {uid : Option String} {cache : KeyCache} {s s' : TagState} {id : ℕ}
    {log : List Exchange} {client : TagClient}
    (h : SweepStep uid cache { s with client := client } id log s') :
    SweepStep uid cache s id log s' := by
  cases h with
  | awaits h => exact .awaits h
  | frees hcache h => exact .frees hcache h

/-! ## The callbacks -/

section Callbacks

variable {uid : Option String} {cache : KeyCache} {s : TagState} {id : ℕ} {read : TagRead}
  {log : List Exchange} {reports : List SectorReport}

/-- The authentication that is sent is the record's. -/
theorem sendAuth_eq (hA : read.mifareAuthType = 0) (key : Bytes) :
    mifareSendAuth s id read key
      = s.await id { read with mifareKey := key } (authCall read.mifareSector key) := by
  simp [mifareSendAuth, hA, authCall]

/-- **The next sector.** -/
theorem sweepStep_nextSector (h : Reporting uid cache s.client read reports)
    (hswept : Swept (SectorLog uid cache) read.mifareSector log reports)
    (hsector : read.mifareSector ≤ mifareNumSectors) :
    SweepStep uid cache s id log (tagReadMifareNextSector s id read) := by
  have hattached : (!read.client) = false := by rw [h.attached]; rfl
  rw [tagReadMifareNextSector, hattached]
  simp only [Bool.false_eq_true, if_false]
  split
  · next hlast =>
    -- the read is over with the sweep
    have hall : read.mifareSector = mifareNumSectors := by omega
    simp only [tagReadFinish, hattached, Bool.false_eq_true, if_false]
    refine .frees h.cache (.finished ⟨_, rfl, ?_, ?_⟩ rfl (hall ▸ hswept))
    · simp [h.sectors]
    · simp
  · next hmore =>
    have hlt : read.mifareSector < mifareNumSectors := by omega
    have htrying := trying_start hswept hlt
    have hlookup : mifareCacheLookup (mifarePublishProgress s.client read) read.mifareUid
        read.mifareSector = uid.bind fun uid => cache.lookup (uid, read.mifareSector) := by
      have hbelow := (hswept.ordered fun _ _ _ hlog => hlog.report_sector).2
      rw [mifareCacheLookup, h.known]
      cases uid with
      | none => rfl
      | some uid =>
        show s.client.mifareKeyCache.lookup (uid, read.mifareSector) = _
        rw [h.cache]
        exact lookup_gained hbelow cache
    have hshown : ShowsSectors (mifarePublishProgress s.client read) reports true :=
      ⟨_, rfl, by simp [h.sectors], by simp⟩
    simp only [hlookup]
    rw [candidates] at htrying
    split
    · next key hkey =>
      rw [sendAuth_eq rfl]
      refine .awaits ⟨⟨h.attached, h.known, h.sectors, h.cache⟩, rfl, hshown, .auth ?_⟩
      rw [hkey] at htrying
      exact htrying
    · next hnone =>
      rw [sendAuth_eq rfl]
      refine .awaits ⟨⟨h.attached, h.known, h.sectors, h.cache⟩, rfl, hshown, .auth ?_⟩
      rw [hnone] at htrying
      exact htrying

/-- **The next default key.** -/
theorem sweepStep_tryKey (h : Reporting uid cache s.client read reports)
    (hA : read.mifareAuthType = 0) (hcached : read.mifareCachedAttempt = false)
    (hshown : ShowsSectors s.client reports true)
    (htrying : Trying uid cache read.mifareSector (mifareDefaultKeys.drop read.mifareKeyIndex) log
      reports) :
    SweepStep uid cache s id log (tagReadMifareTryKey s id read) := by
  have hattached : (!read.client) = false := by rw [h.attached]; rfl
  rw [tagReadMifareTryKey, hattached]
  split
  · next hlast =>
    rw [List.drop_eq_nil_of_le hlast] at htrying
    exact sweepStep_nextSector ⟨h.attached, h.known, h.sectors, h.cache⟩ htrying.exhausted
      htrying.sector_lt
  · next hmore =>
    have hlt : read.mifareKeyIndex < mifareDefaultKeys.length := by omega
    simp only [Bool.false_eq_true, if_false]
    rw [sendAuth_eq hA]
    refine .awaits ⟨⟨h.attached, h.known, h.sectors, h.cache⟩, hA, hshown, .auth ?_⟩
    have hleft : TagRead.keysLeft { read with
        mifareKey := mifareDefaultKeys.getD read.mifareKeyIndex [] }
          = mifareDefaultKeys.drop (read.mifareKeyIndex + 1) := by
      simp [TagRead.keysLeft, hcached]
    rw [hleft]
    rw [List.drop_eq_getElem_cons hlt] at htrying
    rw [List.getD_eq_getElem?_getD, List.getElem?_eq_getElem hlt, Option.getD_some]
    exact htrying

/-- The key has failed. -/
theorem sweepStep_nextKey (h : Reporting uid cache s.client read reports)
    (hA : read.mifareAuthType = 0) (hshown : ShowsSectors s.client reports true)
    (htrying : Trying uid cache read.mifareSector read.keysLeft log reports) :
    SweepStep uid cache s id log (tagReadMifareTryKey s id (mifareNextKey read)) := by
  unfold TagRead.keysLeft at htrying
  unfold mifareNextKey
  split
  · next hcached =>
    rw [if_pos hcached] at htrying
    exact sweepStep_tryKey ⟨h.attached, h.known, h.sectors, h.cache⟩ hA rfl hshown htrying
  · next hcached =>
    rw [if_neg hcached] at htrying
    exact sweepStep_tryKey ⟨h.attached, h.known, h.sectors, h.cache⟩ hA (by simpa using hcached)
      hshown htrying

/-- **A sector was read.** -/
theorem sweepStep_sectorDone (h : Reporting uid cache s.client read reports)
    (hA : read.mifareAuthType = 0) {blocks : List Bytes}
    (hblocks : read.mifareBlocksArr = blocks.map blockJson)
    (hsector : read.mifareSector < mifareNumSectors)
    (hswept : Swept (SectorLog uid cache) (read.mifareSector + 1) log
      (reports ++ [⟨read.mifareSector, read.mifareKey, blocks⟩])) :
    SweepStep uid cache s id log (mifareSectorDone s id read) := by
  refine SweepStep.of_client (sweepStep_nextSector ⟨h.attached, h.known, ?_, ?_⟩ hswept hsector)
  · simp [h.sectors, hA, hblocks, SectorReport.toJson]
  · rw [h.known]
    cases uid with
    | none => exact h.cache
    | some uid =>
      rw [gained_concat]
      exact congrArg _ h.cache

theorem block?_eq_some {reply : TagReply} {block : Bytes} (h : reply.block? = some block) :
    reply = .data block ∧ block.length = 16 := by
  cases reply with
  | data bytes =>
    simp only [TagReply.block?, TagReply.data?, Option.bind_some] at h
    split at h
    · next hlen =>
      obtain rfl := Option.some.inj h
      exact ⟨rfl, hlen⟩
    · cases h
  | _ => cases h

/-- **The reply to an authentication.** -/
theorem sweepStep_authReady (h : Reporting uid cache s.client read reports)
    (hA : read.mifareAuthType = 0) (hshown : ShowsSectors s.client reports true)
    (htrying : Trying uid cache read.mifareSector (read.mifareKey :: read.keysLeft) log reports)
    (reply : TagReply) :
    SweepStep uid cache s id (log ++ [(authCall read.mifareSector read.mifareKey, reply)])
      (mifareAuthReady s id read reply) := by
  have hattached : (!read.client) = false := by rw [h.attached]; rfl
  rw [mifareAuthReady, hattached]
  simp only [Bool.false_eq_true, if_false]
  split
  · next hdata =>
    have hfailed := htrying.failed (.refused hdata)
    split
    · next hcancelled =>
      refine .frees h.cache (.cancelled hshown ⟨hfailed.completes, ?_⟩
        ⟨_, List.getLast?_concat, hcancelled⟩)
      have hbacked := hfailed.backed (List.forall_mem_nil _)
      rwa [List.append_nil] at hbacked
    · exact sweepStep_nextKey h hA hshown hfailed
  · next bytes hdata =>
    obtain rfl : reply = .data bytes := by
      cases reply with
      | data bytes' => rw [Option.some.inj hdata]
      | _ => cases hdata
    -- the key is only good once a block was read with it
    refine .awaits ⟨⟨h.attached, h.known, h.sectors, h.cache⟩, hA, hshown, ?_⟩
    have hopened : Opened read.mifareSector read.mifareKey
        [(authCall read.mifareSector read.mifareKey, .data bytes)] [] :=
      ⟨⟨bytes, rfl⟩, Nat.zero_le _, List.forall_mem_nil _⟩
    exact @Waits.read uid cache { read with mifareBlockOffset := 0, mifareBlocksArr := [] } reports
      log _ [] htrying hopened (blockCount_pos _) rfl rfl

/-- **The reply to a read.** -/
theorem sweepStep_blockReadReady (h : Reporting uid cache s.client read reports)
    (hA : read.mifareAuthType = 0) (hshown : ShowsSectors s.client reports true)
    (htrying : Trying uid cache read.mifareSector (read.mifareKey :: read.keysLeft) log reports)
    {opened : List Exchange} {blocks : List Bytes}
    (hopened : Opened read.mifareSector read.mifareKey opened blocks)
    (hlen : blocks.length < mifareSectorBlockCount read.mifareSector)
    (hoffset : read.mifareBlockOffset = blocks.length)
    (hblocks : read.mifareBlocksArr = blocks.map blockJson) (reply : TagReply) :
    SweepStep uid cache s id
      (log ++ (opened ++ [(nextRead read.mifareSector blocks, reply)]))
      (mifareBlockReadReady s id read reply) := by
  have hattached : (!read.client) = false := by rw [h.attached]; rfl
  rw [mifareBlockReadReady, hattached]
  simp only [Bool.false_eq_true, if_false]
  split
  · next block hblock =>
    obtain ⟨rfl, hsize⟩ := block?_eq_some hblock
    have hmore := hopened.concat hlen hsize
    have harr : read.mifareBlocksArr ++ [.string (text (ndefBytesToHex block))]
        = (blocks ++ [block]).map blockJson := by
      rw [hblocks, List.map_append]
      rfl
    have hnext : read.mifareBlockOffset + 1 = (blocks ++ [block]).length := by
      rw [hoffset, List.length_append]
      rfl
    split
    · next hfull =>
      refine sweepStep_sectorDone ⟨h.attached, h.known, h.sectors, h.cache⟩ hA harr
        htrying.sector_lt (htrying.worked (.whole hmore ?_))
      exact Nat.le_antisymm hmore.in_sector (hnext ▸ hfull)
    · next hopen =>
      rw [hnext] at hopen ⊢
      refine .awaits ⟨⟨h.attached, h.known, h.sectors, h.cache⟩, hA, hshown, ?_⟩
      exact .read htrying hmore (Nat.lt_of_not_le hopen) rfl harr
  · next hno =>
    split
    · next hfirst =>
      -- the key was not good after all
      obtain rfl : blocks = [] := List.length_eq_zero_iff.mp (hoffset.symm.trans hfirst)
      exact sweepStep_nextKey ⟨h.attached, h.known, h.sectors, h.cache⟩ hA hshown
        (htrying.failed (.unread hopened hno))
    · next hsome =>
      refine sweepStep_sectorDone h hA hblocks htrying.sector_lt
        (htrying.worked (.broken hopened ?_ hlen hno))
      rintro rfl
      exact hsome hoffset

/-- **Every callback of a sweep.** -/
theorem sweepStep_tagCallback (glib : GlibText) {call : TagCall}
    (h : Sweeping uid cache s.client read reports log call) (reply : TagReply) :
    SweepStep uid cache s id (log ++ [(call, reply)]) (tagCallback glib s id read call reply) := by
  obtain ⟨hreporting, hA, hshown, hwaits⟩ := h
  cases hwaits with
  | auth htrying => exact sweepStep_authReady hreporting hA hshown htrying reply
  | read htrying hopened hlen hoffset hblocks =>
    rw [List.append_assoc]
    exact sweepStep_blockReadReady hreporting hA hshown htrying hopened hlen hoffset hblocks reply

end Callbacks

/-! ## What a sweep under way has come to -/

section Waits

variable {uid : Option String} {cache : KeyCache} {read : TagRead} {log : List Exchange}
  {reports : List SectorReport} {call : TagCall}

/-- The next call belongs to the record, too. -/
theorem Waits.completes_next (h : Waits uid cache read reports log call) :
    Completes uid cache (log ++ [(call, .failed false)]) reports := by
  cases h with
  | auth htrying => exact (htrying.failed (.refused rfl)).completes
  | read htrying hopened hlen _ _ =>
    rw [List.append_assoc]
    exact htrying.completes_broken hopened hlen rfl

theorem Waits.length_lt (h : Waits uid cache read reports log call) : log.length < 1000 := by
  have hlen := h.completes_next.length_le
  rw [List.length_append] at hlen
  exact hlen

theorem Waits.reached (h : Waits uid cache read reports log call) :
    Reached uid cache log reports := by
  have hnext := h.completes_next
  rw [← List.append_nil reports] at hnext
  refine ⟨hnext.of_append, ?_⟩
  cases h with
  | auth htrying =>
    have hbacked := htrying.backed (List.forall_mem_nil _)
    rwa [List.append_nil] at hbacked
  | read htrying hopened _ _ _ => exact htrying.backed (hopened.addressed htrying.sector_lt)

theorem SweepOver.reached {c : TagClient} (h : SweepOver uid cache c reports log) :
    Reached uid cache log reports := by
  cases h with
  | finished _ _ hswept => exact reached_of_swept hswept le_rfl
  | cancelled _ hreached _ => exact hreached

end Waits

/-! ## The invariant -/

/-- What the end of a call adds to the record of the read `id`. -/
def exchangeOf (id : ℕ) (s : TagState) : TagEvent → Option Exchange
  | .tags _ => none
  | .complete i reply =>
    s.pool.calls[i]?.bind fun x => if x.1 = id then some (x.2, reply) else none

/-- The current tag stays the same. -/
def TagEvent.Stays (s : TagState) : TagEvent → Prop
  | .tags found => s.client.tagPath = found.head?
  | .complete _ _ => True

instance (s : TagState) : (e : TagEvent) → Decidable (e.Stays s)
  | .tags found => decEq s.client.tagPath found.head?
  | .complete _ _ => isTrue trivial

/-- The invariant of runs in which the tag stays: its sweep is under way or over, and no other
read can reach the client. -/
structure SweepInv (uid : Option String) (cache : KeyCache) (id : ℕ) (s : TagState)
    (log : List Exchange) : Prop where
  wf : s.pool.WF none
  alone : ∀ j read, j ≠ id → s.pool.tasks j = some read → read.client = false
  live : ∀ read, s.pool.tasks id = some read → ∃ call reports, (id, call) ∈ s.pool.calls ∧
    Sweeping uid cache s.client read reports log call
  ended : s.pool.tasks id = none → ∃ reports,
    s.client.mifareKeyCache = gained uid reports ++ cache ∧
      SweepOver uid cache s.client reports log

section Run

variable {uid : Option String} {cache : KeyCache} {id : ℕ} {s s' : TagState}
  {log : List Exchange} {glib : GlibText}

/-- A callback of the sweep. -/
theorem sweepInv_of_step {i : ℕ} {call : TagCall} (hwf : s.pool.WF none)
    (halone : ∀ j read, j ≠ id → s.pool.tasks j = some read → read.client = false)
    (hi : s.pool.calls[i]? = some (id, call)) {client : TagClient}
    (h : SweepStep uid cache ⟨client, s.pool.take i, s.fault⟩ id log s') :
    SweepInv uid cache id s' log := by
  cases h with
  | @awaits client read' call' reports h =>
    refine ⟨(hwf.take hi).await read' call', ?_, ?_, ?_⟩
    · intro j r hj hr
      rcases Pool.tasks_await_eq_some.mp hr with ⟨rfl, -⟩ | ⟨-, hr⟩
      · exact absurd rfl hj
      · exact halone j r hj hr
    · intro r hr
      rcases Pool.tasks_await_eq_some.mp hr with ⟨-, rfl⟩ | ⟨hid, -⟩
      · exact ⟨call', reports, Pool.mem_calls_await.mpr (Or.inr ⟨rfl, rfl⟩), h⟩
      · exact absurd rfl hid
    · intro hnone
      have hsome : ((s.pool.take i).await id read' call').tasks id = some read' :=
        Pool.tasks_await_eq_some.mpr (Or.inl ⟨rfl, rfl⟩)
      cases hnone.symm.trans hsome
  | @frees client reports hcache h =>
    refine ⟨(hwf.take hi).free, ?_, ?_, fun _ => ⟨reports, hcache, h⟩⟩
    · intro j r hj hr
      exact halone j r hj (Pool.tasks_free_eq_some.mp hr).2
    · intro r hr
      exact absurd rfl (Pool.tasks_free_eq_some.mp hr).1

/-- A callback of a read that was aborted before. -/
theorem SweepInv.other (h : SweepInv uid cache id s log) {i j : ℕ} {call : TagCall}
    (hi : s.pool.calls[i]? = some (j, call)) (hj : j ≠ id) :
    SweepInv uid cache id ({ s with pool := s.pool.take i }.free j) log := by
  have hsame : ((s.pool.take i).free j).tasks id = s.pool.tasks id := by
    rw [Pool.tasks_free, if_neg (Ne.symm hj)]
    rfl
  refine ⟨(h.wf.take hi).free, ?_, ?_, fun hnone => h.ended (hsame ▸ hnone)⟩
  · intro k r hk hr
    exact h.alone k r hk (Pool.tasks_free_eq_some.mp hr).2
  · intro r hr
    obtain ⟨call', reports, hcall', hsweep⟩ := h.live r (hsame ▸ hr)
    exact ⟨call', reports, (h.wf.mem_take hi).mpr ⟨Ne.symm hj, hcall'⟩, hsweep⟩

/-- **One step.** -/
theorem SweepInv.step (h : SweepInv uid cache id s log) {e : TagEvent} (he : e.Stays s) :
    SweepInv uid cache id (tagStep glib s e) (log ++ (exchangeOf id s e).toList) := by
  cases e with
  | tags tags =>
    have hhead : s.client.tagPath = tags.head? := he
    have hsame : tagStep glib s (.tags tags) = s := if_pos hhead
    rw [hsame, exchangeOf, Option.toList_none, List.append_nil]
    exact h
  | complete i reply =>
    cases hi : s.pool.calls[i]? with
    | none => simpa [tagStep, exchangeOf, hi] using h
    | some entry =>
      obtain ⟨j, call⟩ := entry
      have hmem := List.mem_of_getElem? hi
      obtain ⟨read, ht⟩ := h.wf.exists_task hmem
      rw [tagStep_complete reply hi ht]
      by_cases hj : j = id
      · subst hj
        obtain ⟨call', reports, hcall', hsweep⟩ := h.live read ht
        obtain rfl := h.wf.call_unique hmem hcall'
        have hexchange : exchangeOf j s (.complete i reply) = some (call, reply) := by
          simp [exchangeOf, hi]
        rw [hexchange, Option.toList_some]
        have hsweep' : Sweeping uid cache { s with pool := s.pool.take i }.client read reports log
            call := hsweep
        exact sweepInv_of_step h.wf h.alone hi (sweepStep_tagCallback glib hsweep' reply)
      · have hexchange : exchangeOf id s (.complete i reply) = none := by
          simp [exchangeOf, hi, hj]
        rw [hexchange, Option.toList_none, List.append_nil,
          tagCallback_of_detached call reply (h.alone j read hj ht)]
        exact h.other hi hj

/-- **The start of a sweep.** -/
theorem sweepInv_start {ses : Session} (h : TagInv s ses) {i : ℕ} {path : String}
    (hcall : s.pool.calls[i]? = some (id, .getAll3 path))
    (hcurrent : s.client.reading = some id) {info : TagInfo}
    (hclassic : info.type = nfcTagTypeMifareClassic) :
    SweepInv info.mifareUid s.client.mifareKeyCache id
      (tagStep glib s (.complete i (.tagInfo info))) [] := by
  obtain ⟨-, read, ht, hattached⟩ := h.current id hcurrent
  have hon : (!read.client) = false := by rw [hattached]; rfl
  simp only [tagStep, hcall, ht, tagCallback, tagGetAllReady, TagReply.tagInfo?, hon, hclassic,
    Bool.false_eq_true, if_false, if_true, tagReadMifareStart]
  refine sweepInv_of_step h.wf (fun j r hj hr => h.detached_of_ne ht hattached hj hr) hcall
    (sweepStep_nextSector ⟨hattached, rfl, rfl, ?_⟩ .start (Nat.zero_le _))
  cases info.mifareUid <;> rfl

/-! ## Every run -/

/-- Where a sweep is, and whether it shows itself as scanning: its read has a call under way, or
has been freed, at the end of the sweep or after a cancellation. -/
inductive SweepStatus (id : ℕ) (s : TagState) (log : List Exchange) : Bool → Prop
  | waiting {call : TagCall} (hcall : (id, call) ∈ s.pool.calls) (hshort : log.length < 1000) :
    SweepStatus id s log true
  | finished (hfreed : s.pool.tasks id = none) (hreading : s.client.reading = none) :
    SweepStatus id s log false
  | cancelled (hfreed : s.pool.tasks id = none)
      (hlast : ∃ x, log.getLast? = some x ∧ x.2.cancelled = true) : SweepStatus id s log true

/-- A sweep, from the record of its calls: they are bounded for each sector and in all, the
sectors shown are those that were read, and the cache has gained their keys. -/
structure SweepOk (uid : Option String) (cache : KeyCache) (id : ℕ) (s : TagState)
    (log : List Exchange) : Prop where
  authentications : ∀ sector, log.countP (fun x => x.1.isAuthOf sector) ≤ 5
  reads : ∀ sector, log.countP (fun x => x.1.isReadOf sector) ≤ 20
  addressed : ∀ x ∈ log, ∃ sector < mifareNumSectors, Addressed sector x
  reported : ∃ reports scanning, SweepStatus id s log scanning ∧
    ShowsSectors s.client reports scanning ∧
    reports.Pairwise (fun r r' => r.sector < r'.sector) ∧ (∀ r ∈ reports, r.BackedBy log) ∧
    s.client.mifareKeyCache = gained uid reports ++ cache ∧
    (scanning = false → Swept (SectorLog uid cache) mifareNumSectors log reports)

theorem Reached.sweepOk {reports : List SectorReport} (h : Reached uid cache log reports)
    {scanning : Bool} (hstatus : SweepStatus id s log scanning)
    (hshown : ShowsSectors s.client reports scanning)
    (hcache : s.client.mifareKeyCache = gained uid reports ++ cache)
    (hall : scanning = false → Swept (SectorLog uid cache) mifareNumSectors log reports) :
    SweepOk uid cache id s log where
  authentications := h.completes.countP_auth
  reads := h.completes.countP_read
  addressed := h.completes.addressed
  reported := ⟨reports, scanning, hstatus, hshown, h.completes.ordered, h.backed, hcache, hall⟩

theorem SweepInv.sweepOk (h : SweepInv uid cache id s log) : SweepOk uid cache id s log := by
  cases htask : s.pool.tasks id with
  | some read =>
    obtain ⟨call, reports, hcall, hsweep⟩ := h.live read htask
    exact hsweep.waits.reached.sweepOk (.waiting hcall hsweep.waits.length_lt) hsweep.shown
      hsweep.reporting.cache (fun hno => nomatch hno)
  | none =>
    obtain ⟨reports, hcache, hover⟩ := h.ended htask
    have hreached := hover.reached
    cases hover with
    | finished hshown hreading hswept =>
      exact hreached.sweepOk (.finished htask hreading) hshown hcache fun _ => hswept
    | cancelled hshown _ hlast =>
      exact hreached.sweepOk (.cancelled htask hlast) hshown hcache fun hno => nomatch hno

end Run

/-- The client with other keys in its cache. -/
def TagState.withKeys (s : TagState) (cache : KeyCache) : TagState :=
  { s with client := { s.client with mifareKeyCache := cache } }

/-- No key is looked at before a sweep. -/
theorem TagInv.withKeys {s : TagState} {ses : Session} (h : TagInv s ses) (cache : KeyCache) :
    TagInv (s.withKeys cache) ses :=
  ⟨h.wf, h.sound, h.attached, h.current, h.session, h.addressed, h.shows, h.json, h.notices,
    h.protocol, h.info_path, h.type2, h.before, h.after⟩

/-- A MIFARE Classic tag has been told by the answer to the call at `i`, with these keys in the
cache. -/
def sweepStart (glib : GlibText) (es : List TagEvent) (cache : KeyCache) (i : ℕ)
    (info : TagInfo) : TagState :=
  tagStep glib ((run (tagStep glib) .init es).withKeys cache) (.complete i (.tagInfo info))

/-- **The sweep ends and reports only what it read**, for every tag, every content of the key
cache and however the calls end, in every run in which the tag stays; and its sectors partition
the blocks. -/
theorem sweep_reports_what_it_read (glib : GlibText) (es : List TagEvent)
    (hhonest : Along TagEvent.Honest (tagStep glib) .init es) (cache : KeyCache) (i id : ℕ)
    (path : String)
    (hcall : (run (tagStep glib) .init es).pool.calls[i]? = some (id, .getAll3 path))
    (hcurrent : (run (tagStep glib) .init es).client.reading = some id) (info : TagInfo)
    (hclassic : info.type = nfcTagTypeMifareClassic) (fs : List TagEvent)
    (hstays : Along TagEvent.Stays (tagStep glib) (sweepStart glib es cache i info) fs) :
    SweepOk info.mifareUid cache id (run (tagStep glib) (sweepStart glib es cache i info) fs)
      (trace (exchangeOf id) (tagStep glib) (sweepStart glib es cache i info) fs) ∧
    (∀ block < 256, ∃! sector, sector < mifareNumSectors ∧ InSector sector block) ∧
    ∀ sector < mifareNumSectors, ∀ block, InSector sector block → block < 256 := by
  have hinv := (tagInv_run hhonest).withKeys cache
  have hstart : SweepInv info.mifareUid cache id (sweepStart glib es cache i info) [] :=
    sweepInv_start hinv hcall hcurrent hclassic
  have hrun := hstays.trace_invariant (SweepInv info.mifareUid cache id)
    (fun s log e h he => h.step he) hstart
  exact ⟨hrun.sweepOk, fun _ hblock => blocks_partitioned hblock,
    fun _ hsector _ hin => lt_of_inSector hsector hin⟩

/-- A tag comes into the field. -/
def tagArrives : List TagEvent := [.tags ["/nfc0/tag0"], .complete 0 .proxy]

/-- The tag is a MIFARE Classic one. -/
def classicInfo : TagInfo :=
  ⟨true, 1, 64, 2, [], [], [("NFCID1", .bytestring [0x0A, 0x0B])]⟩

/-- The key of its first sector is known. -/
def classicKeys : KeyCache := [(("0a0b", 0), [0x01, 0x02, 0x03, 0x04, 0x05, 0x06])]

/-- The key is accepted, and the first block can be read, but not the second. -/
def brokenSector : List TagEvent :=
  [.complete 0 (.data [0x00]), .complete 0 (.data (List.replicate 16 0x2A)),
    .complete 0 (.failed false)]

theorem sweep_reports_what_it_read_brokenSector :
    SweepOk classicInfo.mifareUid classicKeys 0
        (run (tagStep asciiGlib) (sweepStart asciiGlib tagArrives classicKeys 0 classicInfo)
          brokenSector)
        (trace (exchangeOf 0) (tagStep asciiGlib)
          (sweepStart asciiGlib tagArrives classicKeys 0 classicInfo) brokenSector) ∧
      (∀ block < 256, ∃! sector, sector < mifareNumSectors ∧ InSector sector block) ∧
      ∀ sector < mifareNumSectors, ∀ block, InSector sector block → block < 256 :=
  sweep_reports_what_it_read asciiGlib tagArrives (by decide +kernel) classicKeys 0 0 "/nfc0/tag0"
    (by decide +kernel) (by decide +kernel) classicInfo rfl brokenSector (by decide +kernel)

end NfcAdapter
