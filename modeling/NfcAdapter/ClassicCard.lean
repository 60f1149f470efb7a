/-
# A MIFARE Classic card is dumped

A sweep composed with a card that keeps its side: it lets the sectors be read whose key A is
given, and nothing else.  Every sector for which one of the tried keys is right is shown whole,
and no other; what has been shown is remembered, so that the next sweep of the card tries the
right keys first and shows the same.
-/
import NfcAdapter.TagSweep

namespace NfcAdapter

open Runs
open Trials

/-! ## The card -/

/-- A card: the key A of each sector that has one, and what a read of each block returns. -/
structure MifareCard where
  keyA : ℕ → Option Bytes
  block : ℕ → FixedBytes 16

/-- The sector of a block. -/
def sectorOf (block : ℕ) : ℕ := if block < 128 then block / 4 else 32 + (block - 128) / 16

theorem sectorOf_eq {sector block : ℕ} (h : InSector sector block) : sectorOf block = sector := by
  simp only [InSector, mifareSectorFirstBlock, mifareSectorBlockCount, sectorOf] at h ⊢
  split_ifs at h ⊢ <;> omega

namespace MifareCard

variable (card : MifareCard)

/-- The sector that is open after a call, by the one that was open before. -/
def opens (opened : Option ℕ) : TagCall → Option ℕ
  | .mifareAuth (kind :: block :: _ :: _ :: _ :: _ :: key) =>
    if kind = 0x60 ∧ card.keyA (sectorOf block.toNat) = some key then some (sectorOf block.toNat)
    else none
  | .mifareBlock [kind, block] =>
    if kind = 0x30 ∧ opened = some (sectorOf block.toNat) then opened else none
  | _ => none

/-- What the call can be answered with.  A wrong key may be answered with anything that looks
like a response; what counts is that no block can be read then. -/
def Answers (opened : Option ℕ) (call : TagCall) (reply : TagReply) : Prop :=
  reply.cancelled = false ∧
    match call with
    | .mifareAuth _ => card.opens opened call ≠ none → reply.data? ≠ none
    | .mifareBlock [_, block] =>
      (card.opens opened call ≠ none → reply = .data (card.block block.toNat).1) ∧
        (card.opens opened call = none → reply.block? = none)
    | _ => True

instance (opened : Option ℕ) (call : TagCall) (reply : TagReply) :
    Decidable (card.Answers opened call reply) := by
  unfold Answers
  refine @instDecidableAnd _ _ inferInstance ?_
  split <;> infer_instance

/-- The sector that is open after a record. -/
def after (opened : Option ℕ) (log : List Exchange) : Option ℕ :=
  log.foldl (fun opened x => card.opens opened x.1) opened

/-- The replies in a record are the card's. -/
def Follows : Option ℕ → List Exchange → Prop
  | _, [] => True
  | opened, x :: log => card.Answers opened x.1 x.2 ∧ Follows (card.opens opened x.1) log

instance decidableFollows : (opened : Option ℕ) → (log : List Exchange) →
    Decidable (card.Follows opened log)
  | _, [] => isTrue trivial
  | opened, x :: log =>
    @instDecidableAnd _ _ inferInstance (decidableFollows (card.opens opened x.1) log)

variable {card}

theorem follows_append {opened : Option ℕ} {log log' : List Exchange} :
    card.Follows opened (log ++ log')
      ↔ card.Follows opened log ∧ card.Follows (card.after opened log) log' := by
  induction log generalizing opened with
  | nil => simp [Follows, after]
  | cons x log ih =>
    rw [List.cons_append, Follows, Follows, ih, and_assoc]
    rfl

theorem after_concat (opened : Option ℕ) (log : List Exchange) (x : Exchange) :
    card.after opened (log ++ [x]) = card.opens (card.after opened log) x.1 := by
  rw [after, List.foldl_append]
  rfl

/-! ## One key -/

variable {sector : ℕ} {key : Bytes} {log : List Exchange} {blocks : List Bytes}

/-- The blocks of a sector. -/
def blocksOf (card : MifareCard) (sector n : ℕ) : List Bytes :=
  (List.range n).map fun k => (card.block (mifareSectorFirstBlock sector + k)).1

/-- A sector that is shown whole. -/
def report (card : MifareCard) (sector : ℕ) (key : Bytes) : SectorReport :=
  ⟨sector, key, card.blocksOf sector (mifareSectorBlockCount sector)⟩

theorem toNat_block {n : ℕ} (hsector : sector < mifareNumSectors) (h : InSector sector n) :
    n.toUInt8.toNat = n := Nat.mod_eq_of_lt (lt_of_inSector hsector h)

/-- The authentication opens its sector if the key is right. -/
theorem opens_authCall (hsector : sector < mifareNumSectors) (opened : Option ℕ) :
    card.opens opened (authCall sector key)
      = if card.keyA sector = some key then some sector else none := by
  have hin : InSector sector (mifareSectorFirstBlock sector) := inSector_add (blockCount_pos sector)
  simp only [authCall, List.cons_append, List.nil_append, opens, toNat_block hsector hin,
    sectorOf_eq hin, true_and]

/-- A read leaves its sector open, if it was. -/
theorem opens_readCall (hsector : sector < mifareNumSectors) {n : ℕ} (h : InSector sector n)
    (opened : Option ℕ) :
    card.opens opened (readCall n) = if opened = some sector then opened else none := by
  simp only [readCall, opens, toNat_block hsector h, sectorOf_eq h, true_and]

/-- The answer to a read: the block if the sector is open, and no block if it is not. -/
theorem answers_readCall (hsector : sector < mifareNumSectors) {n : ℕ} (h : InSector sector n)
    {opened : Option ℕ} {reply : TagReply} (hanswer : card.Answers opened (readCall n) reply) :
    (opened = some sector → reply = .data (card.block n).1) ∧
      (opened ≠ some sector → reply.block? = none) := by
  have hopens : card.opens opened (readCall n) = if opened = some sector then opened else none :=
    opens_readCall hsector h opened
  obtain ⟨-, hread, hno⟩ := hanswer
  rw [toNat_block hsector h] at hread
  constructor
  · intro hopened
    apply hread
    show card.opens opened (readCall n) ≠ none
    rw [hopens, if_pos hopened, hopened]
    exact Option.some_ne_none sector
  · intro hclosed
    apply hno
    show card.opens opened (readCall n) = none
    rw [hopens, if_neg hclosed]

/-- A block is a block. -/
theorem block?_data (n : ℕ) : (TagReply.data (card.block n).1).block? = some (card.block n).1 := by
  simp [TagReply.block?, TagReply.data?, (card.block n).2]

/-- A sector that is open stays so while it is read. -/
theorem after_readsOf (hsector : sector < mifareNumSectors)
    (hlen : blocks.length ≤ mifareSectorBlockCount sector) :
    card.after (some sector) (readsOf sector blocks) = some sector := by
  induction blocks using List.reverseRecOn with
  | nil => rfl
  | append_singleton blocks block ih =>
    rw [List.length_append, List.length_singleton] at hlen
    rw [readsOf_concat, after_concat, ih (by omega), opens_readCall hsector (inSector_add hlen),
      if_pos rfl]

/-- What is read of an open sector are its blocks. -/
theorem eq_blocksOf (hsector : sector < mifareNumSectors)
    (hlen : blocks.length ≤ mifareSectorBlockCount sector)
    (h : card.Follows (some sector) (readsOf sector blocks)) :
    blocks = card.blocksOf sector blocks.length := by
  induction blocks using List.reverseRecOn with
  | nil => rfl
  | append_singleton blocks block ih =>
    rw [List.length_append, List.length_singleton] at hlen
    rw [readsOf_concat, follows_append, after_readsOf hsector (by omega)] at h
    obtain ⟨hbefore, hread, -⟩ := h
    have hanswer := (answers_readCall hsector (inSector_add hlen) hread).1 rfl
    rw [List.length_append, List.length_singleton, blocksOf, List.range_succ, List.map_append]
    congr 1
    · exact ih (by omega) hbefore
    · exact congrArg (fun block => [block]) (TagReply.data.inj hanswer)

/-- The next block of an open sector can be read. -/
theorem block?_nextRead (hsector : sector < mifareNumSectors)
    (hlen : blocks.length < mifareSectorBlockCount sector) {reply : TagReply}
    (h : card.Answers (some sector) (nextRead sector blocks) reply) : reply.block? ≠ none := by
  rw [(answers_readCall hsector (inSector_add hlen) h).1 rfl, block?_data]
  exact Option.some_ne_none _

/-- After the authentication with the right key. -/
theorem Opened.follows {opened : Option ℕ} (hopened : Opened sector key log blocks)
    (hsector : sector < mifareNumSectors) (hkey : card.keyA sector = some key)
    (h : card.Follows opened log) :
    card.Follows (some sector) (readsOf sector blocks) ∧ card.after opened log = some sector := by
  obtain ⟨⟨bytes, rfl⟩, hlen, -⟩ := hopened
  have hopens : card.opens opened (authCall sector key) = some sector := by
    rw [opens_authCall hsector, if_pos hkey]
  obtain ⟨-, hreads⟩ := h
  rw [hopens] at hreads
  refine ⟨hreads, ?_⟩
  show card.after (card.opens opened (authCall sector key)) (readsOf sector blocks) = some sector
  rw [hopens]
  exact after_readsOf hsector hlen

/-- **A key that fails is not the card's.** -/
theorem keyA_of_failed {opened : Option ℕ} (hfailed : Failed sector key log)
    (hsector : sector < mifareNumSectors) (h : card.Follows opened log) :
    card.keyA sector ≠ some key := by
  intro hkey
  cases hfailed with
  | refused hreply =>
    obtain ⟨⟨-, hdata⟩, -⟩ := h
    refine hdata ?_ hreply
    show card.opens opened (authCall sector key) ≠ none
    rw [opens_authCall hsector, if_pos hkey]
    exact Option.some_ne_none sector
  | unread hopened hreply =>
    obtain ⟨hlog, hread, -⟩ := follows_append.mp h
    rw [(Opened.follows hopened hsector hkey hlog).2] at hread
    have hfirst : ([] : List Bytes).length < mifareSectorBlockCount sector := blockCount_pos sector
    exact block?_nextRead hsector hfirst hread hreply

/-- A block was read: the key is the card's. -/
theorem keyA_of_opened {opened : Option ℕ} (hopened : Opened sector key log blocks)
    (hsome : blocks ≠ []) (hsector : sector < mifareNumSectors) (h : card.Follows opened log) :
    card.keyA sector = some key := by
  by_contra hkey
  obtain ⟨⟨bytes, rfl⟩, hlen, hsize⟩ := hopened
  obtain ⟨-, hreads⟩ := h
  rw [opens_authCall hsector, if_neg hkey] at hreads
  cases blocks with
  | nil => exact hsome rfl
  | cons block blocks =>
    rw [readsOf, List.mapIdx_cons] at hreads
    obtain ⟨hread, -⟩ := hreads
    have hclosed : (none : Option ℕ) ≠ some sector := (Option.some_ne_none sector).symm
    have hno := (answers_readCall hsector (inSector_add (blockCount_pos sector)) hread).2 hclosed
    have hblock : (TagReply.data block).block? = some block := by
      simp [TagReply.block?, TagReply.data?, hsize block List.mem_cons_self]
    rw [hblock] at hno
    cases hno

/-- **A key that works is the card's**, and the sector is read to its end. -/
theorem report_of_works {opened : Option ℕ} {r : SectorReport} (hworks : Works sector key log r)
    (hsector : sector < mifareNumSectors) (h : card.Follows opened log) :
    card.keyA sector = some key ∧ r = card.report sector key := by
  cases hworks with
  | @whole _ blocks hopened hlen =>
    have hsome : blocks ≠ [] := by
      rintro rfl
      have hpos := blockCount_pos sector
      rw [← hlen] at hpos
      exact Nat.lt_irrefl 0 hpos
    have hkey := keyA_of_opened hopened hsome hsector h
    have hblocks := eq_blocksOf hsector hlen.le (Opened.follows hopened hsector hkey h).1
    refine ⟨hkey, ?_⟩
    rw [report, ← hlen, ← hblocks]
  | broken hopened hsome hlen hreply =>
    obtain ⟨hlog, hread, -⟩ := follows_append.mp h
    have hkey := keyA_of_opened hopened hsome hsector hlog
    rw [(Opened.follows hopened hsector hkey hlog).2] at hread
    exact absurd hreply (block?_nextRead hsector hlen hread)

/-! ## The sweep -/

/-- The replies in a part of a record are the card's. -/
def Fits (card : MifareCard) (log : List Exchange) : Prop := ∃ opened, card.Follows opened log

theorem fits_append (log log' : List Exchange) (h : card.Fits (log ++ log')) :
    card.Fits log ∧ card.Fits log' := by
  obtain ⟨opened, h⟩ := h
  obtain ⟨hlog, hlog'⟩ := follows_append.mp h
  exact ⟨⟨_, hlog⟩, ⟨_, hlog'⟩⟩

/-- The card has this key A for the sector. -/
def hasKey (card : MifareCard) (sector : ℕ) (key : Bytes) : Bool := card.keyA sector = some key

/-- What a sweep that tries these keys shows of a sector. -/
def shows (card : MifareCard) (uid : Option String) (cache : KeyCache) (sector : ℕ) :
    Option SectorReport :=
  ((candidates uid cache sector).find? (card.hasKey sector)).map (card.report sector)

/-- The authentications it makes for the sector: one for each key up to the right one, or for
each if there is none. -/
def tries (card : MifareCard) (uid : Option String) (cache : KeyCache) (sector : ℕ) : ℕ :=
  min ((candidates uid cache sector).findIdx (card.hasKey sector) + 1)
    (candidates uid cache sector).length

/-- What it shows of the card. -/
def dump (card : MifareCard) (uid : Option String) (cache : KeyCache) : List SectorReport :=
  (List.range mifareNumSectors).filterMap (card.shows uid cache)

variable {uid : Option String} {cache : KeyCache} {reports : List SectorReport}

theorem hasKey_of_failed (hsector : sector < mifareNumSectors) (hfailed : Failed sector key log)
    (h : card.Fits log) : card.hasKey sector key = false := by
  obtain ⟨opened, h⟩ := h
  exact decide_eq_false (keyA_of_failed hfailed hsector h)

theorem hasKey_of_works (hsector : sector < mifareNumSectors) {r : SectorReport}
    (hworks : Works sector key log r) (h : card.Fits log) :
    card.hasKey sector key = true ∧ r = card.report sector key := by
  obtain ⟨opened, h⟩ := h
  obtain ⟨hkey, hr⟩ := report_of_works hworks hsector h
  exact ⟨decide_eq_true hkey, hr⟩

/-- **A sector** is shown as the card has it. -/
theorem shows_of_sectorLog {result : Option SectorReport}
    (h : SectorLog uid cache sector log result) (hfits : card.Fits log) :
    result = card.shows uid cache sector := by
  refine (h.tried.restrict fits_append hfits).eq_find ?_ ?_
  · rintro key log ⟨hfailed, hlog⟩
    exact hasKey_of_failed h.sector_lt hfailed hlog
  · rintro key log r ⟨hworks, hlog⟩
    exact hasKey_of_works h.sector_lt hworks hlog

/-- Each key costs one authentication. -/
theorem countP_auth_eq_one (hsector : sector < mifareNumSectors)
    (hle : log.countP (fun x => x.1.isAuthOf sector) ≤ 1)
    (hfirst : ∃ reply, (authCall sector key, reply) ∈ log) :
    log.countP (fun x => x.1.isAuthOf sector) = 1 := by
  obtain ⟨reply, hmem⟩ := hfirst
  have hpos : 0 < log.countP (fun x => x.1.isAuthOf sector) :=
    List.countP_pos_iff.mpr ⟨_, hmem, isAuthOf_authCall hsector key⟩
  omega

theorem authCall_mem_of_opened (h : Opened sector key log blocks) :
    ∃ reply, (authCall sector key, reply) ∈ log := by
  obtain ⟨bytes, rfl⟩ := h.log_eq
  exact ⟨_, List.mem_cons_self⟩

theorem authCall_mem_of_failed (h : Failed sector key log) :
    ∃ reply, (authCall sector key, reply) ∈ log := by
  cases h with
  | refused _ => exact ⟨_, List.mem_cons_self⟩
  | unread hopened _ =>
    obtain ⟨reply, hmem⟩ := authCall_mem_of_opened hopened
    exact ⟨reply, List.mem_append_left _ hmem⟩

theorem authCall_mem_of_works {r : SectorReport} (h : Works sector key log r) :
    ∃ reply, (authCall sector key, reply) ∈ log := by
  cases h with
  | whole hopened _ => exact authCall_mem_of_opened hopened
  | broken hopened _ _ _ =>
    obtain ⟨reply, hmem⟩ := authCall_mem_of_opened hopened
    exact ⟨reply, List.mem_append_left _ hmem⟩

/-- **The authentications** for a sector. -/
theorem tries_of_sectorLog {result : Option SectorReport}
    (h : SectorLog uid cache sector log result) (hfits : card.Fits log) :
    log.countP (fun x => x.1.isAuthOf sector) = card.tries uid cache sector := by
  refine (h.tried.restrict fits_append hfits).countP_eq ?_ ?_
  · rintro key log ⟨hfailed, hlog⟩
    exact ⟨hasKey_of_failed h.sector_lt hfailed hlog, countP_auth_eq_one h.sector_lt
      (hfailed.countP_auth sector) (authCall_mem_of_failed hfailed)⟩
  · rintro key log r ⟨hworks, hlog⟩
    exact ⟨(hasKey_of_works h.sector_lt hworks hlog).1, countP_auth_eq_one h.sector_lt
      (hworks.countP_auth sector) (authCall_mem_of_works hworks)⟩

/-- **The sectors swept so far** are shown as the card has them. -/
theorem reports_of_swept {n : ℕ} (h : Swept (SectorLog uid cache) n log reports)
    (hfits : card.Fits log) : reports = (List.range n).filterMap (card.shows uid cache) :=
  (h.restrict fits_append hfits).eq_filterMap fun _ _ _ hunit => shows_of_sectorLog hunit.1 hunit.2

theorem first_of_swept {n : ℕ} (h : Swept (SectorLog uid cache) n log reports)
    (hfits : card.Fits log) (hn : n ≤ mifareNumSectors) : reports <+: card.dump uid cache := by
  obtain ⟨k, hk⟩ := Nat.exists_eq_add_of_le hn
  rw [reports_of_swept h hfits, dump, hk, List.range_add, List.filterMap_append]
  exact List.prefix_append _ _

theorem tries_of_swept {n : ℕ} (h : Swept (SectorLog uid cache) n log reports)
    (hfits : card.Fits log) (hn : sector < n) :
    log.countP (fun x => x.1.isAuthOf sector) = card.tries uid cache sector := by
  refine (h.restrict fits_append hfits).countP_eq ?_ ?_ hn
  · rintro k log r ⟨hunit, -⟩ hk x hx hauth
    exact hk ((hunit.addressed x hx).auth_unique hauth).symm
  · rintro log r ⟨hunit, hlog⟩
    exact tries_of_sectorLog hunit hlog

/-! ## The next sweep -/

theorem shows_sector {r : SectorReport} (h : card.shows uid cache sector = some r) :
    r = card.report sector r.key ∧ card.hasKey sector r.key = true := by
  obtain ⟨key, hkey, rfl⟩ := Option.map_eq_some_iff.mp h
  exact ⟨rfl, List.find?_some hkey⟩

theorem mem_dump {r : SectorReport} :
    r ∈ card.dump uid cache ↔ r.sector < mifareNumSectors ∧
      card.shows uid cache r.sector = some r := by
  rw [dump, List.mem_filterMap]
  constructor
  · rintro ⟨sector, hsector, hr⟩
    obtain rfl : r.sector = sector := congrArg SectorReport.sector (shows_sector hr).1
    exact ⟨List.mem_range.mp hsector, hr⟩
  · rintro ⟨hsector, hr⟩
    exact ⟨r.sector, List.mem_range.mpr hsector, hr⟩

/-- A key that was gained is found. -/
theorem lookup_gained_of_mem {known : String} {r : SectorReport} (hr : r ∈ reports)
    (hunique : ∀ r' ∈ reports, r'.sector = r.sector → r' = r) (cache : KeyCache) :
    (gained (some known) reports ++ cache).lookup (known, r.sector) = some r.key := by
  induction reports using List.reverseRecOn with
  | nil => cases hr
  | append_singleton reports last ih =>
    rw [gained_concat, List.cons_append, List.lookup_cons]
    by_cases hlast : last.sector = r.sector
    · obtain rfl := hunique last (by simp) hlast
      rw [beq_self_eq_true]
    · have hne : ((known, r.sector) == (known, last.sector)) = false :=
        beq_eq_false_iff_ne.mpr fun heq => hlast (Prod.mk.inj heq).2.symm
      rw [hne]
      rcases List.mem_append.mp hr with hr | hr
      · exact ih hr fun r' hr' => hunique r' (List.mem_append_left _ hr')
      · exact absurd (congrArg SectorReport.sector (List.mem_singleton.mp hr)).symm hlast

/-- Where nothing was gained the cache is as before. -/
theorem lookup_gained_of_notMem {known : String} (h : ∀ r ∈ reports, r.sector ≠ sector)
    (cache : KeyCache) :
    (gained (some known) reports ++ cache).lookup (known, sector)
      = cache.lookup (known, sector) := by
  induction reports using List.reverseRecOn with
  | nil => rfl
  | append_singleton reports last ih =>
    have hne : ((known, sector) == (known, last.sector)) = false :=
      beq_eq_false_iff_ne.mpr fun heq => h last (by simp) (Prod.mk.inj heq).2.symm
    rw [gained_concat, List.cons_append, List.lookup_cons, hne]
    exact ih fun r hr => h r (List.mem_append_left _ hr)

variable {known : String}

/-- **A sector that was shown** is tried with the right key first the next time. -/
theorem candidates_again {r : SectorReport} (hr : r ∈ card.dump (some known) cache) :
    candidates (some known) (gained (some known) (card.dump (some known) cache) ++ cache) r.sector
      = r.key :: mifareDefaultKeys := by
  have hunique : ∀ r' ∈ card.dump (some known) cache, r'.sector = r.sector → r' = r := by
    intro r' hr' hsame
    have hshown := (mem_dump.mp hr').2
    rw [hsame, (mem_dump.mp hr).2] at hshown
    exact (Option.some.inj hshown).symm
  rw [candidates, Option.bind_some, lookup_gained_of_mem hr hunique]
  rfl

/-- **It costs one authentication.** -/
theorem tries_again {r : SectorReport} (hr : r ∈ card.dump (some known) cache) :
    card.tries (some known) (gained (some known) (card.dump (some known) cache) ++ cache) r.sector
      = 1 := by
  have hkey := (shows_sector (mem_dump.mp hr).2).2
  rw [tries, candidates_again hr, List.findIdx_cons, hkey, List.length_cons, cond_true]
  omega

/-- **The next sweep shows the same.** -/
theorem dump_again :
    card.dump (some known) (gained (some known) (card.dump (some known) cache) ++ cache)
      = card.dump (some known) cache := by
  refine List.filterMap_congr fun sector hsector => ?_
  cases hshown : card.shows (some known) cache sector with
  | none =>
    have hnone : ∀ r ∈ card.dump (some known) cache, r.sector ≠ sector := by
      rintro r hr rfl
      cases hshown.symm.trans (mem_dump.mp hr).2
    rw [← hshown, shows, shows, candidates, Option.bind_some, lookup_gained_of_notMem hnone]
    rfl
  | some r =>
    obtain ⟨hr, hkey⟩ := shows_sector hshown
    obtain rfl : r.sector = sector := congrArg SectorReport.sector hr
    have hmem : r ∈ card.dump (some known) cache :=
      mem_dump.mpr ⟨List.mem_range.mp hsector, hshown⟩
    rw [shows, candidates_again hmem, List.find?_cons, hkey, Option.map_some, ← hr]

/-- The cache knows the sectors that were shown: they are shown again, each at its first key. -/
structure Remembers (card : MifareCard) (uid : Option String) (reports : List SectorReport)
    (cache : KeyCache) : Prop where
  same : card.dump uid cache = reports
  once : ∀ r ∈ reports, card.tries uid cache r.sector = 1

theorem remembers_dump : card.Remembers (some known) (card.dump (some known) cache)
    (gained (some known) (card.dump (some known) cache) ++ cache) :=
  ⟨dump_again, fun _ hr => tries_again hr⟩

/-- The card ends no call as cancelled. -/
theorem Fits.not_cancelled (h : card.Fits log) {x : Exchange} (hx : x ∈ log) :
    x.2.cancelled = false := by
  obtain ⟨pre, post, rfl⟩ := List.append_of_mem hx
  obtain ⟨opened, hanswer, -⟩ := (fits_append pre (x :: post) h).2
  exact hanswer.1

end MifareCard

/-! ## Every run -/

/-- The dump of a card: while the sweep is under way the sectors shown are the first ones of the
card's, and at its end they are all the sectors it could open; it has made as many authentications
as that takes, and a card with a known UID is remembered. -/
inductive Dumping (card : MifareCard) (uid : Option String) (cache : KeyCache) (id : ℕ)
    (s : TagState) (log : List Exchange) : Prop
  | scanning {call : TagCall} {reports : List SectorReport} (hcall : (id, call) ∈ s.pool.calls)
      (hshort : log.length < 1000) (hfirst : reports <+: card.dump uid cache)
      (hshown : ShowsSectors s.client reports true) : Dumping card uid cache id s log
  | over (hfreed : s.pool.tasks id = none) (hreading : s.client.reading = none)
      (hshown : ShowsSectors s.client (card.dump uid cache) false)
      (htries : ∀ sector < mifareNumSectors,
        log.countP (fun x => x.1.isAuthOf sector) = card.tries uid cache sector)
      (hagain : uid.isSome = true →
        card.Remembers uid (card.dump uid cache) s.client.mifareKeyCache) :
    Dumping card uid cache id s log

section Run

variable {card : MifareCard} {uid : Option String} {cache : KeyCache} {id : ℕ} {s : TagState}
  {log : List Exchange}

/-- What a sweep under way has reported. -/
theorem Waits.first_of_dump {read : TagRead} {reports : List SectorReport} {call : TagCall}
    (h : Waits uid cache read reports log call) (hcard : card.Fits log) :
    reports <+: card.dump uid cache := by
  have htrying : ∀ {left : List Bytes} {log : List Exchange},
      Trying uid cache read.mifareSector left log reports → card.Fits log →
        reports <+: card.dump uid cache := by
    rintro left log ⟨hsector, past, tried, more, rfl, hswept, -, -⟩ hfits
    exact MifareCard.first_of_swept hswept (MifareCard.fits_append past more hfits).1 hsector.le
  cases h with
  | auth h => exact htrying h hcard
  | read h _ _ _ _ => exact htrying h (MifareCard.fits_append _ _ hcard).1

theorem SweepInv.dumping (h : SweepInv uid cache id s log) (hcard : card.Fits log) :
    Dumping card uid cache id s log := by
  cases htask : s.pool.tasks id with
  | some read =>
    obtain ⟨call, reports, hcall, hsweep⟩ := h.live read htask
    exact .scanning hcall hsweep.waits.length_lt (hsweep.waits.first_of_dump hcard) hsweep.shown
  | none =>
    obtain ⟨reports, hcache, hover⟩ := h.ended htask
    cases hover with
    | finished hshown hreading hswept =>
      obtain rfl := MifareCard.reports_of_swept hswept hcard
      refine .over htask hreading hshown
        (fun sector hsector => MifareCard.tries_of_swept hswept hcard hsector) ?_
      intro hknown
      obtain ⟨known, rfl⟩ := Option.isSome_iff_exists.mp hknown
      rw [hcache]
      exact MifareCard.remembers_dump
    | cancelled _ _ hlast =>
      obtain ⟨x, hx, hcancelled⟩ := hlast
      rw [hcard.not_cancelled (List.mem_of_getLast? hx)] at hcancelled
      cases hcancelled

end Run

/-- **A MIFARE Classic card is dumped.** In every run in which the tag stays and the calls of its
sweep are answered by a card, with whatever keys in the cache and whatever else goes on: exactly
the sectors whose key A is among the tried ones are shown, whole and in order. -/
theorem classic_card_is_dumped (glib : GlibText) (es : List TagEvent)
    (hhonest : Along TagEvent.Honest (tagStep glib) .init es) (cache : KeyCache) (i id : ℕ)
    (path : String)
    (hcall : (run (tagStep glib) .init es).pool.calls[i]? = some (id, .getAll3 path))
    (hcurrent : (run (tagStep glib) .init es).client.reading = some id) (info : TagInfo)
    (hclassic : info.type = nfcTagTypeMifareClassic) (fs : List TagEvent)
    (hstays : Along TagEvent.Stays (tagStep glib) (sweepStart glib es cache i info) fs)
    (card : MifareCard)
    (hcard : card.Fits
      (trace (exchangeOf id) (tagStep glib) (sweepStart glib es cache i info) fs)) :
    Dumping card info.mifareUid cache id (run (tagStep glib) (sweepStart glib es cache i info) fs)
      (trace (exchangeOf id) (tagStep glib) (sweepStart glib es cache i info) fs) := by
  have hinv := (tagInv_run hhonest).withKeys cache
  have hstart : SweepInv info.mifareUid cache id (sweepStart glib es cache i info) [] :=
    sweepInv_start hinv hcall hcurrent hclassic
  have hrun := hstays.trace_invariant (SweepInv info.mifareUid cache id)
    (fun s log e h he => h.step he) hstart
  exact hrun.dumping hcard

/-- A card whose first sector has the factory key, and which is locked otherwise. -/
def factorySector : MifareCard where
  keyA sector := if sector = 0 then some (List.replicate 6 0xFF) else none
  block n := ⟨List.replicate 16 n.toUInt8, List.length_replicate⟩

/-- The card's answers: the first sector is read, and no key is right for any other. -/
def factorySectorRead : List TagEvent :=
  [.complete 0 (.data [0x00])] ++
    (List.range 4).map (fun n => .complete 0 (.data (factorySector.block n).1)) ++
    List.replicate 156 (.complete 0 (.failed false))

theorem classic_card_is_dumped_factorySector :
    Dumping factorySector classicInfo.mifareUid [] 0
      (run (tagStep asciiGlib) (sweepStart asciiGlib tagArrives [] 0 classicInfo)
        factorySectorRead)
      (trace (exchangeOf 0) (tagStep asciiGlib) (sweepStart asciiGlib tagArrives [] 0 classicInfo)
        factorySectorRead) :=
  classic_card_is_dumped asciiGlib tagArrives (by decide +kernel) [] 0 0 "/nfc0/tag0"
    (by decide +kernel) (by decide +kernel) classicInfo rfl factorySectorRead (by decide +kernel)
    factorySector ⟨none, by decide +kernel⟩

example : factorySector.dump classicInfo.mifareUid []
    = [factorySector.report 0 (List.replicate 6 0xFF)] := by decide +kernel

end NfcAdapter
