/-
# A sweep over the sectors of a MIFARE Classic tag

What is exchanged with a tag, sector by sector: each key is tried with an authentication and
a read of the sector's first block, and with the first key that works blocks are read until
one cannot be.  Bounds on such a record, and what is reported of it.
-/
import NfcAdapter.TagRead
import NfcAdapter.Trials

namespace NfcAdapter

open Json (text Value Object)
open Trials

/-! ## Blocks -/

/-- The block belongs to the sector. -/
def InSector (sector block : ℕ) : Prop :=
  mifareSectorFirstBlock sector ≤ block ∧
    block < mifareSectorFirstBlock sector + mifareSectorBlockCount sector

instance (sector block : ℕ) : Decidable (InSector sector block) :=
  inferInstanceAs (Decidable (_ ∧ _))

theorem inSector_unique {sector sector' block : ℕ} (h : InSector sector block)
    (h' : InSector sector' block) : sector = sector' := by
  simp only [InSector, mifareSectorFirstBlock, mifareSectorBlockCount] at h h'
  split_ifs at h h' <;> omega

theorem lt_of_inSector {sector block : ℕ} (hsector : sector < mifareNumSectors)
    (h : InSector sector block) : block < 256 := by
  simp only [InSector, mifareSectorFirstBlock, mifareSectorBlockCount, mifareNumSectors]
    at h hsector
  split_ifs at h <;> omega

theorem blockCount_le (sector : ℕ) : mifareSectorBlockCount sector ≤ 16 := by
  unfold mifareSectorBlockCount
  split <;> omega

theorem blockCount_pos (sector : ℕ) : 0 < mifareSectorBlockCount sector := by
  unfold mifareSectorBlockCount
  split <;> omega

theorem inSector_add {sector n : ℕ} (hn : n < mifareSectorBlockCount sector) :
    InSector sector (mifareSectorFirstBlock sector + n) := ⟨by omega, by omega⟩

/-- **The sectors partition the blocks** of a tag. -/
theorem blocks_partitioned {block : ℕ} (h : block < 256) :
    ∃! sector, sector < mifareNumSectors ∧ InSector sector block := by
  have hsome : ∃ sector, sector < mifareNumSectors ∧ InSector sector block := by
    simp only [InSector, mifareSectorFirstBlock, mifareSectorBlockCount, mifareNumSectors]
    by_cases hblock : block < 128
    · refine ⟨block / 4, by omega, ?_⟩
      rw [if_pos (by omega), if_pos (by omega)]
      omega
    · refine ⟨32 + (block - 128) / 16, by omega, ?_⟩
      rw [if_neg (by omega), if_neg (by omega)]
      omega
  obtain ⟨sector, hsector, hin⟩ := hsome
  exact ⟨sector, ⟨hsector, hin⟩, fun sector' h' => inSector_unique h'.2 hin⟩

/-! ## Exchanges -/

/-- A call and its reply. -/
abbrev Exchange := TagCall × TagReply

/-- The authentication for a sector with key A. -/
def authCall (sector : ℕ) (key : Bytes) : TagCall :=
  .mifareAuth ([0x60, (mifareSectorFirstBlock sector).toUInt8, 0, 0, 0, 0] ++ key)

/-- The read of a block. -/
def readCall (block : ℕ) : TagCall := .mifareBlock [0x30, block.toUInt8]

/-- The call authenticates for the sector, by whichever of its blocks. -/
def TagCall.isAuthOf (sector : ℕ) : TagCall → Bool
  | .mifareAuth (_ :: block :: _) => InSector sector block.toNat
  | _ => false

/-- The call reads a block of the sector. -/
def TagCall.isReadOf (sector : ℕ) : TagCall → Bool
  | .mifareBlock [_, block] => InSector sector block.toNat
  | _ => false

/-- The call is one of the sector's. -/
def Addressed (sector : ℕ) (x : Exchange) : Prop :=
  x.1.isAuthOf sector = true ∨ x.1.isReadOf sector = true

theorem isAuthOf_iff {sector : ℕ} {call : TagCall} : call.isAuthOf sector = true ↔
    ∃ kind block rest, call = .mifareAuth (kind :: block :: rest) ∧
      InSector sector block.toNat := by
  unfold TagCall.isAuthOf
  split
  · simp
  · next hno =>
    constructor
    · exact fun h => absurd h Bool.false_ne_true
    · rintro ⟨kind, block, rest, rfl, -⟩
      exact absurd rfl (hno kind block rest)

theorem isReadOf_iff {sector : ℕ} {call : TagCall} : call.isReadOf sector = true ↔
    ∃ kind block, call = .mifareBlock [kind, block] ∧ InSector sector block.toNat := by
  unfold TagCall.isReadOf
  split
  · simp
  · next hno =>
    constructor
    · exact fun h => absurd h Bool.false_ne_true
    · rintro ⟨kind, block, rfl, -⟩
      exact absurd rfl (hno kind block)

theorem Addressed.auth_unique {sector sector' : ℕ} {x : Exchange} (h : Addressed sector x)
    (h' : x.1.isAuthOf sector' = true) : sector' = sector := by
  obtain ⟨kind, block, rest, hcall, hin⟩ := isAuthOf_iff.mp h'
  rcases h with h | h
  · obtain ⟨kind', block', rest', hcall', hin'⟩ := isAuthOf_iff.mp h
    cases hcall.symm.trans hcall'
    exact inSector_unique hin hin'
  · rw [hcall] at h
    cases h

theorem Addressed.read_unique {sector sector' : ℕ} {x : Exchange} (h : Addressed sector x)
    (h' : x.1.isReadOf sector' = true) : sector' = sector := by
  obtain ⟨kind, block, hcall, hin⟩ := isReadOf_iff.mp h'
  rcases h with h | h
  · rw [hcall] at h
    cases h
  · obtain ⟨kind', block', hcall', hin'⟩ := isReadOf_iff.mp h
    cases hcall.symm.trans hcall'
    exact inSector_unique hin hin'

theorem isAuthOf_authCall {sector : ℕ} (hsector : sector < mifareNumSectors) (key : Bytes) :
    (authCall sector key).isAuthOf sector = true := by
  have hin : InSector sector (mifareSectorFirstBlock sector) := inSector_add (blockCount_pos sector)
  have hbyte : (mifareSectorFirstBlock sector).toUInt8.toNat = mifareSectorFirstBlock sector :=
    Nat.mod_eq_of_lt (lt_of_inSector hsector hin)
  simp only [authCall, List.cons_append, TagCall.isAuthOf, hbyte, hin, decide_true]

theorem isReadOf_readCall {sector block : ℕ} (hsector : sector < mifareNumSectors)
    (h : InSector sector block) : (readCall block).isReadOf sector = true := by
  have hbyte : block.toUInt8.toNat = block := Nat.mod_eq_of_lt (lt_of_inSector hsector h)
  simp only [readCall, TagCall.isReadOf, hbyte, h, decide_true]

/-! ## One key -/

/-- The reads of a sector's first blocks. -/
def readsOf (sector : ℕ) (blocks : List Bytes) : List Exchange :=
  blocks.mapIdx fun n block => (readCall (mifareSectorFirstBlock sector + n), .data block)

theorem readsOf_concat (sector : ℕ) (blocks : List Bytes) (block : Bytes) :
    readsOf sector (blocks ++ [block]) = readsOf sector blocks ++
      [(readCall (mifareSectorFirstBlock sector + blocks.length), .data block)] := by
  simp [readsOf]

/-- The key was accepted, and these blocks could be read with it. -/
structure Opened (sector : ℕ) (key : Bytes) (log : List Exchange) (blocks : List Bytes) :
    Prop where
  log_eq : ∃ bytes, log = (authCall sector key, .data bytes) :: readsOf sector blocks
  in_sector : blocks.length ≤ mifareSectorBlockCount sector
  size : ∀ block ∈ blocks, block.length = 16

/-- The read of the first block that was not read yet. -/
def nextRead (sector : ℕ) (blocks : List Bytes) : TagCall :=
  readCall (mifareSectorFirstBlock sector + blocks.length)

/-- One more block. -/
theorem Opened.concat {sector : ℕ} {key : Bytes} {log : List Exchange} {blocks : List Bytes}
    (h : Opened sector key log blocks) (hlen : blocks.length < mifareSectorBlockCount sector)
    {block : Bytes} (hblock : block.length = 16) :
    Opened sector key (log ++ [(nextRead sector blocks, .data block)]) (blocks ++ [block]) := by
  obtain ⟨⟨bytes, rfl⟩, -, hsize⟩ := h
  refine ⟨⟨bytes, ?_⟩, ?_, ?_⟩
  · rw [readsOf_concat, List.cons_append]
    rfl
  · rw [List.length_append]
    exact hlen
  · exact List.forall_mem_append.mpr ⟨hsize, List.forall_mem_singleton.mpr hblock⟩

/-- What was read of a sector, and the key. -/
structure SectorReport where
  sector : ℕ
  key : Bytes
  blocks : List Bytes
  deriving DecidableEq, Repr

/-- The key is refused, or the first block cannot be read with it. -/
inductive Failed (sector : ℕ) (key : Bytes) : List Exchange → Prop
  | refused {reply : TagReply} (h : reply.data? = none) : Failed sector key
    [(authCall sector key, reply)]
  | unread {log : List Exchange} {reply : TagReply} (h : Opened sector key log [])
      (hreply : reply.block? = none) : Failed sector key (log ++ [(nextRead sector [], reply)])

/-- All blocks are read, or those before one that cannot be. -/
inductive Works (sector : ℕ) (key : Bytes) : List Exchange → SectorReport → Prop
  | whole {log : List Exchange} {blocks : List Bytes} (h : Opened sector key log blocks)
      (hlen : blocks.length = mifareSectorBlockCount sector) :
    Works sector key log ⟨sector, key, blocks⟩
  | broken {log : List Exchange} {blocks : List Bytes} {reply : TagReply}
      (h : Opened sector key log blocks) (hsome : blocks ≠ [])
      (hlen : blocks.length < mifareSectorBlockCount sector) (hreply : reply.block? = none) :
    Works sector key (log ++ [(nextRead sector blocks, reply)]) ⟨sector, key, blocks⟩

section Calls

variable {sector : ℕ} {key : Bytes} {log : List Exchange} {blocks : List Bytes}

theorem mem_readsOf {x : Exchange} (h : x ∈ readsOf sector blocks) :
    ∃ n < blocks.length, x.1 = readCall (mifareSectorFirstBlock sector + n) := by
  obtain ⟨n, hn, rfl⟩ := List.mem_mapIdx.mp h
  exact ⟨n, hn, rfl⟩

theorem addressed_nextRead (hsector : sector < mifareNumSectors)
    (hlen : blocks.length < mifareSectorBlockCount sector) (reply : TagReply) :
    Addressed sector (nextRead sector blocks, reply) :=
  Or.inr (isReadOf_readCall hsector (inSector_add hlen))

theorem Opened.addressed (h : Opened sector key log blocks) (hsector : sector < mifareNumSectors) :
    ∀ x ∈ log, Addressed sector x := by
  obtain ⟨⟨bytes, rfl⟩, hlen, -⟩ := h
  refine List.forall_mem_cons.mpr ⟨Or.inl (isAuthOf_authCall hsector key), fun x hx => ?_⟩
  obtain ⟨n, hn, hcall⟩ := mem_readsOf hx
  right
  rw [hcall]
  exact isReadOf_readCall hsector (inSector_add (hn.trans_le hlen))

theorem Failed.addressed (h : Failed sector key log) (hsector : sector < mifareNumSectors) :
    ∀ x ∈ log, Addressed sector x := by
  cases h with
  | refused _ =>
    exact List.forall_mem_singleton.mpr (Or.inl (isAuthOf_authCall hsector key))
  | unread h _ =>
    refine List.forall_mem_append.mpr ⟨h.addressed hsector, List.forall_mem_singleton.mpr ?_⟩
    have hfirst : ([] : List Bytes).length < mifareSectorBlockCount sector := blockCount_pos sector
    exact addressed_nextRead hsector hfirst _

theorem Works.addressed {r : SectorReport} (h : Works sector key log r)
    (hsector : sector < mifareNumSectors) : ∀ x ∈ log, Addressed sector x := by
  cases h with
  | whole h _ => exact h.addressed hsector
  | broken h _ hlen _ =>
    refine List.forall_mem_append.mpr ⟨h.addressed hsector, List.forall_mem_singleton.mpr ?_⟩
    exact addressed_nextRead hsector hlen _

theorem countP_auth_readsOf (k : ℕ) :
    (readsOf sector blocks).countP (fun x => x.1.isAuthOf k) = 0 := by
  refine List.countP_eq_zero.mpr fun x hx => ?_
  obtain ⟨n, -, hcall⟩ := mem_readsOf hx
  rw [hcall]
  exact Bool.false_ne_true

/-- One authentication for each key. -/
theorem Opened.countP_auth (h : Opened sector key log blocks) (k : ℕ) :
    log.countP (fun x => x.1.isAuthOf k) ≤ 1 := by
  obtain ⟨bytes, rfl⟩ := h.log_eq
  rw [List.countP_cons, countP_auth_readsOf]
  split <;> omega

/-- One read for each block. -/
theorem Opened.countP_read (h : Opened sector key log blocks) (k : ℕ) :
    log.countP (fun x => x.1.isReadOf k) ≤ blocks.length := by
  obtain ⟨bytes, rfl⟩ := h.log_eq
  rw [List.countP_cons_of_neg (by exact Bool.false_ne_true)]
  refine List.countP_le_length.trans ?_
  rw [readsOf, List.length_mapIdx]

theorem Failed.countP_auth (h : Failed sector key log) (k : ℕ) :
    log.countP (fun x => x.1.isAuthOf k) ≤ 1 := by
  cases h with
  | refused _ => exact List.countP_le_length
  | unread h _ =>
    rw [List.countP_append]
    exact h.countP_auth k

theorem Failed.countP_read (h : Failed sector key log) (k : ℕ) :
    log.countP (fun x => x.1.isReadOf k) ≤ 1 := by
  cases h with
  | refused _ => exact List.countP_le_length
  | unread h _ =>
    rw [List.countP_append]
    exact Nat.add_le_add (h.countP_read k) List.countP_le_length

theorem Works.countP_auth {r : SectorReport} (h : Works sector key log r) (k : ℕ) :
    log.countP (fun x => x.1.isAuthOf k) ≤ 1 := by
  cases h with
  | whole h _ => exact h.countP_auth k
  | broken h _ _ _ =>
    rw [List.countP_append]
    exact h.countP_auth k

theorem Works.countP_read {r : SectorReport} (h : Works sector key log r) (k : ℕ) :
    log.countP (fun x => x.1.isReadOf k) ≤ 16 := by
  have hcount := blockCount_le sector
  cases h with
  | whole h hlen => exact (h.countP_read k).trans (hlen.le.trans hcount)
  | broken h _ hlen _ =>
    rw [List.countP_append]
    exact (Nat.add_le_add (h.countP_read k) List.countP_le_length).trans (hlen.trans_le hcount)

end Calls

/-! ## One sector -/

/-- The keys that worked last, for a UID and a sector. -/
abbrev KeyCache := List ((String × ℕ) × Bytes)

/-- The keys to try for a sector: the one that worked last, then the default keys. -/
def candidates (uid : Option String) (cache : KeyCache) (sector : ℕ) : List Bytes :=
  (uid.bind fun uid => cache.lookup (uid, sector)).toList ++ mifareDefaultKeys

/-- The sector is tried with its keys. -/
structure SectorLog (uid : Option String) (cache : KeyCache) (sector : ℕ) (log : List Exchange)
    (result : Option SectorReport) : Prop where
  sector_lt : sector < mifareNumSectors
  tried : Tried (Failed sector) (Works sector) (candidates uid cache sector) log result

section Sectors

variable {uid : Option String} {cache : KeyCache} {sector : ℕ} {log : List Exchange}
  {result : Option SectorReport}

theorem length_candidates_le : (candidates uid cache sector).length ≤ 5 := by
  rw [candidates, List.length_append, Option.length_toList]
  simp only [mifareDefaultKeys, List.length_cons, List.length_nil]
  split <;> omega

theorem length_candidates_pos : 0 < (candidates uid cache sector).length := by
  rw [candidates, List.length_append]
  simp only [mifareDefaultKeys, List.length_cons]
  omega

namespace SectorLog

theorem addressed (h : SectorLog uid cache sector log result) : ∀ x ∈ log, Addressed sector x :=
  h.tried.forall_mem (fun _ _ hlog => hlog.addressed h.sector_lt)
    (fun _ _ _ hlog => hlog.addressed h.sector_lt)

theorem countP_auth (h : SectorLog uid cache sector log result) (k : ℕ) :
    log.countP (fun x => x.1.isAuthOf k) ≤ 5 := by
  have hle := h.tried.countP_le le_rfl (fun _ _ hlog => hlog.countP_auth k)
    (fun _ _ _ hlog => hlog.countP_auth k)
  have hkeys : (candidates uid cache sector).length ≤ 5 := length_candidates_le
  have hpos : 0 < (candidates uid cache sector).length := length_candidates_pos
  omega

theorem countP_read (h : SectorLog uid cache sector log result) (k : ℕ) :
    log.countP (fun x => x.1.isReadOf k) ≤ 20 := by
  have hle := h.tried.countP_le (by omega) (fun _ _ hlog => hlog.countP_read k)
    (fun _ _ _ hlog => hlog.countP_read k)
  have hkeys : (candidates uid cache sector).length ≤ 5 := length_candidates_le
  omega

theorem length_le (h : SectorLog uid cache sector log result) : log.length ≤ 25 := by
  have hauth := h.countP_auth sector
  have hread := h.countP_read sector
  -- what is not an authentication is a read
  have hrest : log.countP (fun x => ¬ x.1.isAuthOf sector) ≤ log.countP (·.1.isReadOf sector) := by
    refine List.countP_mono_left fun x hx hno => ?_
    rcases h.addressed x hx with hx | hx
    · simp [hx] at hno
    · exact hx
  have hsplit := List.length_eq_countP_add_countP (l := log) fun x => x.1.isAuthOf sector
  omega

theorem report_sector {r : SectorReport} (h : SectorLog uid cache sector log (some r)) :
    r.sector = sector := by
  obtain ⟨_, _, _, _, hworks⟩ := h.tried.exists_works
  cases hworks <;> rfl

end SectorLog

/-- Every key may be refused. -/
theorem exists_tried_none (sector : ℕ) (keys : List Bytes) :
    ∃ log, Tried (Failed sector) (Works sector) keys log none := by
  refine exists_tried (fun key => ?_) keys
  exact ⟨[(authCall sector key, .failed false)], .refused rfl⟩

theorem exists_sectorLog (uid : Option String) (cache : KeyCache)
    (h : sector < mifareNumSectors) : ∃ log r, SectorLog uid cache sector log r := by
  obtain ⟨log, hlog⟩ := exists_tried_none sector (candidates uid cache sector)
  exact ⟨log, none, h, hlog⟩

end Sectors

/-! ## All sectors -/

/-- What is reported stands in the record: each block was read with the sector's last
authentication, which was with the reported key. -/
structure SectorReport.BackedBy (r : SectorReport) (log : List Exchange) : Prop where
  sector_lt : r.sector < mifareNumSectors
  nonempty : r.blocks ≠ []
  in_sector : r.blocks.length ≤ mifareSectorBlockCount r.sector
  size : ∀ block ∈ r.blocks, block.length = 16
  read : ∃ pre bytes post, log = pre ++ (authCall r.sector r.key, .data bytes) ::
    readsOf r.sector r.blocks ++ post ∧ ∀ x ∈ post, x.1.isAuthOf r.sector = false

/-- Calls of other sectors may follow. -/
theorem SectorReport.BackedBy.append {r : SectorReport} {log more : List Exchange}
    (h : r.BackedBy log) (hmore : ∀ x ∈ more, x.1.isAuthOf r.sector = false) :
    r.BackedBy (log ++ more) := by
  obtain ⟨hlt, hne, hlen, hsize, pre, bytes, post, rfl, hpost⟩ := h
  refine ⟨hlt, hne, hlen, hsize, pre, bytes, post ++ more, by simp, ?_⟩
  exact List.forall_mem_append.mpr ⟨hpost, hmore⟩

theorem Works.backedBy {sector : ℕ} {key : Bytes} {log : List Exchange} {r : SectorReport}
    (h : Works sector key log r) (hsector : sector < mifareNumSectors) : r.BackedBy log := by
  cases h with
  | @whole log blocks h hlen =>
    obtain ⟨bytes, rfl⟩ := h.log_eq
    refine ⟨hsector, ?_, h.in_sector, h.size, [], bytes, [], by simp, fun x hx => nomatch hx⟩
    have hpos := blockCount_pos sector
    rw [← hlen] at hpos
    exact List.ne_nil_of_length_pos hpos
  | @broken log blocks reply h hsome _ _ =>
    obtain ⟨bytes, rfl⟩ := h.log_eq
    refine ⟨hsector, hsome, h.in_sector, h.size, [], bytes, [(nextRead sector blocks, reply)],
      by simp, ?_⟩
    exact List.forall_mem_singleton.mpr rfl

section Sweeps

variable {uid : Option String} {cache : KeyCache} {sector : ℕ} {log : List Exchange}
  {reports : List SectorReport}

/-- No other sector's authentication is this sector's. -/
theorem not_auth_of_addressed {k : ℕ} {x : Exchange} (h : Addressed sector x) (hk : k ≠ sector) :
    x.1.isAuthOf k = false := by
  by_contra hauth
  exact hk (h.auth_unique (by simpa using hauth))

theorem backedBy_of_swept (h : Swept (SectorLog uid cache) sector log reports) :
    ∀ r ∈ reports, r.BackedBy log := by
  intro r hr
  obtain ⟨k, -, pre, part, post, rfl, hpart, hpost⟩ := h.exists_found r hr
  obtain ⟨before, key, last, rfl, hworks⟩ := hpart.tried.exists_works
  have hsector := hpart.report_sector
  obtain ⟨hlt, hne, hlen, hsize, start, bytes, rest, rfl, hrest⟩ :=
    hworks.backedBy hpart.sector_lt
  refine ⟨hlt, hne, hlen, hsize, pre ++ before ++ start, bytes, rest ++ post, by simp, ?_⟩
  refine List.forall_mem_append.mpr ⟨hrest, fun x hx => ?_⟩
  obtain ⟨j, hj, part', r', hpart', hx⟩ := hpost x hx
  exact not_auth_of_addressed (hpart'.addressed x hx) (by omega)

/-- The record can become that of a whole sweep. -/
def Completes (uid : Option String) (cache : KeyCache) (log : List Exchange)
    (reports : List SectorReport) : Prop :=
  ∃ more found, Swept (SectorLog uid cache) mifareNumSectors (log ++ more) (reports ++ found)

theorem Completes.of_append {more : List Exchange} {found : List SectorReport}
    (h : Completes uid cache (log ++ more) (reports ++ found)) :
    Completes uid cache log reports := by
  obtain ⟨more', found', hswept⟩ := h
  rw [List.append_assoc, List.append_assoc] at hswept
  exact ⟨_, _, hswept⟩

theorem completes_of_swept (h : Swept (SectorLog uid cache) sector log reports)
    (hsector : sector ≤ mifareNumSectors) : Completes uid cache log reports :=
  h.exists_extends hsector fun _ hk => exists_sectorLog uid cache hk

namespace Completes

theorem countP_auth (h : Completes uid cache log reports) (k : ℕ) :
    log.countP (fun x => x.1.isAuthOf k) ≤ 5 := by
  obtain ⟨more, found, hswept⟩ := h
  have hall : (log ++ more).countP (fun x => x.1.isAuthOf k) ≤ 5 := by
    refine hswept.countP_le (u := k) ?_ fun log r hlog => hlog.countP_auth k
    intro j log r hlog hj x hx hauth
    exact hj ((hlog.addressed x hx).auth_unique hauth).symm
  rw [List.countP_append] at hall
  omega

theorem countP_read (h : Completes uid cache log reports) (k : ℕ) :
    log.countP (fun x => x.1.isReadOf k) ≤ 20 := by
  obtain ⟨more, found, hswept⟩ := h
  have hall : (log ++ more).countP (fun x => x.1.isReadOf k) ≤ 20 := by
    refine hswept.countP_le (u := k) ?_ fun log r hlog => hlog.countP_read k
    intro j log r hlog hj x hx hread
    exact hj ((hlog.addressed x hx).read_unique hread).symm
  rw [List.countP_append] at hall
  omega

theorem length_le (h : Completes uid cache log reports) : log.length ≤ 1000 := by
  obtain ⟨more, found, hswept⟩ := h
  have hall := hswept.length_le fun _ _ _ hlog => hlog.length_le
  rw [List.length_append, mifareNumSectors] at hall
  omega

theorem addressed (h : Completes uid cache log reports) :
    ∀ x ∈ log, ∃ sector < mifareNumSectors, Addressed sector x := by
  obtain ⟨more, found, hswept⟩ := h
  intro x hx
  obtain ⟨k, hk, part, r, hpart, hx⟩ := hswept.exists_unit x (List.mem_append_left _ hx)
  exact ⟨k, hk, hpart.addressed x hx⟩

theorem ordered (h : Completes uid cache log reports) :
    reports.Pairwise (fun r r' => r.sector < r'.sector) := by
  obtain ⟨more, found, hswept⟩ := h
  have hall := (hswept.ordered fun _ _ _ hlog => hlog.report_sector).1
  exact (List.pairwise_append.mp hall).1

end Completes

/-- A sweep that has come this far. -/
structure Reached (uid : Option String) (cache : KeyCache) (log : List Exchange)
    (reports : List SectorReport) : Prop where
  completes : Completes uid cache log reports
  backed : ∀ r ∈ reports, r.BackedBy log

theorem reached_of_swept (h : Swept (SectorLog uid cache) sector log reports)
    (hsector : sector ≤ mifareNumSectors) : Reached uid cache log reports :=
  ⟨completes_of_swept h hsector, backedBy_of_swept h⟩

/-! ## A sector under way -/

/-- Some keys of the sector have failed, and these are left. -/
structure Trying (uid : Option String) (cache : KeyCache) (sector : ℕ) (left : List Bytes)
    (log : List Exchange) (reports : List SectorReport) : Prop where
  sector_lt : sector < mifareNumSectors
  split : ∃ past tried more, log = past ++ more ∧
    Swept (SectorLog uid cache) sector past reports ∧
    Tried (Failed sector) (Works sector) tried more none ∧
    candidates uid cache sector = tried ++ left

theorem trying_start (h : Swept (SectorLog uid cache) sector log reports)
    (hsector : sector < mifareNumSectors) :
    Trying uid cache sector (candidates uid cache sector) log reports :=
  ⟨hsector, log, [], [], by simp, h, .exhausted, rfl⟩

namespace Trying

variable {key : Bytes} {left : List Bytes}

/-- A key fails. -/
theorem failed (h : Trying uid cache sector (key :: left) log reports) {more : List Exchange}
    (hmore : Failed sector key more) : Trying uid cache sector left (log ++ more) reports := by
  obtain ⟨hsector, past, tried, before, rfl, hswept, htried, hkeys⟩ := h
  refine ⟨hsector, past, tried ++ [key], before ++ more, by simp, hswept, ?_, by simp [hkeys]⟩
  have hlast : Tried (Failed sector) (Works sector) [key] (more ++ []) none :=
    .failed hmore .exhausted
  rw [List.append_nil] at hlast
  exact htried.append hlast

/-- All keys have failed. -/
theorem exhausted (h : Trying uid cache sector [] log reports) :
    Swept (SectorLog uid cache) (sector + 1) log reports := by
  obtain ⟨hsector, past, tried, more, rfl, hswept, htried, hkeys⟩ := h
  rw [List.append_nil] at hkeys
  have hnext := hswept.next ⟨hsector, hkeys ▸ htried⟩
  rwa [Option.toList_none, List.append_nil] at hnext

/-- A key works. -/
theorem worked (h : Trying uid cache sector (key :: left) log reports) {more : List Exchange}
    {r : SectorReport} (hmore : Works sector key more r) :
    Swept (SectorLog uid cache) (sector + 1) (log ++ more) (reports ++ [r]) := by
  obtain ⟨hsector, past, tried, before, rfl, hswept, htried, hkeys⟩ := h
  have hlast : Tried (Failed sector) (Works sector) (key :: left) more (some r) := .worked hmore
  have htried' := htried.append hlast
  rw [← hkeys] at htried'
  rw [List.append_assoc]
  exact hswept.next ⟨hsector, htried'⟩

theorem completes (h : Trying uid cache sector left log reports) :
    Completes uid cache log reports := by
  obtain ⟨hsector, past, tried, before, rfl, hswept, htried, hkeys⟩ := h
  obtain ⟨rest, hrest⟩ := exists_tried_none sector left
  have hall := htried.append hrest
  rw [← hkeys] at hall
  have hnext := completes_of_swept (hswept.next ⟨hsector, hall⟩) hsector
  rw [← List.append_assoc] at hnext
  exact hnext.of_append

/-- The record so far, with calls of this sector behind it. -/
theorem backed (h : Trying uid cache sector left log reports) {more : List Exchange}
    (hmore : ∀ x ∈ more, Addressed sector x) : ∀ r ∈ reports, r.BackedBy (log ++ more) := by
  obtain ⟨hsector, past, tried, before, rfl, hswept, htried, -⟩ := h
  intro r hr
  have hbelow := (hswept.ordered fun _ _ _ hlog => hlog.report_sector).2 r hr
  have hbefore : ∀ x ∈ before, Addressed sector x :=
    htried.forall_mem (fun _ _ hlog => hlog.addressed hsector)
      (fun _ _ _ hlog => hlog.addressed hsector)
  rw [List.append_assoc]
  refine (backedBy_of_swept hswept r hr).append fun x hx => ?_
  exact not_auth_of_addressed (List.forall_mem_append.mpr ⟨hbefore, hmore⟩ x hx) hbelow.ne

/-- Whatever was read with a key, the next read may fail. -/
theorem completes_broken (h : Trying uid cache sector (key :: left) log reports)
    {opened : List Exchange} {blocks : List Bytes} (hopened : Opened sector key opened blocks)
    (hlen : blocks.length < mifareSectorBlockCount sector) {reply : TagReply}
    (hreply : reply.block? = none) :
    Completes uid cache (log ++ (opened ++ [(nextRead sector blocks, reply)])) reports := by
  by_cases hblocks : blocks = []
  · subst hblocks
    exact (h.failed (.unread hopened hreply)).completes
  · have hswept := h.worked (.broken hopened hblocks hlen hreply)
    have hall := completes_of_swept hswept h.sector_lt
    rw [← List.append_nil (log ++ _)] at hall
    exact hall.of_append

end Trying

end Sweeps

end NfcAdapter
