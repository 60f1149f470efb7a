/-
# The tag lock of a passport read

nfcd grants an Acquire when it processes it, the read learns of it when the reply is
handled.  Between the two the read can lose its tag: the call then ends with an error, the
read takes the tag for not acquired, and nobody gives it back.
-/
import NfcAdapter.PassportReadsInv

namespace NfcAdapter

open Runs
open TaskPool (Pool)

variable {G P : Type} {env : PassportEnv G P} {glib : GlibText}

/-! ## What is asked of nfcd and of a run -/

/-- An Acquire ends with success only when nfcd has granted it. -/
def PassportsEvent.Faithful (s : PassportsState G) : PassportsEvent → Prop
  | complete i e =>
    match s.pool.calls[i]? with
    | some (id, .acquire path) => e.reply ≠ none → (id, path) ∈ s.nfcd.granted
    | _ => True
  | _ => True

/-- An Acquire that ends with an error has not been granted, and one that has ended is not
granted any more. -/
def PassportsEvent.NotLost (s : PassportsState G) : PassportsEvent → Prop
  | complete i e =>
    match s.pool.calls[i]? with
    | some (id, .acquire path) => e.reply = none → (id, path) ∉ s.nfcd.granted
    | _ => True
  | nfcdAcquire k true =>
    match s.nfcd.pending[k]? with
    | some (id, path) => (id, PassportCall.acquire path) ∈ s.pool.calls
    | none => True
  | _ => True

instance (s : PassportsState G) (e : PassportsEvent) : Decidable (e.Faithful s) := by
  unfold PassportsEvent.Faithful
  split
  · split <;> infer_instance
  · infer_instance

instance (s : PassportsState G) (e : PassportsEvent) : Decidable (e.NotLost s) := by
  unfold PassportsEvent.NotLost
  split
  · split <;> infer_instance
  · split <;> infer_instance
  · infer_instance

/-- Nothing is under way, neither at the program nor at nfcd. -/
def PassportsState.Quiescent (s : PassportsState G) : Prop :=
  s.died = none ∧ s.pool.calls = [] ∧ s.cleanups = [] ∧ s.nfcd.pending = []

/-- What nfcd granted has been given back as often once everything is over, and nothing else
ever was. -/
def LocksGivenBack (s : PassportsState G) : Prop :=
  (∀ x ∈ s.released, x ∈ s.nfcd.granted) ∧
    (s.Quiescent → ∀ x, s.released.count x = s.nfcd.granted.count x)

/-! ## The invariant -/

/-- The Acquire messages of all reads, processed with success or not yet processed. -/
def NfcdLocks.asked (locks : NfcdLocks) : List (ℕ × Option String) := locks.pending ++ locks.granted

/-- A read sends one Acquire, to its own path, and gives back what it has acquired. -/
structure LockInv (s : PassportsState G) : Prop where
  asked_nodup : (s.nfcd.asked.map Prod.fst).Nodup
  asked_lt : ∀ x ∈ s.nfcd.asked, x.1 < s.pool.next
  proxy : ∀ id path read, (id, .tagProxy path) ∈ s.pool.calls → s.pool.tasks id = some read →
    path.isSome = true ∧ read.acquired = false ∧ id ∉ s.nfcd.asked.map Prod.fst
  acquire : ∀ id path read, (id, .acquire path) ∈ s.pool.calls → s.pool.tasks id = some read →
    read.tag = path ∧ path.isSome = true ∧ read.acquired = false ∧
      ∀ x ∈ s.nfcd.asked, x.1 = id → x.2 = path
  transceive : ∀ id path apdu read, (id, .transceive path apdu) ∈ s.pool.calls →
    s.pool.tasks id = some read → read.acquired = true
  acquired : ∀ id read, s.pool.tasks id = some read → read.acquired = true →
    read.tag.isSome = true ∧ (id, read.tag) ∈ s.nfcd.granted
  granted : s.died = none → ∀ x ∈ s.nfcd.granted, (s.pool.tasks x.1 = none ∧ x ∈ s.released) ∨
    ∃ read, s.pool.tasks x.1 = some read ∧
      (read.acquired = true ∨ (x.1, .acquire x.2) ∈ s.pool.calls)
  released : ∀ x ∈ s.released, x ∈ s.nfcd.granted ∧ s.pool.tasks x.1 = none
  released_nodup : s.released.Nodup

theorem lockInv_init : LockInv (.init : PassportsState G) := by
  constructor <;> simp [PassportsState.init, Pool.empty, NfcdLocks.asked]

theorem LockInv.granted_nodup {s : PassportsState G} (h : LockInv s) : s.nfcd.granted.Nodup := by
  have hasked := h.asked_nodup
  rw [NfcdLocks.asked, List.map_append] at hasked
  exact (List.nodup_append.mp hasked).2.1.of_map

/-- Two Acquire messages of one read are one message. -/
theorem LockInv.eq_of_fst {s : PassportsState G} (h : LockInv s) {x y : ℕ × Option String}
    (hx : x ∈ s.nfcd.asked) (hy : y ∈ s.nfcd.asked) (hid : x.1 = y.1) : x = y :=
  List.inj_on_of_nodup_map h.asked_nodup hx hy hid

/-- **The locks are given back.** -/
theorem LockInv.givenBack {s : PassportsState G} (h : LockInv s) (hinv : PassportsInv s) :
    LocksGivenBack s := by
  refine ⟨fun x hx => (h.released x hx).1, ?_⟩
  rintro ⟨hlive, hidle, -, -⟩ x
  by_cases hgranted : x ∈ s.nfcd.granted
  -- with no call under way no read is left
  · have hnone : s.pool.tasks x.1 = none := by
      rw [← Option.not_isSome_iff_eq_none, hinv.wf.live_iff, hidle, hlive]
      simp
    have hreleased : x ∈ s.released := by
      rcases h.granted hlive x hgranted with ⟨-, hreleased⟩ | ⟨read, ht, -⟩
      · exact hreleased
      · rw [hnone] at ht
        cases ht
    rw [List.count_eq_one_of_mem h.granted_nodup hgranted,
      List.count_eq_one_of_mem h.released_nodup hreleased]
  · have hreleased : x ∉ s.released := fun hx => hgranted (h.released x hx).1
    rw [List.count_eq_zero_of_not_mem hgranted, List.count_eq_zero_of_not_mem hreleased]

/-! ## Steps that no Acquire is part of -/

/-- Reads, calls and locks stay as they are. -/
theorem LockInv.congr {s s' : PassportsState G} (h : LockInv s) (hpool : s'.pool = s.pool)
    (hnfcd : s'.nfcd = s.nfcd) (hreleased : s'.released = s.released)
    (hdied : s'.died = s.died) : LockInv s' := by
  refine ⟨?_, ?_, ?_, ?_, ?_, ?_, ?_, ?_, ?_⟩
  · rw [hnfcd]
    exact h.asked_nodup
  · rw [hnfcd, hpool]
    exact h.asked_lt
  · rw [hnfcd, hpool]
    exact h.proxy
  · rw [hnfcd, hpool]
    exact h.acquire
  · rw [hpool]
    exact h.transceive
  · rw [hnfcd, hpool]
    exact h.acquired
  · rw [hnfcd, hpool, hreleased, hdied]
    exact h.granted
  · rw [hnfcd, hpool, hreleased]
    exact h.released
  · rw [hreleased]
    exact h.released_nodup

theorem LockInv.abort {s : PassportsState G} (h : LockInv s) :
    LockInv (abortPassportReading s) := by
  unfold abortPassportReading
  rcases hreading : s.passportReading with _ | cur
  · exact h
  · have hnone : ∀ id, s.pool.tasks id = none →
        (s.pool.modify cur PassportTask.abort).tasks id = none := by
      intro id hid
      rw [← Option.not_isSome_iff_eq_none, Option.isSome_iff_exists]
      rintro ⟨read, ht⟩
      obtain ⟨r, hr, -⟩ := tasks_abort ht
      rw [hid] at hr
      cases hr
    refine ⟨h.asked_nodup, h.asked_lt, ?_, ?_, ?_, ?_, ?_, ?_, h.released_nodup⟩
    · intro id path read hc ht
      obtain ⟨r, hr, htag, hacquired⟩ := tasks_abort ht
      rw [hacquired]
      exact h.proxy id path r hc hr
    · intro id path read hc ht
      obtain ⟨r, hr, htag, hacquired⟩ := tasks_abort ht
      rw [htag, hacquired]
      exact h.acquire id path r hc hr
    · intro id path apdu read hc ht
      obtain ⟨r, hr, htag, hacquired⟩ := tasks_abort ht
      rw [hacquired]
      exact h.transceive id path apdu r hc hr
    · intro id read ht ha
      obtain ⟨r, hr, htag, hacquired⟩ := tasks_abort ht
      rw [htag]
      exact h.acquired id r hr (hacquired ▸ ha)
    · intro hlive x hx
      rcases h.granted hlive x hx with ⟨hid, hreleased⟩ | ⟨r, hr, hheld⟩
      · exact Or.inl ⟨hnone x.1 hid, hreleased⟩
      · right
        by_cases hcur : x.1 = cur
        · exact ⟨r.abort, Pool.tasks_modify_eq_some.mpr (Or.inl ⟨hcur, r, hcur ▸ hr, rfl⟩), hheld⟩
        · exact ⟨r, Pool.tasks_modify_eq_some.mpr (Or.inr ⟨hcur, hr⟩), hheld⟩
    · intro x hx
      exact ⟨(h.released x hx).1, hnone x.1 (h.released x hx).2⟩

/-- A new read has asked for nothing. -/
theorem LockInv.dispatch {s : PassportsState G} (h : LockInv s) (hinv : PassportsInv s)
    (chain : PassportState G) (userData : ℕ) (htag : s.tag.client.tagPath.isSome = true) :
    LockInv (passportReadDispatch s chain userData) := by
  refine ⟨h.asked_nodup, ?_, ?_, ?_, ?_, ?_, ?_, ?_, h.released_nodup⟩
  · intro x hx
    exact Nat.lt_succ_of_lt (h.asked_lt x hx)
  · intro id path read hc ht
    rcases hinv.wf.spawn_cases hc ht with ⟨rfl, heq, rfl⟩ | ⟨-, hc, ht⟩
    · obtain rfl := PassportCall.tagProxy.inj heq
      refine ⟨htag, rfl, ?_⟩
      intro hmem
      obtain ⟨x, hx, hid⟩ := List.mem_map.mp hmem
      have hlt := h.asked_lt x hx
      omega
    · exact h.proxy id path read hc ht
  · intro id path read hc ht
    rcases hinv.wf.spawn_cases hc ht with ⟨-, heq, -⟩ | ⟨-, hc, ht⟩
    · cases heq
    · exact h.acquire id path read hc ht
  · intro id path apdu read hc ht
    rcases hinv.wf.spawn_cases hc ht with ⟨-, heq, -⟩ | ⟨-, hc, ht⟩
    · cases heq
    · exact h.transceive id path apdu read hc ht
  · intro id read ht ha
    rcases Pool.tasks_spawn_eq_some.mp ht with ⟨-, rfl⟩ | ⟨-, ht⟩
    · cases ha
    · exact h.acquired id read ht ha
  · intro hlive x hx
    -- nfcd has been asked on behalf of older reads only
    have hne : x.1 ≠ s.pool.next :=
      Nat.ne_of_lt (h.asked_lt x (List.mem_append_right _ hx))
    rcases h.granted hlive x hx with ⟨hid, hreleased⟩ | ⟨read, ht, hheld⟩
    · refine Or.inl ⟨?_, hreleased⟩
      show (s.pool.spawn _ _).tasks x.1 = none
      rw [Pool.tasks_spawn, if_neg hne, hid]
    · refine Or.inr ⟨read, Pool.tasks_spawn_eq_some.mpr (Or.inr ⟨hne, ht⟩), ?_⟩
      exact hheld.imp_right (List.mem_append_left _)
  · intro x hx
    have hgranted := (h.released x hx).1
    have hne : x.1 ≠ s.pool.next :=
      Nat.ne_of_lt (h.asked_lt x (List.mem_append_right _ hgranted))
    refine ⟨hgranted, ?_⟩
    show (s.pool.spawn _ _).tasks x.1 = none
    rw [Pool.tasks_spawn, if_neg hne, (h.released x hx).2]

/-- The precheck passes only while there is a tag. -/
theorem tagPath_of_precheck {s : PassportsState G} (h : passportReadPrecheck s = none) :
    s.tag.client.tagPath.isSome = true := by
  unfold passportReadPrecheck at h
  split at h
  · cases h
  · split at h
    · cases h
    · next hpath => exact Option.isSome_iff_ne_none.mpr hpath

theorem LockInv.request {s : PassportsState G} (h : LockInv s) (hinv : PassportsInv s)
    (start : Except String (PassportState G)) (userData : ℕ) :
    LockInv (passportRequest s start userData) := by
  rcases passportRequest_cases s start userData with ⟨-, text, heq⟩ | ⟨hpre, chain, -, heq⟩
  · rw [heq]
    exact h.congr rfl rfl rfl rfl
  · rw [heq]
    exact h.dispatch hinv chain userData (tagPath_of_precheck hpre)

/-- What nfcd has been asked for, before and after it has processed an Acquire. -/
theorem asked_process {locks : NfcdLocks} {k : ℕ} {x : ℕ × Option String}
    (hk : locks.pending[k]? = some x) (grant : Bool) :
    (nfcdProcess locks k grant).granted = (if grant then locks.granted ++ [x] else locks.granted) ∧
    (∀ y ∈ (nfcdProcess locks k grant).asked, y ∈ locks.asked) ∧
    ((locks.asked.map Prod.fst).Nodup →
      ((nfcdProcess locks k grant).asked.map Prod.fst).Nodup) := by
  have hperm : (x :: (locks.pending.eraseIdx k ++ locks.granted)).Perm locks.asked :=
    (TaskPool.perm_cons_eraseIdx hk).append_right locks.granted
  simp only [nfcdProcess, hk]
  refine ⟨trivial, ?_⟩
  rcases grant with _ | _
  · have hsub : (locks.pending.eraseIdx k ++ locks.granted).Sublist
        (x :: (locks.pending.eraseIdx k ++ locks.granted)) := List.sublist_cons_self _ _
    refine ⟨fun y hy => hperm.subset (hsub.subset hy), fun hnodup => ?_⟩
    exact (((hperm.map Prod.fst).nodup_iff.mpr hnodup).sublist (hsub.map Prod.fst))
  · have hperm' : (locks.pending.eraseIdx k ++ (locks.granted ++ [x])).Perm locks.asked := by
      rw [← List.append_assoc]
      exact (List.perm_append_singleton x _).trans hperm
    exact ⟨fun y hy => hperm'.subset hy, fun hnodup => (hperm'.map Prod.fst).nodup_iff.mpr hnodup⟩

/-- nfcd processes an Acquire whose caller, if it is granted, still waits. -/
theorem LockInv.process {s : PassportsState G} (h : LockInv s) (hinv : PassportsInv s) (k : ℕ)
    (grant : Bool) (hkept : (PassportsEvent.nfcdAcquire k grant).NotLost s) :
    LockInv { s with nfcd := nfcdProcess s.nfcd k grant } := by
  rcases hk : s.nfcd.pending[k]? with _ | x
  · have hsame : nfcdProcess s.nfcd k grant = s.nfcd := by simp only [nfcdProcess, hk]
    rw [hsame]
    exact h
  · obtain ⟨hgranted, hasked, hnodup⟩ := asked_process hk grant
    have hmono : ∀ y ∈ s.nfcd.granted, y ∈ (nfcdProcess s.nfcd k grant).granted := by
      intro y hy
      rw [hgranted]
      split
      · exact List.mem_append_left _ hy
      · exact hy
    refine ⟨hnodup h.asked_nodup, fun y hy => h.asked_lt y (hasked y hy), ?_, ?_, h.transceive,
      ?_, ?_, ?_, h.released_nodup⟩
    · intro id path read hc ht
      obtain ⟨hpath, hacquired, hnot⟩ := h.proxy id path read hc ht
      refine ⟨hpath, hacquired, fun hmem => hnot ?_⟩
      obtain ⟨y, hy, hid⟩ := List.mem_map.mp hmem
      exact List.mem_map.mpr ⟨y, hasked y hy, hid⟩
    · intro id path read hc ht
      obtain ⟨htag, hpath, hacquired, hall⟩ := h.acquire id path read hc ht
      exact ⟨htag, hpath, hacquired, fun y hy => hall y (hasked y hy)⟩
    · intro id read ht ha
      obtain ⟨htag, hmem⟩ := h.acquired id read ht ha
      exact ⟨htag, hmono _ hmem⟩
    · intro hlive y hy
      replace hy : y ∈ (nfcdProcess s.nfcd k grant).granted := hy
      rw [hgranted] at hy
      rcases grant with _ | _
      · exact h.granted hlive y hy
      · rcases List.mem_append.mp hy with hy | hy
        · exact h.granted hlive y hy
        · -- the new one: its caller waits
          obtain rfl := List.mem_singleton.mp hy
          have hcall : (y.1, PassportCall.acquire y.2) ∈ s.pool.calls := by
            simpa only [PassportsEvent.NotLost, hk] using hkept
          have hlive' := (hinv.wf.live_iff y.1).mpr (Or.inl (List.mem_map_of_mem hcall))
          obtain ⟨read, ht⟩ := Option.isSome_iff_exists.mp hlive'
          exact Or.inr ⟨read, ht, Or.inr hcall⟩
    · intro y hy
      exact ⟨hmono y (h.released y hy).1, (h.released y hy).2⟩

/-! ## The callbacks of a read -/

/-- A chain whose call failed does not go on. -/
theorem step_failed_ne_waiting {s : PassportState G} {e : PassportEvent} (he : e.reply = none)
    (p : Pending) (request : PassportRequest) : (s.step env e).status ≠ .waiting p request := by
  rcases hs : s.status with ⟨q, request'⟩ | ⟨success, text, result⟩ | _
  · rw [step_replyFailed hs he]
    exact passportReplyFailed_ne_waiting env s.read q p request
  · rw [step_of_not_waiting e (by simp [hs]), hs]
    simp
  · rw [step_of_not_waiting e (by simp [hs]), hs]
    simp

variable (env) in
/-- A read that goes on has acquired its tag, and nfcd agrees; or its Acquire failed. -/
theorem LockInv.after {s : PassportsState G} (h : LockInv s) {i id : ℕ} {call : PassportCall}
    {read : PassportTask G} {e : PassportEvent} (hi : s.pool.calls[i]? = some (id, call))
    (ht : s.pool.tasks id = some read) (hfaithful : (PassportsEvent.complete i e).Faithful s)
    (hcall : ∀ path, call ≠ .tagProxy path) :
    ((read.after env call e).acquired = true ∧ read.tag.isSome = true ∧
      (id, read.tag) ∈ s.nfcd.granted) ∨
    ((read.after env call e).acquired = false ∧ call = .acquire read.tag ∧ e.reply = none) := by
  have hmem := List.mem_of_getElem? hi
  cases call with
  | tagProxy path => exact absurd rfl (hcall path)
  | acquire path =>
    obtain ⟨rfl, hpath, -, -⟩ := h.acquire id path read hmem ht
    rcases hreply : e.reply with _ | bytes
    · exact Or.inr ⟨by simp [PassportTask.after, hreply], rfl, rfl⟩
    · refine Or.inl ⟨by simp [PassportTask.after, hreply], hpath, ?_⟩
      simp only [PassportsEvent.Faithful, hi] at hfaithful
      exact hfaithful (by simp [hreply])
  | transceive path apdu =>
    have hacquired := h.transceive id path apdu read hmem ht
    exact Or.inl ⟨hacquired, h.acquired id read ht hacquired⟩

/-- No Release has been sent for a read that is there. -/
theorem LockInv.ne_of_released {s : PassportsState G} (h : LockInv s) {id : ℕ}
    {read : PassportTask G} (ht : s.pool.tasks id = some read) :
    ∀ x ∈ s.released, x.1 ≠ id := by
  rintro x hx rfl
  have hnone := (h.released x hx).2
  rw [ht] at hnone
  cases hnone

/-- The running read makes a call other than the request for its proxy. -/
theorem LockInv.await {s : PassportsState G} (h : LockInv s) (hinv : PassportsInv s)
    (hlive : s.died = none) {i id : ℕ} {call : PassportCall} {read read' : PassportTask G}
    (hi : s.pool.calls[i]? = some (id, call)) (ht : s.pool.tasks id = some read)
    {call' : PassportCall} (hproxy : ∀ path, call' ≠ .tagProxy path) {nfcd : NfcdLocks}
    (hnodup : (nfcd.asked.map Prod.fst).Nodup)
    (hasked : ∀ x ∈ nfcd.asked, x ∈ s.nfcd.asked ∨ x.1 = id)
    (hgranted : nfcd.granted = s.nfcd.granted)
    (hacquire : ∀ path, call' = .acquire path → read'.tag = path ∧ path.isSome = true ∧
      read'.acquired = false ∧ ∀ x ∈ nfcd.asked, x.1 = id → x.2 = path)
    (htransceive : ∀ path apdu, call' = .transceive path apdu → read'.acquired = true)
    (hacquired : read'.acquired = true →
      read'.tag.isSome = true ∧ (id, read'.tag) ∈ s.nfcd.granted)
    (hkept : ∀ x ∈ s.nfcd.granted, x.1 = id →
      read'.acquired = true ∨ call' = .acquire x.2) :
    LockInv { s with pool := (s.pool.take i).await id read' call', nfcd := nfcd } := by
  have hwf := hinv.wf
  refine ⟨hnodup, ?_, ?_, ?_, ?_, ?_, ?_, ?_, h.released_nodup⟩
  · intro x hx
    rcases hasked x hx with hx | hid
    · exact h.asked_lt x hx
    · rw [hid]
      exact hwf.lt_next ht
  · intro j path r hc hr
    rcases hwf.await_cases hi hc hr with ⟨-, heq, -⟩ | ⟨hj, hc, hr⟩
    · exact absurd heq.symm (hproxy path)
    · obtain ⟨hpath, hacq, hnot⟩ := h.proxy j path r hc hr
      refine ⟨hpath, hacq, fun hmem => hnot ?_⟩
      obtain ⟨x, hx, hid⟩ := List.mem_map.mp hmem
      rcases hasked x hx with hx | hx
      · exact List.mem_map.mpr ⟨x, hx, hid⟩
      · exact absurd (hid.symm.trans hx) hj
  · intro j path r hc hr
    rcases hwf.await_cases hi hc hr with ⟨rfl, heq, rfl⟩ | ⟨hj, hc, hr⟩
    · exact hacquire path heq.symm
    · obtain ⟨htag, hpath, hacq, hall⟩ := h.acquire j path r hc hr
      refine ⟨htag, hpath, hacq, fun x hx hid => ?_⟩
      rcases hasked x hx with hx | hx
      · exact hall x hx hid
      · exact absurd (hid.symm.trans hx) hj
  · intro j path apdu r hc hr
    rcases hwf.await_cases hi hc hr with ⟨-, heq, rfl⟩ | ⟨-, hc, hr⟩
    · exact htransceive path apdu heq.symm
    · exact h.transceive j path apdu r hc hr
  · intro j r hr ha
    show _ ∧ (j, r.tag) ∈ nfcd.granted
    rw [hgranted]
    rcases Pool.tasks_await_eq_some.mp hr with ⟨rfl, rfl⟩ | ⟨-, hr⟩
    · exact hacquired ha
    · exact h.acquired j r hr ha
  · intro _ x hx
    replace hx : x ∈ s.nfcd.granted := hgranted ▸ hx
    -- a grant is kept by the read it was made for: the running one, or another
    by_cases hid : x.1 = id
    · refine Or.inr ⟨read', Pool.tasks_await_eq_some.mpr (Or.inl ⟨hid, rfl⟩), ?_⟩
      refine (hkept x hx hid).imp_right fun heq => ?_
      exact Pool.mem_calls_await.mpr (Or.inr ⟨hid, heq.symm⟩)
    · rcases h.granted hlive x hx with ⟨hnone, hreleased⟩ | ⟨r, hr, hheld⟩
      · refine Or.inl ⟨?_, hreleased⟩
        show ((s.pool.take i).await id read' call').tasks x.1 = none
        rw [Pool.tasks_await, if_neg hid]
        exact hnone
      · refine Or.inr ⟨r, Pool.tasks_await_eq_some.mpr (Or.inr ⟨hid, hr⟩), ?_⟩
        refine hheld.imp_right fun hc => ?_
        exact Pool.mem_calls_await.mpr (Or.inl ((hwf.mem_take hi).mpr ⟨hid, hc⟩))
  · intro x hx
    obtain ⟨hmem, hnone⟩ := h.released x hx
    refine ⟨by show x ∈ nfcd.granted; rw [hgranted]; exact hmem, ?_⟩
    have hid := h.ne_of_released ht x hx
    show ((s.pool.take i).await id read' call').tasks x.1 = none
    rw [Pool.tasks_await, if_neg hid]
    exact hnone

/-- A read that ends sends a Release for what it has acquired. -/
theorem mem_released_finish (s : PassportsState G) (id : ℕ) (read : PassportTask G)
    (success : Bool) (text : Option String) (result : Option PassportResult)
    (htag : read.acquired = true → read.tag.isSome = true) (x : ℕ × Option String) :
    x ∈ (passportReadFinish s id read success text result).released ↔
      x ∈ s.released ∨ (read.acquired = true ∧ x = (id, read.tag)) := by
  rw [passportReadFinish_released, List.mem_append]
  rcases hacq : read.acquired with _ | _
  · simp
  · simp [htag hacq]

/-- The running read ends: it gives back what it has acquired, and nothing else is held for
it. -/
theorem LockInv.finish {s : PassportsState G} (h : LockInv s) (hinv : PassportsInv s)
    (hlive : s.died = none) {i id : ℕ} {call : PassportCall} {read read' : PassportTask G}
    (hi : s.pool.calls[i]? = some (id, call)) (ht : s.pool.tasks id = some read)
    (hacquired : read'.acquired = true →
      read'.tag.isSome = true ∧ (id, read'.tag) ∈ s.nfcd.granted)
    (hkept : read'.acquired = false → ∀ x ∈ s.nfcd.granted, x.1 ≠ id) (success : Bool)
    (text : Option String) (result : Option PassportResult) :
    LockInv (passportReadFinish { s with pool := s.pool.take i } id read' success text result) := by
  have hwf := hinv.wf
  have hnot := h.ne_of_released ht
  have hnew := mem_released_finish { s with pool := s.pool.take i } id read' success text result
    fun hacq => (hacquired hacq).1
  refine ⟨?_, ?_, ?_, ?_, ?_, ?_, ?_, ?_, ?_⟩
  · rw [passportReadFinish_nfcd]
    exact h.asked_nodup
  · rw [passportReadFinish_nfcd, passportReadFinish_pool]
    exact h.asked_lt
  · rw [passportReadFinish_nfcd, passportReadFinish_pool]
    intro j path r hc hr
    obtain ⟨-, hc, hr⟩ := hwf.free_cases hi hc hr
    exact h.proxy j path r hc hr
  · rw [passportReadFinish_nfcd, passportReadFinish_pool]
    intro j path r hc hr
    obtain ⟨-, hc, hr⟩ := hwf.free_cases hi hc hr
    exact h.acquire j path r hc hr
  · rw [passportReadFinish_pool]
    intro j path apdu r hc hr
    obtain ⟨-, hc, hr⟩ := hwf.free_cases hi hc hr
    exact h.transceive j path apdu r hc hr
  · rw [passportReadFinish_nfcd, passportReadFinish_pool]
    exact fun j r hr => h.acquired j r (Pool.tasks_free_eq_some.mp hr).2
  · intro _ x hx
    rw [passportReadFinish_nfcd] at hx
    rw [passportReadFinish_pool, hnew]
    by_cases hid : x.1 = id
    -- what the read has acquired goes into its Release
    · left
      refine ⟨by show ((s.pool.take i).free id).tasks x.1 = none; rw [Pool.tasks_free, if_pos hid],
        Or.inr ?_⟩
      have hacq : read'.acquired = true := by
        by_contra hno
        exact hkept (by simpa using hno) x hx hid
      refine ⟨hacq, ?_⟩
      exact h.eq_of_fst (List.mem_append_right _ hx)
        (List.mem_append_right _ (hacquired hacq).2) hid
    · rcases h.granted hlive x hx with ⟨hnone, hmem⟩ | ⟨r, hr, hheld⟩
      · refine Or.inl ⟨?_, Or.inl hmem⟩
        show ((s.pool.take i).free id).tasks x.1 = none
        rw [Pool.tasks_free, if_neg hid]
        exact hnone
      · refine Or.inr ⟨r, Pool.tasks_free_eq_some.mpr ⟨hid, hr⟩, hheld.imp_right fun hc => ?_⟩
        exact (hwf.mem_take hi).mpr ⟨hid, hc⟩
  · intro x hx
    rw [passportReadFinish_nfcd, passportReadFinish_pool]
    show _ ∧ ((s.pool.take i).free id).tasks x.1 = none
    rcases (hnew x).mp hx with hx | ⟨hacq, rfl⟩
    · obtain ⟨hmem, hnone⟩ := h.released x hx
      refine ⟨hmem, ?_⟩
      rw [Pool.tasks_free, if_neg (hnot x hx)]
      exact hnone
    · exact ⟨(hacquired hacq).2, by rw [Pool.tasks_free, if_pos rfl]⟩
  · rw [passportReadFinish_released]
    refine List.nodup_append.mpr ⟨h.released_nodup, ?_, ?_⟩
    · split <;> simp
    · intro x hx y hy hxy
      split at hy
      · obtain rfl := List.mem_singleton.mp hy
        exact hnot x hx (by rw [hxy])
      · cases hy

/-- The program ends in the running read's callback. -/
theorem LockInv.die {s : PassportsState G} (h : LockInv s) (hinv : PassportsInv s) {i id : ℕ}
    {call : PassportCall} (hi : s.pool.calls[i]? = some (id, call)) :
    LockInv { s with pool := s.pool.take i, died := some id } := by
  have hcalls : ∀ {j : ℕ} {c : PassportCall}, (j, c) ∈ (s.pool.take i).calls →
      (j, c) ∈ s.pool.calls :=
    fun hc => ((hinv.wf.mem_take hi).mp hc).2
  exact ⟨h.asked_nodup, h.asked_lt, fun j path r hc => h.proxy j path r (hcalls hc),
    fun j path r hc => h.acquire j path r (hcalls hc),
    fun j path apdu r hc => h.transceive j path apdu r (hcalls hc), h.acquired,
    (fun hlive => nomatch hlive), h.released, h.released_nodup⟩

/-- An Acquire joins those nfcd has been asked for, unless it is not sent. -/
theorem asked_send (locks : NfcdLocks) (id : ℕ) (read : PassportTask G) (path : Option String) :
    (locks.send id read path).granted = locks.granted ∧
      ((locks.send id read path).asked = locks.asked ∨
        ((id, path) :: locks.asked).Perm (locks.send id read path).asked) := by
  unfold NfcdLocks.send
  split
  · exact ⟨rfl, Or.inl rfl⟩
  · refine ⟨rfl, Or.inr ?_⟩
    rw [NfcdLocks.asked, NfcdLocks.asked, List.append_assoc]
    exact List.perm_middle.symm

theorem LockInv.handled {s s' : PassportsState G} (h : LockInv s) (hinv : PassportsInv s)
    (hlive : s.died = none) {i id : ℕ} {call : PassportCall} {read : PassportTask G}
    {e : PassportEvent} (hi : s.pool.calls[i]? = some (id, call))
    (ht : s.pool.tasks id = some read) (hfaithful : (PassportsEvent.complete i e).Faithful s)
    (hkept : (PassportsEvent.complete i e).NotLost s)
    (hh : PassportHandled env { s with pool := s.pool.take i } id read call e s') :
    LockInv s' := by
  have hmem := List.mem_of_getElem? hi
  cases hh with
  | acquires path hcall hreply =>
    subst hcall
    obtain ⟨hpath, hacquired, hnot⟩ := h.proxy id path read hmem ht
    obtain ⟨hgranted, hasked⟩ := asked_send s.nfcd id read path
    have hsub : ∀ x ∈ (s.nfcd.send id read path).asked, x ∈ s.nfcd.asked ∨ x = (id, path) := by
      intro x hx
      rcases hasked with heq | hperm
      · exact Or.inl (heq ▸ hx)
      · exact (List.mem_cons.mp (hperm.mem_iff.mpr hx)).symm
    have hread : ({ read with tag := path } : PassportTask G).acquired = false := hacquired
    refine h.await hinv hlive hi ht (by simp) ?_ ?_ hgranted ?_ (by simp) ?_ ?_
    · rcases hasked with heq | hperm
      · rw [heq]
        exact h.asked_nodup
      · refine (hperm.map Prod.fst).nodup_iff.mp ?_
        exact List.nodup_cons.mpr ⟨hnot, h.asked_nodup⟩
    · intro x hx
      exact (hsub x hx).imp_right fun heq => by rw [heq]
    · intro path' heq
      obtain rfl := PassportCall.acquire.inj heq
      refine ⟨rfl, hpath, hread, fun x hx hid => ?_⟩
      rcases hsub x hx with hx | rfl
      · exact absurd (List.mem_map.mpr ⟨x, hx, hid⟩) hnot
      · rfl
    · intro hacq
      rw [hread] at hacq
      cases hacq
    · intro x hx hid
      exact absurd (List.mem_map.mpr ⟨x, List.mem_append_right _ hx, hid⟩) hnot
  | proceeds p request hcall hstatus =>
    -- a read whose Acquire failed is over, so this one has its tag
    rcases h.after env hi ht hfaithful hcall with
      ⟨hacq, htag, hgranted⟩ | ⟨-, rfl, hreply⟩
    · refine h.await hinv hlive hi ht (by simp) h.asked_nodup (fun x hx => Or.inl hx) rfl
        (by simp) (fun _ _ _ => hacq) (fun _ => ?_) (fun _ _ _ => Or.inl hacq)
      rw [after_tag]
      exact ⟨htag, hgranted⟩
    · exact absurd hstatus (step_failed_ne_waiting hreply p request)
  | finishes success text result hend =>
    by_cases hcall : ∀ path, call ≠ .tagProxy path
    · rcases h.after env hi ht hfaithful hcall with
        ⟨hacq, htag, hgranted⟩ | ⟨hacq, rfl, hreply⟩
      · refine h.finish hinv hlive hi ht (fun _ => ?_) (fun hno => ?_) success text result
        · rw [after_tag]
          exact ⟨htag, hgranted⟩
        · rw [hacq] at hno
          cases hno
      · -- a failed Acquire: nfcd has granted none
        refine h.finish hinv hlive hi ht (fun hyes => ?_) (fun _ x hx hid => ?_) success text result
        · rw [hacq] at hyes
          cases hyes
        · obtain ⟨-, -, -, hall⟩ := h.acquire id read.tag read hmem ht
          have hpath := hall x (List.mem_append_right _ hx) hid
          simp only [PassportsEvent.NotLost, hi] at hkept
          refine hkept hreply ?_
          rw [← hid, ← hpath]
          exact hx
    · obtain ⟨path, rfl⟩ : ∃ path, call = .tagProxy path := by simpa using hcall
      -- the proxy could not be made: nfcd was never asked
      obtain ⟨-, hacquired, hnot⟩ := h.proxy id path read hmem ht
      refine h.finish hinv hlive hi ht (fun hyes => ?_) (fun _ x hx hid => ?_) success text result
      · rw [show (read.after env (.tagProxy path) e).acquired = read.acquired from rfl,
          hacquired] at hyes
        cases hyes
      · exact hnot (List.mem_map.mpr ⟨x, List.mem_append_right _ hx, hid⟩)
  | dies hcall hstatus => exact h.die hinv hi

/-- **One step.** -/
theorem LockInv.step {s : PassportsState G} (h : LockInv s) (hinv : PassportsInv s)
    {e : PassportsEvent} (hfaithful : e.Faithful s) (hkept : e.NotLost s) :
    LockInv (passportsStep env glib s e) := by
  have hstep := passportsStep_stepped env glib s e
  generalize passportsStep env glib s e = s' at hstep
  cases hstep with
  | idle e hasked => exact h
  | elsewhere e tag => exact h.congr rfl rfl rfl rfl
  | aborts e tag closed hasked => exact h.abort.congr rfl rfl rfl rfl
  | asks e start userData hasked hstart hbad => exact h.request hinv start userData
  | completes i e id call read s' hlive hi ht hh =>
    exact h.handled hinv hlive hi ht hfaithful hkept hh
  | processes k grant => exact h.process hinv k grant hkept
  | deactivates i id path hlive hi => exact h.congr rfl rfl rfl rfl
  | cleaned i id path hi => exact h.congr rfl rfl rfl rfl

/-! ## Every run -/

/-- **The tag lock is given back**, in every run in which nfcd grants no Acquire that ends, or
has ended, with an error at the caller. -/
theorem tag_lock_given_back (env : PassportEnv G P) (glib : GlibText) (es : List PassportsEvent)
    (hfaithful : Along (fun s e => e.Faithful s) (passportsStep env glib) .init es)
    (hkept : Along (fun s e => e.NotLost s) (passportsStep env glib) .init es) :
    LocksGivenBack (passportsRun env glib es) := by
  have hboth : Along (fun s e => e.Faithful s ∧ e.NotLost s) (passportsStep env glib) .init es :=
    along_iff.mpr fun as₁ a as₂ heq =>
      ⟨along_iff.mp hfaithful as₁ a as₂ heq, along_iff.mp hkept as₁ a as₂ heq⟩
  have hend := hboth.invariant (fun s => PassportsInv s ∧ LockInv s)
    (fun s e h he => ⟨h.1.step e, h.2.step h.1 he.1 he.2⟩) ⟨passportsInv_init, lockInv_init⟩
  exact hend.2.givenBack hend.1

/-- An ISO-DEP tag comes into the field. -/
def isoDepTagArrives : List PassportsEvent :=
  [.tag (.tags ["/nfc0/tag0"]), .tag (.complete 0 .proxy),
    .tag (.complete 0 (.tagInfo ⟨true, 1, 8, 4, [], [], []⟩))]

/-- Its document is read with PACE until the first Transceive() fails. -/
def failedPace : List PassportsEvent :=
  isoDepTagArrives ++
    [.readPassportPace (some [0x31]) false 0, .complete 0 ⟨some [], none, none⟩,
      .nfcdAcquire 0 true, .complete 0 ⟨some [], none, none⟩, .complete 0 ⟨none, none, none⟩]

theorem tag_lock_given_back_failedPace :
    LocksGivenBack (passportsRun specimenEnv asciiGlib failedPace) :=
  tag_lock_given_back specimenEnv asciiGlib failedPace (by decide +kernel) (by decide +kernel)

/-- The tag leaves the field after nfcd has granted the Acquire, before the reply is
handled; the cancelled call ends with an error. -/
def lostAcquire : List PassportsEvent :=
  isoDepTagArrives ++
    [.readPassportPace (some [0x31]) false 0, .complete 0 ⟨some [], none, none⟩,
      .nfcdAcquire 0 true, .tag (.tags []), .complete 0 ⟨none, none, none⟩]

/-- Nobody gives the lock back. -/
theorem lost_acquire_keeps_lock :
    Along (fun s e => PassportsEvent.Faithful s e) (passportsStep specimenEnv asciiGlib) .init
        lostAcquire ∧
      (passportsRun specimenEnv asciiGlib lostAcquire).nfcd.granted
        = [(0, some "/nfc0/tag0")] ∧
      (passportsRun specimenEnv asciiGlib lostAcquire).released = [] ∧
      ¬ LocksGivenBack (passportsRun specimenEnv asciiGlib lostAcquire) := by
  have hgranted : (passportsRun specimenEnv asciiGlib lostAcquire).nfcd.granted
      = [(0, some "/nfc0/tag0")] := by decide +kernel
  have hreleased : (passportsRun specimenEnv asciiGlib lostAcquire).released = [] := by
    decide +kernel
  have hquiet : (passportsRun specimenEnv asciiGlib lostAcquire).Quiescent := by
    refine ⟨?_, ?_, ?_, ?_⟩ <;> decide +kernel
  refine ⟨by decide +kernel, hgranted, hreleased, fun h => ?_⟩
  have hcount := h.2 hquiet (0, some "/nfc0/tag0")
  rw [hgranted, hreleased] at hcount
  exact absurd hcount (by decide)

end NfcAdapter
