/-
# The EF.CardAccess loop (`nfcd_client.c`)

EF.CardAccess is read in the clear, before any key is shared: the chip chooses the length
of every response and the length the file declares.  Every response the loop accepts
brings at least one byte, so the file fills up.
-/
import NfcAdapter.PassportAuth

namespace NfcAdapter

open Runs

variable {G P : Type} {env : PassportEnv G P}

/-! ## What the loop works on -/

/-- A READ BINARY for the bytes behind those a read already has: P1P2 is their number, and
Le asks for at most what the declared length leaves. -/
def ReadsOn (read : PassportRead G) (apdu : Bytes) : Prop :=
  ∃ p1 p2 le : UInt8, apdu = [0x00, 0xB0, p1, p2, le] ∧
    p1.toNat * 256 + p2.toNat = read.cardAccess.length ∧ p1 < 0x80 ∧
    1 ≤ le.toNat ∧ read.cardAccess.length + le.toNat ≤ read.cardAccessTotalLen

/-- The length a read has taken from the header of its file. -/
structure Declared (read : PassportRead G) : Prop where
  header : ∃ h c, bacBerTlvHeader read.cardAccess = some (h, c) ∧
    read.cardAccessTotalLen = h + c
  pos : read.cardAccessTotalLen ≠ 0
  bounded : read.cardAccessTotalLen ≤ efCardAccessMaxLen

/-- Before the first response the length is not known, afterwards the header stays what
it was and bytes are missing. -/
def Unfinished (read : PassportRead G) : Prop :=
  (read.cardAccess = [] ∧ read.cardAccessTotalLen = 0) ∨
    (Declared read ∧ read.cardAccess.length < read.cardAccessTotalLen)

/-- The texts of `passport_ef_cardaccess_rest_ready` itself. -/
def cardAccessTexts : List String :=
  ["Failed to reach the tag", "Failed to read EF.CardAccess",
    "EF.CardAccess has an unexpected structure"]

/-- How `passport_ef_cardaccess_rest_ready` ends: it fails, GLib stops a file that leaves 32
bits, one more READ BINARY is sent, or an entry is selected from a file that is at least as
long as its header declares. -/
inductive CardAccessOutcome (env : PassportEnv G P) (read : PassportRead G)
    (reply : Option Bytes) : PassportRead G × PassportStatus → Prop
  | failed (read' : PassportRead G) (text : String) (htext : text ∈ cardAccessTexts) :
      CardAccessOutcome env read reply (passportFail read' text)
  | aborted (bytes : Bytes) (hreply : reply = some bytes)
      (hlen : 2 ^ 32 ≤ read.cardAccess.length + bytes.length) :
      CardAccessOutcome env read reply (read, .crashed)
  | more (read' : PassportRead G) (apdu : Bytes) (hdeclared : Declared read')
      (hlonger : read.cardAccess.length < read'.cardAccess.length)
      (hreads : ReadsOn read' apdu) :
      CardAccessOutcome env read reply (passportTransceive read' apdu .efCardAccessRest)
  | selection (read' : PassportRead G) (h c : ℕ)
      (hheader : bacBerTlvHeader read'.cardAccess = some (h, c))
      (hlen : h + c ≤ read'.cardAccess.length) :
      CardAccessOutcome env read reply (passportCardAccessDone env read')

/-! ## One response -/

/-- The two bytes of an offset below the size limit. -/
theorem offset_bytes {n : ℕ} (h : n < efCardAccessMaxLen) :
    (n / 256).toUInt8.toNat * 256 + n.toUInt8.toNat = n ∧ (n / 256).toUInt8 < 0x80 := by
  have hn : n < 2048 := h
  have hhigh : (n / 256).toUInt8.toNat = n / 256 := toNat_toUInt8 (by omega)
  have hlow : n.toUInt8.toNat = n % 256 := rfl
  constructor
  · rw [hhigh, hlow]
    omega
  · rw [UInt8.lt_iff_toNat_lt, hhigh]
    show n / 256 < 128
    omega

/-- With a declared length, one more command is sent or the file is complete. -/
theorem passportCardAccessMore_outcome {read read' : PassportRead G} {reply : Option Bytes}
    (hdeclared : Declared read') (hlonger : read.cardAccess.length < read'.cardAccess.length) :
    CardAccessOutcome env read reply (passportCardAccessMore env read') := by
  obtain ⟨h, c, hheader, htotal⟩ := hdeclared.header
  rw [passportCardAccessMore]
  split_ifs with hmissing
  · have hmax := hdeclared.bounded
    obtain ⟨hoffset, hp1⟩ := offset_bytes (lt_of_lt_of_le hmissing hmax)
    have hle : (min (read'.cardAccessTotalLen - read'.cardAccess.length) 255).toUInt8.toNat
        = min (read'.cardAccessTotalLen - read'.cardAccess.length) 255 := toNat_toUInt8 (by omega)
    refine .more read' _ hdeclared hlonger ⟨_, _, _, rfl, hoffset, hp1, ?_, ?_⟩
    · rw [hle]
      omega
    · rw [hle]
      omega
  · exact .selection read' h c hheader (by omega)

/-- **One response.** -/
theorem passportEfCardAccessRestReady_outcome {read : PassportRead G} (hread : Unfinished read)
    (bytes : Bytes) :
    CardAccessOutcome env read (some bytes) (passportEfCardAccessRestReady env read bytes) := by
  rw [passportEfCardAccessRestReady]
  split_ifs with hstatus
  · exact .failed read _ (by simp [cardAccessTexts])
  · -- at least one byte stands in front of the status
    obtain ⟨hlen, -⟩ := not_or.mp hstatus
    have hpayload : (bytes.take (bytes.length - 2)).length = bytes.length - 2 :=
      List.length_take_of_le (Nat.sub_le _ _)
    rw [byteArrayAppend]
    split_ifs with hfits
    · simp only
      have hlonger : read.cardAccess.length
          < (read.cardAccess ++ bytes.take (bytes.length - 2)).length := by
        rw [List.length_append, hpayload]
        omega
      split_ifs with htotal
      · cases hheader : bacBerTlvHeader (read.cardAccess ++ bytes.take (bytes.length - 2)) with
        | none => exact .failed _ _ (by simp [cardAccessTexts])
        | some r =>
            obtain ⟨h, c⟩ := r
            simp only
            split_ifs with hmax
            · exact .failed _ _ (by simp [cardAccessTexts])
            · have hbounds := bacBerTlvHeader_bounds hheader
              refine passportCardAccessMore_outcome ⟨⟨h, c, hheader, rfl⟩, ?_, ?_⟩ hlonger
              · show h + c ≠ 0
                omega
              · exact Nat.le_of_not_lt hmax
      · -- the declared length is known: more bytes leave the header as it is
        rcases hread with ⟨-, hzero⟩ | ⟨hdeclared, -⟩
        · exact absurd hzero htotal
        · obtain ⟨h, c, hheader, hsum⟩ := hdeclared.header
          exact passportCardAccessMore_outcome
            ⟨⟨h, c, bacBerTlvHeader_append hheader _, hsum⟩, htotal, hdeclared.bounded⟩ hlonger
    · refine .aborted bytes rfl ?_
      rw [hpayload] at hfits
      omega

/-- One completion of a read that waits for more of the file. -/
theorem step_efCardAccessRest {s : PassportState G} {request : PassportRequest}
    (hs : s.status = .waiting .efCardAccessRest request) (hread : Unfinished s.read)
    (e : PassportEvent) :
    CardAccessOutcome env s.read e.reply ((s.step env e).read, (s.step env e).status) := by
  rcases he : e.reply with _ | bytes
  · rw [step_replyFailed hs he]
    exact .failed s.read _ (by simp [cardAccessTexts])
  · rw [step_reply hs he]
    exact passportEfCardAccessRestReady_outcome hread bytes

/-! ## Runs -/

/-- The further READ BINARY a completion makes the loop send, with the read that sends
it. -/
def readBinaryMore (env : PassportEnv G P) (s : PassportState G) (e : PassportEvent) :
    Option (PassportRead G × Bytes) :=
  match s.status, (s.step env e).status with
  | .waiting .efCardAccessRest _, .waiting .efCardAccessRest request =>
    some ((s.step env e).read, request.apdu)
  | _, _ => none

/-- The invariant of a run that has sent `sent`: every command is paid for by a byte of
the file. -/
structure CardAccessInv (s : PassportState G) (sent : List (PassportRead G × Bytes)) : Prop where
  before : ∀ p request, s.status = .waiting p request →
    p = .passportAcquire ∨ p = .selectEfCardAccess → s.read.cardAccessTotalLen = 0 ∧ sent = []
  reading : ∀ request, s.status = .waiting .efCardAccessRest request →
    Unfinished s.read ∧ sent.length ≤ s.read.cardAccess.length
  bounded : sent.length ≤ efCardAccessMaxLen
  commands : ∀ r ∈ sent, ReadsOn r.1 r.2

/-- The loop waits only where it has sent a command. -/
theorem readBinaryMore_of_ne {s : PassportState G} {e : PassportEvent}
    (h : (∀ request, s.status ≠ .waiting .efCardAccessRest request) ∨
      ∀ request, (s.step env e).status ≠ .waiting .efCardAccessRest request) :
    readBinaryMore env s e = none := by
  unfold readBinaryMore
  split
  · next hs hs' =>
    rcases h with h | h
    · exact absurd hs (h _)
    · exact absurd hs' (h _)
  · rfl

/-- The callbacks that come before the loop. -/
theorem Pending.before_efCardAccessRest {p q : Pending} (h : q ∈ p.nexts) :
    q ≠ .passportAcquire ∧ (q = .selectEfCardAccess → p = .passportAcquire) ∧
      (q = .efCardAccessRest → p = .selectEfCardAccess ∨ p = .efCardAccessRest) := by
  cases p <;> simp only [Pending.nexts, List.mem_cons, List.not_mem_nil, or_false] at h <;>
    rcases h with rfl | rfl <;> simp

/-- The callback before the loop leaves the length unknown. -/
theorem passportAcquireReady_fst (read : PassportRead G) :
    (passportAcquireReady read).1 = read := by
  unfold passportAcquireReady
  split_ifs <;> rfl

/-- The loop starts with an empty file. -/
theorem passportSelectEfCardAccessReady_waiting {read : PassportRead G} {bytes : Bytes}
    {q : Pending} {request : PassportRequest}
    (h : (passportSelectEfCardAccessReady read bytes).2 = .waiting q request) :
    (passportSelectEfCardAccessReady read bytes).1 = { read with cardAccess := [] } := by
  unfold passportSelectEfCardAccessReady at h ⊢
  split at h
  · cases h
  · rfl

/-- A completion outside the loop. -/
theorem CardAccessInv.step_outside {s : PassportState G} {sent : List (PassportRead G × Bytes)}
    (h : CardAccessInv s sent) (e : PassportEvent)
    (hs : ∀ request, s.status ≠ .waiting .efCardAccessRest request) :
    CardAccessInv (s.step env e) sent := by
  refine ⟨?_, ?_, h.bounded, h.commands⟩
  · intro q request' hs' hq
    obtain ⟨p, request, hp, hnexts⟩ := waiting_before hs'
    obtain ⟨hacquire, hselect, -⟩ := Pending.before_efCardAccessRest hnexts
    have hfrom : p = .passportAcquire := hselect (hq.resolve_left hacquire)
    obtain ⟨htotal, hsent⟩ := h.before p request hp (Or.inl hfrom)
    refine ⟨?_, hsent⟩
    subst hfrom
    rcases he : e.reply with _ | bytes
    · rw [step_replyFailed hp he] at hs'
      exact absurd hs' (passportReplyFailed_ne_waiting env s.read _ _ _)
    · rw [step_reply hp he]
      simp only [passportReady, passportAcquireReady_fst]
      exact htotal
  · intro request' hs'
    obtain ⟨p, request, hp, hnexts⟩ := waiting_before hs'
    rcases (Pending.before_efCardAccessRest hnexts).2.2 rfl with rfl | rfl
    · obtain ⟨htotal, hsent⟩ := h.before _ request hp (Or.inr rfl)
      rcases he : e.reply with _ | bytes
      · rw [step_replyFailed hp he] at hs'
        exact absurd hs' (passportReplyFailed_ne_waiting env s.read _ _ _)
      · rw [step_reply hp he] at hs' ⊢
        simp only [passportReady] at hs' ⊢
        rw [passportSelectEfCardAccessReady_waiting hs', hsent]
        exact ⟨Or.inl ⟨rfl, htotal⟩, Nat.zero_le _⟩
    · exact absurd hp (hs request)

/-- A completion of the loop itself. -/
theorem CardAccessInv.step_inside {s : PassportState G} {sent : List (PassportRead G × Bytes)}
    (h : CardAccessInv s sent) (e : PassportEvent) {request : PassportRequest}
    (hs : s.status = .waiting .efCardAccessRest request) :
    CardAccessInv (s.step env e) (sent ++ (readBinaryMore env s e).toList) := by
  obtain ⟨hunfinished, hpaid⟩ := h.reading request hs
  have houtcome : CardAccessOutcome env s.read e.reply
      ((s.step env e).read, (s.step env e).status) := step_efCardAccessRest hs hunfinished e
  -- nothing is sent where the loop does not go on
  have hleave : (∀ request, (s.step env e).status ≠ .waiting .efCardAccessRest request) →
      CardAccessInv (s.step env e) (sent ++ (readBinaryMore env s e).toList) := by
    intro hne
    rw [readBinaryMore_of_ne (Or.inr hne), Option.toList_none, List.append_nil]
    refine ⟨?_, fun request' hs' => absurd hs' (hne request'), h.bounded, h.commands⟩
    intro q request' hs' hq
    obtain ⟨hacquire, hselect, -⟩ := Pending.before_efCardAccessRest (step_nexts hs hs')
    cases hselect (hq.resolve_left hacquire)
  generalize hout : ((s.step env e).read, (s.step env e).status) = out at houtcome
  cases houtcome with
  | failed read' text htext =>
      obtain ⟨-, hstatus⟩ := Prod.mk.inj hout
      exact hleave (by rw [hstatus]; simp)
  | aborted bytes hreply hlen =>
      obtain ⟨-, hstatus⟩ := Prod.mk.inj hout
      exact hleave (by rw [hstatus]; simp)
  | selection read' hl c hheader hlen =>
      have hstatus : (s.step env e).status = (passportCardAccessDone env read').2 :=
        congrArg Prod.snd hout
      refine hleave fun request' hs' => ?_
      rw [hstatus, passportCardAccessDone] at hs'
      split at hs'
      · cases hs'
      · split at hs' <;> cases hs'
  | more read' apdu hdeclared hlonger hreads =>
      obtain ⟨hread, hstatus⟩ := Prod.mk.inj hout
      have hsent : readBinaryMore env s e = some (read', apdu) := by
        simp only [readBinaryMore, hs, hstatus, hread]
      obtain ⟨p1, p2, le, hapdu, hoffset, hp1, hle, hfits⟩ := hreads
      have hmissing : read'.cardAccess.length < read'.cardAccessTotalLen := by omega
      have hmax := hdeclared.bounded
      have hlen : (sent ++ [(read', apdu)]).length ≤ read'.cardAccess.length := by
        rw [List.length_append, List.length_singleton]
        omega
      rw [hsent, Option.toList_some]
      refine ⟨?_, ?_, by omega, ?_⟩
      · intro q request' hs' hq
        obtain ⟨hacquire, hselect, -⟩ := Pending.before_efCardAccessRest (step_nexts hs hs')
        cases hselect (hq.resolve_left hacquire)
      · intro request' _
        rw [hread]
        exact ⟨Or.inr ⟨hdeclared, hmissing⟩, hlen⟩
      · intro r hr
        rcases List.mem_append.mp hr with hr | hr
        · exact h.commands r hr
        · rw [List.mem_singleton.mp hr]
          exact ⟨p1, p2, le, hapdu, hoffset, hp1, hle, hfits⟩

/-- One completion keeps the invariant. -/
theorem CardAccessInv.step {s : PassportState G} {sent : List (PassportRead G × Bytes)}
    (h : CardAccessInv s sent) (e : PassportEvent) :
    CardAccessInv (s.step env e) (sent ++ (readBinaryMore env s e).toList) := by
  by_cases hs : ∃ request, s.status = .waiting .efCardAccessRest request
  · obtain ⟨request, hs⟩ := hs
    exact h.step_inside e hs
  · have hne := not_exists.mp hs
    rw [readBinaryMore_of_ne (Or.inl hne), Option.toList_none, List.append_nil]
    exact h.step_outside e hne

theorem PassportStart.cardAccessInv (start : PassportStart) :
    CardAccessInv (start.state : PassportState G) [] := by
  refine ⟨?_, ?_, Nat.zero_le _, by simp⟩
  · intro p request _ _
    rcases start with ⟨keys, readPhoto⟩ | ⟨paceK, readPhoto⟩ <;> exact ⟨rfl, rfl⟩
  · intro request hs
    rcases start with ⟨keys, readPhoto⟩ | ⟨paceK, readPhoto⟩ <;> cases hs

theorem passportRun_cardAccessInv (env : PassportEnv G P) (start : PassportStart)
    (events : List PassportEvent) :
    CardAccessInv (passportRun env start events)
      (trace (readBinaryMore env) (PassportState.step env) start.state events) :=
  trace_invariant CardAccessInv (fun _ _ e hinv => hinv.step e) start.cardAccessInv events

/-- **The loop is bounded and addresses what it has.**  In every run, against every chip,
at most 2048 further READ BINARY commands are sent, each for the bytes behind those the read
has; every completion of the loop fails, sends one of them, or goes on to the selection of an
entry with a file as long as its header declares. -/
theorem card_access_loop_bounded (env : PassportEnv G P) (start : PassportStart)
    (events : List PassportEvent) :
    (trace (readBinaryMore env) (PassportState.step env) start.state events).length
        ≤ efCardAccessMaxLen ∧
      (∀ r ∈ trace (readBinaryMore env) (PassportState.step env) start.state events,
        ReadsOn r.1 r.2) ∧
      ∀ request, (passportRun env start events).status = .waiting .efCardAccessRest request →
        ∀ e, CardAccessOutcome env (passportRun env start events).read e.reply
          ((passportRun env start (events ++ [e])).read,
            (passportRun env start (events ++ [e])).status) := by
  have hinv := passportRun_cardAccessInv env start events
  refine ⟨hinv.bounded, hinv.commands, ?_⟩
  intro request hs e
  rw [passportRun_concat]
  exact step_efCardAccessRest hs (hinv.reading request hs).1 e

/-- The first part of a file that declares ten bytes behind its header. -/
def partialCardAccess : List PassportEvent :=
  [replyEvent [], replyEvent [0x90, 0x00], replyEvent [0x31, 0x0A, 0x30, 0x90, 0x00]]

theorem card_access_loop_bounded_partial :
    CardAccessOutcome specimenEnv
      (passportRun specimenEnv (.pace [0x31] false) partialCardAccess).read (some [0x6A, 0x82])
      ((passportRun specimenEnv (.pace [0x31] false)
          (partialCardAccess ++ [replyEvent [0x6A, 0x82]])).read,
        (passportRun specimenEnv (.pace [0x31] false)
          (partialCardAccess ++ [replyEvent [0x6A, 0x82]])).status) :=
  (card_access_loop_bounded specimenEnv (.pace [0x31] false) partialCardAccess).2.2
    ⟨[0x00, 0xB0, 0x00, 0x03, 0x09], none⟩ (by decide +kernel) (replyEvent [0x6A, 0x82])

end NfcAdapter
