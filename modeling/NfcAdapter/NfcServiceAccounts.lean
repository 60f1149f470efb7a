/-
# The accounts of the client's parts

What one step of a part does with the requests it has taken: it answers those it ends and
keeps the others.  And all parts see the same current tag.
-/
import NfcAdapter.NfcService
import NfcAdapter.PassportReadsInv

namespace NfcAdapter

open Runs AsyncCalls
open TaskPool (Pool)

variable {G P : Type} {longBits : ℕ} {env : PassportEnv G P} {mismatch : String} {glib : GlibText}

/-! ## Writes and locks -/

/-- Answers are only added. -/
theorem answered_noteWrite (h : WriteHistory) (s : WriteState) (e : WriteEvent) :
    ∃ new, (noteWrite mismatch glib h s e).answered = h.answered ++ new := by
  unfold noteWrite
  split
  · exact ⟨[], (List.append_nil _).symm⟩
  · split
    · exact ⟨_, rfl⟩
    · split
      · split
        · exact ⟨[], (List.append_nil _).symm⟩
        · exact ⟨_, rfl⟩
      · exact ⟨[], (List.append_nil _).symm⟩

theorem asked_noteWrite (h : WriteHistory) {s : WriteState} (ha : s.aborted = false)
    (e : WriteEvent) :
    (noteWrite mismatch glib h s e).asked = h.asked ++ (e.request.map Prod.snd).toList := by
  unfold noteWrite
  rw [if_neg (by rw [ha]; simp)]
  split
  · next kind userData he => rw [he]; rfl
  · next he =>
    rw [he, Option.map_none, Option.toList_none, List.append_nil]
    split
    · split <;> rfl
    · rfl

/-- A step only adds answers. -/
theorem ServedInv.answers_writeStep {h : WriteHistory} {s : WriteState} (hI : ServedInv h s)
    (e : WriteEvent) : ∃ new, (writeStep mismatch glib s e).answers = s.answers ++ new := by
  have hI' : ServedInv (noteWrite mismatch glib h s e) (writeStep mismatch glib s e) := hI.step e
  obtain ⟨added, hadded⟩ : ∃ new, (noteWrite mismatch glib h s e).answered = h.answered ++ new :=
    answered_noteWrite h s e
  exact ⟨added.map Prod.snd, by rw [← hI'.answers, hadded, List.map_append, hI.answers]⟩

/-- **The account of the writes.** A step answers the requests it ends. -/
theorem ServedInv.account {h : WriteHistory} {s : WriteState} (hI : ServedInv h s)
    (e : WriteEvent) (ha : s.aborted = false)
    (ha' : (writeStep mismatch glib s e).aborted = false) :
    ∃ new, (writeStep mismatch glib s e).answers = s.answers ++ new ∧
      ∀ id, new.countP (fun a => a.userData = id) +
          (writeStep mismatch glib s e).pool.count none (fun req => req.userData = id)
        = s.pool.count none (fun req => req.userData = id) +
          (e.request.map Prod.snd).toList.count id := by
  have hI' : ServedInv (noteWrite mismatch glib h s e) (writeStep mismatch glib s e) := hI.step e
  obtain ⟨new, hanswers⟩ : ∃ new, (writeStep mismatch glib s e).answers = s.answers ++ new :=
    hI.answers_writeStep e
  refine ⟨new, hanswers, fun id => ?_⟩
  have hbefore := hI.once ha id
  have hafter := hI'.once ha' id
  rw [hanswers, List.countP_append, asked_noteWrite h ha, List.count_append] at hafter
  omega

/-! ## Passport reads -/

theorem passportRequest_answers (s : PassportsState G) (start : Except String (PassportState G))
    (userData : ℕ) : ∃ new, (passportRequest s start userData).answers = s.answers ++ new := by
  rcases passportRequest_cases s start userData with ⟨-, text, heq⟩ | ⟨-, chain, -, heq⟩
  · rw [heq]
    exact ⟨_, rfl⟩
  · rw [heq]
    exact ⟨[], (List.append_nil _).symm⟩

theorem passportsStep_answers (s : PassportsState G) (e : PassportsEvent) :
    ∃ new, (passportsStep env glib s e).answers = s.answers ++ new := by
  have hstep := passportsStep_stepped env glib s e
  generalize passportsStep env glib s e = s' at hstep
  have hsame : ∃ new, s.answers = s.answers ++ new := ⟨[], (List.append_nil _).symm⟩
  cases hstep with
  | idle e hasked => exact hsame
  | elsewhere e tag => exact hsame
  | aborts e tag closed hasked =>
    rw [show ({ abortPassportReading s with tag := tag, closed := closed }
      : PassportsState G).answers = s.answers from answers_abort s]
    exact hsame
  | asks e start userData hasked hstart hbad => exact passportRequest_answers s start userData
  | completes i e id call read s' hlive hi ht hh =>
    cases hh with
    | acquires path hcall hreply => exact hsame
    | proceeds p request hcall hstatus => exact hsame
    | finishes success text result hend => exact ⟨_, passportReadFinish_answers _ _ _ _ _ _⟩
    | dies hcall hstatus => exact hsame
  | processes k grant => exact hsame
  | deactivates i id path hlive hi => exact hsame
  | cleaned i id path hi => exact hsame

/-- **The account of the passport reads.** -/
theorem Balanced.account (env : PassportEnv G P) (glib : GlibText) {s : PassportsState G}
    {asked : List ℕ} (h : Balanced s asked) (hinv : PassportsInv s) (e : PassportsEvent) :
    ∃ new, (passportsStep env glib s e).answers = s.answers ++ new ∧
      (∀ a ∈ new, a.success = true → a.result ≠ none) ∧
      ∀ id, new.countP (fun a => a.userData = id) + (passportsStep env glib s e).unanswered id
        = s.unanswered id + (passportAsked s e).toList.count id := by
  obtain ⟨new, hnew⟩ : ∃ new, (passportsStep env glib s e).answers = s.answers ++ new :=
    passportsStep_answers s e
  refine ⟨new, hnew, ?_, fun id => ?_⟩
  · intro a ha
    have hinv' : PassportsInv (passportsStep env glib s e) := hinv.step e
    apply hinv'.results a
    rw [hnew]
    exact List.mem_append_right _ ha
  · have hbefore := h id
    have hbalanced : Balanced (passportsStep env glib s e) (asked ++ (passportAsked s e).toList) :=
      h.step hinv e
    have hafter := hbalanced id
    rw [PassportsState.answered, hnew, List.countP_append, List.count_append] at hafter
    rw [PassportsState.answered] at hbefore
    omega

/-- Where a result comes with every success, every answer is a reply. -/
theorem countP_passportReplies {new : List PassportAnswer}
    (h : ∀ a ∈ new, a.success = true → a.result ≠ none) (id : ℕ) :
    (new.filterMap ServiceState.passportAnswerReply).countP (fun r => r.1 = id)
      = new.countP fun a => a.userData = id := by
  induction new with
  | nil => rfl
  | cons a new ih =>
    have ha : ∃ obj, ServiceState.passportAnswerReply a = some (a.userData, obj) := by
      unfold ServiceState.passportAnswerReply readPassportResultCb
      by_cases hs : a.success = true
      · obtain ⟨result, hresult⟩ := Option.ne_none_iff_exists'.mp
          (h a List.mem_cons_self hs)
        exact ⟨passportReply result, by rw [if_pos hs, hresult]; rfl⟩
      · exact ⟨_, by rw [if_neg hs]; rfl⟩
    obtain ⟨obj, hobj⟩ := ha
    rw [List.filterMap_cons_some hobj, List.countP_cons, List.countP_cons,
      ih fun b hb => h b (List.mem_cons_of_mem _ hb)]

/-! ## Card emulation -/

/-- The calls whose answer a message waits for. -/
def NfcdCall.isRegister : NfcdCall → Bool
  | .registerLocalHostApp .. => true
  | _ => false

/-- The messages that wait (by the serial numbers of their calls) are those of the Register
calls under way. -/
structure CardsAccount (reqs : List ℕ) (s : HceState) : Prop where
  perm : reqs.Perm (s.calls.pending NfcdCall.isRegister)
  nodup : reqs.Nodup
  below : ∀ n ∈ reqs, n < s.calls.next

namespace CardsAccount

variable {reqs : List ℕ} {s : HceState}

/-- Only the calls matter. -/
theorem of_calls {t : HceState} (h : CardsAccount reqs s) (hcalls : t.calls = s.calls) :
    CardsAccount reqs t :=
  ⟨hcalls ▸ h.perm, h.nodup, hcalls ▸ h.below⟩

theorem pending_call (s : HceState) (c : NfcdCall) :
    ((s.call c).calls.pending NfcdCall.isRegister).Perm
      (Channel.pendingOne NfcdCall.isRegister s.calls.next c ++
        s.calls.pending NfcdCall.isRegister) := by
  unfold HceState.call
  dsimp only
  split
  · exact Channel.pending_send _ _ _
  · refine Channel.pending_fail _ ?_
    intro hc
    cases c <;> first | rfl | cases hc

/-- A call nobody waits for. -/
theorem call {c : NfcdCall} (hc : c.isRegister = false) (h : CardsAccount reqs s) :
    CardsAccount reqs (s.call c) := by
  have hpending := pending_call s c
  rw [Channel.pendingOne, hc] at hpending
  refine ⟨h.perm.trans hpending.symm, h.nodup, fun n hn => ?_⟩
  rw [next_call]
  exact Nat.lt_succ_of_lt (h.below n hn)

/-- A Register call. -/
theorem register (h : CardsAccount reqs s) (path : String) (aid : Bytes) (implicit : Bool)
    (req : HceReq) :
    CardsAccount (reqs ++ [s.calls.next])
      (s.call (.registerLocalHostApp path aid implicit req)) := by
  refine ⟨?_, ?_, fun n hn => ?_⟩
  · have hpending := pending_call s (.registerLocalHostApp path aid implicit req)
    exact (List.perm_append_singleton _ _).trans ((h.perm.cons _).trans hpending.symm)
  · refine List.nodup_append.mpr ⟨h.nodup, List.nodup_singleton _, ?_⟩
    intro a ha b hb hab
    rw [List.mem_singleton] at hb
    have hlt := h.below a ha
    omega
  · rw [next_call]
    rcases List.mem_append.mp hn with hn | hn
    · exact Nat.lt_succ_of_lt (h.below n hn)
    · rw [List.mem_singleton.mp hn]
      exact Nat.lt_succ_self _

/-- A registration: refused at once, or one message more that waits. -/
theorem doRegister (h : CardsAccount reqs s) (profile : HceProfile) (request : AddRequest) :
    (∃ report, (hceDoRegister s profile request).2 = some report ∧
      CardsAccount reqs (hceDoRegister s profile request).1) ∨
    ((hceDoRegister s profile request).2 = none ∧
      CardsAccount (reqs ++ [(hceDoRegister s profile request).1.calls.next - 1])
        (hceDoRegister s profile request).1) := by
  rcases hceDoRegister_cases s profile request with ⟨-, heq⟩ | ⟨-, heq⟩
  · rw [heq]
    exact Or.inl ⟨_, rfl, h⟩
  · rw [heq]
    refine Or.inr ⟨rfl, ?_⟩
    have hnext : ((s.call .requestMode).call (.registerLocalHostApp profile.objectPath request.aid
        profile.implicit ⟨profile.pointer, request⟩)).calls.next - 1
        = (s.call .requestMode).calls.next := by
      rw [next_call]
      rfl
    rw [hnext]
    exact (h.call (c := .requestMode) rfl).register _ _ _ _

/-- **An add.** -/
theorem add (h : CardsAccount reqs s) (request : AddRequest) (exported : Bool) :
    (∃ report, s.report (.add request exported) = some report ∧
      CardsAccount reqs (s.step (.add request exported))) ∨
    (s.report (.add request exported) = none ∧
      CardsAccount (reqs ++ [(s.step (.add request exported)).calls.next - 1])
        (s.step (.add request exported))) := by
  show (∃ report, (nfcdClientAddCardEmulationProfile s request exported).2 = some report ∧ _) ∨
    ((nfcdClientAddCardEmulationProfile s request exported).2 = none ∧
      CardsAccount (reqs ++ [(nfcdClientAddCardEmulationProfile s request exported).1.calls.next
        - 1]) (nfcdClientAddCardEmulationProfile s request exported).1)
  rw [show s.step (.add request exported) = (nfcdClientAddCardEmulationProfile s request exported).1
    from rfl]
  rcases add_cases s request exported with ⟨-, text, heq⟩ | ⟨profile, -, -, -, heq⟩ |
    ⟨profile, -, -, -, heq⟩ | ⟨-, -, -, heq⟩ <;> rw [heq]
  · exact Or.inl ⟨_, rfl, h⟩
  · exact Or.inl ⟨_, rfl, h.of_calls rfl⟩
  · refine doRegister ?_ _ _
    exact (h.of_calls (t := (s.renew profile request).update profile.pointer
      fun p => { p with registered := false }) rfl).call rfl
  · have hinserted : CardsAccount reqs (s.insert (s.newProfile request)) := h.of_calls rfl
    exact hinserted.doRegister _ _

theorem unregister (h : CardsAccount reqs s) (profile : HceProfile) :
    CardsAccount reqs (hceUnregister s profile) := by
  unfold hceUnregister
  split
  · exact h.call rfl
  · exact h

theorem releaseMode (h : CardsAccount reqs s) : CardsAccount reqs (hceReleaseMode s) := by
  rcases hceReleaseMode_cases s with ⟨-, heq⟩ | ⟨-, heq⟩ <;> rw [heq]
  · exact (h.call (c := .releaseMode s.hceModeRequestId) rfl).of_calls rfl
  · exact h

theorem remove (h : CardsAccount reqs s) (aid : Bytes) :
    CardsAccount reqs (s.step (.remove aid)) := by
  show CardsAccount reqs (nfcdClientRemoveCardEmulationProfile s aid).1
  rcases remove_cases s aid with ⟨heq, -⟩ | ⟨profile, -, -, ⟨heq, -⟩ | heq⟩ <;> rw [heq]
  · exact h
  · exact (h.unregister profile).of_calls rfl
  · have herased : CardsAccount reqs ((hceUnregister s profile).erase (ndefBytesToHex aid)) :=
      (h.unregister profile).of_calls rfl
    exact herased.releaseMode

theorem clear (h : CardsAccount reqs s) : CardsAccount reqs (s.step .clear) := by
  have hall : CardsAccount reqs (s.hceProfiles.foldl hceUnregister s) :=
    hceUnregister_invariant (fun _ _ _ h => h.call rfl) s.hceProfiles h
  exact (hall.of_calls (t := { s.hceProfiles.foldl hceUnregister s with hceProfiles := [] })
    rfl).releaseMode

/-- nfcd handles a call: a Register call is answered. -/
theorem serve (h : CardsAccount reqs s) (error : Option String) :
    CardsAccount reqs (s.step (.serve error)) := by
  show CardsAccount reqs (s.serve error)
  rcases serve_cases s error with ⟨-, heq⟩ | ⟨nfcd, n, c, queue, -, hq, heq⟩ <;> rw [heq]
  · exact h
  · have hanswered : c.isRegister = true → (nfcd.handle c error).2.isSome = true := by
      intro hc
      cases c with
      | registerLocalHostApp path aid implicit req => cases error <;> rfl
      | _ => cases hc
    refine ⟨h.perm.trans (Channel.pending_serve hq hanswered).symm, h.nodup, fun n hn => ?_⟩
    show n < (s.calls.serve _).next
    rw [Channel.next_serve]
    exact h.below n hn

/-- nfcd comes and goes: its calls are answered by the bus. -/
theorem vanish (h : CardsAccount reqs s) : CardsAccount reqs (s.step .vanish) := by
  show CardsAccount reqs (daemonVanished s)
  rcases daemonVanished_cases s with ⟨-, heq⟩ | ⟨-, heq⟩ <;> rw [heq]
  · refine ⟨h.perm.trans (Channel.pending_disconnect _ ?_).symm, h.nodup, h.below⟩
    intro c hc
    cases c <;> first | rfl | cases hc
  · exact h

theorem appear (h : CardsAccount reqs s) : CardsAccount reqs (s.step .appear) := by
  show CardsAccount reqs (daemonAppeared s)
  rcases daemonAppeared_cases s with ⟨-, heq⟩ | heq <;> rw [heq]
  · exact h.of_calls rfl
  · exact h

theorem proxyReady (h : CardsAccount reqs s) : CardsAccount reqs (s.step .proxyReady) := by
  show CardsAccount reqs (daemonProxyReady s)
  rcases daemonProxyReady_cases s with ⟨-, heq⟩ | heq <;> rw [heq]
  · exact h.of_calls rfl
  · exact h

/-- The answer to a call nobody waits for is taken off the channel. -/
theorem dropped (h : CardsAccount reqs s) {i n : ℕ} {c : NfcdCall} {r : NfcdReply}
    (hi : s.calls.replies[i]? = some (n, c, r)) (hc : c.isRegister = false) :
    CardsAccount reqs { s with calls := s.calls.deliver i } := by
  have hpending := Channel.pending_deliver (p := NfcdCall.isRegister) hi
  rw [Channel.pendingOne, hc] at hpending
  exact ⟨h.perm.trans hpending, h.nodup, h.below⟩

/-- The answer to a Register call is that of one of the messages. -/
theorem answered (h : CardsAccount reqs s) {i n : ℕ} {c : NfcdCall} {r : NfcdReply}
    (hi : s.calls.replies[i]? = some (n, c, r)) (hc : c.isRegister = true) :
    n ∈ reqs ∧ CardsAccount (reqs.filter (· ≠ n)) { s with calls := s.calls.deliver i } := by
  have hpending := Channel.pending_deliver (p := NfcdCall.isRegister) hi
  rw [Channel.pendingOne, hc] at hpending
  have hperm : reqs.Perm (n :: (s.calls.deliver i).pending NfcdCall.isRegister) :=
    h.perm.trans hpending
  have hfresh : n ∉ (s.calls.deliver i).pending NfcdCall.isRegister :=
    (List.nodup_cons.mp (hperm.nodup_iff.mp h.nodup)).1
  have hrest : ((n :: (s.calls.deliver i).pending NfcdCall.isRegister).filter (· ≠ n))
      = (s.calls.deliver i).pending NfcdCall.isRegister := by
    rw [List.filter_cons_of_neg (by simp), List.filter_eq_self]
    intro m hm
    simp only [ne_eq, decide_not, Bool.not_eq_eq_eq_not, Bool.not_true, decide_eq_false_iff_not]
    rintro rfl
    exact hfresh hm
  refine ⟨hperm.mem_iff.mpr List.mem_cons_self, ?_, h.nodup.filter _, fun m hm => ?_⟩
  · have hfiltered := hperm.filter (· ≠ n)
    rw [hrest] at hfiltered
    exact hfiltered
  · exact h.below m (List.mem_of_mem_filter hm)

/-- **An answer arrives**: of a Register call, for one message that waits, or of another call. -/
theorem deliver (h : CardsAccount reqs s) (i : ℕ) :
    (∃ n c r report, s.calls.replies[i]? = some (n, c, r) ∧
      s.report (.deliver i) = some report ∧ n ∈ reqs ∧
      CardsAccount (reqs.filter (· ≠ n)) (s.step (.deliver i))) ∨
    (s.report (.deliver i) = none ∧ CardsAccount reqs (s.step (.deliver i))) := by
  rcases deliver_cases s i with ⟨-, heq⟩ | ⟨n, c, r, hi, ⟨rfl, heq⟩ |
    ⟨path, aid, implicit, req, rfl, heq⟩ | ⟨hc, heq⟩⟩
  · refine Or.inr ⟨congrArg Prod.snd heq, ?_⟩
    rw [show s.step (.deliver i) = s from congrArg Prod.fst heq]
    exact h
  · refine Or.inr ⟨congrArg Prod.snd heq, ?_⟩
    rw [show s.step (.deliver i) = _ from congrArg Prod.fst heq]
    have hdropped := h.dropped hi rfl
    rcases hceModeReady_cases { s with calls := s.calls.deliver i } r with ⟨id, -, hset⟩ |
      ⟨-, hset⟩ <;> rw [hset]
    · exact hdropped.of_calls rfl
    · exact hdropped
  · obtain ⟨hmem, hrest⟩ := h.answered hi rfl
    have hstep : s.step (.deliver i) = _ := congrArg Prod.fst heq
    have hreport : s.report (.deliver i) = _ := congrArg Prod.snd heq
    rw [hstep, hreport]
    rcases hceRegisterReady_cases { s with calls := s.calls.deliver i } req r with
      ⟨text, -, hset⟩ | ⟨-, hset⟩ <;> rw [hset]
    · exact Or.inl ⟨n, _, r, _, hi, rfl, hmem, hrest⟩
    · exact Or.inl ⟨n, _, r, _, hi, rfl, hmem, hrest.of_calls rfl⟩
  · have hother : c.isRegister = false := by cases c <;> first | rfl | cases hc
    refine Or.inr ⟨congrArg Prod.snd heq, ?_⟩
    rw [show s.step (.deliver i) = _ from congrArg Prod.fst heq]
    exact h.dropped hi hother

end CardsAccount

/-! ## One tag -/

/-- A step of the adapter's part changes the tag in one way only. -/
theorem tag_adapterStep (glib : GlibText) (s : AdapterState) (e : AdapterEvent)
    (he : ∀ i reply, e ≠ .tagComplete i reply) :
    (adapterStep glib s e).client.tag = s.client.tag ∨
      ∃ path, (adapterStep glib s e).client.tag = setCurrentTag s.client.tag path := by
  have hattach : ∀ (t : AdapterState) (path : Option String), t.client.tag = s.client.tag →
      (t.attachAdapter path).client.tag = s.client.tag ∨
        ∃ path', (t.attachAdapter path).client.tag = setCurrentTag s.client.tag path' := by
    intro t path ht
    cases path with
    | none => exact Or.inr ⟨none, congrArg (setCurrentTag · none) ht⟩
    | some path =>
      left
      simp only [AdapterState.attachAdapter]
      split
      · exact ht
      · exact ht
  cases e with
  | daemonAppeared | settingsAppeared | settingsVanished => exact Or.inl rfl
  | settingsEnabledChanged enabled => exact Or.inl rfl
  | daemonVanished => exact hattach _ none rfl
  | adaptersChanged adapters => exact hattach s adapters.head? rfl
  | adapterSignal adapter signal =>
    simp only [adapterStep]
    split
    · cases signal with
      | tags tags => exact Or.inr ⟨tags.head?, rfl⟩
      | _ => exact Or.inl rfl
    · exact Or.inl rfl
  | complete i reply =>
    simp only [adapterStep]
    split
    · exact Or.inl rfl
    · next call hi =>
      cases call <;> cases reply <;> first
        | exact Or.inl rfl
        | exact Or.inr ⟨_, rfl⟩
        | exact hattach _ _ rfl
  | tagComplete i reply => exact absurd rfl (he i reply)

/-- The other parts see the same tag. -/
theorem tagStep_tagNews (glib : GlibText) (s : AdapterState) (e : AdapterEvent) :
    tagStep glib s.client.tag (e.tagNews (adapterStep glib s e))
      = (adapterStep glib s e).client.tag := by
  by_cases he : ∀ i reply, e ≠ .tagComplete i reply
  · have hnews : e.tagNews (adapterStep glib s e)
        = .tags (adapterStep glib s e).client.tag.client.tagPath.toList := by
      cases e <;> first | rfl | exact absurd rfl (he _ _)
    have hhead : ∀ path : Option String, path.toList.head? = path := by
      intro path
      cases path <;> rfl
    rw [hnews, tagStep, hhead]
    rcases tag_adapterStep glib s e he with htag | ⟨path, htag⟩ <;> rw [htag]
    · exact if_pos rfl
    · rw [setCurrentTag_tagPath]
  · simp only [ne_eq, not_forall, not_not] at he
    obtain ⟨i, reply, rfl⟩ := he
    rfl

/-- A write or lock request does not touch the tag that is current. -/
theorem ServedInv.tag_writeStep {h : WriteHistory} {s : WriteState} (hI : ServedInv h s)
    {e : WriteEvent} (he : ∀ e', e ≠ .tag e') : (writeStep mismatch glib s e).tag = s.tag := by
  cases ha : s.aborted with
  | true => simp [writeStep, ha]
  | false =>
    cases hrequest : e.request with
    | some request =>
      rcases request_cases mismatch glib hrequest ha with ⟨text, heq⟩ | heq | ⟨k, -, heq⟩ <;>
        rw [heq] <;> rfl
    | none =>
      cases e with
      | writeTag message userData => cases hrequest
      | cloneTag rawData userData => cases hrequest
      | lockTag userData => cases hrequest
      | tag e => exact absurd rfl (he e)
      | complete i reply =>
        cases hi : s.pool.calls[i]? with
        | none => simp [writeStep, ha, hi]
        | some x =>
          obtain ⟨id, call⟩ := x
          obtain ⟨req, ht⟩ := hI.wf.exists_task (List.mem_of_getElem? hi)
          obtain ⟨-, htalk, -⟩ := hI.live id req call (List.mem_of_getElem? hi) ht
          have hstep : writeStep mismatch glib s (.complete i reply)
              = writeCallback mismatch { s with pool := s.pool.take i } id req call reply := by
            simp [writeStep, ha, hi, ht]
          rw [hstep]
          rcases writeCallback_cases mismatch { s with pool := s.pool.take i } id reply htalk with
            ⟨req', call', heq, -⟩ | ⟨success, text, heq, -⟩ <;> rw [heq] <;> rfl

/-- The events of passport reads that are not about the tag or the client. -/
def PassportsEvent.OfReads : PassportsEvent → Prop
  | .tag _ | .clientFree => False
  | _ => True

theorem passportReadFinish_frame (s : PassportsState G) (id : ℕ) (read : PassportTask G)
    (success : Bool) (text : Option String) (result : Option PassportResult) :
    (passportReadFinish s id read success text result).tag = s.tag ∧
      (passportReadFinish s id read success text result).closed = s.closed := by
  simp only [passportReadFinish, passportRelease]
  split <;> exact ⟨rfl, rfl⟩

/-- A passport read does not touch the tag that is current. -/
theorem frame_passportsStep (env : PassportEnv G P) (glib : GlibText) (s : PassportsState G)
    {e : PassportsEvent} (he : e.OfReads) :
    (passportsStep env glib s e).tag = s.tag ∧ (passportsStep env glib s e).closed = s.closed := by
  have hrequest : ∀ (start : Except String (PassportState G)) (userData : ℕ),
      (passportRequest s start userData).tag = s.tag ∧
        (passportRequest s start userData).closed = s.closed := by
    intro start userData
    rcases passportRequest_cases s start userData with ⟨-, text, heq⟩ | ⟨-, chain, -, heq⟩ <;>
      rw [heq] <;> exact ⟨rfl, rfl⟩
  unfold passportsStep
  split
  · exact ⟨rfl, rfl⟩
  · cases e with
    | tag e => exact he.elim
    | clientFree => exact he.elim
    | readPassport documentNumber dateOfBirth dateOfExpiry readPhoto userData =>
      dsimp only
      split
      · exact ⟨rfl, rfl⟩
      · exact hrequest _ _
    | readPassportPace can readPhoto userData =>
      dsimp only
      split
      · exact ⟨rfl, rfl⟩
      · exact hrequest _ _
    | complete i e =>
      show (passportComplete env s i e).tag = s.tag ∧ (passportComplete env s i e).closed = s.closed
      rcases passportComplete_cases env s i e with heq | ⟨id, call, read, -, -, hh⟩
      · rw [heq]
        exact ⟨rfl, rfl⟩
      · generalize passportComplete env s i e = s' at hh
        cases hh with
        | finishes success text result hend => exact passportReadFinish_frame _ _ _ _ _ _
        | _ => exact ⟨rfl, rfl⟩
    | nfcdAcquire k grant => exact ⟨rfl, rfl⟩
    | cleanup i =>
      show (passportCleanup s i).tag = _ ∧ (passportCleanup s i).closed = _
      unfold passportCleanup
      split <;> exact ⟨rfl, rfl⟩

/-- The reads of passports see the tag that becomes current, and all go on. -/
theorem tag_passportsStep (env : PassportEnv G P) (glib : GlibText) (s : PassportsState G)
    (e : TagEvent) (hlive : s.died = none) (hopen : s.closed = false) :
    (passportsStep env glib s (.tag e)).tag = tagStep glib s.tag e ∧
      (passportsStep env glib s (.tag e)).closed = false ∧
      ∀ id, (passportsStep env glib s (.tag e)).unanswered id = s.unanswered id := by
  have hdied : ¬ s.died.isSome = true := by simp [hlive]
  have habort : (abortPassportReading s).closed = false := by
    unfold abortPassportReading
    split <;> exact hopen
  cases e with
  | complete i reply =>
    rw [passportsStep, if_neg hdied]
    exact ⟨rfl, hopen, fun _ => rfl⟩
  | tags tags =>
    simp only [passportsStep, if_neg hdied, hopen, Bool.false_eq_true, if_false, passportUpdateTags]
    by_cases hsame : s.tag.client.tagPath = tags.head?
    · rw [if_pos hsame]
      exact ⟨(if_pos hsame).symm, hopen, fun _ => rfl⟩
    · rw [if_neg hsame]
      exact ⟨rfl, habort, unanswered_abort s⟩

end NfcAdapter
