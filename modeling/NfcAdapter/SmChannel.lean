/-
# Secure messaging over a hostile channel

The reader alternates `*_sm_protect` and `*_sm_unprotect`; the chip holds the same keys
and the same initial counter, advances its counter once before it checks a command
and once before it builds a response.  Between them stands a channel that hands either
party any bytes at any time.  With an ideal MAC this system is a lockstep protocol:
every step of it is matched by a step of `Lockstep`, whose answers belong to one
exchange each.
-/
import NfcAdapter.Lockstep
import NfcAdapter.SmResponse

namespace NfcAdapter

open IsoPadding ByteCounter Runs

variable {n : ℕ}

/-! ## Counters as positions -/

theorem coe_iterate_sscIncrement (k : ℕ) (ssc : FixedBytes n) :
    (sscIncrement^[k] ssc).1 = increment^[k] ssc.1 := by
  induction k with
  | zero => rfl
  | succ k ih =>
    rw [Function.iterate_succ_apply', Function.iterate_succ_apply', ← ih]
    rfl

/-- Counters of eight bytes and more do not repeat within `2 ^ 64` steps. -/
theorem iterate_sscIncrement_injective (hn : 8 ≤ n) {ssc : FixedBytes n} {i j : ℕ}
    (hi : i < 2 ^ 64) (hj : j < 2 ^ 64) (h : sscIncrement^[i] ssc = sscIncrement^[j] ssc) :
    i = j := by
  have hperiod : 2 ^ 64 ≤ 256 ^ ssc.1.length := by
    rw [ssc.2]
    calc 2 ^ 64 = 256 ^ 8 := by norm_num
      _ ≤ 256 ^ n := Nat.pow_le_pow_right (by decide) hn
  have hbytes := congrArg Subtype.val h
  rw [coe_iterate_sscIncrement, coe_iterate_sscIncrement] at hbytes
  exact iterate_increment_injective (by omega) (by omega) hbytes

/-- The counter in front of MACed bytes can be read off them. -/
theorem ssc_eq_of_append_eq {x y : FixedBytes n} {bs cs : Bytes} (h : x.1 ++ bs = y.1 ++ cs) :
    x = y ∧ bs = cs := by
  obtain ⟨hx, hb⟩ := List.append_inj h (by rw [x.2, y.2])
  exact ⟨Subtype.ext hx, hb⟩

/-! ## The two parties and the channel -/

/-- A response the chip has built: the MAC input of the command it answers, its own
counter, and what it put into the response. -/
structure SmAnswer (n : ℕ) where
  command : Bytes
  ssc : FixedBytes n
  form : LengthForm
  plaintext : Option Bytes
  sw : UInt16
  do87 : Bytes

/-- The bytes the chip MACed for it. -/
def SmAnswer.macInput (r : SmAnswer n) : Bytes := smResponseInput r.ssc r.do87 r.sw

/-- Reader, chip, and everything either has MACed. -/
structure SmChannel (n : ℕ) where
  phase : Lockstep.Phase
  readerSsc : FixedBytes n
  chipSsc : FixedBytes n
  commands : List SmSent
  received : ℕ
  answers : List (SmAnswer n)

/-- A session just after the handshake: both sides hold the same counter. -/
def SmChannel.start (ssc : FixedBytes n) : SmChannel n := ⟨.idle, ssc, ssc, [], 0, []⟩

/-- Every input that was MACed under the session's key. -/
def SmChannel.maced (s : SmChannel n) : List Bytes :=
  s.commands.map (·.macInput) ++ s.answers.map (·.macInput)

/-- What can happen next.  The channel chooses the bytes that reach either party; `form`,
`plaintext` and `sw` are the chip's answer if it accepts the command. -/
inductive SmAction where
  | protect (cmd : SmCommand)
  | toChip (bytes : Bytes) (form : LengthForm) (plaintext : Option Bytes) (sw : UInt16)
  | toReader (rapdu : Bytes)

/-- How the chip reads a command: the bytes its MAC has to cover, without the counter,
and the tag. -/
abbrev ChipParser := Bytes → Option (Bytes × Bytes)

section Channel

variable (S : SmSuite n) (chip : ChipParser)

/-- The chip's check of a command at its next counter. -/
def SmChannel.chipAccepts (s : SmChannel n) (bytes : Bytes) : Option Bytes :=
  match chip bytes with
  | none => none
  | some (body, tag) =>
    if S.mac ((sscIncrement s.chipSsc).1 ++ body) = some tag then
      some ((sscIncrement s.chipSsc).1 ++ body)
    else none

/-- One step of the system. -/
def SmChannel.step (s : SmChannel n) : SmAction → SmChannel n
  | .protect cmd =>
    if s.phase = .idle then
      match smProtect S s.readerSsc cmd with
      | (ssc, some sent) =>
        { s with phase := .waiting, readerSsc := ssc, commands := s.commands ++ [sent] }
      | (ssc, none) => { s with phase := .stopped, readerSsc := ssc }
    else s
  | .toChip bytes form plaintext sw =>
    match s.chipAccepts S chip bytes with
    | none => { s with chipSsc := sscIncrement s.chipSsc, received := s.received + 1 }
    | some command =>
      let ssc := sscIncrement (sscIncrement s.chipSsc)
      match smResponseDo87 S ssc form plaintext with
      | none => { s with chipSsc := ssc, received := s.received + 1 }
      | some do87 =>
        { s with chipSsc := ssc, received := s.received + 1,
                 answers := s.answers ++ [⟨command, ssc, form, plaintext, sw, do87⟩] }
  | .toReader rapdu =>
    if s.phase = .waiting then
      let r := smUnprotect S s.readerSsc rapdu
      { s with readerSsc := r.1, phase := if r.2.isSome then .idle else .stopped }
    else s

/-- **Ideal MAC.** Whenever a party's MAC check succeeds in this step, the bytes it was
made over are bytes one of the two parties MACed. -/
def MacIdeal (s : SmChannel n) : SmAction → Prop
  | .protect _ => True
  | .toChip bytes _ _ _ =>
    ∀ command, s.chipAccepts S chip bytes = some command → command ∈ s.maced
  | .toReader rapdu =>
    ∀ p, smParse rapdu = some p → p.Verifies S (sscIncrement s.readerSsc) →
      p.macInput (sscIncrement s.readerSsc) ∈ s.maced

instance (s : SmChannel n) (act : SmAction) : Decidable (MacIdeal S chip s act) := by
  cases act with
  | protect cmd => exact isTrue trivial
  | toChip bytes form plaintext sw =>
    exact inferInstanceAs (Decidable (∀ command ∈ s.chipAccepts S chip bytes, command ∈ s.maced))
  | toReader rapdu =>
    exact inferInstanceAs (Decidable (∀ p ∈ smParse rapdu,
      p.Verifies S (sscIncrement s.readerSsc) → p.macInput (sscIncrement s.readerSsc) ∈ s.maced))

/-- The session after the actions `acts`. -/
def SmChannel.after (ssc : FixedBytes n) (acts : List SmAction) : SmChannel n :=
  run (SmChannel.step S chip) (.start ssc) acts

end Channel

/-! ## What protect and unprotect do to the counter -/

/-- What a returned command is made of. -/
theorem smProtect_eq_some {S : SmSuite n} {ssc ssc' : FixedBytes n} {cmd : SmCommand}
    {sent : SmSent} (h : smProtect S ssc cmd = (ssc', some sent)) :
    ssc' = sscIncrement ssc ∧ cmd.data.length ≤ S.maxData ∧
      ∃ do87 mac, smDo87 S ssc' cmd.data = some do87 ∧
        sent.macInput = smCommandInput S ssc' cmd do87 ∧ S.mac sent.macInput = some mac ∧
        sent.apdu = cmd.header ++ [(do87.length + cmd.do97.length + 2 + 8).toUInt8] ++ do87 ++
          cmd.do97 ++ appendTlv 0x8E mac ++ [0x00] := by
  rw [smProtect] at h
  by_cases hlimit : cmd.le > 255 ∨ cmd.data.length > S.maxData
  · simp [hlimit] at h
  · rw [if_neg hlimit] at h
    push Not at hlimit
    split at h
    · simp at h
    · next do87 hdo87 =>
      simp only [Prod.mk.injEq, Option.map_eq_some_iff] at h
      obtain ⟨rfl, mac, hmac, rfl⟩ := h
      exact ⟨rfl, hlimit.2, do87, mac, hdo87, rfl, hmac, rfl⟩

/-- The counter comes first in what the MAC covers. -/
theorem smCommandInput_eq (S : SmSuite n) (ssc : FixedBytes n) (cmd : SmCommand) (do87 : Bytes) :
    smCommandInput S ssc cmd do87
      = ssc.1 ++ (isoPad S.blockLen cmd.header ++ do87 ++ cmd.do97) := by
  rw [smCommandInput, List.append_assoc, List.append_assoc, List.append_assoc]

theorem smUnprotect_eq_some {S : SmSuite n} {ssc : FixedBytes n} {rapdu : Bytes}
    {result : Option Bytes × UInt16} (h : (smUnprotect S ssc rapdu).2 = some result) :
    (smUnprotect S ssc rapdu).1 = sscIncrement ssc ∧
      ∃ p, smParse rapdu = some p ∧ p.Verifies S (sscIncrement ssc) ∧
        smOpen S (sscIncrement ssc) p = some result := by
  unfold smUnprotect at h ⊢
  cases hp : smParse rapdu with
  | none => simp [hp] at h
  | some p =>
    simp only [hp] at h
    refine ⟨rfl, p, rfl, ?_, h⟩
    unfold smOpen at h
    split at h
    · simp at h
    · next mac hmac =>
      split_ifs at h with heq
      exact ⟨mac, hmac, heq⟩

/-! ## Refinement of the lockstep protocol -/

/-- A concrete state and the protocol state it stands for. -/
structure Refines (S : SmSuite n) (ssc : FixedBytes n) (c : SmChannel n)
    (a : Lockstep.State Bytes (SmAnswer n)) : Prop where
  inv : Lockstep.Inv a
  phase : a.phase = c.phase
  sent : a.sent = c.commands.map (·.macInput)
  received : a.received = c.received
  chipSsc : c.chipSsc = sscIncrement^[a.position] ssc
  idle : c.phase = .idle → c.readerSsc = sscIncrement^[2 * a.sent.length] ssc
  waiting : c.phase = .waiting → c.readerSsc = sscIncrement^[2 * a.sent.length - 1] ssc ∧
    0 < a.sent.length
  stamped : ∀ k m, a.sent[k]? = some m → ∃ body, m = (sscIncrement^[2 * k + 1] ssc).1 ++ body
  answers : a.answers.map (·.response) = c.answers
  answer : ∀ x ∈ a.answers, x.command = x.response.command ∧
    x.response.ssc = sscIncrement^[x.position] ssc ∧
    smResponseDo87 S x.response.ssc x.response.form x.response.plaintext = some x.response.do87

theorem refines_start (S : SmSuite n) (ssc : FixedBytes n) :
    Refines S ssc (SmChannel.start ssc) Lockstep.start where
  inv := Lockstep.inv_start
  phase := rfl
  sent := rfl
  received := rfl
  chipSsc := rfl
  idle := fun _ => rfl
  waiting := by intro h; cases h
  stamped := by intro k m h; simp [Lockstep.start] at h
  answers := rfl
  answer := by intro x h; simp [Lockstep.start] at h

/-- Fewer than `2 ^ 63` exchanges, counted at either party. -/
def SmChannel.Bounded (s : SmChannel n) : Prop :=
  s.commands.length < 2 ^ 63 ∧ s.received < 2 ^ 63

instance (s : SmChannel n) : Decidable s.Bounded := inferInstanceAs (Decidable (_ ∧ _))

/-- The exchange counts never go down. -/
theorem SmChannel.counts_le_step (S : SmSuite n) (chip : ChipParser) (c : SmChannel n)
    (act : SmAction) :
    c.commands.length ≤ (c.step S chip act).commands.length ∧
      c.received ≤ (c.step S chip act).received := by
  cases act with
  | protect cmd =>
    rw [SmChannel.step]
    split_ifs
    · split <;> simp
    · exact ⟨le_rfl, le_rfl⟩
  | toChip bytes form plaintext sw =>
    rw [SmChannel.step]
    split
    · simp
    · dsimp only
      split <;> simp
  | toReader rapdu =>
    rw [SmChannel.step]
    split_ifs <;> exact ⟨le_rfl, le_rfl⟩

section Simulation

variable {S : SmSuite n} {chip : ChipParser} {ssc : FixedBytes n} {c : SmChannel n}
  {a : Lockstep.State Bytes (SmAnswer n)}

/-- MACed bytes that start with the counter of position `q` are the command or the
answer of that position. -/
theorem Refines.mem_maced (hR : Refines S ssc c a) (hn : 8 ≤ n) (hb : c.Bounded) {q : ℕ}
    (hq : q < 2 ^ 64) {m body : Bytes} (hm : m = (sscIncrement^[q] ssc).1 ++ body)
    (hmem : m ∈ c.maced) :
    (∃ k, q = 2 * k + 1 ∧ a.sent[k]? = some m) ∨
      (∃ x ∈ a.answers, x.position = q ∧ x.response.macInput = m) := by
  have hrec := hb.2
  have hcmd := hb.1
  rcases List.mem_append.mp hmem with hin | hin
  · left
    rw [← hR.sent] at hin
    obtain ⟨k, hk⟩ := List.mem_iff_getElem?.mp hin
    obtain ⟨body', hbody⟩ := hR.stamped k m hk
    have hlen : k < a.sent.length := (List.getElem?_eq_some_iff.mp hk).1
    rw [hR.sent, List.length_map] at hlen
    have hssc := (ssc_eq_of_append_eq (hm.symm.trans hbody)).1
    exact ⟨k, iterate_sscIncrement_injective hn hq (by omega) hssc, hk⟩
  · right
    rw [← hR.answers, List.map_map] at hin
    obtain ⟨x, hx, hxm⟩ := List.mem_map.mp hin
    have hpos := hR.inv.answers_le x hx
    have hle := hR.inv.position_le
    rw [hR.received] at hle
    have hstamp : m = (sscIncrement^[x.position] ssc).1 ++ (x.response.do87 ++
        smResponseDo99 x.response.sw) := by
      rw [← (hR.answer x hx).2.1, ← List.append_assoc]
      exact hxm.symm
    have hssc := (ssc_eq_of_append_eq (hstamp.symm.trans hm)).1
    exact ⟨x, hx, iterate_sscIncrement_injective hn (by omega) hq hssc, hxm⟩

/-- A command the chip accepts is the reader's command of the chip's next position. -/
theorem Refines.chip_command (hR : Refines S ssc c a) (hn : 8 ≤ n) (hb : c.Bounded)
    {bytes command : Bytes} (hacc : c.chipAccepts S chip bytes = some command)
    (hmem : command ∈ c.maced) :
    ∃ k, 2 * k + 1 = a.position + 1 ∧ a.sent[k]? = some command := by
  have hrec := hb.2
  have hle := hR.inv.position_le
  rw [hR.received] at hle
  unfold SmChannel.chipAccepts at hacc
  split at hacc
  · simp at hacc
  · next body tag _ =>
    split_ifs at hacc with hmac
    simp only [Option.some.injEq] at hacc
    have hstamp : command = (sscIncrement^[a.position + 1] ssc).1 ++ body := by
      rw [Function.iterate_succ_apply', ← hR.chipSsc]
      exact hacc.symm
    rcases hR.mem_maced hn hb (by omega) hstamp hmem with ⟨k, hk, hget⟩ | ⟨x, hx, hpos, -⟩
    · exact ⟨k, hk.symm, hget⟩
    · -- the chip has built no answer for a position it has not reached
      have := hR.inv.answers_le x hx
      omega

/-- The counter a waiting reader checks a response at. -/
theorem Refines.reader_next (hR : Refines S ssc c a) (hw : c.phase = .waiting) :
    sscIncrement c.readerSsc = sscIncrement^[2 * a.sent.length] ssc := by
  obtain ⟨hssc, hpos⟩ := hR.waiting hw
  rw [hssc, ← Function.iterate_succ_apply' sscIncrement,
    show (2 * a.sent.length - 1).succ = 2 * a.sent.length from by omega]

/-- **Accepted responses are the chip's.** A response whose MAC verifies is made of the
objects of the one answer stamped for this exchange. -/
theorem Refines.accepted_answer (hR : Refines S ssc c a) (hn : 8 ≤ n) (hb : c.Bounded)
    (hw : c.phase = .waiting) {p : SmParsed}
    (hmem : p.macInput (sscIncrement c.readerSsc) ∈ c.maced) :
    ∃ x ∈ a.answers, x.position = 2 * a.sent.length ∧
      x.response.macInput = p.macInput (sscIncrement c.readerSsc) := by
  have hcmd := hb.1
  have hlen : a.sent.length < 2 ^ 63 := by
    rw [hR.sent, List.length_map]
    exact hcmd
  have hstamp : p.macInput (sscIncrement c.readerSsc)
      = (sscIncrement^[2 * a.sent.length] ssc).1 ++ (p.do87.getD [] ++ p.do99) := by
    rw [← hR.reader_next hw, SmParsed.macInput, List.append_assoc]
  rcases hR.mem_maced hn hb (by omega) hstamp hmem with ⟨k, hk, -⟩ | h
  · omega
  · exact h

/-- **Unambiguity.** The bytes under the MAC determine the plaintext and the status word
the reader returns. -/
theorem open_answer (hS : S.DecryptInverts) {rapdu : Bytes} {p : SmParsed} {r : SmAnswer n}
    {ssc : FixedBytes n} {result : Option Bytes × UInt16} (hparse : smParse rapdu = some p)
    (hver : p.Verifies S ssc) (hopen : smOpen S ssc p = some result)
    (hdo87 : smResponseDo87 S r.ssc r.form r.plaintext = some r.do87)
    (hin : r.macInput = p.macInput ssc) : result = (r.plaintext, r.sw) := by
  obtain ⟨h99, h8e, hnil⟩ := smParse_eq_some hparse
  obtain ⟨mac, hmac, heq⟩ := hver
  have hin' : r.ssc.1 ++ (r.do87 ++ smResponseDo99 r.sw)
      = ssc.1 ++ (p.do87.getD [] ++ p.do99) := by
    rw [← List.append_assoc, ← List.append_assoc]
    exact hin
  obtain ⟨hssc, hobj⟩ := ssc_eq_of_append_eq hin'
  -- both lists end in a DO'99' of four bytes, so they split in the same place
  obtain ⟨h87, hdo99⟩ := List.append_inj' hobj (by rw [h99]; rfl)
  have htag : p.tag = mac :=
    ((bytesEqual_iff (S.length_mac hmac) (by rw [SmParsed.tag, List.length_drop, h8e])).mp heq).symm
  rw [hssc] at hdo87
  have hmac' : S.mac (smResponseInput ssc r.do87 r.sw) = some mac := by
    rw [← hssc, ← hmac, ← hin]
    rfl
  have hresp := smOpen_response S hS ssc r.form hdo87 hmac' p h87.symm hnil hdo99.symm htag
  rw [hopen] at hresp
  exact Option.some.inj hresp

theorem Refines.protect (hR : Refines S ssc c a) (cmd : SmCommand) :
    ∃ a', Relation.ReflTransGen Lockstep.Step a a' ∧
      Refines S ssc (c.step S chip (.protect cmd)) a' := by
  by_cases hidle : c.phase = .idle
  · cases hp : smProtect S c.readerSsc cmd with
    | mk ssc' o =>
      cases o with
      | none =>
        have hstep : c.step S chip (.protect cmd)
            = { c with phase := .stopped, readerSsc := ssc' } := by
          simp [SmChannel.step, hidle, hp]
        refine ⟨_, .single (.lose a), ?_⟩
        rw [hstep]
        exact ⟨Lockstep.inv_step hR.inv (.lose a), rfl, hR.sent, hR.received, hR.chipSsc,
          (by intro h; cases h), (by intro h; cases h), hR.stamped, hR.answers, hR.answer⟩
      | some sent =>
        have hstep : c.step S chip (.protect cmd)
            = { c with
                phase := .waiting, readerSsc := ssc', commands := c.commands ++ [sent] } := by
          simp [SmChannel.step, hidle, hp]
        obtain ⟨hssc, -, do87, -, -, hinput, -, -⟩ := smProtect_eq_some hp
        rw [smCommandInput_eq] at hinput
        have hssc' : ssc' = sscIncrement^[2 * a.sent.length + 1] ssc := by
          rw [hssc, hR.idle hidle, Function.iterate_succ_apply']
        have hsend := Lockstep.Step.send a sent.macInput (hR.phase.trans hidle)
        refine ⟨_, .single hsend, ?_⟩
        rw [hstep]
        refine ⟨Lockstep.inv_step hR.inv hsend, rfl, ?_, hR.received, hR.chipSsc,
          (by intro h; cases h), ?_, ?_, hR.answers, hR.answer⟩
        · rw [hR.sent, List.map_append]
          rfl
        · intro _
          show ssc' = sscIncrement^[2 * (a.sent ++ [sent.macInput]).length - 1] ssc ∧
            0 < (a.sent ++ [sent.macInput]).length
          rw [List.length_append, List.length_singleton, hssc',
            show 2 * (a.sent.length + 1) - 1 = 2 * a.sent.length + 1 from by omega]
          exact ⟨rfl, by omega⟩
        · intro k m hk
          rcases Nat.lt_trichotomy k a.sent.length with hlt | heq | hgt
          · rw [List.getElem?_append_left hlt] at hk
            exact hR.stamped k m hk
          · rw [heq, List.getElem?_append_right le_rfl, Nat.sub_self] at hk
            simp only [List.getElem?_cons_zero, Option.some.injEq] at hk
            exact ⟨_, by rw [← hk, hinput, hssc', heq]⟩
          · rw [List.getElem?_eq_none (by simp; omega)] at hk
            cases hk
  · refine ⟨a, .refl, ?_⟩
    rw [SmChannel.step, if_neg hidle]
    exact hR

theorem Refines.toChip (hR : Refines S ssc c a) (hn : 8 ≤ n) (hb : c.Bounded) (bytes : Bytes)
    (form : LengthForm) (plaintext : Option Bytes) (sw : UInt16)
    (hideal : MacIdeal S chip c (.toChip bytes form plaintext sw)) :
    ∃ a', Relation.ReflTransGen Lockstep.Step a a' ∧
      Refines S ssc (c.step S chip (.toChip bytes form plaintext sw)) a' := by
  -- the counter after `d` more positions, for a chip that moves on without answering
  have hrefuse : ∀ d, d ≤ 2 → ∃ a', Relation.ReflTransGen Lockstep.Step a a' ∧
      Refines S ssc { c with chipSsc := sscIncrement^[a.position + d] ssc,
                             received := c.received + 1 } a' := by
    intro d hd
    refine ⟨_, .single (.refuse a d hd), Lockstep.inv_step hR.inv (.refuse a d hd), hR.phase,
      hR.sent, ?_, rfl, hR.idle, hR.waiting, hR.stamped, hR.answers, hR.answer⟩
    show a.received + 1 = c.received + 1
    rw [hR.received]
  have hone : sscIncrement c.chipSsc = sscIncrement^[a.position + 1] ssc := by
    rw [hR.chipSsc, Function.iterate_succ_apply']
  have htwo : sscIncrement (sscIncrement c.chipSsc) = sscIncrement^[a.position + 2] ssc := by
    rw [hone, ← Function.iterate_succ_apply' sscIncrement]
  cases hacc : c.chipAccepts S chip bytes with
  | none =>
    obtain ⟨a', hreach, hR'⟩ := hrefuse 1 (by decide)
    refine ⟨a', hreach, ?_⟩
    rw [← hone] at hR'
    simpa [SmChannel.step, hacc] using hR'
  | some command =>
    cases hdo87 : smResponseDo87 S (sscIncrement (sscIncrement c.chipSsc)) form plaintext with
    | none =>
      obtain ⟨a', hreach, hR'⟩ := hrefuse 2 le_rfl
      refine ⟨a', hreach, ?_⟩
      rw [← htwo] at hR'
      simpa [SmChannel.step, hacc, hdo87] using hR'
    | some do87 =>
      have hstep : c.step S chip (.toChip bytes form plaintext sw)
          = { c with chipSsc := sscIncrement (sscIncrement c.chipSsc)
                     received := c.received + 1
                     answers := c.answers ++ [⟨command, sscIncrement (sscIncrement c.chipSsc),
                       form, plaintext, sw, do87⟩] } := by
        simp [SmChannel.step, hacc, hdo87]
      obtain ⟨k, hk, hget⟩ := hR.chip_command hn hb hacc (hideal command hacc)
      have hanswer := Lockstep.Step.answer a k command
        (⟨command, sscIncrement (sscIncrement c.chipSsc), form, plaintext, sw, do87⟩ : SmAnswer n)
        hget hk
      refine ⟨_, .single hanswer, ?_⟩
      rw [hstep]
      refine ⟨Lockstep.inv_step hR.inv hanswer, hR.phase, hR.sent, ?_, htwo, hR.idle, hR.waiting,
        hR.stamped, ?_, ?_⟩
      · show a.received + 1 = c.received + 1
        rw [hR.received]
      · rw [List.map_append, hR.answers]
        rfl
      · intro x hx
        rcases List.mem_append.mp hx with hx | hx
        · exact hR.answer x hx
        · rw [List.mem_singleton.mp hx]
          exact ⟨rfl, htwo, hdo87⟩

theorem Refines.toReader (hR : Refines S ssc c a) (hn : 8 ≤ n) (hb : c.Bounded) (rapdu : Bytes)
    (hideal : MacIdeal S chip c (.toReader rapdu)) :
    ∃ a', Relation.ReflTransGen Lockstep.Step a a' ∧
      Refines S ssc (c.step S chip (.toReader rapdu)) a' := by
  by_cases hw : c.phase = .waiting
  · cases hres : (smUnprotect S c.readerSsc rapdu).2 with
    | none =>
      have hstep : c.step S chip (.toReader rapdu)
          = { c with phase := .stopped, readerSsc := (smUnprotect S c.readerSsc rapdu).1 } := by
        simp [SmChannel.step, hw, hres]
      refine ⟨_, .single (.lose a), ?_⟩
      rw [hstep]
      exact ⟨Lockstep.inv_step hR.inv (.lose a), rfl, hR.sent, hR.received, hR.chipSsc,
        (by intro h; cases h), (by intro h; cases h), hR.stamped, hR.answers, hR.answer⟩
    | some result =>
      have hstep : c.step S chip (.toReader rapdu)
          = { c with phase := .idle, readerSsc := (smUnprotect S c.readerSsc rapdu).1 } := by
        simp [SmChannel.step, hw, hres]
      obtain ⟨hssc, p, hparse, hver, -⟩ := smUnprotect_eq_some hres
      obtain ⟨x, hx, hpos, -⟩ := hR.accepted_answer hn hb hw (hideal p hparse hver)
      have haccept := Lockstep.Step.accept a (hR.phase.trans hw) x hx hpos
      refine ⟨_, .single haccept, ?_⟩
      rw [hstep]
      refine ⟨Lockstep.inv_step hR.inv haccept, rfl, hR.sent, hR.received, hR.chipSsc, ?_,
        (by intro h; cases h), hR.stamped, hR.answers, hR.answer⟩
      intro _
      show (smUnprotect S c.readerSsc rapdu).1 = _
      rw [hssc, hR.reader_next hw]
  · refine ⟨a, .refl, ?_⟩
    rw [SmChannel.step, if_neg hw]
    exact hR

/-- Every step under an ideal MAC is matched by the lockstep protocol. -/
theorem Refines.step (hR : Refines S ssc c a) (hn : 8 ≤ n) (hb : c.Bounded) (act : SmAction)
    (hideal : MacIdeal S chip c act) :
    ∃ a', Relation.ReflTransGen Lockstep.Step a a' ∧ Refines S ssc (c.step S chip act) a' := by
  cases act with
  | protect cmd => exact hR.protect cmd
  | toChip bytes form plaintext sw => exact hR.toChip hn hb bytes form plaintext sw hideal
  | toReader rapdu => exact hR.toReader hn hb rapdu hideal

theorem SmChannel.bounded_of_step (act : SmAction) (h : (c.step S chip act).Bounded) :
    c.Bounded := by
  obtain ⟨h1, h2⟩ := SmChannel.counts_le_step S chip c act
  exact ⟨lt_of_le_of_lt h1 h.1, lt_of_le_of_lt h2 h.2⟩

/-- Every bounded run under an ideal MAC refines a run of the lockstep protocol. -/
theorem refines_run (hn : 8 ≤ n) (ssc : FixedBytes n) (acts : List SmAction)
    (hideal : Along (MacIdeal S chip) (SmChannel.step S chip) (SmChannel.start ssc) acts)
    (hb : (run (SmChannel.step S chip) (SmChannel.start ssc) acts).Bounded) :
    ∃ a, Relation.ReflTransGen Lockstep.Step Lockstep.start a ∧
      Refines S ssc (run (SmChannel.step S chip) (SmChannel.start ssc) acts) a := by
  induction acts using List.reverseRecOn with
  | nil => exact ⟨_, .refl, refines_start S ssc⟩
  | append_singleton acts act ih =>
    rw [run_concat] at hb ⊢
    obtain ⟨hpre, hlast⟩ := along_concat.mp hideal
    have hb' := SmChannel.bounded_of_step act hb
    obtain ⟨a, hreach, hR⟩ := ih hpre hb'
    obtain ⟨a', hsteps, hR'⟩ := hR.step hn hb' act hlast
    exact ⟨a', hreach.trans hsteps, hR'⟩

end Simulation

/-! ## The main theorem -/

/-- What an accepted response is worth: it is the chip's answer to the very command of
this exchange, with the plaintext and status word the chip put into it. -/
structure AuthenticResponse (S : SmSuite n) (ssc : FixedBytes n) (s : SmChannel n) (rapdu : Bytes)
    (result : Option Bytes × UInt16) : Prop where
  answer : ∃ (i : ℕ) (r : SmAnswer n) (cmd : SmSent) (p : SmParsed),
    s.answers[i]? = some r ∧ s.commands.getLast? = some cmd ∧ r.command = cmd.macInput ∧
    result = (r.plaintext, r.sw) ∧
    -- the MACed bytes are those of this answer and of nothing else either party has sent
    smParse rapdu = some p ∧ p.macInput r.ssc = r.macInput ∧
    (∀ j r', s.answers[j]? = some r' → r'.macInput = r.macInput ∨ r'.command = cmd.macInput →
      j = i) ∧
    (∀ sent ∈ s.commands, sent.macInput ≠ r.macInput) ∧
    -- lockstep: the reader has arrived at the counter the chip built the answer with, which
    -- is the chip's own unless the channel has given it more commands than the reader sent
    (smUnprotect S s.readerSsc rapdu).1 = r.ssc ∧
    r.ssc = sscIncrement^[2 * s.commands.length] ssc ∧
    (s.received ≤ s.commands.length → s.chipSsc = r.ssc)

/-- **Authenticity and lockstep of one suite**, for every bounded run under an ideal MAC. -/
theorem authenticResponse_of_run (hn : 8 ≤ n) {S : SmSuite n} (hS : S.DecryptInverts)
    (chip : ChipParser) (ssc : FixedBytes n) (acts : List SmAction) (rapdu : Bytes)
    (result : Option Bytes × UInt16)
    (hideal : Along (MacIdeal S chip) (SmChannel.step S chip) (SmChannel.start ssc)
      (acts ++ [.toReader rapdu]))
    (hb : (run (SmChannel.step S chip) (SmChannel.start ssc) acts).Bounded)
    (hw : (run (SmChannel.step S chip) (SmChannel.start ssc) acts).phase = .waiting)
    (hres : (smUnprotect S (run (SmChannel.step S chip) (SmChannel.start ssc) acts).readerSsc
      rapdu).2 = some result) :
    AuthenticResponse S ssc (run (SmChannel.step S chip) (SmChannel.start ssc) acts) rapdu
      result := by
  obtain ⟨hpre, hlast⟩ := along_concat.mp hideal
  obtain ⟨a, hreach, hR⟩ := refines_run hn ssc acts hpre hb
  have hinv := Lockstep.inv_reach hreach
  generalize run (SmChannel.step S chip) (SmChannel.start ssc) acts = c at *
  obtain ⟨hssc, p, hparse, hver, hopen⟩ := smUnprotect_eq_some hres
  obtain ⟨x, hx, hpos, hin⟩ := hR.accepted_answer hn hb hw (hlast p hparse hver)
  obtain ⟨hcmd, hxssc, hdo87⟩ := hR.answer x hx
  obtain ⟨i, hi⟩ := List.mem_iff_getElem?.mp hx
  have hnext := hR.reader_next hw
  have hrssc : x.response.ssc = sscIncrement c.readerSsc := by rw [hxssc, hpos, hnext]
  have hlast' := hinv.getLast?_sent hx hpos
  rw [hR.sent, List.getLast?_map, Option.map_eq_some_iff] at hlast'
  obtain ⟨cmd, hcmd', hcmdin⟩ := hlast'
  have hresp : ∀ (j : ℕ) (r' : SmAnswer n), c.answers[j]? = some r' →
      ∃ y : Lockstep.Answer Bytes (SmAnswer n), a.answers[j]? = some y ∧ y.response = r' := by
    intro j r' hj
    rw [← hR.answers, List.getElem?_map, Option.map_eq_some_iff] at hj
    exact hj
  have hlen : c.commands.length = a.sent.length := by rw [hR.sent, List.length_map]
  have hle := hinv.position_le
  have hrec := hb.2
  have hcb := hb.1
  rw [hR.received] at hle
  refine ⟨⟨i, x.response, cmd, p, ?_, hcmd', ?_, open_answer hS hparse hver hopen hdo87 hin,
    hparse, ?_, ?_, ?_, ?_, ?_, ?_⟩⟩
  · rw [← hR.answers, List.getElem?_map, hi]
    rfl
  · rw [← hcmd, hcmdin]
  · rw [hrssc]
    exact hin.symm
  · intro j r' hj hor
    obtain ⟨y, hy, rfl⟩ := hresp j r' hj
    have hymem := List.mem_of_getElem? hy
    have hyle := hinv.answers_le y hymem
    refine hinv.index_unique hy hi ?_
    rcases hor with hm | hm
    · -- equal MACed bytes start with equal counters
      have hs := (ssc_eq_of_append_eq (by
        rw [← List.append_assoc, ← List.append_assoc]
        exact hm : y.response.ssc.1 ++ (y.response.do87 ++ smResponseDo99 y.response.sw)
          = x.response.ssc.1 ++ (x.response.do87 ++ smResponseDo99 x.response.sw))).1
      rw [(hR.answer y hymem).2.1, hxssc] at hs
      exact iterate_sscIncrement_injective hn (by omega) (by omega) hs
    · -- equal commands stand at the same place in the list of commands
      obtain ⟨k, hk, hget⟩ := hinv.answers_command y hymem
      obtain ⟨k', hk', hget'⟩ := hinv.answers_command x hx
      obtain ⟨b, hb1⟩ := hR.stamped k _ hget
      obtain ⟨b', hb2⟩ := hR.stamped k' _ hget'
      have hklt := (List.getElem?_eq_some_iff.mp hget).1
      have hklt' := (List.getElem?_eq_some_iff.mp hget').1
      rw [(hR.answer y hymem).1, hm] at hb1
      rw [hcmdin.symm] at hb2
      have hs := (ssc_eq_of_append_eq (hb1.symm.trans hb2)).1
      have := iterate_sscIncrement_injective hn (by omega) (by omega) hs
      omega
  · intro sent hsent heq
    have hmem : sent.macInput ∈ a.sent := by
      rw [hR.sent]
      exact List.mem_map_of_mem hsent
    obtain ⟨k, hk⟩ := List.mem_iff_getElem?.mp hmem
    obtain ⟨body, hbody⟩ := hR.stamped k _ hk
    have hklt := (List.getElem?_eq_some_iff.mp hk).1
    have hs := (ssc_eq_of_append_eq (by
      rw [← hbody, heq, SmAnswer.macInput, smResponseInput, List.append_assoc] :
        (sscIncrement^[2 * k + 1] ssc).1 ++ body
          = x.response.ssc.1 ++ (x.response.do87 ++ smResponseDo99 x.response.sw))).1
    rw [hxssc, hpos] at hs
    have := iterate_sscIncrement_injective hn (by omega) (by omega) hs
    omega
  · rw [hssc, hrssc]
  · rw [hxssc, hpos, hlen]
  · intro hmore
    rw [hR.chipSsc, hxssc, hinv.position_eq hx hpos (by rw [hR.received, ← hlen]; exact hmore)]

/-- How a conforming chip splits a protected command: the padded header and the data
objects are MACed, the last eight bytes of the body are the tag. -/
def splitCommand (blockLen : ℕ) : ChipParser := fun bytes =>
  let lc := (bytes.getD 4 0).toNat
  if lc < 10 then none
  else
    some (isoPad blockLen (bytes.take 4) ++ (bytes.drop 5).take (lc - 10),
      (bytes.drop (5 + lc - 8)).take 8)

/-- A BAC session with the keys and counter of that exchange. -/
def exchangeBac : BacSession := specimenSession

/-- The calls of selecting EF.COM under BAC and of reading four bytes under PACE, on both
sides. -/
def exchangeRecording : Recording where
  ciphers :=
    [des3Call exchangeBac.ksEnc.1 (beBytes 8 0x011E800000000000) (beBytes 8 0x6375432908C044F6)] ++
    retailCalls exchangeBac.ksMac.1
      (beBytes 27 0x887022120C06C2270CA4020C800000008709016375432908C044F6)
      (beBytes 32 0xA359A1BFD047DC3622253A28F4B0E1FE9973B613ACF1F625273042DAC759BA55)
      (beBytes 8 0x5846592C00E4BF1E) (beBytes 8 0xBF8B92D635FF24F8) ++
    retailCalls exchangeBac.ksMac.1 (beBytes 12 0x887022120C06C22899029000)
      (beBytes 16 0xBC22CBF88018FD6CF9D0FEEEB9389CC6)
      (beBytes 8 0x421FC5C012240BC3) (beBytes 8 0xFA855A5D4C50A8ED) ++
    [⟨.aes128Ecb, beBytes 16 0xF5F0E35C0D7161EE6724EE513A0D9A7F,
        [], beBytes 16 2, beBytes 16 0xD5436998747A942CA35E9BAEC2EA22F3⟩,
      ⟨.aes128Cbc, beBytes 16 0xF5F0E35C0D7161EE6724EE513A0D9A7F,
        beBytes 16 0xD5436998747A942CA35E9BAEC2EA22F3,
        beBytes 16 0x615D5F1F800000000000000000000000,
        beBytes 16 0xC89CF18E1500DB7E6A7D7D9F21E38AB8⟩]
  cmacs := [
    ((.aes128Cbc, beBytes 16 0xFE251C7858B356B24514B3BD5F4297D1, beBytes 48
      0x10CB0000080000000000000000000000097010480000000000000000000000000),
      beBytes 16 0x9F7A0431D2D7981195C99F480B39EF4E),
    ((.aes128Cbc, beBytes 16 0xFE251C7858B356B24514B3BD5F4297D1, beBytes 48
      0x2871101C89CF18E1500DB7E6A7D7D9F21E38AB899029000800000000000000000),
      beBytes 16 0x7358D82073C1BAA8241E9FBA5F0498C0)]

/-- A PACE session with AES-128 keys; the counter starts at zero. -/
def exchangePace : PaceSession where
  ksEnc := ⟨beBytes 16 0xF5F0E35C0D7161EE6724EE513A0D9A7F ++ beBytes 16 0, rfl⟩
  ksMac := ⟨beBytes 16 0xFE251C7858B356B24514B3BD5F4297D1 ++ beBytes 16 0, rfl⟩
  ssc := ⟨beBytes 16 0, rfl⟩
  keyLen := 16

end NfcAdapter
