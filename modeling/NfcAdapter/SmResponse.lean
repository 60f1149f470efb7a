/-
# Responses of a conforming chip

The response an eMRTD chip sends under secure messaging,
`[DO'87'] || DO'99' || DO'8E' || SW1 SW2`, and what `*_sm_unprotect` makes of it.
The walk of the decoder runs on over the trailing status bytes, so whether a response
is accepted depends on how SW1 SW2 reads as one more tag and length.
-/
import NfcAdapter.SecureMessaging

namespace NfcAdapter

open IsoPadding ByteCounter

variable {n : ℕ}

/-! ## The chip's side -/

/-- DO'87' of a response at the given counter, with its length in form `f`. -/
def smResponseDo87 (S : SmSuite n) (ssc : FixedBytes n) (f : LengthForm) :
    Option Bytes → Option Bytes
  | none => some []
  | some plaintext =>
    (S.encrypt ssc (isoPad S.blockLen plaintext)).bind fun enc =>
      if f.Fits (1 + enc.length) then some (berTlv 0x87 f (0x01 :: enc)) else none

/-- DO'99' with the status word. -/
def smResponseDo99 (sw : UInt16) : Bytes := berTlv 0x99 .short [sw1 sw, sw2 sw]

/-- The bytes the chip MACs for a response. -/
def smResponseInput (ssc : FixedBytes n) (do87 : Bytes) (sw : UInt16) : Bytes :=
  ssc.1 ++ do87 ++ smResponseDo99 sw

/-- The whole response, status bytes included; `none` when a cipher call fails or the
ciphertext does not fit the length form. -/
def smResponse (S : SmSuite n) (ssc : FixedBytes n) (f : LengthForm) (plaintext : Option Bytes)
    (sw : UInt16) : Option Bytes := do
  let do87 ← smResponseDo87 S ssc f plaintext
  let mac ← S.mac (smResponseInput ssc do87 sw)
  return do87 ++ smResponseDo99 sw ++ berTlv 0x8E .short mac ++ [sw1 sw, sw2 sw]

/-! ## Status words -/

@[simp] theorem swOf_sw1_sw2 (sw : UInt16) : swOf (sw1 sw) (sw2 sw) = sw := by
  apply UInt16.toNat_inj.mp
  have h := sw.toNat_lt
  simp only [swOf, sw1, sw2, UInt16.toNat_or, UInt16.toNat_shiftLeft, UInt8.toNat_toUInt16,
    UInt16.toNat_toUInt8, UInt16.toNat_shiftRight]
  have hlow : sw.toNat % 2 ^ 8 < 2 ^ 8 := Nat.mod_lt _ (by decide)
  have h8 : (8 : UInt16).toNat % 16 = 8 := by decide
  rw [h8, Nat.shiftRight_eq_div_pow, Nat.shiftLeft_eq, Nat.mod_eq_of_lt (by omega),
    Nat.mul_comm, Nat.mod_eq_of_lt (by omega), ← Nat.two_pow_add_eq_or_of_lt hlow]
  omega

/-! ## The decoder on a response -/

/-- The walk over two trailing bytes: a zero second byte reads as one more empty object,
anything else as an object that does not fit. -/
theorem smWalk_status (a b : UInt8) (o : SmObjects) :
    smWalk 2 [a, b] o = if b = 0 then some (o.put a [a, 0]) else none := by
  by_cases h0 : b = 0
  · subst h0
    simp [smWalk, bacBerTlvHeader, berLength]
  · have hne : b.toNat ≠ 0 := fun h => h0 (UInt8.toNat_inj.mp (by simpa using h))
    rw [if_neg h0, smWalk]
    simp only [bacBerTlvHeader, berLength, List.length_cons, List.length_nil, List.tail_cons]
    split_ifs <;> simp_all

/-- The objects of a response, before the status bytes are looked at. -/
theorem smWalk_response (f : LengthForm) (do87 : Option Bytes) (sw : UInt16) (mac tail : Bytes)
    (hmac : mac.length = 8) (hfit : ∀ content, do87 = some content → f.Fits content.length) :
    smWalk ((do87.elim [] (berTlv 0x87 f)) ++ smResponseDo99 sw ++ berTlv 0x8E .short mac
        ++ tail).length
      ((do87.elim [] (berTlv 0x87 f)) ++ smResponseDo99 sw ++ berTlv 0x8E .short mac ++ tail)
      ⟨none, none, none⟩
      = smWalk tail.length tail ⟨do87.map (berTlv 0x87 f), some (smResponseDo99 sw),
          some (berTlv 0x8E .short mac)⟩ := by
  have h99 : LengthForm.short.Fits ([sw1 sw, sw2 sw] : Bytes).length := by
    show 2 < 0x80
    decide
  have h8e : LengthForm.short.Fits mac.length := by rw [hmac]; decide
  cases do87 with
  | none =>
    simp only [Option.elim_none, List.nil_append, List.append_assoc, Option.map_none]
    rw [smResponseDo99, smWalk_berTlv _ _ _ _ _ h99, smWalk_berTlv _ _ _ _ _ h8e]
    rfl
  | some content =>
    simp only [Option.elim_some, List.append_assoc, Option.map_some]
    rw [smResponseDo99, smWalk_berTlv _ _ _ _ _ (hfit content rfl), smWalk_berTlv _ _ _ _ _ h99,
      smWalk_berTlv _ _ _ _ _ h8e]
    rfl

/-- The status bytes that leave the objects of the response alone. -/
def BenignStatus (sw : UInt16) : Prop :=
  sw2 sw = 0 ∧ sw1 sw ≠ 0x87 ∧ sw1 sw ≠ 0x99 ∧ sw1 sw ≠ 0x8E

instance (sw : UInt16) : Decidable (BenignStatus sw) := by
  unfold BenignStatus
  infer_instance

/-- **What the decoder parses.** Benign status bytes parse to the objects of the
response, any others are refused or hide one of them. -/
theorem smParse_response (f : LengthForm) (do87 : Option Bytes) (sw : UInt16) (mac : Bytes)
    (hmac : mac.length = 8) (hfit : ∀ content, do87 = some content → f.Fits content.length) :
    smParse ((do87.elim [] (berTlv 0x87 f)) ++ smResponseDo99 sw ++ berTlv 0x8E .short mac
        ++ [sw1 sw, sw2 sw])
      = if BenignStatus sw then
          some ⟨do87.map (berTlv 0x87 f), smResponseDo99 sw, berTlv 0x8E .short mac⟩
        else if sw2 sw = 0 ∧ sw1 sw = 0x87 then
          some ⟨some [0x87, 0], smResponseDo99 sw, berTlv 0x8E .short mac⟩
        else none := by
  have hlen99 : (smResponseDo99 sw).length = 4 := rfl
  have hlen8e : (berTlv 0x8E .short mac).length = 10 := by
    rw [length_berTlv, hmac]
    rfl
  have hlen : ¬ ((do87.elim [] (berTlv 0x87 f)) ++ smResponseDo99 sw ++ berTlv 0x8E .short mac
      ++ [sw1 sw, sw2 sw]).length < 2 := by
    rw [List.length_append, List.length_cons, List.length_singleton]
    omega
  rw [smParse, if_neg hlen, smWalk_response f do87 sw mac _ hmac hfit, List.length_cons,
    List.length_singleton, smWalk_status]
  -- the walk takes the status bytes for one more object, empty if SW2 is zero
  by_cases h2 : sw2 sw = 0
  · rw [if_pos h2]
    by_cases h87 : sw1 sw = 0x87
    · simp [BenignStatus, SmObjects.put, h2, h87, hlen99, hlen8e]
    · by_cases h99 : sw1 sw = 0x99
      · simp [BenignStatus, SmObjects.put, h2, h99]
      · by_cases h8e : sw1 sw = 0x8E
        · simp [BenignStatus, SmObjects.put, h2, h8e]
        · simp [BenignStatus, SmObjects.put, h2, h87, h99, h8e, hlen99, hlen8e]
  · simp [BenignStatus, h2]

/-- The byte right after a tag and its length bytes. -/
theorem getElem?_after_header (t x : UInt8) (l rest : Bytes) :
    (t :: (l ++ x :: rest))[1 + l.length]? = some x := by
  rw [Nat.add_comm, List.getElem?_cons_succ, List.getElem?_append_right le_rfl, Nat.sub_self]
  rfl

/-- What follows that byte. -/
theorem drop_after_header (t x : UInt8) (l rest : Bytes) :
    (t :: (l ++ x :: rest)).drop (1 + l.length + 1) = rest := by
  rw [List.drop_succ_cons, Nat.add_comm, List.drop_append]
  simp

/-- Deciphering the chip's DO'87' gives back its plaintext. -/
theorem smDecrypt_berTlv (S : SmSuite n) (hS : S.DecryptInverts) (ssc : FixedBytes n)
    (f : LengthForm) {plaintext enc : Bytes}
    (henc : S.encrypt ssc (isoPad S.blockLen plaintext) = some enc)
    (hfit : f.Fits (1 + enc.length)) :
    smDecrypt S ssc (berTlv 0x87 f (0x01 :: enc)) = some plaintext := by
  obtain ⟨hlen, hdec⟩ := hS ssc _ enc henc
  have hpad := length_isoPad S.blockLen S.blockLen_pos plaintext
  have hmod := Nat.mod_lt plaintext.length S.blockLen_pos
  -- the padded plaintext is a whole number of blocks, and so is its encipherment
  have hdvd : enc.length % S.blockLen = 0 := by
    rw [hlen]
    exact Nat.mod_eq_zero_of_dvd (dvd_length_isoPad S.blockLen S.blockLen_pos plaintext)
  have hfit' : f.Fits (0x01 :: enc : Bytes).length := by
    rw [List.length_cons, Nat.add_comm]
    exact hfit
  have hhead := bacBerTlvHeader_berTlv 0x87 f (0x01 :: enc) hfit' []
  rw [List.append_nil] at hhead
  have hidx : (berTlv 0x87 f (0x01 :: enc))[1 + (f.encode (0x01 :: enc : Bytes).length).length]?
      = some 0x01 := getElem?_after_header _ _ _ _
  have hdrop : (berTlv 0x87 f (0x01 :: enc)).drop
      (1 + (f.encode (0x01 :: enc : Bytes).length).length + 1) = enc :=
    drop_after_header _ _ _ _
  rw [smDecrypt, hhead]
  simp only [hidx, hdrop]
  rw [show (0x01 :: enc : Bytes).length = enc.length + 1 from rfl, Nat.add_sub_cancel,
    List.take_length, hdec, if_neg (by omega), if_neg (by simp), if_neg (by omega)]
  exact isoUnpad_isoPad S.blockLen plaintext

/-- Opening the objects of a response at the counter it was built for. -/
theorem smOpen_response (S : SmSuite n) (hS : S.DecryptInverts) (ssc : FixedBytes n)
    (f : LengthForm) {plaintext : Option Bytes} {do87 : Bytes} {sw : UInt16} {mac : Bytes}
    (hdo87 : smResponseDo87 S ssc f plaintext = some do87)
    (hmac : S.mac (smResponseInput ssc do87 sw) = some mac) (p : SmParsed)
    (hp87 : p.do87.getD [] = do87) (hnil : ∀ obj, p.do87 = some obj → obj ≠ [])
    (hp99 : p.do99 = smResponseDo99 sw) (hptag : p.tag = mac) :
    smOpen S ssc p = some (plaintext, sw) := by
  have hin : p.macInput ssc = smResponseInput ssc do87 sw := by
    rw [SmParsed.macInput, hp87, hp99, smResponseInput]
  have hsw : p.sw = sw := by
    rw [SmParsed.sw, hp99]
    exact swOf_sw1_sw2 sw
  have heq : bytesEqual mac p.tag 8 = true := by
    rw [hptag]
    exact (bytesEqual_iff (S.length_mac hmac) (S.length_mac hmac)).mpr rfl
  rw [smOpen, hin, hmac]
  simp only [heq, if_true, hsw]
  cases plaintext with
  | none =>
    simp only [smResponseDo87, Option.some.injEq] at hdo87
    cases hobj : p.do87 with
    | none => rfl
    | some obj =>
      rw [hobj, Option.getD_some, ← hdo87] at hp87
      exact absurd hp87 (hnil obj hobj)
  | some plaintext =>
    obtain ⟨enc, henc, hif⟩ := Option.bind_eq_some_iff.mp hdo87
    split at hif
    · next hfit =>
      simp only [Option.some.injEq] at hif
      cases hobj : p.do87 with
      | none =>
        rw [hobj, Option.getD_none, ← hif] at hp87
        simp [berTlv] at hp87
      | some obj =>
        rw [hobj, Option.getD_some, ← hif] at hp87
        simp only [hp87, smDecrypt_berTlv S hS ssc f henc hfit, Option.map_some]
    · simp at hif

/-- An empty DO'87' never opens. -/
theorem smOpen_empty_do87 (S : SmSuite n) (ssc : FixedBytes n) (p : SmParsed)
    (h : p.do87 = some [0x87, 0]) : smOpen S ssc p = none := by
  have hdec : smDecrypt S ssc [0x87, 0] = none := by
    simp [smDecrypt, bacBerTlvHeader, berLength]
  unfold smOpen
  split
  · rfl
  · split_ifs
    · rw [h]
      show Option.map _ (smDecrypt S ssc [0x87, 0]) = none
      rw [hdec]
      rfl
    · rfl

/-- The response taken apart: the objects `smParse_response` speaks of. -/
theorem smResponse_eq_some {S : SmSuite n} {ssc : FixedBytes n} {f : LengthForm}
    {plaintext : Option Bytes} {sw : UInt16} {resp : Bytes}
    (h : smResponse S ssc f plaintext sw = some resp) :
    ∃ (do87 : Bytes) (mac : Bytes) (content : Option Bytes),
      smResponseDo87 S ssc f plaintext = some do87 ∧
      S.mac (smResponseInput ssc do87 sw) = some mac ∧
      do87 = content.elim [] (berTlv 0x87 f) ∧
      (∀ c, content = some c → f.Fits c.length) ∧
      resp = do87 ++ smResponseDo99 sw ++ berTlv 0x8E .short mac ++ [sw1 sw, sw2 sw] := by
  simp only [smResponse, Option.bind_eq_bind, Option.bind_eq_some_iff, Option.pure_def,
    Option.some.injEq] at h
  obtain ⟨do87, hdo87, mac, hmac, hresp⟩ := h
  cases plaintext with
  | none =>
    simp only [smResponseDo87, Option.some.injEq] at hdo87
    exact ⟨do87, mac, none, by simp [smResponseDo87, hdo87], hmac, hdo87.symm,
      by simp, hresp.symm⟩
  | some plaintext =>
    have hdo87' := hdo87
    obtain ⟨enc, henc, hif⟩ := Option.bind_eq_some_iff.mp hdo87
    split at hif
    · next hfit =>
      simp only [Option.some.injEq] at hif
      refine ⟨do87, mac, some (0x01 :: enc), hdo87', hmac, hif.symm, ?_, hresp.symm⟩
      intro c hc
      simp only [Option.some.injEq] at hc
      rw [← hc, List.length_cons, Nat.add_comm]
      exact hfit
    · simp at hif

/-- **Acceptance, exactly.** On a conforming chip's response the decoder advances the
counter and returns the chip's plaintext and status word when the status bytes are
benign, and FALSE otherwise. -/
theorem smUnprotect_smResponse (S : SmSuite n) (hS : S.DecryptInverts) (ssc : FixedBytes n)
    (f : LengthForm) {plaintext : Option Bytes} {sw : UInt16} {resp : Bytes}
    (h : smResponse S (sscIncrement ssc) f plaintext sw = some resp) :
    (smUnprotect S ssc resp).2 = if BenignStatus sw then some (plaintext, sw) else none := by
  obtain ⟨do87, mac, content, hdo87, hmac, hcontent, hfit, rfl⟩ := smResponse_eq_some h
  have hlen := S.length_mac hmac
  have hparse := smParse_response f content sw mac hlen hfit
  rw [← hcontent] at hparse
  rw [smUnprotect, hparse]
  by_cases hb : BenignStatus sw
  · simp only [hb, if_true]
    apply smOpen_response S hS (sscIncrement ssc) f hdo87 hmac
    · rw [hcontent]
      cases content <;> rfl
    · intro obj hobj
      obtain ⟨c, -, rfl⟩ := Option.map_eq_some_iff.mp hobj
      simp [berTlv]
    · rfl
    · rfl
  · simp only [hb, if_false]
    -- SW1 87 is taken for an empty DO87, which hides the real one
    split_ifs
    · exact smOpen_empty_do87 S _ _ rfl
    · rfl

/-- With benign status bytes the counter has advanced by one as well. -/
theorem smUnprotect_smResponse_ssc (S : SmSuite n) (ssc : FixedBytes n) (f : LengthForm)
    {plaintext : Option Bytes} {sw : UInt16} {resp : Bytes}
    (h : smResponse S (sscIncrement ssc) f plaintext sw = some resp) (hb : BenignStatus sw) :
    (smUnprotect S ssc resp).1 = sscIncrement ssc := by
  obtain ⟨do87, mac, content, -, hmac, hcontent, hfit, rfl⟩ := smResponse_eq_some h
  have hparse := smParse_response f content sw mac (S.length_mac hmac) hfit
  rw [← hcontent] at hparse
  rw [smUnprotect, hparse, if_pos hb]

end NfcAdapter
