/-
# The form of protected commands (`bac.c`, `pace.c`)

`append_tlv` writes every length as a single byte, and `ber_length` reads a single byte
only below `80`.  DO'87' holds the padding indicator and the padded data, so a command
can be taken apart again exactly when those stay below that limit, which is well
before the limits on the data the encoders check.
-/
import NfcAdapter.SmChannel

namespace NfcAdapter

open IsoPadding ByteCounter

/-! ## Splitting bytes into objects -/

/-- One object under the length rule of `ber_length`, with nothing after it. -/
def IsTlv (obj : Bytes) : Prop :=
  ∃ h c, bacBerTlvHeader obj = some (h, c) ∧ h + c = obj.length

/-- The objects `bs` consists of, cut off one after the other; `none` where a length
cannot be read or runs past the end. -/
def tlvSplit : ℕ → Bytes → Option (List Bytes)
  | _, [] => some []
  | 0, _ :: _ => none
  | fuel + 1, b :: bs =>
    match bacBerTlvHeader (b :: bs) with
    | none => none
    | some (h, c) =>
      if (b :: bs).length < h + c then none
      else (tlvSplit fuel ((b :: bs).drop (h + c))).map (((b :: bs).take (h + c)) :: ·)

/-- Every object takes at least two bytes, so the length is enough fuel. -/
def tlvObjects (bs : Bytes) : Option (List Bytes) := tlvSplit bs.length bs

theorem IsTlv.ne_nil {obj : Bytes} (h : IsTlv obj) : obj ≠ [] := by
  obtain ⟨hl, c, hd, -⟩ := h
  have hb := bacBerTlvHeader_bounds hd
  rintro rfl
  simp only [List.length_nil] at hb
  omega

/-- Only the length bytes are needed to read a length. -/
theorem berLength_take {p : Bytes} {h c k : ℕ} (hp : berLength p = some (h, c)) (hk : h ≤ k) :
    berLength (p.take k) = some (h, c) := by
  cases p with
  | nil => simp [berLength] at hp
  | cons b rest =>
    obtain ⟨k, rfl⟩ : ∃ j, k = j + 1 := ⟨k - 1, by have := (berLength_pos hp).1; omega⟩
    simp only [berLength, List.take_succ_cons] at hp ⊢
    split at hp
    · next hb => rw [if_pos hb]; exact hp
    · next hb =>
      rw [if_neg hb]
      split at hp
      · next h81 =>
        rw [if_pos h81]
        cases rest with
        | nil => cases hp
        | cons d rest =>
          simp only [Option.some.injEq, Prod.mk.injEq] at hp
          obtain ⟨k, rfl⟩ : ∃ j, k = j + 1 := ⟨k - 1, by omega⟩
          simp [hp]
      · next h81 =>
        rw [if_neg h81]
        split at hp
        · next h82 =>
          rw [if_pos h82]
          rcases rest with - | ⟨d, - | ⟨d', rest⟩⟩
          · cases hp
          · cases hp
          · simp only [Option.some.injEq, Prod.mk.injEq] at hp
            obtain ⟨k, rfl⟩ : ∃ j, k = j + 2 := ⟨k - 2, by omega⟩
            simp [hp]
        · simp at hp

/-- A header that ends where the bytes do describes all of them. -/
theorem isTlv_take {bs : Bytes} {h c : ℕ} (hd : bacBerTlvHeader bs = some (h, c))
    (hle : h + c ≤ bs.length) : IsTlv (bs.take (h + c)) := by
  have hb := bacBerTlvHeader_bounds hd
  have hlen : (bs.take (h + c)).length = h + c := by rw [List.length_take]; omega
  obtain ⟨-, h', hp, rfl⟩ := bacBerTlvHeader_eq_some.mp hd
  refine ⟨1 + h', c, bacBerTlvHeader_eq_some.mpr ⟨by omega, h', ?_, rfl⟩, hlen.symm⟩
  -- the length bytes are among those that were kept
  obtain ⟨b, rest, rfl⟩ : ∃ b rest, bs = b :: rest := by
    cases bs with
    | nil => simp at hb
    | cons b rest => exact ⟨b, rest, rfl⟩
  rw [show 1 + h' + c = (h' + c) + 1 from by omega, List.take_succ_cons, List.tail_cons]
  exact berLength_take hp (Nat.le_add_right _ _)

theorem tlvSplit_nil (fuel : ℕ) (objs : List Bytes) :
    tlvSplit fuel [] = some objs ↔ objs.flatten = [] ∧ ∀ obj ∈ objs, IsTlv obj := by
  rw [show tlvSplit fuel [] = some [] from by cases fuel <;> rfl]
  constructor
  · rintro ⟨rfl⟩
    simp
  · rintro ⟨hflat, hall⟩
    cases objs with
    | nil => rfl
    | cons obj objs =>
      rw [List.flatten_cons, List.append_eq_nil_iff] at hflat
      exact absurd hflat.1 (hall obj List.mem_cons_self).ne_nil

theorem tlvSplit_eq_some_iff (fuel : ℕ) (bs : Bytes) (objs : List Bytes) (hf : bs.length ≤ fuel) :
    tlvSplit fuel bs = some objs ↔ objs.flatten = bs ∧ ∀ obj ∈ objs, IsTlv obj := by
  induction fuel generalizing bs objs with
  | zero =>
    obtain rfl := List.length_eq_zero_iff.mp (Nat.le_zero.mp hf)
    exact tlvSplit_nil 0 objs
  | succ fuel ih =>
    cases bs with
    | nil => exact tlvSplit_nil (fuel + 1) objs
    | cons b bs =>
      rw [tlvSplit]
      constructor
      · intro h
        split at h
        · simp at h
        · next hl c hd =>
          have hb := bacBerTlvHeader_bounds hd
          split at h
          · simp at h
          · next hge =>
            obtain ⟨rest, hrest, rfl⟩ := Option.map_eq_some_iff.mp h
            obtain ⟨hflat, hall⟩ := (ih _ _ (by
              rw [List.length_drop]
              simp only [List.length_cons] at hf ⊢
              omega)).mp hrest
            refine ⟨by rw [List.flatten_cons, hflat, List.take_append_drop], ?_⟩
            rw [List.forall_mem_cons]
            exact ⟨isTlv_take hd (by omega), hall⟩
      · rintro ⟨hflat, hall⟩
        cases objs with
        | nil => simp at hflat
        | cons obj objs =>
          rw [List.forall_mem_cons] at hall
          obtain ⟨⟨hl, c, hd, hlen⟩, hall⟩ := hall
          have hb := bacBerTlvHeader_bounds hd
          rw [List.flatten_cons] at hflat
          have hfit : obj.length + objs.flatten.length = (b :: bs).length := by
            rw [← hflat, List.length_append]
          have hrest : tlvSplit fuel objs.flatten = some objs :=
            (ih _ _ (by simp only [List.length_cons] at hf hfit; omega)).mpr ⟨rfl, hall⟩
          rw [← hflat, bacBerTlvHeader_append hd]
          simp only
          rw [if_neg (by rw [List.length_append]; omega), hlen, List.drop_left, List.take_left,
            hrest]
          rfl

/-- **The split is determined by the bytes.** A list of objects is what `tlvObjects`
returns exactly when it consists of whole objects and spells the bytes. -/
theorem tlvObjects_eq_some_iff (bs : Bytes) (objs : List Bytes) :
    tlvObjects bs = some objs ↔ objs.flatten = bs ∧ ∀ obj ∈ objs, IsTlv obj :=
  tlvSplit_eq_some_iff bs.length bs objs le_rfl

/-! ## A protected command taken apart -/

/-- The bytes of an APDU that its Lc byte counts. -/
def lcBytes (apdu : Bytes) : Bytes := (apdu.drop 5).take (apdu.getD 4 0).toNat

variable {n : ℕ}

/-- **A well-formed protected command.** Four header bytes, Lc, and the trailing Le;
between them DO'87' if there is data, DO'97' if there is an Le, and the eight bytes of
DO'8E', from which the chip gets the data back and the bytes to check the MAC over. -/
def SmCommand.WellFormed (cmd : SmCommand) (S : SmSuite n) (ssc : FixedBytes n) (apdu : Bytes) :
    Prop :=
  apdu.take 4 = cmd.header ∧ apdu.drop (5 + (lcBytes apdu).length) = [0x00] ∧
    ∃ (do87 do97 : Option Bytes) (mac : Bytes),
      tlvObjects (lcBytes apdu) = some (do87.toList ++ do97.toList ++ [0x8E :: 0x08 :: mac]) ∧
      (do87.isSome ↔ cmd.data ≠ []) ∧ (do97.isSome ↔ cmd.le ≥ 0) ∧ mac.length = 8 ∧
      (∀ obj ∈ do87, obj.head? = some 0x87 ∧ smDecrypt S ssc obj = some cmd.data) ∧
      (∀ obj ∈ do97, obj = [0x97, 0x01, cmd.le.toNat.toUInt8]) ∧
      S.mac (ssc.1 ++ isoPad S.blockLen cmd.header ++ do87.getD [] ++ do97.getD []) = some mac

section Form

variable {S : SmSuite n} {ssc ssc' : FixedBytes n} {cmd : SmCommand} {sent : SmSent}

/-- Lc counts the data objects and the MAC as long as they are fewer than 256 bytes. -/
theorem lcBytes_apdu {header do87 do97 mac : Bytes} (hheader : header.length = 4)
    (hmac : mac.length = 8) (hlc : do87.length + do97.length + 10 < 256) :
    lcBytes (header ++ [(do87.length + do97.length + 2 + 8).toUInt8] ++ do87 ++ do97 ++
      appendTlv 0x8E mac ++ [0x00]) = do87 ++ do97 ++ appendTlv 0x8E mac := by
  have hlen : (appendTlv 0x8E mac).length = 10 := by simp [appendTlv, hmac]
  match header, hheader with
  | [a, b, c, d], _ =>
    rw [lcBytes]
    simp only [List.cons_append, List.nil_append, List.drop_succ_cons, List.drop_zero,
      List.getD_cons_succ, List.getD_cons_zero]
    rw [toNat_toUInt8 (by omega)]
    exact List.take_left' (by simp only [List.length_append]; omega)

/-- DO'97' and DO'8E' are short enough for `append_tlv` to write their length. -/
theorem isTlv_appendTlv (tag : UInt8) {content : Bytes} (h : content.length < 0x80) :
    IsTlv (appendTlv tag content) := by
  have hd := bacBerTlvHeader_berTlv tag .short content h []
  rw [List.append_nil] at hd
  exact ⟨_, _, hd, (length_berTlv tag .short content).symm⟩

/-- **A length of `80` or more is not read back.** The decoder takes it for the first
byte of a long form: what it then cuts off holds no ciphertext. -/
theorem smDecrypt_of_long_prefix {tag : UInt8} {enc rest obj tail : Bytes}
    (hlong : 0x80 ≤ enc.length + 1) (hshort : (obj ++ tail).length < 256)
    (happ : obj ++ tail = appendTlv tag (0x01 :: enc) ++ rest) (hobj : IsTlv obj) :
    smDecrypt S ssc obj = none := by
  obtain ⟨h, c, hd, hlen⟩ := hobj
  have hall : enc.length + 3 + rest.length = (obj ++ tail).length := by
    rw [happ]
    simp only [appendTlv, List.length_append, List.length_cons]
  have hd' := bacBerTlvHeader_append hd tail
  rw [happ] at hd'
  obtain ⟨-, h', hp, rfl⟩ := bacBerTlvHeader_eq_some.mp hd'
  have hval : (enc.length + 1).toUInt8.toNat = enc.length + 1 := toNat_toUInt8 (by omega)
  have hge : ¬ (enc.length + 1).toUInt8 < 0x80 := by
    rw [UInt8.lt_iff_toNat_lt, hval]
    exact Nat.not_lt.mpr hlong
  simp only [appendTlv, List.cons_append, List.tail_cons, berLength, List.length_cons] at hp
  rw [if_neg hge] at hp
  split at hp
  · -- `81` and the padding indicator: one content byte, and no ciphertext after it
    simp only [Option.some.injEq, Prod.mk.injEq] at hp
    obtain ⟨rfl, rfl⟩ := hp
    rw [smDecrypt, hd]
    simp
  · split at hp
    · -- `82`, the padding indicator and one more byte: more content than there are bytes
      split at hp
      · next heq =>
        simp only [List.cons.injEq] at heq
        obtain ⟨rfl, -⟩ := heq
        simp only [Option.some.injEq, Prod.mk.injEq] at hp
        have hc : 256 ≤ c := by rw [← hp.2]; exact Nat.le_add_right _ _
        rw [List.length_append] at hshort
        omega
      · simp at hp
    · simp at hp

/-- DO'87' with its parts named. -/
theorem smDo87_eq_some {data do87 : Bytes} (hne : data ≠ []) (h : smDo87 S ssc data = some do87) :
    ∃ enc, S.encrypt ssc (isoPad S.blockLen data) = some enc ∧
      do87 = appendTlv 0x87 (0x01 :: enc) := by
  rw [smDo87, if_pos (List.length_pos_iff.mpr hne), Option.map_eq_some_iff] at h
  obtain ⟨enc, henc, rfl⟩ := h
  exact ⟨enc, henc, rfl⟩

/-- Short data is an object the chip gets it back from; no data is no object. -/
theorem smDo87_object (hS : S.DecryptInverts) {data do87 : Bytes}
    (hshort : data ≠ [] → (isoPad S.blockLen data).length < 0x7F)
    (h : smDo87 S ssc data = some do87) :
    ∃ obj : Option Bytes, obj.getD [] = do87 ∧ (obj.isSome ↔ data ≠ []) ∧
      ∀ o ∈ obj, IsTlv o ∧ o.head? = some 0x87 ∧ smDecrypt S ssc o = some data := by
  by_cases hne : data = []
  · subst hne
    simp only [smDo87, List.length_nil, lt_irrefl, if_false, Option.some.injEq] at h
    exact ⟨none, h, by simp, by simp⟩
  · obtain ⟨enc, henc, rfl⟩ := smDo87_eq_some hne h
    have hlen := (hS _ _ _ henc).1
    have hfit : (0x01 :: enc).length < 0x80 := by
      have := hshort hne
      simp only [List.length_cons]
      omega
    refine ⟨some _, rfl, by simp [hne], ?_⟩
    rintro o ⟨rfl⟩
    exact ⟨isTlv_appendTlv _ hfit, rfl, smDecrypt_berTlv S hS ssc .short henc
      (by rw [Nat.add_comm]; exact hfit)⟩

theorem do97_object (cmd : SmCommand) :
    ∃ obj : Option Bytes, obj.getD [] = cmd.do97 ∧ (obj.isSome ↔ cmd.le ≥ 0) ∧
      ∀ o ∈ obj, IsTlv o ∧ o = [0x97, 0x01, cmd.le.toNat.toUInt8] := by
  rw [SmCommand.do97]
  split_ifs with hle
  · refine ⟨some _, rfl, by simp [hle], ?_⟩
    rintro o ⟨rfl⟩
    exact ⟨isTlv_appendTlv _ (by rw [List.length_singleton]; decide), rfl⟩
  · exact ⟨none, rfl, by simp [hle], by simp⟩

/-- **Which commands are well formed**, for either suite: those without data, and those
whose padded data and padding indicator stay below `80`. -/
theorem smProtect_wellFormed_iff (hS : S.DecryptInverts)
    (hmax : (isoPad S.blockLen cmd.data).length < 240)
    (h : smProtect S ssc cmd = (ssc', some sent)) :
    cmd.WellFormed S ssc' sent.apdu ↔
      (cmd.data ≠ [] → (isoPad S.blockLen cmd.data).length < 0x7F) := by
  obtain ⟨-, -, do87, mac, hdo87, hinput, hmac, hapdu⟩ := smProtect_eq_some h
  rw [hinput] at hmac
  have hmaclen := S.length_mac hmac
  have h97 : cmd.do97.length ≤ 3 := by
    rw [SmCommand.do97]
    split_ifs <;> simp [appendTlv]
  have h87 : do87.length < 243 := by
    by_cases hne : cmd.data = []
    · simp only [hne, smDo87, List.length_nil, lt_irrefl, if_false, Option.some.injEq] at hdo87
      simp [← hdo87]
    · obtain ⟨enc, henc, rfl⟩ := smDo87_eq_some hne hdo87
      have hlen := (hS _ _ _ henc).1
      simp only [appendTlv, List.length_cons]
      omega
  have hlc : lcBytes sent.apdu = do87 ++ cmd.do97 ++ appendTlv 0x8E mac := by
    rw [hapdu]
    exact lcBytes_apdu rfl hmaclen (by omega)
  have h8e : appendTlv 0x8E mac = 0x8E :: 0x08 :: mac := by
    rw [appendTlv, hmaclen]
    rfl
  constructor
  · rintro ⟨-, -, o87, o97, mac', hobjs, h87iff, -, -, hdec, -, -⟩ hne
    -- longer data gives a DO'87' whose length byte is misread
    by_contra hlong
    obtain ⟨hflat, hall⟩ := (tlvObjects_eq_some_iff _ _).mp hobjs
    obtain ⟨obj, rfl⟩ := Option.isSome_iff_exists.mp (h87iff.mpr hne)
    obtain ⟨enc, henc, rfl⟩ := smDo87_eq_some hne hdo87
    have hlen := (hS _ _ _ henc).1
    simp only [Option.toList_some, List.cons_append, List.flatten_cons,
      hlc, List.append_assoc] at hflat
    have hnone : smDecrypt S ssc' obj = none := smDecrypt_of_long_prefix (by omega) (by
      rw [hflat, List.length_append, List.length_append, h8e]
      simp only [List.length_cons, hmaclen]
      omega) hflat (hall obj (by simp))
    rw [(hdec obj rfl).2] at hnone
    cases hnone
  · intro hshort
    obtain ⟨o87, ho87, h87iff, h87all⟩ := smDo87_object hS hshort hdo87
    obtain ⟨o97, ho97, h97iff, h97all⟩ := do97_object cmd
    refine ⟨by rw [hapdu]; rfl, ?_, o87, o97, mac, ?_, h87iff, h97iff, hmaclen,
      fun o ho => (h87all o ho).2, fun o ho => (h97all o ho).2, ?_⟩
    · rw [hlc, hapdu]
      refine List.drop_left' ?_
      simp only [SmCommand.header, List.length_append, List.length_cons, List.length_nil]
      omega
    · rw [tlvObjects_eq_some_iff, hlc, ← ho87, ← ho97, ← h8e]
      constructor
      · cases o87 <;> cases o97 <;> simp
      · intro obj hobj
        simp only [List.mem_append, Option.mem_toList, List.mem_singleton] at hobj
        rcases hobj with (hobj | hobj) | rfl
        · exact (h87all obj hobj).1
        · exact (h97all obj hobj).1
        · exact isTlv_appendTlv _ (by omega)
    · rw [ho87, ho97]
      exact hmac

end Form

/-! ## The two encoders -/

/-- **Protected commands of either pair of functions.** A command that `bac_sm_protect` or
`pace_sm_protect` returns is well formed exactly when its data, padded to a multiple of 8
or 16 bytes, stays below `7F`: up to 119 bytes for BAC and 111 for PACE. -/
theorem protected_command_wellFormed_iff (ssl : OpenSsl) (hssl : ssl.DecryptInverts)
    (cmd : SmCommand) (apdu : Bytes) :
    (∀ session : BacSession, (bacSmProtect ssl session cmd).2 = some apdu →
      (cmd.WellFormed (session.suite ssl) (bacSmProtect ssl session cmd).1.ssc apdu ↔
        cmd.data.length ≤ 119)) ∧
    (∀ session : PaceSession, (paceSmProtect ssl session cmd).2 = some apdu →
      (cmd.WellFormed (session.suite ssl) (paceSmProtect ssl session cmd).1.ssc apdu ↔
        cmd.data.length ≤ 111)) := by
  constructor
  · intro session h
    obtain ⟨sent, hsent, rfl⟩ := Option.map_eq_some_iff.mp h
    have hprotect : smProtect (session.suite ssl) session.ssc cmd
        = ((bacSmProtect ssl session cmd).1.ssc, some sent) := Prod.ext rfl hsent
    have hle : cmd.data.length ≤ 223 := (smProtect_eq_some hprotect).2.1
    have hpad : (isoPad (session.suite ssl).blockLen cmd.data).length
        = cmd.data.length + (8 - cmd.data.length % 8) := length_isoPad 8 (by decide) cmd.data
    rw [smProtect_wellFormed_iff (bacSuite_decryptInverts ssl hssl session) (by omega) hprotect,
      hpad, ← List.length_pos_iff]
    omega
  · intro session h
    obtain ⟨sent, hsent, rfl⟩ := Option.map_eq_some_iff.mp h
    have hprotect : smProtect (session.suite ssl) session.ssc cmd
        = ((paceSmProtect ssl session cmd).1.ssc, some sent) := Prod.ext rfl hsent
    have hle : cmd.data.length ≤ 190 := (smProtect_eq_some hprotect).2.1
    have hpad : (isoPad (session.suite ssl).blockLen cmd.data).length
        = cmd.data.length + (16 - cmd.data.length % 16) := length_isoPad 16 (by decide) cmd.data
    rw [smProtect_wellFormed_iff (paceSuite_decryptInverts ssl hssl session) (by omega) hprotect,
      hpad, ← List.length_pos_iff]
    omega

/-- The select command of `exchangeRecording`, and its read command. -/
theorem protected_command_wellFormed_iff_recorded :
    SmCommand.WellFormed ⟨0x00, 0xA4, 0x02, 0x0C, [0x01, 0x1E], -1⟩
      (exchangeBac.suite exchangeRecording.ssl)
      (bacSmProtect exchangeRecording.ssl exchangeBac
        ⟨0x00, 0xA4, 0x02, 0x0C, [0x01, 0x1E], -1⟩).1.ssc
      (beBytes 27 0x0CA4020C158709016375432908C044F68E08BF8B92D635FF24F800) ∧
    SmCommand.WellFormed ⟨0x00, 0xB0, 0x00, 0x00, [], 4⟩
      (exchangePace.suite exchangeRecording.ssl)
      (paceSmProtect exchangeRecording.ssl exchangePace ⟨0x00, 0xB0, 0x00, 0x00, [], 4⟩).1.ssc
      (beBytes 19 0x0CB000000D9701048E089F7A0431D2D7981100) := by
  have hssl : exchangeRecording.ssl.DecryptInverts :=
    Recording.decryptInverts (by decide +kernel)
  constructor
  · exact ((protected_command_wellFormed_iff exchangeRecording.ssl hssl _ _).1 exchangeBac
      (by decide +kernel)).mpr (by decide)
  · exact ((protected_command_wellFormed_iff exchangeRecording.ssl hssl _ _).2 exchangePace
      (by decide +kernel)).mpr (by decide)

/-! ### One block too many, with recorded values -/

/-- 120 bytes of data, which the limit of 223 admits. -/
def longCommand : SmCommand := ⟨0x00, 0xD6, 0x00, 0x00, (List.range 120).map Nat.toUInt8, -1⟩

/-- That data enciphered: sixteen blocks. -/
def longCiphertext : Bytes :=
  beBytes 32 0x56E42C416B85F2F1B2A387BE2A3F56B489B2D74861B149A62373462EE6A6AB1E ++
  beBytes 32 0x1EB8702003F218C9148D075DCB28433297B1829BC4CA3A5E7D162A6C138DAAB7 ++
  beBytes 32 0x32C9C64A4899766EB9CC2956D417B96A040677FB611A732AECDB8255C316A3C7 ++
  beBytes 32 0x5D62BD64143046D93C368F159064815CE7535FACC7E123049C4A274FCBB9E539

/-- The calls behind `bac_sm_protect` on it, in the session of the recorded handshake. -/
def longRecording : Recording where
  ciphers :=
    [des3Call specimenSession.ksEnc.1 (isoPad 8 longCommand.data) longCiphertext] ++
    retailCalls specimenSession.ksMac.1
      (beBytes 16 0x887022120C06C2270CD6000080000000 ++ [0x87, 0x81, 0x01] ++ longCiphertext)
      (beBytes 32 0xA359A1BFD047DC369D576835302F8E81144468D7844A62C01553CB7FF1647256 ++
        beBytes 32 0xD1B9B930857FADEFDA8D85B1D73D6F95604AB455007683ADE732508EC86F8C2C ++
        beBytes 32 0x39C42220CB4E2D022B237B3CD6734ED12C044E84D3DB0B78CE857A716D3FAA38 ++
        beBytes 32 0x78082555982E7AC444C15D786958A11CC8726050565B640CF6440C65422D2A14 ++
        beBytes 24 0x0FD64DD2F385981A26C33B5B19CB7591EC51623FC3ABDD8F)
      (beBytes 8 0x5C02C9ED4B07A60E) (beBytes 8 0xCFC1838090B183E3)

/-- The command it returns. -/
def longApdu : Bytes :=
  [0x0C, 0xD6, 0x00, 0x00, 0x8D, 0x87, 0x81, 0x01] ++ longCiphertext ++
    beBytes 10 0x8E08CFC1838090B183E3 ++ [0x00]

/-- The length byte `81` of this DO'87' reads as a long form, and what follows is not a
sequence of objects. -/
theorem long_command_does_not_split :
    longRecording.ssl.DecryptInverts ∧
      (bacSmProtect longRecording.ssl specimenSession longCommand).2 = some longApdu ∧
      tlvObjects (lcBytes longApdu) = none ∧
      ¬ longCommand.WellFormed (specimenSession.suite longRecording.ssl)
        (bacSmProtect longRecording.ssl specimenSession longCommand).1.ssc longApdu := by
  have hnone : tlvObjects (lcBytes longApdu) = none := by decide +kernel
  refine ⟨Recording.decryptInverts (by decide +kernel), by decide +kernel, hnone, ?_⟩
  rintro ⟨-, -, do87, do97, mac, hobjs, -⟩
  rw [hnone] at hobjs
  cases hobjs

end NfcAdapter
