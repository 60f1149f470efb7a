/-
# A document read over PACE

The whole read of a document by a reader that knows its CAN: EF.CardAccess is read in
chunks and names the protocol and the curve, four rounds give both sides one session, and
the application is selected inside it.  From there the read is the one over BAC.
-/
import NfcAdapter.EmrtdBac
import NfcAdapter.PaceSelection

namespace NfcAdapter

open ByteCounter Runs

variable {G P : Type} {env : PassportEnv G P}

/-! ## EF.CardAccess -/

/-- A document that offers PACE: its EF.CardAccess lists `infos`, no longer than the reader
takes, and the first usable entry among eight names the chip's protocol and `curve`. -/
structure Document.Offers (doc : Document) (infos : List CardAccessInfo) (curve : Curve) :
    Prop where
  cardAccess : doc.cardAccess = cardAccessFile infos
  bounded : doc.cardAccess.length ≤ efCardAccessMaxLen
  entry : ∃ parameterId, pickEntry ((infos.filterMap CardAccessInfo.entry).take 8)
    = some (⟨doc.pace.oid, parameterId⟩, curve)

section CardAccess

variable {doc : Document} {infos : List CardAccessInfo} {curve : Curve}

/-- The file declares its own length, and its header is in the first chunk. -/
theorem Document.Offers.header (h : doc.Offers infos curve) {m : ℕ}
    (hm : 4 ≤ m ∨ doc.cardAccess.length ≤ m) :
    ∃ hl cl, bacBerTlvHeader (doc.cardAccess.take m) = some (hl, cl) ∧
      hl + cl = doc.cardAccess.length := by
  have hbound := h.bounded
  rw [efCardAccessMaxLen] at hbound
  have hlen := length_der 0x31 (infos.flatMap CardAccessInfo.encode)
  have hpos := derHeaderLen_pos (infos.flatMap CardAccessInfo.encode).length
  rw [h.cardAccess, cardAccessFile] at hbound hm ⊢
  have hheader := @bacBerTlvHeader_der 0x31 (infos.flatMap CardAccessInfo.encode) (by omega) []
  rw [List.append_nil] at hheader
  refine ⟨_, _, ?_, hlen.symm⟩
  by_cases hwhole : (der 0x31 (infos.flatMap CardAccessInfo.encode)).length ≤ m
  · rw [List.take_of_length_le hwhole]
    exact hheader
  · -- the header does not reach behind the first four bytes
    have hfour := bacBerTlvHeader_take_four
      (show 4 ≤ (der 0x31 (infos.flatMap CardAccessInfo.encode)).length by omega)
    rw [hheader] at hfour
    have := bacBerTlvHeader_append hfour
      (((der 0x31 (infos.flatMap CardAccessInfo.encode)).drop 4).take (m - 4))
    rwa [← List.take_add, show 4 + (m - 4) = m from by omega] at this

/-- A chunk of EF.CardAccess, by its offset. -/
theorem readCardAccess_chunk (doc : Document) {offset le : ℕ} (hoffset : offset < 32768)
    (hlt : offset < doc.cardAccess.length) (hle : 0 < le) (hle' : le < 256) :
    doc.readCardAccess [0x00, 0xB0, (offset / 256).toUInt8, offset.toUInt8, le.toUInt8]
      = some ((doc.cardAccess.drop offset).take le) := by
  have hp1 : (offset / 256).toUInt8.toNat = offset / 256 := toNat_toUInt8 (by omega)
  have hp2 : offset.toUInt8.toNat = offset % 256 := rfl
  have hval : le.toUInt8.toNat = le := toNat_toUInt8 hle'
  have hne : le.toUInt8 ≠ 0 := by
    intro hzero
    rw [hzero] at hval
    exact absurd hval.symm hle.ne'
  show fileBytes doc.cardAccess ((offset / 256).toUInt8.toNat * 256 + offset.toUInt8.toNat)
    (if le.toUInt8 = 0 then 256 else le.toUInt8.toNat) = _
  rw [if_neg hne, hp1, hp2, hval, show offset / 256 * 256 + offset % 256 = offset from by omega,
    fileBytes, if_pos hlt]

/-- The first chunk, up to 256 bytes. -/
theorem readCardAccess_first (doc : Document) (hpos : 0 < doc.cardAccess.length) :
    doc.readCardAccess [0x00, 0xB0, 0x00, 0x00, 0x00] = some (doc.cardAccess.take 256) := by
  show fileBytes doc.cardAccess 0 256 = _
  rw [fileBytes, if_pos hpos, List.drop_zero]

end CardAccess

/-- What a PACE read of the document has from its start. -/
structure PaceRead (doc : Document) (readPhoto : Bool) (read : PassportRead G) : Prop where
  usePace : read.usePace = true
  paceK : read.paceK = doc.pace.password
  readPhoto : read.readPhoto = readPhoto
  dg2 : read.dg2 = none

section Pace

variable [AddCommGroup P] {E : CurveGroup P} {doc : Document} {readPhoto : Bool}
  {infos : List CardAccessInfo} {curve : Curve} {named : G} {d : Dialogue G P}

/-- The read has `len` bytes of EF.CardAccess and waits for the chunk behind them. -/
structure CardAccessAt (doc : Document) (readPhoto : Bool) (len chunk : ℕ) (d : Dialogue G P) :
    Prop where
  status : ∃ apdu, d.reader.status = .waiting .efCardAccessRest ⟨apdu, none⟩ ∧
    apdu ≠ doc.mseSetAt ∧
    doc.readCardAccess apdu = some ((doc.cardAccess.drop len).take chunk)
  chip : d.chip = .cardAccess
  read : PaceRead doc readPhoto d.reader.read
  data : d.reader.read.cardAccess = doc.cardAccess.take len
  total : d.reader.read.cardAccessTotalLen = if len = 0 then 0 else doc.cardAccess.length

/-- The read has chosen the document's protocol and curve and asks for it. -/
structure Negotiated (E : CurveGroup P) (named : G) (env : PassportEnv G P) (doc : Document)
    (readPhoto : Bool) (d : Dialogue G P) : Prop where
  status : d.reader.status = .waiting .paceMseSetAt ⟨doc.mseSetAt, none⟩
  chip : d.chip = .cardAccess
  read : PaceRead doc readPhoto d.reader.read
  pace : ∃ pace, d.reader.read.pace = some pace ∧ pace.Fits doc.pace E named ∧
    pace.kpi = paceKdf env.ssl doc.pace.password 3 doc.pace.cipher.keyLen

/-- The loop over EF.CardAccess has `len` bytes and `k` rounds to go. -/
def InCardAccess (E : CurveGroup P) (named : G) (env : PassportEnv G P) (doc : Document)
    (readPhoto : Bool) (k : ℕ) (d : Dialogue G P) : Prop :=
  ∃ len, 0 < len ∧ len ≤ doc.cardAccess.length ∧ roundsLeft doc.cardAccess.length len = k ∧
    if len = doc.cardAccess.length then Negotiated E named env doc readPhoto d
    else CardAccessAt doc readPhoto len (min (doc.cardAccess.length - len) 255) d

/-- The complete file selects the document's protocol. -/
theorem negotiated_of_complete {mapped : P → G} (hoffers : doc.Offers infos curve)
    (hE : env.ec.Implements curve E named mapped) {read : PassportRead G}
    (hread : PaceRead doc readPhoto read) (hdata : read.cardAccess = doc.cardAccess) :
    Negotiated E named env doc readPhoto
      ⟨⟨(passportCardAccessDone env read).1, (passportCardAccessDone env read).2⟩,
        .cardAccess⟩ := by
  obtain ⟨parameterId, hpick⟩ := hoffers.entry
  have hbound := hoffers.bounded
  rw [efCardAccessMaxLen, hoffers.cardAccess] at hbound
  have hparse : paceParseCardAccess read.cardAccess 8
      = some ((infos.filterMap CardAccessInfo.entry).take 8) := by
    rw [hdata, hoffers.cardAccess]
    exact paceParseCardAccess_file infos 8 (by omega)
  have hoid : paceOidSupported doc.pace.oid = true := pickEntry_supported hpick
  obtain ⟨pace, hnew, hfits, hkpi⟩ := paceExchangeNew_honest env.ssl hE hoid
  have hchoose : passportPickPaceEntry env read.paceK
      ((infos.filterMap CardAccessInfo.entry).take 8) = .ok (pace, doc.pace.oid) := by
    rw [passportPickPaceEntry, hpick]
    simp only [hread.paceK, hnew]
  have hmse : paceBuildMseSetAt doc.pace.oid true = doc.mseSetAt := by
    have hlen : (shortTlv 0x80 doc.pace.oid ++ shortTlv 0x83 [0x02]).length
        = 2 + doc.pace.oid.length + 3 := by
      simp only [shortTlv, List.length_append, List.length_cons, List.length_nil]
    rw [Document.mseSetAt]
    simp only [hlen]
    simp [paceBuildMseSetAt, shortTlv]
  have hdone : passportCardAccessDone env read
      = passportTransceive { read with pace := some pace, paceSelectedOid := doc.pace.oid }
          doc.mseSetAt .paceMseSetAt := by
    rw [passportCardAccessDone, hparse]
    simp only [hchoose, hmse]
  rw [hdone]
  exact ⟨rfl, rfl, ⟨hread.usePace, hread.paceK, hread.readPhoto, hread.dg2⟩, pace, rfl, hfits,
    hkpi⟩

/-- **One more chunk of EF.CardAccess.** -/
theorem inCardAccess_of_store {mapped : P → G} (hoffers : doc.Offers infos curve)
    (hE : env.ec.Implements curve E named mapped) (read : PassportRead G)
    (hread : PaceRead doc readPhoto read) {len : ℕ} (hpos : 0 < len)
    (hlen : len ≤ doc.cardAccess.length) (hdata : read.cardAccess = doc.cardAccess.take len)
    (htotal : read.cardAccessTotalLen = doc.cardAccess.length) :
    InCardAccess E named env doc readPhoto (roundsLeft doc.cardAccess.length len)
      ⟨⟨(passportCardAccessMore env read).1, (passportCardAccessMore env read).2⟩,
        .cardAccess⟩ := by
  have hbound := hoffers.bounded
  rw [efCardAccessMaxLen] at hbound
  have hsize : read.cardAccess.length = len := by
    rw [hdata, List.length_take]
    omega
  refine ⟨len, hpos, hlen, rfl, ?_⟩
  split_ifs with hend
  · have hmore : passportCardAccessMore env read = passportCardAccessDone env read := by
      rw [passportCardAccessMore, if_neg (by omega)]
    rw [hmore]
    exact negotiated_of_complete hoffers hE hread
      (by rw [hdata, hend, List.take_length])
  · have hmore : passportCardAccessMore env read
        = (read, .waiting .efCardAccessRest ⟨[0x00, 0xB0, (len / 256).toUInt8, len.toUInt8,
            (min (doc.cardAccess.length - len) 255).toUInt8], none⟩) := by
      rw [passportCardAccessMore, if_pos (by omega)]
      simp only [hsize, htotal]
      rfl
    rw [hmore]
    refine ⟨⟨_, rfl, ?_, readCardAccess_chunk doc (by omega) (by omega) (by omega) (by omega)⟩,
      rfl, hread, hdata, by rw [if_neg hpos.ne']; exact htotal⟩
    intro hmse
    cases congrArg (fun apdu : Bytes => apdu.getD 1 0) hmse

/-- **One round of the loop over EF.CardAccess.** -/
theorem CardAccessAt.round {mapped : P → G} (hoffers : doc.Offers infos curve)
    (hE : env.ec.Implements curve E named mapped) {len chunk : ℕ}
    (h : CardAccessAt doc readPhoto len chunk d) (hlen : len < doc.cardAccess.length)
    (hchunk : 0 < chunk) (hfirst : len = 0 → 4 ≤ chunk) (draw : Draws) :
    InCardAccess E named env doc readPhoto (roundsLeft doc.cardAccess.length
      (min (len + chunk) doc.cardAccess.length)) (d.step env E doc draw) := by
  obtain ⟨apdu, hstatus, hmse, hreadCa⟩ := h.status
  have hchip : doc.respond env.ssl E draw d.chip apdu
      = (.cardAccess, (doc.cardAccess.drop len).take chunk ++ swOk) := by
    rw [h.chip, Document.respond, if_neg hmse, hreadCa]
  have hbound := hoffers.bounded
  rw [efCardAccessMaxLen] at hbound
  have hbytes : ((doc.cardAccess.drop len).take chunk).length
      = min chunk (doc.cardAccess.length - len) := by
    rw [List.length_take, List.length_drop]
  have hok : ¬ (((doc.cardAccess.drop len).take chunk ++ swOk).length < 3 ∨
      ((doc.cardAccess.drop len).take chunk ++ swOk).drop
        (((doc.cardAccess.drop len).take chunk ++ swOk).length - 2) ≠ [0x90, 0x00]) := by
    have hsw : swOk.length = 2 := rfl
    rw [List.length_append, hsw, Nat.add_sub_cancel, List.drop_left, not_or, not_not]
    exact ⟨by omega, rfl⟩
  have hdata : ((doc.cardAccess.drop len).take chunk ++ swOk).take
      (((doc.cardAccess.drop len).take chunk ++ swOk).length - 2)
        = (doc.cardAccess.drop len).take chunk := by
    have hsw : swOk.length = 2 := rfl
    rw [List.length_append, hsw, Nat.add_sub_cancel, List.take_left]
  have hjoined : doc.cardAccess.take len ++ (doc.cardAccess.drop len).take chunk
      = doc.cardAccess.take (min (len + chunk) doc.cardAccess.length) := by
    rw [← List.take_add, ← List.take_eq_take_min]
  have happ : byteArrayAppend d.reader.read.cardAccess ((doc.cardAccess.drop len).take chunk)
      = some (doc.cardAccess.take (min (len + chunk) doc.cardAccess.length)) := by
    rw [h.data, byteArrayAppend, if_pos (by rw [hbytes, List.length_take]; omega), hjoined]
  have hready : passportEfCardAccessRestReady env d.reader.read
        ((doc.cardAccess.drop len).take chunk ++ swOk)
      = passportCardAccessMore env { d.reader.read with
          cardAccess := doc.cardAccess.take (min (len + chunk) doc.cardAccess.length)
          cardAccessTotalLen := doc.cardAccess.length } := by
    rw [passportEfCardAccessRestReady, if_neg hok, hdata, happ]
    simp only [h.total]
    by_cases hzero : len = 0
    · obtain ⟨hl, cl, hheader, hsum⟩ :=
        hoffers.header (m := min (len + chunk) doc.cardAccess.length) (by omega)
      simp only [hzero, if_true] at hheader ⊢
      rw [hheader]
      simp only [hsum, efCardAccessMaxLen, if_neg (show ¬ doc.cardAccess.length > 2048 by omega)]
    · simp only [hzero, if_false, if_neg (show ¬ doc.cardAccess.length = 0 by omega)]
  rw [Dialogue.step_of_waiting (by decide) hstatus hchip]
  show InCardAccess E named env doc readPhoto _ ⟨⟨(passportEfCardAccessRestReady env
    d.reader.read ((doc.cardAccess.drop len).take chunk ++ swOk)).1,
    (passportEfCardAccessRestReady env d.reader.read
      ((doc.cardAccess.drop len).take chunk ++ swOk)).2⟩, _⟩
  have hpos : 0 < min (len + chunk) doc.cardAccess.length := by omega
  have hle : min (len + chunk) doc.cardAccess.length ≤ doc.cardAccess.length := by omega
  rw [hready]
  exact inCardAccess_of_store hoffers hE
    { d.reader.read with
      cardAccess := doc.cardAccess.take (min (len + chunk) doc.cardAccess.length)
      cardAccessTotalLen := doc.cardAccess.length }
    ⟨h.read.usePace, h.read.paceK, h.read.readPhoto, h.read.dg2⟩ hpos hle rfl rfl

/-- **The file is read to its end**, and the reader asks for the document's protocol. -/
theorem cardAccess_leadsTo {C : Dialogue G P → Draws → Prop} {mapped : P → G}
    (hoffers : doc.Offers infos curve) (hE : env.ec.Implements curve E named mapped)
    (h : CardAccessAt doc readPhoto 0 256 d) (hpos : 0 < doc.cardAccess.length) :
    LeadsTo C (Dialogue.step env E doc)
      (1 + roundsLeft doc.cardAccess.length (min 256 doc.cardAccess.length))
      (Negotiated E named env doc readPhoto) d := by
  have hfirst : LeadsTo C (Dialogue.step env E doc) 1 (InCardAccess E named env doc readPhoto
      (roundsLeft doc.cardAccess.length (min 256 doc.cardAccess.length))) d := by
    refine LeadsTo.one fun draw _ => ?_
    have := h.round hoffers hE hpos (by decide) (fun _ => by decide) draw
    rwa [Nat.zero_add] at this
  refine (hfirst.trans fun _ ht => LeadsTo.rounds (InCardAccess E named env doc readPhoto)
    ?_ ht).imp ?_
  · rintro k t draw ⟨len, hlen, hle, hk, hstage⟩ -
    have hlt : len < doc.cardAccess.length := by
      rw [roundsLeft] at hk
      omega
    rw [if_neg hlt.ne] at hstage
    have hround := hstage.round hoffers hE hlt (by omega) (by omega) draw
    rwa [show roundsLeft doc.cardAccess.length (min (len
      + min (doc.cardAccess.length - len) 255) doc.cardAccess.length) = k from by
        rw [roundsLeft] at hk ⊢; omega] at hround
  · rintro t ⟨len, hlen, hle, hzero, hstage⟩
    rwa [if_pos (by rw [roundsLeft] at hzero; omega)] at hstage

/-! ## The rounds -/

/-- The reader waits for the nonce. -/
structure AwaitsNonce (E : CurveGroup P) (named : G) (env : PassportEnv G P) (doc : Document)
    (readPhoto : Bool) (d : Dialogue G P) : Prop where
  status : d.reader.status = .waiting .paceGetNonce ⟨paceBuildGetNonce, none⟩
  chip : d.chip = .paceSet
  read : PaceRead doc readPhoto d.reader.read
  pace : ∃ pace, d.reader.read.pace = some pace ∧ pace.Fits doc.pace E named ∧
    pace.kpi = paceKdf env.ssl doc.pace.password 3 doc.pace.cipher.keyLen

/-- The reader has sent its mapping key, `r1` times the generator. -/
structure SentMapKey (E : CurveGroup P) (named : G) (doc : Document) (readPhoto : Bool) (r1 : ℕ)
    (d : Dialogue G P) : Prop where
  status : ∃ apdu, d.reader.status = .waiting .paceMapNonce ⟨apdu, none⟩ ∧
    (receivedObject 0x81 apdu).bind E.decode = some (r1 • E.generator)
  chip : d.chip = .nonceSent
  read : PaceRead doc readPhoto d.reader.read
  pace : ∃ pace, d.reader.read.pace = some pace ∧ pace.Fits doc.pace E named ∧
    pace.nonceS = doc.pace.nonce ∧ pace.priv1 = some r1

/-- The reader has sent its key over the mapped generator. -/
structure SentAgreeKey (E : CurveGroup P) (named : G) (mapped : P → G) (doc : Document)
    (readPhoto : Bool) (r1 r2 : ℕ) (d : Dialogue G P) : Prop where
  status : ∃ apdu, d.reader.status = .waiting .paceKeyAgreement ⟨apdu, none⟩ ∧
    (receivedObject 0x83 apdu).bind E.decode
      = some (r2 • doc.pace.mapped E (r1 • E.generator))
  chip : d.chip = .mapped (r1 • E.generator)
  read : PaceRead doc readPhoto d.reader.read
  pace : ∃ pace, d.reader.read.pace = some pace ∧ pace.Fits doc.pace E named ∧
    pace.group2 = some (mapped (doc.pace.mapped E (r1 • E.generator))) ∧
    pace.priv2 = some r2 ∧
    pace.myPub2 = E.encode (r2 • doc.pace.mapped E (r1 • E.generator))

/-- The reader has sent its token. -/
structure SentToken (E : CurveGroup P) (named : G) (env : PassportEnv G P) (doc : Document)
    (readPhoto : Bool) (r1 r2 : ℕ) (d : Dialogue G P) : Prop where
  status : ∃ apdu expected, d.reader.status = .waiting .paceMutualAuth ⟨apdu, none⟩ ∧
    receivedObject 0x85 apdu = some expected ∧
    doc.pace.token env.ssl E (doc.pace.secret E (r2 • doc.pace.mapped E (r1 • E.generator)))
      (doc.pace.pub2 E (r1 • E.generator)) = some expected
  chip : d.chip = .agreed (r1 • E.generator) (r2 • doc.pace.mapped E (r1 • E.generator))
  read : PaceRead doc readPhoto d.reader.read
  pace : ∃ pace, d.reader.read.pace = some pace ∧ pace.Fits doc.pace E named ∧
    pace.myPub2 = E.encode (r2 • doc.pace.mapped E (r1 • E.generator)) ∧
    pace.session = paceSessionOf env.ssl
      (doc.pace.secret E (r2 • doc.pace.mapped E (r1 • E.generator))) doc.pace.cipher.keyLen
  session : d.reader.read.paceSession = paceSessionOf env.ssl
    (doc.pace.secret E (r2 • doc.pace.mapped E (r1 • E.generator))) doc.pace.cipher.keyLen

/-- MSE:Set AT is accepted. -/
theorem Negotiated.accepted (h : Negotiated E named env doc readPhoto d) (draw : Draws) :
    AwaitsNonce E named env doc readPhoto (d.step env E doc draw) := by
  have hchip : doc.respond env.ssl E draw d.chip doc.mseSetAt = (.paceSet, swOk) := by
    rw [h.chip, Document.respond, if_pos rfl]
  rw [Dialogue.step_of_waiting (by decide) h.status hchip]
  exact ⟨rfl, rfl, h.read, h.pace⟩

/-- Round 1. -/
theorem AwaitsNonce.round {mapped : P → G} (hE : env.ec.Implements curve E named mapped)
    (hssl : env.ssl.Total) (hinv : env.ssl.DecryptInverts)
    (hnonce : doc.pace.nonce.length ∈ [16, 32, 48, 64])
    (h : AwaitsNonce E named env doc readPhoto d) {draw : Draws}
    (hr : draw.scalar < env.ec.getOrder named) (hpub1 : draw.scalar • E.generator ≠ 0) :
    SentMapKey E named doc readPhoto draw.scalar (d.step env E doc draw) := by
  obtain ⟨pace, hpace, hfits, hkpi⟩ := h.pace
  obtain ⟨response, pace1, hsend, hprocess, hfits1, hnonce1⟩ :=
    paceProcessNonceResponse_honest hssl hinv hnonce hfits hkpi
  obtain ⟨apdu, pace2, hbuild, hreceive, hfits2, hnonce2, hpriv⟩ :=
    paceBuildMapNonce_honest hE hr hpub1 hfits1 hnonce1
  have hchip : doc.respond env.ssl E draw d.chip paceBuildGetNonce = (.nonceSent, response) := by
    rw [h.chip, Document.respond, hsend]
    rfl
  have hready : paceGetNonceReady env d.reader.read response (some draw.scalar)
      = ({ d.reader.read with pace := some pace2 }, .waiting .paceMapNonce ⟨apdu, none⟩) := by
    rw [paceGetNonceReady, hpace, Option.bind_some, hprocess]
    simp only [hbuild]
    rfl
  rw [Dialogue.step_of_waiting (by decide) h.status hchip]
  show SentMapKey E named doc readPhoto draw.scalar
    ⟨⟨(paceGetNonceReady env d.reader.read response (some draw.scalar)).1,
      (paceGetNonceReady env d.reader.read response (some draw.scalar)).2⟩, _⟩
  rw [hready]
  exact ⟨⟨apdu, rfl, hreceive⟩, rfl,
    ⟨h.read.usePace, h.read.paceK, h.read.readPhoto, h.read.dg2⟩, pace2, rfl, hfits2, hnonce2,
    hpriv⟩

/-- Round 2. -/
theorem SentMapKey.round {mapped : P → G} (hE : env.ec.Implements curve E named mapped) {r1 : ℕ}
    (h : SentMapKey E named doc readPhoto r1 d) {draw : Draws}
    (hr : draw.scalar < env.ec.getOrder named)
    (hpoints : NoInfinity E doc.pace r1 draw.scalar) :
    SentAgreeKey E named mapped doc readPhoto r1 draw.scalar (d.step env E doc draw) := by
  obtain ⟨apdu, hstatus, hreceive⟩ := h.status
  obtain ⟨pace, hpace, hfits, hnonce, hpriv⟩ := h.pace
  obtain ⟨pace1, hprocess, hfits1, hgroup1⟩ :=
    paceProcessMapNonceResponse_honest hE hpoints.chipPub1 hpoints.mapped hfits hnonce hpriv
  obtain ⟨apdu', pace2, hbuild, hreceive', hfits2, hgroup2, hpriv2, hmine⟩ :=
    paceBuildKeyAgreement_honest hE hr hpoints.mapped hpoints.readerPub2 hfits1 hgroup1
  have hchip : doc.respond env.ssl E draw d.chip apdu
      = (.mapped (r1 • E.generator), doc.pace.sendMapKey E) := by
    rw [h.chip, Document.respond, hreceive]
  have hready : paceMapNonceReady env d.reader.read (doc.pace.sendMapKey E) (some draw.scalar)
      = ({ d.reader.read with pace := some pace2 }, .waiting .paceKeyAgreement ⟨apdu', none⟩) := by
    rw [paceMapNonceReady, hpace, Option.bind_some, hprocess]
    simp only [hbuild]
    rfl
  rw [Dialogue.step_of_waiting (by decide) hstatus hchip]
  show SentAgreeKey E named mapped doc readPhoto r1 draw.scalar
    ⟨⟨(paceMapNonceReady env d.reader.read (doc.pace.sendMapKey E) (some draw.scalar)).1,
      (paceMapNonceReady env d.reader.read (doc.pace.sendMapKey E) (some draw.scalar)).2⟩, _⟩
  rw [hready]
  exact ⟨⟨apdu', rfl, hreceive'⟩, rfl,
    ⟨h.read.usePace, h.read.paceK, h.read.readPhoto, h.read.dg2⟩, pace2, rfl, hfits2, hgroup2,
    hpriv2, hmine⟩

/-- Round 3. -/
theorem SentAgreeKey.round {mapped : P → G} (hE : env.ec.Implements curve E named mapped)
    (hssl : env.ssl.Total) {r1 r2 : ℕ}
    (h : SentAgreeKey E named mapped doc readPhoto r1 r2 d)
    (hpoints : NoInfinity E doc.pace r1 r2) (draw : Draws) :
    SentToken E named env doc readPhoto r1 r2 (d.step env E doc draw) := by
  obtain ⟨apdu, hstatus, hreceive⟩ := h.status
  obtain ⟨pace, hpace, hfits, hgroup, hpriv, hmine⟩ := h.pace
  obtain ⟨pace1, hprocess, hfits1, hmine1, hchip1, hsession1⟩ :
      ∃ pace1, paceProcessKeyAgreementResponse env.ssl env.ec pace
          (doc.pace.sendAgreeKey E (r1 • E.generator)) = some pace1 ∧
        pace1.Fits doc.pace E named ∧ pace1.myPub2 = pace.myPub2 ∧
        pace1.chipPub2 = E.encode (doc.pace.pub2 E (r1 • E.generator)) ∧
        pace1.session = paceSessionOf env.ssl
          (doc.pace.secret E (r2 • doc.pace.mapped E (r1 • E.generator)))
          doc.pace.cipher.keyLen :=
    paceProcessKeyAgreementResponse_honest hE hpoints.mapped hpoints.chipPub2 hpoints.shared
      hfits hgroup hpriv
  obtain ⟨expected, hexpected, htoken⟩ := computeToken_honest hssl hpoints.chipPub2 hfits1 hsession1
  have hchip : doc.respond env.ssl E draw d.chip apdu
      = (.agreed (r1 • E.generator) (r2 • doc.pace.mapped E (r1 • E.generator)),
        doc.pace.sendAgreeKey E (r1 • E.generator)) := by
    rw [h.chip, Document.respond, hreceive]
  obtain ⟨apdu', hbuild, hreceive'⟩ : ∃ apdu', paceBuildMutualAuth env.ssl pace1 = some apdu' ∧
      receivedObject 0x85 apdu' = some expected := by
    rw [paceBuildMutualAuth, hchip1, htoken, Option.map_some]
    exact ⟨_, rfl, receivedObject_wrap7c 0x00 0x85 (by rw [length_computeToken htoken]; decide)⟩
  have hready : paceKeyAgreementReady env d.reader.read
        (doc.pace.sendAgreeKey E (r1 • E.generator))
      = ({ d.reader.read with pace := some pace1, paceSession := pace1.session },
        .waiting .paceMutualAuth ⟨apdu', none⟩) := by
    rw [paceKeyAgreementReady, hpace, Option.bind_some, hprocess]
    simp only [hbuild]
    rfl
  rw [Dialogue.step_of_waiting (by decide) hstatus hchip]
  show SentToken E named env doc readPhoto r1 r2
    ⟨⟨(paceKeyAgreementReady env d.reader.read
        (doc.pace.sendAgreeKey E (r1 • E.generator))).1,
      (paceKeyAgreementReady env d.reader.read
        (doc.pace.sendAgreeKey E (r1 • E.generator))).2⟩, _⟩
  rw [hready]
  exact ⟨⟨apdu', expected, rfl, hreceive', hexpected⟩, rfl,
    ⟨h.read.usePace, h.read.paceK, h.read.readPhoto, h.read.dg2⟩,
    ⟨pace1, rfl, hfits1, by rw [hmine1, hmine], hsession1⟩, hsession1⟩

theorem short_paceSelectAidCommand : paceSelectAidCommand.Short :=
  ⟨by decide, by decide, by decide⟩

/-- **The tokens open one session**, in which the application is about to be selected. -/
theorem SentToken.secured (hssl : env.ssl.Total) (hinv : env.ssl.DecryptInverts) {r1 r2 : ℕ}
    (h : SentToken E named env doc readPhoto r1 r2 d) (hpoints : NoInfinity E doc.pace r1 r2)
    (draw : Draws) :
    Stage env .paceSelectAid paceSelectAidCommand none
      (fun read => read.usePace = true ∧ read.readPhoto = readPhoto ∧ read.dg2 = none)
      (d.step env E doc draw) := by
  obtain ⟨apdu, expected, hstatus, hreceive, hexpected⟩ := h.status
  obtain ⟨pace, hpace, hfits, hmine, hsession⟩ := h.pace
  obtain ⟨token, htoken, hcompute⟩ := computeToken_honest hssl hpoints.readerPub2 hfits hsession
  have hchipSession : doc.paceSession env.ssl
        (doc.pace.secret E (r2 • doc.pace.mapped E (r1 • E.generator)))
      = paceSessionOf env.ssl (doc.pace.secret E (r2 • doc.pace.mapped E (r1 • E.generator)))
          doc.pace.cipher.keyLen := by
    rw [Document.paceSession, paceSessionOf, paceKdf_eq_copy doc.pace env.ssl _ (d := 1) rfl,
      paceKdf_eq_copy doc.pace env.ssl _ (d := 2) rfl]
  have hchip : doc.respond env.ssl E draw d.chip apdu
      = (.secured (.pace d.reader.read.paceSession) none, doc.pace.respond 0x86 token) := by
    rw [h.chip, h.session, ← hchipSession, Document.respond]
    simp only [hreceive, hexpected, htoken, if_true]
  have hverified : d.reader.read.paceVerified env (doc.pace.respond 0x86 token) = true := by
    rw [PassportRead.paceVerified, hpace, Option.any_some, paceVerify_iff, hmine]
    exact ⟨token, findIn7c_respond doc.pace 0x86 (by rw [length_computeToken hcompute]; decide),
      hcompute⟩
  have hready : paceMutualAuthReady env d.reader.read (doc.pace.respond 0x86 token)
      = passportSend paceSelectAidCommand .paceSelectAid protectFailed
          (passportSmProtect env { d.reader.read with pace := none } paceSelectAidCommand) := by
    rw [paceMutualAuthReady, if_neg (by simp [hverified]), passportSmProtect,
      if_pos h.read.usePace]
  have hkey : SmSession.KeyLenOk (.pace d.reader.read.paceSession) := by
    show d.reader.read.paceSession.keyLen = 16 ∨ d.reader.read.paceSession.keyLen = 32
    rw [h.session]
    show doc.pace.cipher.keyLen = 16 ∨ doc.pace.cipher.keyLen = 32
    rcases doc.pace.cipher_cases with hc | hc <;> rw [hc]
    · exact Or.inl rfl
    · exact Or.inr rfl
  obtain ⟨x, y, hfst, hlinked⟩ := linked_of_send hssl hinv { d.reader.read with pace := none }
    (show PassportRead.smSession _ = .pace d.reader.read.paceSession by
      simp [PassportRead.smSession, h.read.usePace])
    hkey short_paceSelectAidCommand .paceSelectAid protectFailed none
  rw [Dialogue.step_of_waiting (by decide) hstatus hchip]
  show Stage env .paceSelectAid paceSelectAidCommand none _
    ⟨⟨(paceMutualAuthReady env d.reader.read (doc.pace.respond 0x86 token)).1,
      (paceMutualAuthReady env d.reader.read (doc.pace.respond 0x86 token)).2⟩, _⟩
  rw [hready]
  refine ⟨⟨_, hlinked⟩, ?_⟩
  show (passportSend _ _ _ _).1.usePace = true ∧ (passportSend _ _ _ _).1.readPhoto = readPhoto ∧
    (passportSend _ _ _ _).1.dg2 = none
  rw [hfst]
  exact ⟨h.read.usePace, h.read.readPhoto, h.read.dg2⟩

/-- The application is selected inside the session. -/
theorem Stage.aidSelected (hssl : env.ssl.Total) (hinv : env.ssl.DecryptInverts)
    (h : Stage env .paceSelectAid paceSelectAidCommand none
      (fun read => read.usePace = true ∧ read.readPhoto = readPhoto ∧ read.dg2 = none) d)
    (draw : Draws) :
    Stage env .selectDg1 (selectCommand dg1Fid) none
      (fun read => read.readPhoto = readPhoto ∧ read.dg2 = none) (d.step env E doc draw) := by
  obtain ⟨⟨σ, hlinked⟩, hpace, hphoto, hdg2⟩ := h
  have hexec : doc.execute none paceSelectAidCommand = (none, none, 0x9000) := rfl
  obtain ⟨e, response, x, y, hstep, hopen, hsession, hkey⟩ := hlinked.exchange hssl hinv
    (by decide) short_paceSelectAidCommand.le.2 hexec draw (E := E)
  have hbenign : BenignStatus 0x9000 := by decide
  rw [if_pos hbenign, passportSmUnprotect, if_pos hpace] at hopen
  have hready : paceSelectAidReady env d.reader.read response
      = passportSend (selectCommand dg1Fid) .selectDg1 protectFailed
          (passportSmProtect env (d.reader.read.withSsc x y) (selectCommand dg1Fid)) := by
    rw [paceSelectAidReady, hopen]
    simp only [if_true, passportSmProtect, withSsc_usePace, hpace]
  obtain ⟨x', y', hfst, hnext⟩ := linked_of_send hssl hinv (d.reader.read.withSsc x y)
    (hsession hbenign) hkey (short_selectCommand dg1Fid rfl) .selectDg1 protectFailed none
  rw [hstep]
  show Stage env .selectDg1 (selectCommand dg1Fid) none _
    ⟨⟨(paceSelectAidReady env d.reader.read response).1,
      (paceSelectAidReady env d.reader.read response).2⟩, _⟩
  rw [hready]
  refine ⟨⟨_, hnext⟩, ?_⟩
  show (passportSend _ _ _ _).1.readPhoto = readPhoto ∧ (passportSend _ _ _ _).1.dg2 = none
  rw [hfst]
  exact ⟨hphoto, hdg2⟩

/-! ## The whole read -/

/-- The exchanges up to the first command for DG1: Acquire, SELECT and READ BINARY of
EF.CardAccess, MSE:Set AT, four rounds, and SELECT of the application. -/
def Document.paceExchanges (doc : Document) : ℕ :=
  9 + roundsLeft doc.cardAccess.length (min 256 doc.cardAccess.length)

/-- EF.CardAccess is selected in the clear. -/
theorem pace_cardAccess (hpos : 0 < doc.cardAccess.length) {C : Dialogue G P → Draws → Prop} :
    LeadsTo C (Dialogue.step env E doc) (1 + 1) (CardAccessAt doc readPhoto 0 256)
      (Dialogue.start (.pace doc.pace.password readPhoto)) := by
  have hacquired : LeadsTo C (Dialogue.step env E doc) 1
      (Plain .selectEfCardAccess [0x00, 0xA4, 0x02, 0x0C, 0x02, 0x01, 0x1C] .idle
        (fun read => PaceRead doc readPhoto read ∧ read.cardAccessTotalLen = 0))
      (Dialogue.start (.pace doc.pace.password readPhoto)) :=
    LeadsTo.one fun draw _ => ⟨rfl, rfl, ⟨rfl, rfl, rfl, rfl⟩, rfl⟩
  refine hacquired.trans fun t ht => LeadsTo.one fun draw _ => ?_
  obtain ⟨hread, htotal⟩ := ht.read
  have hchip : doc.respond env.ssl E draw t.chip [0x00, 0xA4, 0x02, 0x0C, 0x02, 0x01, 0x1C]
      = (.cardAccess, swOk) := by
    rw [ht.chip]
    rfl
  rw [Dialogue.step_of_waiting (by decide) ht.status hchip]
  refine ⟨⟨[0x00, 0xB0, 0x00, 0x00, 0x00], rfl, ?_, readCardAccess_first doc hpos⟩, rfl,
    ⟨hread.usePace, hread.paceK, hread.readPhoto, hread.dg2⟩, rfl, htotal⟩
  intro hmse
  cases congrArg (fun apdu : Bytes => apdu.getD 1 0) hmse

/-- The three rounds, whichever of the scalars are drawn in them. -/
theorem Negotiated.rounds {mapped : P → G} (hE : env.ec.Implements curve E named mapped)
    (hssl : env.ssl.Total) (hinv : env.ssl.DecryptInverts)
    (hnonce : doc.pace.nonce.length ∈ [16, 32, 48, 64]) {draws : List Draws}
    (hscalars : ∀ a ∈ draws, a.scalar < env.ec.getOrder named ∧
      ∀ b ∈ draws, NoInfinity E doc.pace a.scalar b.scalar)
    (h : Negotiated E named env doc readPhoto d) :
    LeadsTo (fun _ draw => draw ∈ draws) (Dialogue.step env E doc) (1 + 1 + 1 + 1)
      (fun t => ∃ a ∈ draws, ∃ b ∈ draws,
        SentToken E named env doc readPhoto a.scalar b.scalar t) d := by
  have hmap : LeadsTo (fun _ draw => draw ∈ draws) (Dialogue.step env E doc) (1 + 1)
      (fun t => ∃ a ∈ draws, SentMapKey E named doc readPhoto a.scalar t) d :=
    (LeadsTo.one fun draw _ => h.accepted draw).trans fun _ ht =>
      LeadsTo.one fun a ha => ⟨a, ha, ht.round hE hssl hinv hnonce (hscalars a ha).1
        ((hscalars a ha).2 a ha).readerPub1⟩
  have hagree : LeadsTo (fun _ draw => draw ∈ draws) (Dialogue.step env E doc) (1 + 1 + 1)
      (fun t => ∃ a ∈ draws, ∃ b ∈ draws,
        SentAgreeKey E named mapped doc readPhoto a.scalar b.scalar t) d :=
    hmap.trans fun _ ⟨a, ha, ht⟩ => LeadsTo.one fun b hb =>
      ⟨a, ha, b, hb, ht.round hE (hscalars b hb).1 ((hscalars a ha).2 b hb)⟩
  exact hagree.trans fun _ ⟨a, ha, b, hb, ht⟩ => LeadsTo.one fun draw _ =>
    ⟨a, ha, b, hb, ht.round hE hssl ((hscalars a ha).2 b hb) draw⟩

/-- Two more to the first command inside the session that is about a file. -/
theorem sentToken_leadsTo (hssl : env.ssl.Total) (hinv : env.ssl.DecryptInverts)
    {draws : List Draws}
    (hscalars : ∀ a ∈ draws, a.scalar < env.ec.getOrder named ∧
      ∀ b ∈ draws, NoInfinity E doc.pace a.scalar b.scalar)
    (h : ∃ a ∈ draws, ∃ b ∈ draws, SentToken E named env doc readPhoto a.scalar b.scalar d) :
    LeadsTo (fun _ draw => draw ∈ draws) (Dialogue.step env E doc) (1 + 1)
      (Stage env .selectDg1 (selectCommand dg1Fid) none
        (fun read => read.readPhoto = readPhoto ∧ read.dg2 = none)) d := by
  obtain ⟨a, ha, b, hb, h⟩ := h
  have hauthenticated := LeadsTo.one (P := fun _ draw => draw ∈ draws) fun draw _ =>
    h.secured hssl hinv ((hscalars a ha).2 b hb) draw
  exact hauthenticated.trans fun _ h => LeadsTo.one fun draw _ => h.aidSelected hssl hinv draw

end Pace

/-! ### A document with recorded values -/

/-- The only entry of its EF.CardAccess: AES-128 on brainpoolP256r1. -/
def recordedInfos : List CardAccessInfo :=
  [.pace ⟨paceOidAes128, [0x02], some 13, by decide, by decide, by decide⟩]

/-- The specimen with the chip of the recorded exchange. -/
def recordedDocument : Document :=
  { specimenPassport with pace := recordedChip, cardAccess := cardAccessFile recordedInfos }

/-- The libraries of its read, completed. -/
def recordedEnv : PassportEnv (ZMod brainpoolOrder) (ZMod brainpoolOrder) :=
  ⟨honestRecording.total, brainpoolEc, fun _ => none⟩

end NfcAdapter
