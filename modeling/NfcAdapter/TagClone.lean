/-
# A clone replays the dump

The decoder takes the hex strings of the encoder in any letter case and no others.  So the
dump that is shown of a tag is what a clone of it writes, in one call.
-/
import NfcAdapter.AdapterStatus
import NfcAdapter.CardEmulationServed
import NfcAdapter.TagWriteServed
import NfcAdapter.TagWriteTarget

namespace NfcAdapter

open Runs
open Json (Value text)

/-! ## The digits -/

/-- The hexadecimal digits, in both letter cases. -/
def hexDigits : Bytes := text "0123456789ABCDEFabcdef"

/-- The lower case of an ASCII letter. -/
def asciiLower (c : UInt8) : UInt8 := if 0x41 ≤ c ∧ c ≤ 0x5A then c + 0x20 else c

theorem asciiXdigitValue_lower (c : UInt8) :
    asciiXdigitValue (asciiLower c) = asciiXdigitValue c := by
  have hall : ∀ n < 256,
      asciiXdigitValue (asciiLower n.toUInt8) = asciiXdigitValue n.toUInt8 := by decide +kernel
  simpa using hall c.toNat c.toNat_lt

theorem asciiXdigitValue_isSome (c : UInt8) :
    (asciiXdigitValue c).isSome = true ↔ c ∈ hexDigits := by
  have hdigits : ∀ c ∈ hexDigits, (asciiXdigitValue c).isSome = true := by decide +kernel
  have hall : ∀ n < 256,
      (asciiXdigitValue n.toUInt8).isSome = true → n.toUInt8 ∈ hexDigits := by decide +kernel
  refine ⟨fun h => ?_, hdigits c⟩
  have hmem := hall c.toNat c.toNat_lt
  rw [show c.toNat.toUInt8 = c from UInt8.ofNat_toNat] at hmem
  exact hmem h

/-- A digit is printed in lower case. -/
theorem digitChar_asciiXdigitValue {c v : UInt8} (h : asciiXdigitValue c = some v) :
    v.toNat < 16 ∧ String.utf8EncodeChar (Nat.digitChar v.toNat) = [asciiLower c] := by
  have hall : ∀ n < 256, (asciiXdigitValue n.toUInt8).all (fun v => v.toNat < 16 ∧
      String.utf8EncodeChar (Nat.digitChar v.toNat) = [asciiLower n.toUInt8]) = true := by
    decide +kernel
  have hc := hall c.toNat c.toNat_lt
  rw [show c.toNat.toUInt8 = c from UInt8.ofNat_toNat, h] at hc
  simpa using hc

/-- The halves of a byte. -/
theorem toNat_nibbles {hi lo : UInt8} (hhi : hi.toNat < 16) (hlo : lo.toNat < 16) :
    (hi <<< 4 ||| lo).toNat / 16 = hi.toNat ∧ (hi <<< 4 ||| lo).toNat % 16 = lo.toNat := by
  have hall : ∀ m : ℕ, m < 16 → ∀ n : ℕ, n < 16 →
      (m.toUInt8 <<< 4 ||| n.toUInt8 : UInt8).toNat / 16 = m ∧
        (m.toUInt8 <<< 4 ||| n.toUInt8 : UInt8).toNat % 16 = n := by decide +kernel
  simpa using hall hi.toNat hhi lo.toNat hlo

/-! ## The strings -/

/-- A dump as a request may spell it. -/
structure IsHex (hex : Bytes) : Prop where
  nonempty : hex ≠ []
  even : hex.length % 2 = 0
  digits : ∀ c ∈ hex, c ∈ hexDigits

/-- The strings differ in their letter case only. -/
def SameHex (hex hex' : Bytes) : Prop := hex.map asciiLower = hex'.map asciiLower

instance (hex hex' : Bytes) : Decidable (SameHex hex hex') :=
  inferInstanceAs (Decidable (_ = _))

theorem hexPairs_lower (hex : Bytes) : hexPairs (hex.map asciiLower) = hexPairs hex := by
  induction hex using List.twoStepInduction with
  | nil => rfl
  | singleton c => rfl
  | cons_cons hi lo rest ih =>
    simp only [List.map_cons, hexPairs, asciiXdigitValue_lower, ih]

/-- The loop goes through iff all characters are digits. -/
theorem hexPairs_isSome {hex : Bytes} (heven : hex.length % 2 = 0) :
    (hexPairs hex).isSome = true ↔ ∀ c ∈ hex, c ∈ hexDigits := by
  induction hex using List.twoStepInduction with
  | nil => simp [hexPairs]
  | singleton c => simp at heven
  | cons_cons hi lo rest ih =>
    have hrest := ih (by simp only [List.length_cons] at heven; omega)
    rw [List.forall_mem_cons, List.forall_mem_cons, ← hrest, ← asciiXdigitValue_isSome,
      ← asciiXdigitValue_isSome, hexPairs]
    cases asciiXdigitValue hi <;> cases asciiXdigitValue lo <;> cases hexPairs rest <;> simp

/-- What was read is printed as it was spelled, in lower case. -/
theorem text_hexPairs {hex bytes : Bytes} (heven : hex.length % 2 = 0)
    (h : hexPairs hex = some bytes) : text (ndefBytesToHex bytes) = hex.map asciiLower := by
  rw [ndefBytesToHex, Json.text_ofList]
  induction hex using List.twoStepInduction generalizing bytes with
  | nil =>
    obtain rfl := Option.some.inj h
    rfl
  | singleton c => simp at heven
  | cons_cons hi lo rest ih =>
    simp only [hexPairs, Option.bind_eq_bind, Option.bind_eq_some_iff, Option.some.injEq] at h
    obtain ⟨v, hv, w, hw, tail, htail, rfl⟩ := h
    obtain ⟨hvlt, hvchar⟩ := digitChar_asciiXdigitValue hv
    obtain ⟨hwlt, hwchar⟩ := digitChar_asciiXdigitValue hw
    obtain ⟨hhigh, hlow⟩ := toNat_nibbles hvlt hwlt
    have hrest := ih (by simp only [List.length_cons] at heven; omega) htail
    simp only [List.flatMap_cons, List.cons_append, List.nil_append, hhigh, hlow, hvchar, hwchar,
      List.map_cons, hrest]

/-- **The decoder's language.** -/
theorem ndefHexToBytes_isSome (hex : Bytes) :
    (ndefHexToBytes (some hex)).isSome = true ↔ IsHex hex := by
  rw [ndefHexToBytes]
  split
  · next hno =>
    simp only [Option.isSome_none, Bool.false_eq_true, false_iff]
    rintro ⟨hne, heven, -⟩
    rcases hno with hlen | hodd
    · exact hne (List.length_eq_zero_iff.mp hlen)
    · exact hodd heven
  · next hlen =>
    rw [not_or, not_not] at hlen
    rw [hexPairs_isSome hlen.2]
    constructor
    · exact fun h => ⟨fun hnil => hlen.1 (by rw [hnil]; rfl), hlen.2, h⟩
    · exact fun h => h.digits

/-- **What is decoded** is printed as it was spelled, in lower case. -/
theorem ndefBytesToHex_ndefHexToBytes {hex bytes : Bytes}
    (h : ndefHexToBytes (some hex) = some bytes) :
    text (ndefBytesToHex bytes) = hex.map asciiLower := by
  rw [ndefHexToBytes] at h
  split at h
  · cases h
  · next hlen => exact text_hexPairs (by omega) h

/-- The letter case does not matter. -/
theorem ndefHexToBytes_lower (hex : Bytes) :
    ndefHexToBytes (some (hex.map asciiLower)) = ndefHexToBytes (some hex) := by
  simp only [ndefHexToBytes, List.length_map, hexPairs_lower]

/-- **Any spelling of a dump** is decoded to the dump. -/
theorem ndefHexToBytes_of_sameHex {hex bytes : Bytes} (hbytes : bytes ≠ [])
    (h : SameHex hex (text (ndefBytesToHex bytes))) : ndefHexToBytes (some hex) = some bytes := by
  rw [← ndefHexToBytes_lower hex, h, ndefHexToBytes_lower]
  exact ndefHexToBytes_ndefBytesToHex hbytes

/-! ## The two requests -/

/-- `_service_clone_tag_cb`: the error text it answers with, or what it asks of the client. -/
def serviceCloneTagCb (rawDataHex : Option Value) (userData : ℕ) : Except String WriteEvent :=
  match ndefHexToBytes (getStringParam rawDataHex) with
  | none => .error "Expected rawDataHex, the raw byte string read from the source tag"
  | some rawData => .ok (.cloneTag (some rawData) userData)

theorem serviceCloneTagCb_of_sameHex {hex bytes : Bytes} (hbytes : bytes ≠ [])
    (h : SameHex hex (text (ndefBytesToHex bytes))) (userData : ℕ) :
    serviceCloneTagCb (some (.string hex)) userData = .ok (.cloneTag (some bytes) userData) := by
  have hparam : hexParam (some (.string hex)) = some bytes := ndefHexToBytes_of_sameHex hbytes h
  rw [serviceCloneTagCb, getStringParam_of_hexParam hparam]

/-- The answer to `getTagInfo` has the dump. -/
def ShowsDump (client : NfcdClient) (bytes : Bytes) : Prop :=
  ∃ obj : Json.Object, (buildTagInfo client).get? "tag" = some (.object obj) ∧
    obj.get? "rawDataHex" = some (.string (text (ndefBytesToHex bytes)))

/-- **The dump is shown** once `ReadAllData` of the current tag has been answered. -/
theorem showsDump_of_readAllData {glib : GlibText} {s : TagState} {i id : ℕ} {path : String}
    {read : TagRead} {bytes : Bytes} (hcall : s.pool.calls[i]? = some (id, .readAllData path))
    (htask : s.pool.tasks id = some read) (hcurrent : read.client = true) {client : NfcdClient}
    (hclient : client.tag = tagStep glib s (.complete i (.data bytes))) :
    ShowsDump client bytes := by
  have hattached : (!read.client) = false := by rw [hcurrent]; rfl
  simp only [tagStep, hcall, htask, tagCallback, rawDataReady, TagReply.data?, tagReadFinish,
    hattached, Bool.false_eq_true, if_false] at hclient
  have hjson : client.tag.client.tagJson = some ((read.tagObj.put "rawDataHex"
      (.string (text (ndefBytesToHex bytes)))).put "records" (.array read.recordsArr)) := by
    rw [hclient]
    rfl
  refine ⟨_, (buildTagInfo_tag client).trans (congrArg (Option.map Value.object) hjson), ?_⟩
  simp

/-! ## The write -/

/-- The call writes the data area. -/
def WriteCall.isWriteData : WriteCall → Bool
  | .writeData .. => true
  | _ => false

/-- The steps before the write have succeeded. -/
def Prepared (conv : List (WriteCall × WriteReply)) : Prop :=
  3 ≤ conv.length ∧ ∀ x ∈ conv.take 3, x.2 = .ok

/-- The calls of a request that replays the dump, as far as it has got. -/
structure Replays (bytes : Bytes) (conv : List (WriteCall × WriteReply))
    (calls : List WriteCall) : Prop where
  only : ∀ path offset data, .writeData path offset data ∈ calls → offset = 0 ∧ data = bytes
  once : Prepared conv → ∃ path, calls.filter WriteCall.isWriteData = [.writeData path 0 bytes]

theorem Replays.of_work {bytes : Bytes} {work : List (WriteCall × WriteReply)} {success : Bool}
    (h : Worked (.write bytes) work success) (p path : Option String)
    (last : List WriteReply) :
    Replays bytes (opening p ++ work ++ last.map (.release path, ·))
      ((opening p ++ work).map Prod.fst ++ [.release path]) := by
  cases h with
  | noProxy hno =>
    refine ⟨by simp [opening], ?_⟩
    rintro ⟨-, hok⟩
    simp [opening, hno] at hok
  | wrote => exact ⟨by simp [opening], fun _ => ⟨_, rfl⟩⟩

/-- A write under way. -/
theorem Replays.of_talking {bytes : Bytes} {req : WriteReq} {conv : List (WriteCall × WriteReply)}
    {call : WriteCall} (h : Talking req conv call) (hkind : req.kind = .write bytes) :
    Replays bytes conv (conv.map Prod.fst ++ [call]) := by
  cases call with
  | tagProxy path =>
    obtain ⟨-, rfl⟩ := h
    exact ⟨by simp, fun hprepared => absurd hprepared.1 (by simp)⟩
  | acquire path =>
    obtain ⟨-, rfl⟩ := h
    exact ⟨by simp, fun hprepared => absurd hprepared.1 (by simp)⟩
  | type2Proxy path =>
    obtain ⟨-, p, rfl⟩ := h
    exact ⟨by simp [opening], fun hprepared => absurd hprepared.1 (by simp [opening])⟩
  | writeData path offset data =>
    obtain ⟨hdata, rfl, p, rfl⟩ := h
    cases hdata.symm.trans hkind
    exact ⟨by simp [opening], fun _ => ⟨_, rfl⟩⟩
  | read path sector block => cases h.1.symm.trans hkind
  | write path sector block data => cases h.1.symm.trans hkind
  | release path =>
    obtain ⟨p, work, rfl, hwork⟩ := h
    rw [hkind] at hwork
    have hreplays := Replays.of_work hwork p path []
    rwa [List.map_nil, List.append_nil] at hreplays

/-- A write that has been answered. -/
theorem Replays.of_concluded {bytes : Bytes} {conv : List (WriteCall × WriteReply)}
    {success : Bool} (h : Concluded (.write bytes) conv success) :
    Replays bytes conv (conv.map Prod.fst) := by
  cases h with
  | noTag hno => exact ⟨by simp, fun hprepared => absurd hprepared.1 (by simp)⟩
  | notAcquired hno => exact ⟨by simp, fun hprepared => absurd hprepared.1 (by simp)⟩
  | released hwork =>
    rw [List.map_append]
    exact Replays.of_work hwork _ _ [_]

/-- Where all has succeeded and the write is still to come, the request is not answered. -/
theorem Concluded.not_unprepared {kind : WriteKind} {conv : List (WriteCall × WriteReply)}
    {success : Bool} (h : Concluded kind conv success) (hok : ∀ x ∈ conv, x.2 = .ok) :
    ¬ conv.length < 3 := by
  cases h with
  | noTag hno => simp [hno] at hok
  | notAcquired hno => simp [hno] at hok
  | released hwork =>
    simp only [opening, List.length_append, List.length_cons, List.length_nil]
    omega

/-! ## Every run -/

/-- A clone is accepted. -/
def WriteState.TakesWrites (s : WriteState) : Prop :=
  s.aborted = false ∧ s.tag.client.tagPath ≠ none ∧ s.tag.client.tagIsType2 = true

instance (s : WriteState) : Decidable s.TakesWrites :=
  inferInstanceAs (Decidable (_ ∧ _ ∧ _))

/-- What has become of the clone `id`: it goes on as long as its calls succeed, and writes the
dump once. -/
structure Cloned (h : WriteHistory) (s : WriteState) (id userData : ℕ) (bytes : Bytes) :
    Prop where
  accepted : (id, .write bytes, userData) ∈ h.accepted
  goesOn : (∀ x ∈ h.said id, x.2 = .ok) → (h.said id).length < 3 →
    ∃ call, (id, call) ∈ s.pool.calls
  replays : Replays bytes (h.said id) (s.sentBy id)

/-- What was accepted stays on record. -/
theorem accepted_noteWrite (mismatch : String) (glib : GlibText) (h : WriteHistory)
    (s : WriteState) (e : WriteEvent) :
    h.accepted ⊆ (noteWrite mismatch glib h s e).accepted := by
  unfold noteWrite
  simp only
  split
  · exact fun _ hx => hx
  · split
    · exact List.subset_append_left _ _
    · split
      · split <;> exact fun _ hx => hx
      · exact fun _ hx => hx

theorem ServedInv.cloned {h : WriteHistory} {s : WriteState} (hI : ServedInv h s)
    {id userData : ℕ} {bytes : Bytes} (hacc : (id, .write bytes, userData) ∈ h.accepted) :
    Cloned h s id userData bytes := by
  have hid : id < s.pool.next := by
    have hmem := List.mem_map_of_mem (f := Prod.fst) hacc
    rw [hI.accepted] at hmem
    exact List.mem_range.mp hmem
  rcases hI.under_way_or_answered hid with ⟨req, call, hcall, htask⟩ | ⟨a, ha⟩
  · obtain ⟨hacc', htalk, hsent⟩ := hI.live id req call hcall htask
    refine ⟨hacc, fun _ _ => ⟨call, hcall⟩, ?_⟩
    rw [hsent]
    exact Replays.of_talking htalk (hI.accepted_unique hacc' hacc)
  · obtain ⟨hconv, hsent⟩ := hI.concluded hacc ha
    refine ⟨hacc, fun hok hshort => absurd hshort (hconv.not_unprepared hok), ?_⟩
    rw [hsent]
    exact Replays.of_concluded hconv

variable {mismatch : String} {glib : GlibText}

/-- **The clone, and whatever comes after it.** -/
theorem cloned_run (es fs : List WriteEvent) {bytes : Bytes} (hbytes : bytes ≠ [])
    (htakes : (run (writeStep mismatch glib) .init es).TakesWrites) (userData : ℕ) :
    Cloned (writeHistory mismatch glib (es ++ .cloneTag (some bytes) userData :: fs))
      (run (writeStep mismatch glib) .init (es ++ .cloneTag (some bytes) userData :: fs))
      (run (writeStep mismatch glib) .init es).pool.next userData bytes := by
  set both := withHistory (writeStep mismatch glib) (noteWrite mismatch glib) with hboth
  set x := run both (.init, .empty) es with hx
  have hfst : x.1 = run (writeStep mismatch glib) .init es := run_withHistory_fst _ _ _ _
  rw [← hfst] at htakes ⊢
  have hstart : writeStep mismatch glib x.1 (.cloneTag (some bytes) userData)
      = startRequest x.1 (.write bytes) userData := by
    obtain ⟨haborted, hpath, htype2⟩ := htakes
    obtain ⟨b, rest, rfl⟩ := List.exists_cons_of_ne_nil hbytes
    simp [writeStep, nfcdClientWriteRaw, haborted, hpath, htype2]
  have hbefore : ServedInv x.2 x.1 := servedInv_run mismatch glib es
  have haccepted : (x.1.pool.next, .write bytes, userData)
      ∈ (both x (.cloneTag (some bytes) userData)).2.accepted := by
    simp [hboth, withHistory, noteWrite, htakes.1, hstart, WriteEvent.request, startRequest,
      TaskPool.Pool.spawn]
  have hkept : ∀ (y : WriteState × WriteHistory) (e : WriteEvent),
      ServedInv y.2 y.1 ∧ (x.1.pool.next, .write bytes, userData) ∈ y.2.accepted →
      ServedInv (both y e).2 (both y e).1 ∧
        (x.1.pool.next, .write bytes, userData) ∈ (both y e).2.accepted :=
    fun y e hy => ⟨hy.1.step e, accepted_noteWrite mismatch glib y.2 y.1 e hy.2⟩
  have hafter := invariant _ hkept ⟨hbefore.step (.cloneTag (some bytes) userData), haccepted⟩ fs
  have hcloned := hafter.1.cloned hafter.2
  rw [← run_cons both x, hx, ← run_append, hboth, run_withHistory_fst, ← hboth] at hcloned
  exact hcloned

/-- **A clone replays the dump.** Any spelling of the dump that was shown is written as the
bytes that were read, in one call, and only strings of hex digits can be decoded. -/
theorem clone_replays_the_dump (mismatch : String) (glib : GlibText) (bytes : Bytes)
    (hbytes : bytes ≠ []) :
    (∀ s i id path read client, s.pool.calls[i]? = some (id, .readAllData path) →
      s.pool.tasks id = some read → read.client = true →
      client.tag = tagStep glib s (.complete i (.data bytes)) → ShowsDump client bytes) ∧
    (∀ hex, SameHex hex (text (ndefBytesToHex bytes)) → ∀ userData,
      serviceCloneTagCb (some (.string hex)) userData = .ok (.cloneTag (some bytes) userData)) ∧
    (∀ es, (run (writeStep mismatch glib) .init es).TakesWrites → ∀ userData fs,
      Cloned (writeHistory mismatch glib (es ++ .cloneTag (some bytes) userData :: fs))
        (run (writeStep mismatch glib) .init (es ++ .cloneTag (some bytes) userData :: fs))
        (run (writeStep mismatch glib) .init es).pool.next userData bytes) ∧
    (∀ hex, (ndefHexToBytes (some hex)).isSome = true ↔ IsHex hex) ∧
    ∀ hex data, ndefHexToBytes (some hex) = some data →
      text (ndefBytesToHex data) = hex.map asciiLower := by
  refine ⟨?_, ?_, ?_, ndefHexToBytes_isSome, fun _ _ => ndefBytesToHex_ndefHexToBytes⟩
  · intro s i id path read client hcall htask hcurrent hclient
    exact showsDump_of_readAllData hcall htask hcurrent hclient
  · intro hex hsame userData
    exact serviceCloneTagCb_of_sameHex hbytes hsame userData
  · intro es htakes userData fs
    exact cloned_run es fs hbytes htakes userData

/-- A dump of two bytes, spelled in mixed case, is cloned to a tag in the field. -/
theorem clone_replays_the_dump_mixed :
    serviceCloneTagCb (some (.string (text "04aB"))) 7 = .ok (.cloneTag (some [0x04, 0xAB]) 7) ∧
    Cloned (writeHistory "" asciiGlib (type2TagArrives ++ [.cloneTag (some [0x04, 0xAB]) 7,
        .complete 0 .ok, .complete 0 .ok, .complete 0 .ok]))
      (run (writeStep "" asciiGlib) .init (type2TagArrives ++ [.cloneTag (some [0x04, 0xAB]) 7,
        .complete 0 .ok, .complete 0 .ok, .complete 0 .ok]))
      (run (writeStep "" asciiGlib) .init type2TagArrives).pool.next 7 [0x04, 0xAB] := by
  obtain ⟨-, hservice, hcloned, -⟩ :=
    clone_replays_the_dump "" asciiGlib [0x04, 0xAB] (by decide)
  exact ⟨hservice (text "04aB") (by decide +kernel) 7,
    hcloned type2TagArrives (by decide +kernel) 7 _⟩

end NfcAdapter
