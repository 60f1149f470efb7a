/-
# Card-emulation requests (`nfc_service.c`)

The service decodes the hex strings of a request, hands it to the client, and answers it
when the client's callback runs.  A payload that cannot be decoded and one that is absent
are the same NULL to the client.
-/
import NfcAdapter.CardEmulation
import NfcAdapter.Ndef

namespace NfcAdapter

open Json (Value text)

/-! ## Hex strings -/

/-- `g_ascii_xdigit_value`. -/
def asciiXdigitValue (c : UInt8) : Option UInt8 :=
  if 0x30 ≤ c ∧ c ≤ 0x39 then some (c - 0x30)
  else if 0x61 ≤ c ∧ c ≤ 0x66 then some (c - 0x61 + 10)
  else if 0x41 ≤ c ∧ c ≤ 0x46 then some (c - 0x41 + 10)
  else none

/-- The loop of `ndef_hex_to_bytes`. -/
def hexPairs : Bytes → Option Bytes
  | hi :: lo :: rest => do
    let hi ← asciiXdigitValue hi
    let lo ← asciiXdigitValue lo
    let bytes ← hexPairs rest
    some ((hi <<< 4 ||| lo) :: bytes)
  | _ => some []

/-- `ndef_hex_to_bytes`; `none` is NULL. -/
def ndefHexToBytes (hex : Option Bytes) : Option Bytes :=
  match hex with
  | none => none
  | some hex => if hex.length = 0 ∨ hex.length % 2 ≠ 0 then none else hexPairs hex

/-- The bytes of a digit, and the value they are read as. -/
theorem digitChar_bytes {n : ℕ} (hn : n < 16) : ∃ c, String.utf8EncodeChar (Nat.digitChar n) = [c] ∧
    asciiXdigitValue c = some n.toUInt8 := by
  have hall : ∀ n < 16, ((String.utf8EncodeChar (Nat.digitChar n)).map asciiXdigitValue
      = [some n.toUInt8]) := by decide
  exact List.map_eq_singleton_iff.mp (hall n hn)

/-- The decoder reads the hex form back. -/
theorem ndefHexToBytes_ndefBytesToHex {data : Bytes} (h : data ≠ []) :
    ndefHexToBytes (some (text (ndefBytesToHex data))) = some data := by
  have hread : ∀ data : Bytes, hexPairs (text (ndefBytesToHex data)) = some data ∧
      (text (ndefBytesToHex data)).length = 2 * data.length := by
    intro data
    rw [ndefBytesToHex, Json.text_ofList]
    induction data with
    | nil => exact ⟨rfl, rfl⟩
    | cons b data ih =>
      have hb := b.toNat_lt
      obtain ⟨hi, hhi, hhigh⟩ := digitChar_bytes (n := b.toNat / 16) (by omega)
      obtain ⟨lo, hlo, hlow⟩ := digitChar_bytes (n := b.toNat % 16) (by omega)
      have hjoin : ((b.toNat / 16).toUInt8 <<< 4 ||| (b.toNat % 16).toUInt8 : UInt8) = b := by
        have hall : ∀ n : ℕ, n < 256 →
            ((n / 16).toUInt8 <<< 4 ||| (n % 16).toUInt8 : UInt8) = n.toUInt8 := by
          decide +kernel
        rw [hall b.toNat hb]
        exact UInt8.ofNat_toNat
      simp only [List.flatMap_cons, hhi, hlo, List.cons_append, List.nil_append, hexPairs, hhigh,
        hlow, ih.1, Option.bind_eq_bind, Option.bind_some, hjoin, List.length_cons, ih.2]
      exact ⟨trivial, by omega⟩
  obtain ⟨hpairs, hlen⟩ := hread data
  have hpos := List.length_pos_of_ne_nil h
  rw [ndefHexToBytes, hlen, if_neg (by omega), hpairs]

/-- A string with a NUL inside is not one of hex digits. -/
theorem hexPairs_of_nul {hex : Bytes} (heven : hex.length % 2 = 0) (h : (0 : UInt8) ∈ hex) :
    hexPairs hex = none := by
  induction hn : hex.length using Nat.strong_induction_on generalizing hex with
  | _ n ih =>
    subst hn
    rcases hex with - | ⟨hi, - | ⟨lo, rest⟩⟩
    · cases h
    · simp at heven
    · rw [hexPairs]
      rcases List.mem_cons.mp h with rfl | h
      · rfl
      rcases List.mem_cons.mp h with rfl | h
      · cases asciiXdigitValue hi <;> rfl
      · rw [List.length_cons, List.length_cons] at heven
        rw [ih rest.length (by simp only [List.length_cons]; omega) (by omega) h rfl]
        cases asciiXdigitValue hi <;> cases asciiXdigitValue lo <;> rfl

/-! ## Requests -/

/-- `get_string_param` on a member of the request: NULL unless it is a string, and a copy up
to the first NUL. -/
def getStringParam (member : Option Value) : Option Bytes :=
  match member with
  | some (.string s) => some (cString s)
  | _ => none

/-- The bytes a member stands for: a string that is hex as a whole. -/
def hexParam (member : Option Value) : Option Bytes :=
  match member with
  | some (.string s) => ndefHexToBytes (some s)
  | _ => none

/-- A request to the service or something else the client handles.  The members of a request
are what its JSON object has under their names. -/
inductive CardEvent
  | addCardEmulationProfile (aidHex payloadHex : Option Value) (implicit exported : Bool)
  | removeCardEmulationProfile (aidHex : Option Value)
  | clearCardEmulation
  | serve (error : Option String)
  | deliver (i : ℕ)
  | appear
  | proxyReady
  | vanish

/-- What reaches the client: `_service_add_card_emulation_cb` and
`_service_remove_card_emulation_cb` turn away a request without an AID. -/
def CardEvent.toClient : CardEvent → Option HceEvent
  | .addCardEmulationProfile aidHex payloadHex implicit exported =>
    (ndefHexToBytes (getStringParam aidHex)).map fun aid =>
      -- NULL adds no bytes to the profile's payload
      .add ⟨aid, (ndefHexToBytes (getStringParam payloadHex)).getD [], implicit⟩ exported
  | .removeCardEmulationProfile aidHex => (ndefHexToBytes (getStringParam aidHex)).map .remove
  | .clearCardEmulation => some .clear
  | .serve error => some (.serve error)
  | .deliver i => some (.deliver i)
  | .appear => some .appear
  | .proxyReady => some .proxyReady
  | .vanish => some .vanish

/-- One event. -/
def cardStep (s : HceState) (e : CardEvent) : HceState :=
  match e.toClient with
  | none => s
  | some e => s.step e

/-- The `returnValue` of an answer that an add gets in this event. -/
def addAnswer (s : HceState) (e : CardEvent) : Option Bool :=
  match e.toClient with
  | none =>
    match e with
    | .addCardEmulationProfile .. => some false
    | _ => none
  | some e =>
    match s.report e with
    | some (.add _ success _) => some success
    | _ => none

/-! ## The reader's side -/

/-- What `hce_handle_process` completes an invocation with. -/
structure HceResponse where
  data : Bytes
  sw1 : UInt8
  sw2 : UInt8
  responseId : UInt32
  deriving DecidableEq, Repr

/-- `hce_handle_process`, with the profile's `next_response_id` before and after. -/
def hceHandleProcess (profile : HceProfile) (nextResponseId : UInt32) (ins : UInt8) :
    HceResponse × UInt32 :=
  -- 0 is never given out, wrap included
  let responseId := if nextResponseId + 1 = 0 then nextResponseId + 2 else nextResponseId + 1
  let response : HceResponse :=
    if ins = 0xA4 then ⟨[], 0x90, 0x00, responseId⟩
    else if ins = 0xB0 ∨ ins = 0xCA then ⟨profile.payload, 0x90, 0x00, responseId⟩
    else ⟨[], 0x6D, 0x00, responseId⟩
  (response, responseId)

/-- A read returns the profile's payload. -/
theorem hceHandleProcess_read (profile : HceProfile) (nextResponseId : UInt32) {ins : UInt8}
    (h : ins = 0xB0 ∨ ins = 0xCA) :
    (hceHandleProcess profile nextResponseId ins).1.data = profile.payload := by
  have hselect : ins ≠ 0xA4 := by rcases h with rfl | rfl <;> decide
  simp only [hceHandleProcess, if_neg hselect, if_pos h]

/-! ## The history of adds -/

/-- An add as it was requested, the serial number of the call made for it last, and its
answer. -/
structure AddRecord where
  aidHex : Option Value
  payloadHex : Option Value
  call : ℕ
  answer : Option Bool

/-- The AID an add is for. -/
def AddRecord.aid (r : AddRecord) : Option Bytes := hexParam r.aidHex

/-- The payload an add asks for, empty when the field is absent. -/
def AddRecord.payload (r : AddRecord) : Bytes := (hexParam r.payloadHex).getD []

/-- The add waits for the answer to the call with this number. -/
def AddRecord.Awaits (r : AddRecord) (call : ℕ) : Prop := r.answer = none ∧ r.call = call

instance (r : AddRecord) (call : ℕ) : Decidable (r.Awaits call) := by
  unfold AddRecord.Awaits
  infer_instance

/-- The call with this number is answered. -/
def AddRecord.settle (call : ℕ) (success : Bool) (r : AddRecord) : AddRecord :=
  if r.Awaits call then { r with answer := some success } else r

/-- The history after an event: an add is noted with its answer or with its Register call,
the last one made; the answer to a Register call is the answer to the add that awaits it. -/
def noteAdd (h : List AddRecord) (s : HceState) (e : CardEvent) : List AddRecord :=
  match e with
  | .addCardEmulationProfile aidHex payloadHex _ _ =>
    h ++ [⟨aidHex, payloadHex, (cardStep s e).calls.next - 1, addAnswer s e⟩]
  | .deliver i =>
    match s.calls.replies[i]?, addAnswer s e with
    | some (n, _, _), some success => h.map (AddRecord.settle n success)
    | _, _ => h
  | _ => h

end NfcAdapter
