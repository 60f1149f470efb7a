/-
# Bluetooth pairing records (`ndef.c`)

`ndef_build_bluetooth_message` and the reading of its address string.  A name is put into
the payload up to 252 bytes, which with the ten bytes in front of it is more than a short
record holds: from 246 bytes on there is no message, and from 253 on there is one without
the name.
-/
import NfcAdapter.CardEmulationService
import NfcAdapter.NdefBuild

namespace NfcAdapter

open Json (text)

/-! ## The address string -/

/-- `isspace` in the C locale. -/
def isSpace (c : UInt8) : Bool := c = 0x20 ∨ 0x09 ≤ c ∧ c ≤ 0x0D

/-- The number a run of hex digits spells. -/
def hexNumber (digits : Bytes) : ℕ :=
  digits.foldl (fun n c => n * 16 + ((asciiXdigitValue c).getD 0).toNat) 0

/-- A `0x` is taken from the input, and then there have to be digits behind it. -/
def dropHexPrefix (input : Bytes) : Bytes :=
  match input with
  | 0x30 :: x :: rest => if x = 0x78 ∨ x = 0x58 then rest else input
  | _ => input

/-- What `strtoul` makes of a number with `longBits` bits in an `unsigned long`. -/
def strtoulValue (longBits : ℕ) (negative : Bool) (n : ℕ) : ℕ :=
  if 2 ^ longBits ≤ n then 2 ^ longBits - 1
  else if negative then (2 ^ longBits - n) % 2 ^ longBits
  else n

/-- One `%x` of `sscanf`: white space, a sign, digits, converted like `strtoul` does and
stored in an `unsigned int`; with what follows. -/
def scanHex (longBits : ℕ) (input : Bytes) : Option (ℕ × Bytes) :=
  let input := input.dropWhile isSpace
  let negative := input.head? = some 0x2D
  let input := if negative ∨ input.head? = some 0x2B then input.tail else input
  let input := dropHexPrefix input
  let digits := input.takeWhile fun c => (asciiXdigitValue c).isSome
  if digits = [] then none
  else
    some (strtoulValue longBits negative (hexNumber digits) % 2 ^ 32, input.drop digits.length)

/-- `sscanf` with `n` conversions `%x` and colons between them: the values stored. -/
def scanHexGroups (longBits : ℕ) : ℕ → Bytes → List ℕ
  | 0, _ => []
  | n + 1, input =>
    match scanHex longBits input with
    | none => []
    | some (value, 0x3A :: rest) => value :: scanHexGroups longBits n rest
    | some (value, _) => [value]

/-- `parse_mac_address`; `none` is FALSE. -/
def parseMacAddress (longBits : ℕ) (text : Option Bytes) : Option (FixedBytes 6) :=
  match text with
  | none => none
  | some text =>
    let values := scanHexGroups longBits 6 text
    if h : values.length = 6 ∧ ∀ value ∈ values, value ≤ 0xFF then
      some ⟨values.map Nat.toUInt8, by rw [List.length_map, h.1]⟩
    else none

/-! ## The builder -/

/-- The EIR structure with the device name, absent without a name and for one that is too
long for its length byte. -/
def bluetoothName (name : Bytes) : Bytes :=
  if name.length > 0 ∧ name.length ≤ 0xFC then (name.length + 1).toUInt8 :: 0x09 :: name else []

/-- `ndef_build_bluetooth_message`. -/
def ndefBuildBluetoothMessage (longBits : ℕ) (macAddress deviceName : Option Bytes) :
    BuildResult :=
  match parseMacAddress longBits macAddress with
  | none => some none
  | some mac =>
    -- the length field in front counts what is appended here
    (byteArrayAppend [0, 0] mac.1.reverse).bind fun payload =>
      (byteArrayAppend payload (bluetoothName (deviceName.getD []))).bind fun payload =>
        let totalLen := (payload.length - 2) % 2 ^ 16
        buildSingleRecord ndefTnfMediaType.toUInt8 (text "application/vnd.bluetooth.ep.oob")
          ((totalLen % 256).toUInt8 :: (totalLen / 256).toUInt8 :: payload.drop 2)

/-! ## What a pairing record says -/

/-- The EIR part of the payload: nothing without a name and for a name over 252 bytes, else
one structure whose length byte covers its type and the complete name. -/
def EirShows (name eir : Bytes) : Prop :=
  if name = [] ∨ 252 < name.length then eir = []
  else ∃ len : UInt8, eir = len :: 0x09 :: name ∧ len.toNat = 1 + name.length

/-- An out-of-band payload: a little-endian count of the bytes after it, the address with
its last byte first, and the name. -/
def OobPayload (mac : FixedBytes 6) (name payload : Bytes) : Prop :=
  ∃ (lo hi : UInt8) (eir : Bytes), payload = lo :: hi :: (mac.1.reverse ++ eir) ∧
    lo.toNat + 256 * hi.toNat = (mac.1.reverse ++ eir).length ∧ EirShows name eir

/-- The builder returns a message of one record, and that is the pairing record. -/
def BluetoothRequestMet (mac : FixedBytes 6) (name : Bytes) (build : BuildResult) : Prop :=
  ∃ (message : Bytes) (r : NdefRecord), build = some (some message) ∧
    ndefParseRecord message = some (r, []) ∧ r.tnf = ndefTnfMediaType ∧
    r.type = text "application/vnd.bluetooth.ep.oob" ∧ OobPayload mac name r.payload

theorem eirShows_bluetoothName (name : Bytes) : EirShows name (bluetoothName name) := by
  unfold EirShows bluetoothName
  have hnil : name = [] ↔ name.length = 0 := List.length_eq_zero_iff.symm
  split_ifs with h1 h2 h2
  · rw [hnil] at h1
    omega
  · rfl
  · exact ⟨_, rfl, by rw [toNat_toUInt8 (by omega), Nat.add_comm]⟩
  · rw [hnil] at h1
    omega

theorem length_bluetoothName (name : Bytes) :
    (bluetoothName name).length =
      if name.length > 0 ∧ name.length ≤ 0xFC then name.length + 2 else 0 := by
  unfold bluetoothName
  split_ifs <;> rfl

/-- The payload the builder puts into its record. -/
def bluetoothPayload (mac : FixedBytes 6) (name : Bytes) : Bytes :=
  let body := mac.1.reverse ++ bluetoothName name
  (body.length % 256).toUInt8 :: (body.length / 256).toUInt8 :: body

theorem oobPayload_bluetoothPayload (mac : FixedBytes 6) (name : Bytes) :
    OobPayload mac name (bluetoothPayload mac name) := by
  have hlen : (mac.1.reverse ++ bluetoothName name).length < 65536 := by
    rw [List.length_append, List.length_reverse, mac.2, length_bluetoothName]
    split_ifs <;> omega
  refine ⟨_, _, bluetoothName name, rfl, ?_, eirShows_bluetoothName name⟩
  rw [toNat_toUInt8 (Nat.mod_lt _ (by decide)), toNat_toUInt8 (by omega)]
  omega

/-- Nothing before the single record can fail. -/
theorem ndefBuildBluetoothMessage_eq {longBits : ℕ} {macAddress deviceName : Option Bytes}
    {mac : FixedBytes 6} (hmac : parseMacAddress longBits macAddress = some mac) :
    ndefBuildBluetoothMessage longBits macAddress deviceName =
      buildSingleRecord ndefTnfMediaType.toUInt8 (text "application/vnd.bluetooth.ep.oob")
        (bluetoothPayload mac (deviceName.getD [])) := by
  have hshort : (bluetoothName (deviceName.getD [])).length ≤ 254 := by
    rw [length_bluetoothName]
    split_ifs <;> omega
  have hrev : mac.1.reverse.length = 6 := by rw [List.length_reverse, mac.2]
  generalize hname : bluetoothName (deviceName.getD []) = name at hshort
  have haddress : byteArrayAppend [0, 0] mac.1.reverse = some (0 :: 0 :: mac.1.reverse) := by
    rw [byteArrayAppend, if_pos (by rw [hrev]; decide)]
    rfl
  have hnamed : byteArrayAppend (0 :: 0 :: mac.1.reverse) name
      = some (0 :: 0 :: (mac.1.reverse ++ name)) := by
    rw [byteArrayAppend, if_pos (by simp only [List.length_cons, hrev]; omega)]
    rfl
  have hcount : (0 :: 0 :: (mac.1.reverse ++ name) : Bytes).length - 2
      = (mac.1.reverse ++ name).length := rfl
  have hlt : (mac.1.reverse ++ name).length < 2 ^ 16 := by
    rw [List.length_append, hrev]
    omega
  rw [ndefBuildBluetoothMessage, hmac]
  simp only [hname, haddress, hnamed, Option.bind_some, hcount, Nat.mod_eq_of_lt hlt,
    bluetoothPayload, List.drop_succ_cons, List.drop_zero]

/-- **When a pairing record exists.** For every address `parse_mac_address` accepts and
every name, the builder returns the pairing record exactly if the name is none of the seven
lengths that are put into the payload and make it too long for a short record. -/
theorem bluetooth_request_met_iff (longBits : ℕ) (macAddress : CString) (mac : FixedBytes 6)
    (hmac : parseMacAddress longBits (some macAddress.1) = some mac)
    (deviceName : Option CString) :
    BluetoothRequestMet mac ((deviceName.map (·.1)).getD [])
        (ndefBuildBluetoothMessage longBits (some macAddress.1) (deviceName.map (·.1))) ↔
      ∀ name ∈ deviceName, name.1.length ≤ 245 ∨ 252 < name.1.length := by
  have htype : (text "application/vnd.bluetooth.ep.oob").length ≤ 255 := by decide
  have hsr : (0xD2 : UInt8) &&& ndefHdrSr ≠ 0 := by decide
  have hil : ¬ ((0xD2 : UInt8) &&& ndefHdrIl ≠ 0) := by decide
  have hlength : ∀ name : Bytes, (bluetoothPayload mac name).length ≤ 255 ↔
      name.length ≤ 245 ∨ 252 < name.length := by
    intro name
    simp only [bluetoothPayload, List.length_cons, List.length_append, List.length_reverse, mac.2,
      length_bluetoothName]
    split_ifs <;> omega
  have hname : (∀ name ∈ deviceName, name.1.length ≤ 245 ∨ 252 < name.1.length) ↔
      (bluetoothPayload mac ((deviceName.map (·.1)).getD [])).length ≤ 255 := by
    rw [hlength]
    cases deviceName <;> simp
  rw [hname, ndefBuildBluetoothMessage_eq hmac,
    buildSingleRecord_short hsr hil (by decide) htype]
  constructor
  · rintro ⟨message, r, hbuild, -⟩
    by_contra hlong
    rw [if_pos (Nat.not_le.mp hlong)] at hbuild
    cases hbuild
  · intro hfits
    rw [if_neg (Nat.not_lt.mpr hfits)]
    have htnf : ((0xD2 : UInt8) &&& ndefHdrTnf).toNat = ndefTnfMediaType := by decide
    refine ⟨_, _, rfl, ndefParseRecord_eq_some.mpr ⟨valid_short hsr hil htype hfits, ?_⟩, htnf, rfl,
      oobPayload_bluetoothPayload mac _⟩
    rw [List.append_nil]

/-- The address of a headset. -/
def headsetAddress : CString := ⟨text "00:1A:7D:DA:71:13", by decide⟩

theorem bluetooth_request_met_iff_headset :
    BluetoothRequestMet ⟨[0x00, 0x1A, 0x7D, 0xDA, 0x71, 0x13], rfl⟩ (repeated 245).1
      (ndefBuildBluetoothMessage 64 (some headsetAddress.1) (some (repeated 245).1)) :=
  (bluetooth_request_met_iff 64 headsetAddress ⟨[0x00, 0x1A, 0x7D, 0xDA, 0x71, 0x13], rfl⟩
    (by decide) (some (repeated 245))).mpr (by
      rintro name ⟨rfl⟩
      exact Or.inl List.length_replicate.le)

/-- With one more byte in its name there is no message for it. -/
theorem no_message_for_long_name :
    parseMacAddress 64 (some headsetAddress.1) = some ⟨[0x00, 0x1A, 0x7D, 0xDA, 0x71, 0x13], rfl⟩ ∧
      (repeated 246).1.length = 246 ∧
      ¬ BluetoothRequestMet ⟨[0x00, 0x1A, 0x7D, 0xDA, 0x71, 0x13], rfl⟩ (repeated 246).1
        (ndefBuildBluetoothMessage 64 (some headsetAddress.1) (some (repeated 246).1)) := by
  have hnull : ndefBuildBluetoothMessage 64 (some headsetAddress.1) (some (repeated 246).1)
      = some none := by decide +kernel
  refine ⟨by decide, List.length_replicate, ?_⟩
  rintro ⟨message, r, hbuild, -⟩
  rw [hnull] at hbuild
  cases hbuild

end NfcAdapter
