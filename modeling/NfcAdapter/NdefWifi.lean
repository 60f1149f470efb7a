/-
# Wi-Fi credentials (`ndef.c`)

`ndef_build_wifi_message`: a Wi-Fi Simple Configuration credential in a media record.
Every request within the length limits gets its record, and the nested attributes of the
record are the request.
-/
import NfcAdapter.NdefBuild
import NfcAdapter.Tlv16

namespace NfcAdapter

open Json (text)
open Tlv16

/-! ## Tokens -/

/-- `g_ascii_tolower`. -/
def asciiToLower (c : UInt8) : UInt8 := if 0x41 ≤ c ∧ c ≤ 0x5A then c + 0x20 else c

/-- `g_ascii_strcasecmp`: the difference at the first characters that differ without regard
to case; the end of a string counts as a zero byte. -/
def asciiStrcasecmp : Bytes → Bytes → ℤ
  | a :: s, b :: t =>
    if asciiToLower a ≠ asciiToLower b then (asciiToLower a).toNat - (asciiToLower b).toNat
    else asciiStrcasecmp s t
  | s, t => (s.headD 0).toNat - (t.headD 0).toNat

/-- `token_is`. -/
def tokenIs (value : Option Bytes) (candidate : String) : Bool :=
  match value with
  | none => false
  | some value => asciiStrcasecmp value (text candidate) = 0

/-- `wsc_auth_type`. -/
def wscAuthType (auth : Option Bytes) : UInt16 :=
  if tokenIs auth "Open" || tokenIs auth "None" then 0x0001
  else if tokenIs auth "WPA-Personal" || tokenIs auth "WPA" then 0x0002
  else if tokenIs auth "WPA2-Personal" || tokenIs auth "WPA2" then 0x0020
  -- mixed WPA/WPA2-Personal
  else 0x0022

/-- `wsc_encryption_type`. -/
def wscEncryptionType (encryption : Option Bytes) : UInt16 :=
  if tokenIs encryption "None" then 0x0001
  else if tokenIs encryption "WEP" then 0x0002
  else if tokenIs encryption "TKIP" then 0x0004
  else if tokenIs encryption "AES" then 0x0008
  -- AES and TKIP
  else 0x000C

/-! ## The builder -/

/-- `WSC_ATTR_SSID`. -/
def wscAttrSsid : UInt16 := 0x1045
/-- `WSC_ATTR_AUTH_TYPE`. -/
def wscAttrAuthType : UInt16 := 0x1003
/-- `WSC_ATTR_ENCRYPTION_TYPE`. -/
def wscAttrEncryptionType : UInt16 := 0x100F
/-- `WSC_ATTR_NETWORK_KEY`. -/
def wscAttrNetworkKey : UInt16 := 0x1027
/-- `WSC_ATTR_MAC_ADDRESS`. -/
def wscAttrMacAddress : UInt16 := 0x1020
/-- `WSC_ATTR_CREDENTIAL`. -/
def wscAttrCredential : UInt16 := 0x100E

/-- `wsc_append_tlv`; `none` where GLib aborts. -/
def wscAppendTlv (out : Bytes) (type : UInt16) (value : Bytes) (len : UInt16) : Option Bytes :=
  (byteArrayAppend out [(type >>> 8).toUInt8, (type &&& 0xFF).toUInt8,
    (len >>> 8).toUInt8, (len &&& 0xFF).toUInt8]).bind fun out =>
      if len > 0 then byteArrayAppend out (value.take len.toNat) else some out

/-- `wsc_append_tlv_u16`. -/
def wscAppendTlvU16 (out : Bytes) (type value : UInt16) : Option Bytes :=
  wscAppendTlv out type [(value >>> 8).toUInt8, (value &&& 0xFF).toUInt8] 2

/-- `broadcast_mac`. -/
def broadcastMac : Bytes := [0xFF, 0xFF, 0xFF, 0xFF, 0xFF, 0xFF]

/-- `ndef_build_wifi_message`; a NULL password is treated like an empty one. -/
def ndefBuildWifiMessage (ssid password auth encryption : Option Bytes) : BuildResult :=
  match ssid with
  | none => some none
  | some ssid =>
    let password := password.getD []
    if ssid = [] ∨ ssid.length > 32 then some none
    else if password.length > 64 then some none
    else do
      let credential ← wscAppendTlv [] wscAttrSsid ssid ssid.length.toUInt16
      let credential ← wscAppendTlvU16 credential wscAttrAuthType (wscAuthType auth)
      let credential ←
        wscAppendTlvU16 credential wscAttrEncryptionType (wscEncryptionType encryption)
      let credential ←
        if password ≠ [] then
          wscAppendTlv credential wscAttrNetworkKey password password.length.toUInt16
        else some credential
      let credential ← wscAppendTlv credential wscAttrMacAddress broadcastMac 6
      let payload ← wscAppendTlv [] wscAttrCredential credential credential.length.toUInt16
      buildSingleRecord ndefTnfMediaType.toUInt8 (text "application/vnd.wfa.wsc") payload

/-! ## What a request asks for -/

/-- A token without regard to case. -/
def foldCase (token : Option Bytes) : Option Bytes := token.map fun t => t.map asciiToLower

/-- The kinds of authentication a request can name, in lower case. -/
def authTokens : List (Bytes × UInt16) :=
  [(text "open", 0x0001), (text "none", 0x0001), (text "wpa", 0x0002),
    (text "wpa-personal", 0x0002), (text "wpa2", 0x0020), (text "wpa2-personal", 0x0020)]

/-- The kinds of encryption a request can name, in lower case. -/
def encryptionTokens : List (Bytes × UInt16) :=
  [(text "none", 0x0001), (text "wep", 0x0002), (text "tkip", 0x0004), (text "aes", 0x0008)]

/-- The code of a token, the fallback for no token and for an unknown one. -/
def codeOf (tokens : List (Bytes × UInt16)) (fallback : UInt16) (token : Option Bytes) : UInt16 :=
  ((foldCase token).bind fun t => tokens.lookup t).getD fallback

/-- The attributes of a credential. -/
def credentialAttrs (ssid password : Bytes) (authCode encryptionCode : UInt16) :
    List (ℕ × Bytes) :=
  [(0x1045, ssid), (0x1003, be16 authCode), (0x100F, be16 encryptionCode)] ++
    (if password = [] then [] else [(0x1027, password)]) ++
    [(0x1020, [0xFF, 0xFF, 0xFF, 0xFF, 0xFF, 0xFF])]

/-- The builder returns a message of one record, and that is the credential record. -/
def WifiRequestMet (ssid password : Bytes) (auth encryption : Option Bytes)
    (build : BuildResult) : Prop :=
  ∃ message r credential, build = some (some message) ∧
    ndefParseRecord message = some (r, []) ∧ r.tnf = ndefTnfMediaType ∧
    r.type = text "application/vnd.wfa.wsc" ∧ read r.payload = some [(0x100E, credential)] ∧
    read credential = some (credentialAttrs ssid password (codeOf authTokens 0x0022 auth)
      (codeOf encryptionTokens 0x000C encryption))

/-! ## Tokens are compared without regard to case -/

/-- Two strings compare equal exactly if they are the same in lower case. -/
theorem asciiStrcasecmp_eq_zero_iff {s t : Bytes} (hs : 0 ∉ s) (ht : 0 ∉ t) :
    asciiStrcasecmp s t = 0 ↔ s.map asciiToLower = t.map asciiToLower := by
  induction s generalizing t with
  | nil =>
      rcases t with _ | ⟨b, t⟩
      · simp [asciiStrcasecmp]
      · have hb : b ≠ 0 := fun h => ht (h ▸ List.mem_cons_self)
        have hb : b.toNat ≠ 0 := fun h => hb (UInt8.toNat_inj.mp h)
        simp [asciiStrcasecmp, hb]
  | cons a s ih =>
      obtain ⟨ha, hs⟩ := List.ne_and_not_mem_of_not_mem_cons hs
      rcases t with _ | ⟨b, t⟩
      · have ha : a.toNat ≠ 0 := fun h => ha (UInt8.toNat_inj.mp h).symm
        simp [asciiStrcasecmp, ha]
      · obtain ⟨-, ht⟩ := List.ne_and_not_mem_of_not_mem_cons ht
        rw [asciiStrcasecmp, List.map_cons, List.map_cons, List.cons.injEq]
        by_cases hab : asciiToLower a = asciiToLower b
        · rw [if_neg (not_not.mpr hab), ih hs ht]
          simp [hab]
        · rw [if_pos hab]
          have hne : (asciiToLower a).toNat ≠ (asciiToLower b).toNat :=
            fun h => hab (UInt8.toNat_inj.mp h)
          simp only [hab, false_and, iff_false]
          omega

theorem tokenIs_iff (token : CString) {candidate : String} (h : 0 ∉ text candidate) :
    tokenIs (some token.1) candidate
      = decide (token.1.map asciiToLower = (text candidate).map asciiToLower) := by
  rw [tokenIs]
  exact decide_eq_decide.mpr (asciiStrcasecmp_eq_zero_iff token.2 h)

theorem lookup_of_unknown {tokens : List (Bytes × UInt16)} {folded : Bytes}
    (h : folded ∉ tokens.map Prod.fst) : tokens.lookup folded = none := by
  rw [List.lookup_eq_none_iff]
  rintro ⟨t, code⟩ hmem
  rw [bne_iff_ne]
  rintro rfl
  exact h (List.mem_map_of_mem hmem)

/-- A token that is not in the table is none of the candidates in it. -/
theorem ne_of_unknown {tokens : List (Bytes × UInt16)} {candidates : List String}
    (hall : ∀ candidate ∈ candidates,
      (text candidate).map asciiToLower ∈ tokens.map Prod.fst)
    {folded : Bytes} (h : folded ∉ tokens.map Prod.fst) :
    ∀ candidate ∈ candidates, folded ≠ (text candidate).map asciiToLower := by
  rintro candidate hcandidate rfl
  exact h (hall candidate hcandidate)

/-- The authentication code depends only on the token without regard to case. -/
theorem wscAuthType_eq (auth : Option CString) :
    wscAuthType (auth.map (·.1)) = codeOf authTokens 0x0022 (auth.map (·.1)) := by
  rcases auth with _ | token
  · rfl
  · simp only [Option.map_some, wscAuthType, codeOf, foldCase, Option.bind_some,
      @tokenIs_iff token "Open" (by decide), @tokenIs_iff token "None" (by decide),
      @tokenIs_iff token "WPA-Personal" (by decide), @tokenIs_iff token "WPA" (by decide),
      @tokenIs_iff token "WPA2-Personal" (by decide), @tokenIs_iff token "WPA2" (by decide)]
    generalize token.1.map asciiToLower = folded
    by_cases hknown : folded ∈ authTokens.map Prod.fst
    · -- each of the tokens has its code in both tables
      revert folded
      decide +kernel
    · rw [lookup_of_unknown hknown]
      have hne := @ne_of_unknown authTokens
        ["Open", "None", "WPA-Personal", "WPA", "WPA2-Personal", "WPA2"] (by decide +kernel)
        folded hknown
      simp [hne]

/-- So does the encryption code. -/
theorem wscEncryptionType_eq (encryption : Option CString) :
    wscEncryptionType (encryption.map (·.1))
      = codeOf encryptionTokens 0x000C (encryption.map (·.1)) := by
  rcases encryption with _ | token
  · rfl
  · simp only [Option.map_some, wscEncryptionType, codeOf, foldCase, Option.bind_some,
      @tokenIs_iff token "None" (by decide), @tokenIs_iff token "WEP" (by decide),
      @tokenIs_iff token "TKIP" (by decide), @tokenIs_iff token "AES" (by decide)]
    generalize token.1.map asciiToLower = folded
    by_cases hknown : folded ∈ encryptionTokens.map Prod.fst
    · revert folded
      decide +kernel
    · rw [lookup_of_unknown hknown]
      have hne := @ne_of_unknown encryptionTokens ["None", "WEP", "TKIP", "AES"]
        (by decide +kernel) folded hknown
      simp [hne]

/-! ## The record -/

theorem wscAppendTlv_eq {out value : Bytes} (type : UInt16) (hvalue : value.length < 2 ^ 16)
    (hout : out.length + 4 + value.length < 2 ^ 32) :
    wscAppendTlv out type value value.length.toUInt16 = some (out ++ encode type value) := by
  have hlen := toNat_length hvalue
  rw [wscAppendTlv, byteArrayAppend,
    if_pos (by simp only [List.length_cons, List.length_nil]; omega), Option.bind_some]
  by_cases hempty : value = []
  · subst hempty
    rw [if_neg (by decide), encode, List.append_nil]
    rfl
  · have hpos : 0 < value.length := List.length_pos_of_ne_nil hempty
    have hgt : value.length.toUInt16 > 0 := by
      rw [gt_iff_lt, UInt16.lt_iff_toNat_lt, hlen]
      exact hpos
    rw [if_pos hgt, hlen, List.take_length, byteArrayAppend, if_pos (by
      simp only [List.length_append, List.length_cons, List.length_nil]; omega), encode,
      List.append_assoc]
    rfl

theorem wscAppendTlvU16_eq {out : Bytes} (type value : UInt16) (hout : out.length + 6 < 2 ^ 32) :
    wscAppendTlvU16 out type value = some (out ++ encode type (be16 value)) :=
  @wscAppendTlv_eq out (be16 value) type (by rw [length_be16]; decide) hout

/-- The attributes the builder appends to the credential. -/
def wscAttrs (ssid password : Bytes) (authCode encryptionCode : UInt16) :
    List (UInt16 × Bytes) :=
  [(wscAttrSsid, ssid), (wscAttrAuthType, be16 authCode),
      (wscAttrEncryptionType, be16 encryptionCode)] ++
    (if password = [] then [] else [(wscAttrNetworkKey, password)]) ++
    [(wscAttrMacAddress, broadcastMac)]

theorem length_encodeAll_wscAttrs (ssid password : Bytes) (authCode encryptionCode : UInt16) :
    (encodeAll (wscAttrs ssid password authCode encryptionCode)).length
      ≤ 30 + ssid.length + password.length := by
  unfold wscAttrs
  split_ifs <;>
    simp only [encodeAll, List.flatMap_append, List.flatMap_cons, List.flatMap_nil,
      List.length_append, length_encode, List.length_nil, be16, broadcastMac, List.length_cons] <;>
    omega

/-- Within the limits the builder makes a short record of the nested attributes. -/
theorem ndefBuildWifiMessage_eq {ssid password : Bytes} (hne : ssid ≠ [])
    (hssid : ssid.length ≤ 32) (hpassword : password.length ≤ 64) (auth encryption : Option Bytes)
    {given : Option Bytes} (hgiven : given.getD [] = password) :
    ndefBuildWifiMessage (some ssid) given auth encryption =
      buildSingleRecord ndefTnfMediaType.toUInt8 (text "application/vnd.wfa.wsc")
        (encode wscAttrCredential (encodeAll
          (wscAttrs ssid password (wscAuthType auth) (wscEncryptionType encryption)))) := by
  have h1 := @wscAppendTlv_eq [] ssid wscAttrSsid (by omega) (by rw [List.length_nil]; omega)
  have h2 := fun out hout => @wscAppendTlvU16_eq out wscAttrAuthType (wscAuthType auth) hout
  have h3 := fun out hout =>
    @wscAppendTlvU16_eq out wscAttrEncryptionType (wscEncryptionType encryption) hout
  have h4 := fun out hout => @wscAppendTlv_eq out password wscAttrNetworkKey (by omega) hout
  have h5 : ∀ out : Bytes, out.length + 10 < 2 ^ 32 →
      wscAppendTlv out wscAttrMacAddress broadcastMac 6
        = some (out ++ encode wscAttrMacAddress broadcastMac) :=
    fun out hout => @wscAppendTlv_eq out broadcastMac wscAttrMacAddress (by decide) hout
  have hattrs := length_encodeAll_wscAttrs ssid password (wscAuthType auth)
    (wscEncryptionType encryption)
  have h6 := @wscAppendTlv_eq [] _ wscAttrCredential
    (show (encodeAll (wscAttrs ssid password (wscAuthType auth)
      (wscEncryptionType encryption))).length < 2 ^ 16 by omega) (by rw [List.length_nil]; omega)
  rw [ndefBuildWifiMessage]
  simp only [hgiven, Option.bind_eq_bind]
  rw [if_neg (by simp [hne]; omega), if_neg (by omega), h1, Option.bind_some,
    h2 _ (by simp only [List.length_append, List.length_nil, length_encode]; omega),
    Option.bind_some,
    h3 _ (by simp only [List.length_append, List.length_nil, length_encode, length_be16]; omega),
    Option.bind_some]
  -- the network key is the one attribute that can be missing
  by_cases hp : password = []
  · have hcredential : encodeAll (wscAttrs ssid password (wscAuthType auth)
        (wscEncryptionType encryption))
        = [] ++ encode wscAttrSsid ssid ++ encode wscAttrAuthType (be16 (wscAuthType auth)) ++
          encode wscAttrEncryptionType (be16 (wscEncryptionType encryption)) ++
          encode wscAttrMacAddress broadcastMac := by
      simp [encodeAll, wscAttrs, hp]
    rw [hcredential] at h6 ⊢
    rw [if_neg (not_not.mpr hp), Option.bind_some,
      h5 _ (by simp only [List.length_append, List.length_nil, length_encode, length_be16]; omega),
      Option.bind_some, h6, Option.bind_some, List.nil_append]
  · have hcredential : encodeAll (wscAttrs ssid password (wscAuthType auth)
        (wscEncryptionType encryption))
        = [] ++ encode wscAttrSsid ssid ++ encode wscAttrAuthType (be16 (wscAuthType auth)) ++
          encode wscAttrEncryptionType (be16 (wscEncryptionType encryption)) ++
          encode wscAttrNetworkKey password ++ encode wscAttrMacAddress broadcastMac := by
      simp [encodeAll, wscAttrs, hp]
    rw [hcredential] at h6 ⊢
    rw [if_pos hp,
      h4 _ (by simp only [List.length_append, List.length_nil, length_encode, length_be16]; omega),
      Option.bind_some,
      h5 _ (by simp only [List.length_append, List.length_nil, length_encode, length_be16]; omega),
      Option.bind_some, h6, Option.bind_some, List.nil_append]

/-- Within the limits there is a message, and it is the credential that was asked for: its
network, the codes of the two tokens, the key if there is one, and an address of FF. -/
theorem wifi_request_met (ssid : CString) (hne : ssid.1 ≠ []) (hssid : ssid.1.length ≤ 32)
    (password : Option CString) (hpassword : ∀ key ∈ password, key.1.length ≤ 64)
    (auth encryption : Option CString) :
    WifiRequestMet ssid.1 ((password.map (·.1)).getD []) (auth.map (·.1)) (encryption.map (·.1))
      (ndefBuildWifiMessage (some ssid.1) (password.map (·.1)) (auth.map (·.1))
        (encryption.map (·.1))) := by
  have htype : (text "application/vnd.wfa.wsc").length ≤ 255 := by decide
  have hsr : (0xD2 : UInt8) &&& ndefHdrSr ≠ 0 := by decide
  have hil : ¬ ((0xD2 : UInt8) &&& ndefHdrIl ≠ 0) := by decide
  have htnf : ((0xD2 : UInt8) &&& ndefHdrTnf).toNat = ndefTnfMediaType := by decide
  have hkey : ((password.map (·.1)).getD []).length ≤ 64 := by
    rcases password with _ | key
    · exact Nat.zero_le 64
    · exact hpassword key rfl
  rw [ndefBuildWifiMessage_eq hne hssid hkey _ _ rfl, buildSingleRecord_short hsr hil (by decide)
    htype, wscAuthType_eq, wscEncryptionType_eq]
  generalize (password.map (·.1)).getD [] = key at hkey
  generalize hauth : codeOf authTokens 0x0022 (auth.map (·.1)) = authCode
  generalize hencryption : codeOf encryptionTokens 0x000C (encryption.map (·.1)) = encryptionCode
  have hattrs := length_encodeAll_wscAttrs ssid.1 key authCode encryptionCode
  have hfits : (encode wscAttrCredential (encodeAll
      (wscAttrs ssid.1 key authCode encryptionCode))).length ≤ 255 := by
    rw [length_encode]
    omega
  rw [if_neg (Nat.not_lt.mpr hfits)]
  refine ⟨_, ⟨0xD2, text "application/vnd.wfa.wsc", [], _⟩,
    encodeAll (wscAttrs ssid.1 key authCode encryptionCode), rfl,
    ndefParseRecord_eq_some.mpr ⟨valid_short hsr hil htype hfits, by rw [List.append_nil]⟩,
    htnf, rfl, ?_, ?_⟩
  · have hone : encode wscAttrCredential (encodeAll (wscAttrs ssid.1 key authCode encryptionCode))
        = encodeAll [(wscAttrCredential,
          encodeAll (wscAttrs ssid.1 key authCode encryptionCode))] := by
      simp [encodeAll]
    show read (encode wscAttrCredential _) = _
    rw [hone, read_encodeAll (by simp only [List.mem_singleton, forall_eq]; omega)]
    rfl
  · have hshort : ∀ a ∈ wscAttrs ssid.1 key authCode encryptionCode, a.2.length < 2 ^ 16 := by
      have hmac : broadcastMac.length = 6 := rfl
      unfold wscAttrs
      split_ifs <;> simp [hmac] <;> omega
    rw [read_encodeAll hshort, hauth, hencryption, wscAttrs, credentialAttrs]
    split_ifs <;> rfl

/-- A network of a coffee house. -/
def cafeSsid : CString := ⟨text "Cafe", by decide⟩

theorem wifi_request_met_cafe :
    WifiRequestMet cafeSsid.1 (repeated 64).1 (some (text "wpa2")) (some (text "aes"))
      (ndefBuildWifiMessage (some cafeSsid.1) (some (repeated 64).1) (some (text "wpa2"))
        (some (text "aes"))) :=
  wifi_request_met cafeSsid (by decide) (by decide) (some (repeated 64))
    (by rintro key ⟨rfl⟩; exact List.length_replicate.le) (some ⟨text "wpa2", by decide⟩)
    (some ⟨text "aes", by decide⟩)

end NfcAdapter
