/-
# What the Luna methods do with their messages (`nfc_service.c`, `luna_service_utils.c`)

Each method takes its parameters out of the payload, turns a message away whose parameters
are missing, and hands the others to the client; the callback of the client's request builds
the reply.  The payload is given as the JSON parser returns it.
-/
import NfcAdapter.Base64
import NfcAdapter.NdefBluetooth
import NfcAdapter.NdefVcard
import NfcAdapter.NdefWifi
import NfcAdapter.PassportReads
import NfcAdapter.TagClone

namespace NfcAdapter

open Json (text Value Object)

/-! ## Replies -/

/-- `luna_service_message_reply_custom_error`. -/
def lunaServiceMessageReplyCustomError (errorText : Bytes) : Object :=
  (Object.put [] "returnValue" (.boolean false)).put "errorText" (.string (cString errorText))

/-- `luna_service_message_reply_error_bad_json`. -/
def lunaServiceMessageReplyErrorBadJson : Object :=
  lunaServiceMessageReplyCustomError (text "Malformed json.")

/-- `luna_service_message_reply_error_invalid_params`. -/
def lunaServiceMessageReplyErrorInvalidParams : Object :=
  lunaServiceMessageReplyCustomError (text "Invalid parameters.")

/-- `luna_service_message_reply_success`. -/
def lunaServiceMessageReplySuccess : Object := Object.put [] "returnValue" (.boolean true)

/-- The callbacks of requests that only succeed or fail: `default` stands for a missing error
text. -/
def resultReply (default : String) (success : Bool) (errorText : Option String) : Object :=
  if success then lunaServiceMessageReplySuccess
  else lunaServiceMessageReplyCustomError (text (errorText.getD default))

/-- `set_enabled_result_cb`. -/
def setEnabledResultCb : Bool → Option String → Object := resultReply "Failed to set NFC state"

/-- `write_tag_result_cb`. -/
def writeTagResultCb : Bool → Option String → Object := resultReply "Failed to write tag"

/-- `lock_tag_result_cb`. -/
def lockTagResultCb : Bool → Option String → Object := resultReply "Failed to lock tag"

/-- `clone_tag_result_cb`. -/
def cloneTagResultCb : Bool → Option String → Object := resultReply "Failed to clone tag"

/-- `add_card_emulation_result_cb`. -/
def addCardEmulationResultCb : Bool → Option String → Object :=
  resultReply "Failed to add card emulation profile"

/-- `remove_card_emulation_result_cb`. -/
def removeCardEmulationResultCb : Bool → Option String → Object :=
  resultReply "Failed to remove card emulation profile"

/-- `clear_card_emulation_result_cb`. -/
def clearCardEmulationResultCb : Bool → Option String → Object :=
  resultReply "Failed to clear card emulation profile"

/-- The members for the parsed fields of an MRZ. -/
def putMrzFields (obj : Object) (f : MrzFields) : Object :=
  let obj := obj.put "documentType" (.string (cString f.documentType))
  let obj := obj.put "issuingState" (.string (cString f.issuingState))
  let obj := obj.put "surname" (.string (cString f.surname))
  let obj := obj.put "givenNames" (.string (cString f.givenNames))
  let obj := obj.put "documentNumber" (.string (cString f.documentNumber))
  let obj := obj.put "nationality" (.string (cString f.nationality))
  let obj := obj.put "dateOfBirth" (.string (cString f.dateOfBirth))
  let obj := obj.put "sex" (.string (cString f.sex))
  obj.put "dateOfExpiry" (.string (cString f.dateOfExpiry))

/-- The members for a photo. -/
def putPhoto (obj : Object) (photo : Bytes × PhotoFormat) : Object :=
  (obj.put "photoBase64" (.string (Base64.encode photo.1))).put "photoFormat"
    (.string (text photo.2.text))

/-- The reply of `read_passport_result_cb` for a document that has been read. -/
def passportReply (result : PassportResult) : Object :=
  let obj := Object.put [] "returnValue" (.boolean true)
  let obj := obj.put "mrz" (.string (cString result.mrzText))
  -- without a recognized layout there is only the text
  let obj := result.fields.elim obj (putMrzFields obj)
  result.photo.elim obj (putPhoto obj)

/-- `read_passport_result_cb`; a success without a result would be read through NULL. -/
def readPassportResultCb (success : Bool) (errorText : Option String)
    (result : Option PassportResult) : Option Object :=
  if success then result.map passportReply
  else some (lunaServiceMessageReplyCustomError
    (text (errorText.getD "Failed to read the document")))

/-- `build_hce_event`, on what `nfcd_client_get_hce_event` returns. -/
def buildHceEvent (event : Option (String × Bool)) : Object :=
  let obj := Object.put [] "returnValue" (.boolean true)
  event.elim obj fun e =>
    (obj.put "aidHex" (.string (text e.1))).put "ok" (.boolean e.2)

/-! ## Parameters -/

/-- The methods of `_nfc_service_methods`. -/
inductive LunaMethod
  | getStatus
  | setEnabled
  | getTagInfo
  | writeTag
  | lockTag
  | cloneTag
  | readPassport
  | readPassportPACE
  | addCardEmulationProfile
  | removeCardEmulationProfile
  | clearCardEmulation
  | getCardEmulationEvent
  deriving DecidableEq, Repr

/-- A message: `id` tells messages apart, `payload` is what `jdom_parse` makes of the payload,
`subscription` what `LSSubscriptionProcess` says of a message that asks for one. -/
structure LunaMessage where
  id : ℕ
  method : LunaMethod
  payload : Option Value
  subscription : Option Bool

/-- `luna_service_check_for_subscription_and_process`. -/
def LunaMessage.subscribed (m : LunaMessage) : Bool := m.subscription.getD false

/-- `luna_service_message_parse_and_validate`. -/
def lunaServiceMessageParseAndValidate (payload : Option Value) : Option Value :=
  match payload with
  | some .null => none
  | payload => payload

/-- `jobject_get_exists`; what is not an object has no members. -/
def jobjectGet (value : Value) (key : String) : Option Value :=
  match value with
  | .object members => Object.get? members key
  | _ => none

/-- `get_bool_param`. -/
def getBoolParam (member : Option Value) : Bool :=
  match member with
  | some (.boolean b) => b
  | _ => false

/-! ## Handlers -/

/-- What a handler does with a message: reply at once, or a request to the client; a message
that is too long for GLib ends the program. -/
inductive LunaOutcome
  | reply (obj : Object)
  | setEnabled (enabled : Bool)
  | write (e : WriteEvent)
  | passport (e : PassportsEvent)
  | card (e : HceEvent)
  | abort

/-- A reply with an error of the handler's own. -/
def LunaOutcome.refuse (errorText : String) : LunaOutcome :=
  .reply (lunaServiceMessageReplyCustomError (text errorText))

/-- The start of the handlers that have parameters. -/
def withParsed (payload : Option Value) (f : Value → LunaOutcome) : LunaOutcome :=
  match lunaServiceMessageParseAndValidate payload with
  | none => .reply lunaServiceMessageReplyErrorBadJson
  | some obj => f obj

/-- `_service_set_enabled_cb`. -/
def serviceSetEnabledCb (payload : Option Value) : LunaOutcome :=
  withParsed payload fun obj =>
    match jobjectGet obj "enabled" with
    | some (.boolean enabled) => .setEnabled enabled
    | _ => .reply lunaServiceMessageReplyErrorInvalidParams

/-- The NDEF message of a `writeTag` payload; `none` is the abort of GLib. -/
def writeTagMessage (longBits : ℕ) (obj : Value) : BuildResult :=
  let param := fun name => getStringParam (jobjectGet obj name)
  let type := param "type"
  if type = some (text "uri") ∧ (param "uri").isSome then ndefBuildUriMessage (param "uri")
  else if type = some (text "text") ∧ (param "text").isSome then
    ndefBuildTextMessage (param "text") (param "language")
  else if type = some (text "vcard") ∧ (param "name").isSome then
    ndefBuildVcardMessage (param "name") (param "phone") (param "email")
  else if type = some (text "wifi") ∧ (param "ssid").isSome then
    ndefBuildWifiMessage (param "ssid") (param "password") (param "auth") (param "encryption")
  else if type = some (text "bluetooth") ∧ (param "macAddress").isSome then
    ndefBuildBluetoothMessage longBits (param "macAddress") (param "deviceName")
  else some none

/-- The error of `_service_write_tag_cb`. -/
def writeTagExpected : String :=
  "Expected type \"uri\" with a uri, type \"text\" with a text, " ++
    "type \"vcard\" with a name (phone/email optional), " ++
    "type \"wifi\" with a ssid (password/auth/encryption optional), " ++
    "or type \"bluetooth\" with a macAddress (deviceName optional)"

/-- `_service_write_tag_cb`. -/
def serviceWriteTagCb (longBits : ℕ) (payload : Option Value) (userData : ℕ) : LunaOutcome :=
  withParsed payload fun obj =>
    match writeTagMessage longBits obj with
    | none => .abort
    | some none => .refuse writeTagExpected
    | some (some message) => .write (.writeTag (some message) userData)

/-- `_service_clone_tag_cb` with the parsing in front. -/
def serviceCloneTagHandler (payload : Option Value) (userData : ℕ) : LunaOutcome :=
  withParsed payload fun obj =>
    match serviceCloneTagCb (jobjectGet obj "rawDataHex") userData with
    | .error errorText => .refuse errorText
    | .ok e => .write e

/-- `_service_add_card_emulation_cb`; `exported` is what `hce_export_skeleton` will return. -/
def serviceAddCardEmulationCb (payload : Option Value) (exported : Bool) : LunaOutcome :=
  withParsed payload fun obj =>
    match CardEvent.toClient (.addCardEmulationProfile (jobjectGet obj "aidHex")
      (jobjectGet obj "payloadHex") (getBoolParam (jobjectGet obj "implicit")) exported) with
    | none => .refuse "Expected aidHex, the Application ID to register"
    | some e => .card e

/-- `_service_remove_card_emulation_cb`. -/
def serviceRemoveCardEmulationCb (payload : Option Value) : LunaOutcome :=
  withParsed payload fun obj =>
    match CardEvent.toClient (.removeCardEmulationProfile (jobjectGet obj "aidHex")) with
    | none => .refuse "Expected aidHex, the Application ID to unregister"
    | some e => .card e

/-- `_service_read_passport_cb`. -/
def serviceReadPassportCb (payload : Option Value) (userData : ℕ) : LunaOutcome :=
  withParsed payload fun obj =>
    let param := fun name => getStringParam (jobjectGet obj name)
    match param "documentNumber", param "dateOfBirth", param "dateOfExpiry" with
    | some documentNumber, some dateOfBirth, some dateOfExpiry =>
      .passport (.readPassport (some documentNumber) (some dateOfBirth) (some dateOfExpiry)
        (getBoolParam (jobjectGet obj "readPhoto")) userData)
    | _, _, _ => .refuse ("Expected documentNumber, dateOfBirth and dateOfExpiry (YYMMDD), " ++
        "as printed in the document's MRZ")

/-- `_service_read_passport_pace_cb`. -/
def serviceReadPassportPaceCb (payload : Option Value) (userData : ℕ) : LunaOutcome :=
  withParsed payload fun obj =>
    match getStringParam (jobjectGet obj "can") with
    | some can => .passport (.readPassportPace (some can)
        (getBoolParam (jobjectGet obj "readPhoto")) userData)
    | none => .refuse "Expected can, the Card Access Number printed on the document"

/-- `_service_get_status_cb`, `_service_get_tag_info_cb` and
`_service_get_card_emulation_event_cb`, with the body of the reply. -/
def subscribedReply (body : Object) (m : LunaMessage) : LunaOutcome :=
  .reply (body.put "subscribed" (.boolean m.subscribed))

end NfcAdapter
