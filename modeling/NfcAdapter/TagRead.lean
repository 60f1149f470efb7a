/-
# Reading a tag (`nfcd_client.c`)

The client's current tag and the reads of tags: a read follows one tag through its
information, its NDEF records or MIFARE Classic sectors and its raw data, one call at a
time.  When another tag becomes current the read is detached from the client, its call is
cancelled, and its callback only frees it.  D-Bus paths, names and interface names are
strings; `G_IO_ERROR_CANCELLED` is told apart from other errors.
-/
import NfcAdapter.Ndef
import NfcAdapter.Runs
import NfcAdapter.TaskPool

namespace NfcAdapter

open Json (text Value Object)
open TaskPool (Pool)

/-! ## What nfcd answers -/

/-- The kinds of `GVariant` that `variant_to_json` tells apart; any other one is given by
what `g_variant_print` makes of it. -/
inductive GVariant
  | bytestring (bytes : Bytes)
  | string (s : Bytes)
  | boolean (b : Bool)
  | byte (b : UInt8)
  | uint32 (n : ℕ)
  | int32 (n : ℤ)
  | other (printed : Bytes)
  deriving DecidableEq, Repr

/-- The answer to `GetAll3` of a tag. -/
structure TagInfo where
  present : Bool
  technology : ℕ
  protocol : ℕ
  type : ℕ
  interfaces : List String
  ndefRecords : List String
  pollParameters : List (String × GVariant)
  deriving DecidableEq, Repr

/-- The answer to `GetAll` of an NDEF record, with the memory behind its payload. -/
structure NdefInfo where
  tnf : ℕ
  type : Bytes
  id : Bytes
  payload : Bytes
  beyond : Bytes
  deriving DecidableEq, Repr

/-- How a call ends. -/
inductive TagReply
  | failed (cancelled : Bool)
  | proxy
  | tagInfo (info : TagInfo)
  | record (info : NdefInfo)
  | data (bytes : Bytes)
  deriving DecidableEq, Repr

namespace TagReply

/-- The error is `G_IO_ERROR_CANCELLED`. -/
def cancelled : TagReply → Bool
  | failed c => c
  | _ => false

/-- A proxy was made. -/
def isProxy : TagReply → Bool
  | proxy => true
  | _ => false

/-- The tag information; an answer of another type is an error to the D-Bus library. -/
def tagInfo? : TagReply → Option TagInfo
  | tagInfo info => some info
  | _ => none

/-- The NDEF record. -/
def record? : TagReply → Option NdefInfo
  | record info => some info
  | _ => none

/-- The bytes read. -/
def data? : TagReply → Option Bytes
  | data bytes => some bytes
  | _ => none

end TagReply

/-! ## JSON -/

/-- `variant_to_json`. -/
def variantToJson : GVariant → Value
  | .bytestring bytes => .string (text (ndefBytesToHex bytes))
  | .string s => .string s
  | .boolean b => .boolean b
  | .byte b => .number b.toNat
  | .uint32 n => .number (toInt32 n)
  | .int32 n => .number n
  | .other printed => .string printed

/-- `variant_dict_to_json`. -/
def variantDictToJson (dict : List (String × GVariant)) : Object :=
  dict.foldl (fun obj entry => obj.put entry.1 (variantToJson entry.2)) []

/-- `technology_to_string`. -/
def technologyToString (technology : ℕ) : String :=
  if technology = 1 then "nfc-a"
  else if technology = 2 then "nfc-b"
  else if technology = 4 then "nfc-f"
  else "unknown"

/-- `protocol_to_string`. -/
def protocolToString (protocol : ℕ) : String :=
  if protocol = 1 then "t1t"
  else if protocol = 2 then "t2t"
  else if protocol = 4 then "t3t"
  else if protocol = 8 then "t4a"
  else if protocol = 16 then "t4b"
  else if protocol = 32 then "nfc-dep"
  else if protocol = 64 then "mifare-classic"
  else "unknown"

/-- `strv_to_json`. -/
def strvToJson (strv : List String) : Value := .array (strv.map fun s => .string (text s))

/-- `TAG_IFACE_TYPE2`. -/
def tagIfaceType2 : String := "org.sailfishos.nfc.TagType2"

/-- `NFC_TAG_TYPE_MIFARE_CLASSIC`. -/
def nfcTagTypeMifareClassic : ℕ := 2

/-- One of the tag's interfaces is that of Type 2 tags. -/
def TagInfo.isType2 (info : TagInfo) : Bool := info.interfaces.contains tagIfaceType2

/-- The `tag_obj` of `tag_get_all_ready`. -/
def tagObject (path : String) (info : TagInfo) : Object :=
  let obj := Object.put [] "path" (.string (text path))
  let obj := obj.put "present" (.boolean info.present)
  let obj := obj.put "technology" (.string (text (technologyToString info.technology)))
  let obj := obj.put "protocol" (.string (text (protocolToString info.protocol)))
  let obj := obj.put "type" (.number (toInt32 info.type))
  let obj := obj.put "interfaces" (strvToJson info.interfaces)
  obj.put "pollParameters" (.object (variantDictToJson info.pollParameters))

/-- The `NFCID1` poll parameter in hex, the key of the MIFARE cache. -/
def TagInfo.mifareUid (info : TagInfo) : Option String :=
  match info.pollParameters.lookup "NFCID1" with
  | some (.bytestring bytes) => some (ndefBytesToHex bytes)
  | _ => none

/-! ## The state -/

/-- The calls a read makes, with what they are sent to. -/
inductive TagCall
  | tagProxy (path : String)
  | getAll3 (path : String)
  | ndefProxy (path : String)
  | ndefGetAll (path : String)
  | type2Proxy (path : String)
  | readAllData (path : String)
  | mifareAuth (command : Bytes)
  | mifareBlock (command : Bytes)
  deriving DecidableEq, Repr

/-- `struct tag_read`.  `client` says whether the read still points at the client,
`cancelled` whether its cancellable has been cancelled. -/
structure TagRead where
  client : Bool
  path : String
  cancelled : Bool
  tagObj : Object
  recordsArr : List Value
  recordPaths : List String
  recordIndex : ℕ
  isType2 : Bool
  mifareUid : Option String
  mifareSector : ℕ
  mifareKeyIndex : ℕ
  mifareAuthType : ℕ
  mifareBlockOffset : ℕ
  mifareKey : Bytes
  mifareCachedAttempt : Bool
  mifareSectorsArr : List Value
  mifareBlocksArr : List Value

/-- The part of `struct nfcd_client` that reads of tags touch.  The key cache maps a UID and
a sector to the key that worked last, newest entry first; `notices` are the current tag
and its JSON at each `notify_tag`. -/
structure TagClient where
  tagPath : Option String
  tagIsType2 : Bool
  tagProtocol : ℕ
  tagJson : Option Object
  reading : Option ℕ
  mifareKeyCache : List ((String × ℕ) × Bytes)
  notices : List (Option String × Option Object)

/-- The client and its reads.  `fault` records that a freed read was used. -/
structure TagState where
  client : TagClient
  pool : Pool TagRead TagCall
  fault : Bool

/-- Nothing has happened. -/
def TagState.init : TagState := ⟨⟨none, false, 0, none, none, [], []⟩, .empty, false⟩

/-- `notify_tag`. -/
def notifyTag (c : TagClient) : TagClient :=
  { c with notices := c.notices ++ [(c.tagPath, c.tagJson)] }

namespace TagState

/-- The running callback of the read at `id` makes its next call. -/
def await (s : TagState) (id : ℕ) (read : TagRead) (call : TagCall) : TagState :=
  { s with pool := s.pool.await id read call }

/-- `tag_read_free`. -/
def free (s : TagState) (id : ℕ) : TagState := { s with pool := s.pool.free id }

end TagState

/-! ## The end of a read -/

/-- `tag_read_finish`. -/
def tagReadFinish (s : TagState) (id : ℕ) (read : TagRead) : TagState :=
  -- an aborted read publishes nothing
  if !read.client then s.free id
  else
    let obj := read.tagObj.put "records" (.array read.recordsArr)
    let client := { s.client with tagJson := some obj, tagIsType2 := read.isType2, reading := none }
    { s with client := notifyTag client }.free id

/-! ## MIFARE Classic sectors -/

/-- `MIFARE_NUM_SECTORS`. -/
def mifareNumSectors : ℕ := 40

/-- `mifare_default_keys`. -/
def mifareDefaultKeys : List Bytes :=
  [[0xFF, 0xFF, 0xFF, 0xFF, 0xFF, 0xFF], [0xA0, 0xA1, 0xA2, 0xA3, 0xA4, 0xA5],
    [0xD3, 0xF7, 0xD3, 0xF7, 0xD3, 0xF7], [0x00, 0x00, 0x00, 0x00, 0x00, 0x00]]

/-- `mifare_sector_first_block`. -/
def mifareSectorFirstBlock (sector : ℕ) : ℕ :=
  if sector < 32 then sector * 4 else 128 + (sector - 32) * 16

/-- `mifare_sector_block_count`. -/
def mifareSectorBlockCount (sector : ℕ) : ℕ := if sector < 32 then 4 else 16

/-- `mifare_cache_lookup`. -/
def mifareCacheLookup (c : TagClient) (uid : Option String) (sector : ℕ) : Option Bytes :=
  uid.bind fun uid => c.mifareKeyCache.lookup (uid, sector)

/-- `mifare_cache_store`. -/
def mifareCacheStore (c : TagClient) (uid : Option String) (sector : ℕ) (key : Bytes) :
    TagClient :=
  match uid with
  | none => c
  | some uid => { c with mifareKeyCache := ((uid, sector), key) :: c.mifareKeyCache }

/-- `mifare_publish_progress`. -/
def mifarePublishProgress (c : TagClient) (read : TagRead) : TagClient :=
  let snapshot := (read.tagObj.put "sectors" (.array read.mifareSectorsArr)).put "scanning"
    (.boolean true)
  notifyTag { c with tagJson := some snapshot }

/-- `mifare_send_auth`. -/
def mifareSendAuth (s : TagState) (id : ℕ) (read : TagRead) (key : Bytes) : TagState :=
  let kind : UInt8 := if read.mifareAuthType ≠ 0 then 0x61 else 0x60
  let block := (mifareSectorFirstBlock read.mifareSector).toUInt8
  s.await id { read with mifareKey := key } (.mifareAuth ([kind, block, 0, 0, 0, 0] ++ key))

/-- `tag_read_mifare_next_sector`.  The sweep of a sector starts with the cached key if
there is one, else with the first of the default keys. -/
def tagReadMifareNextSector (s : TagState) (id : ℕ) (read : TagRead) : TagState :=
  if !read.client then s.free id
  else if read.mifareSector ≥ mifareNumSectors then
    let obj := (read.tagObj.put "sectors" (.array read.mifareSectorsArr)).put "scanning"
      (.boolean false)
    tagReadFinish s id { read with tagObj := obj, mifareSectorsArr := [] }
  else
    -- the sectors so far are published before the next one is tried
    let s := { s with client := mifarePublishProgress s.client read }
    let read :=
      { read with mifareKeyIndex := 0, mifareAuthType := 0, mifareCachedAttempt := false }
    match mifareCacheLookup s.client read.mifareUid read.mifareSector with
    | some key => mifareSendAuth s id { read with mifareCachedAttempt := true } key
    | none => mifareSendAuth s id read (mifareDefaultKeys.getD 0 [])

/-- `tag_read_mifare_try_key`. -/
def tagReadMifareTryKey (s : TagState) (id : ℕ) (read : TagRead) : TagState :=
  -- a sector whose keys all failed is left out
  if read.mifareKeyIndex ≥ mifareDefaultKeys.length then
    tagReadMifareNextSector s id { read with mifareSector := read.mifareSector + 1 }
  else if !read.client then s.free id
  else mifareSendAuth s id read (mifareDefaultKeys.getD read.mifareKeyIndex [])

/-- `tag_read_mifare_start`. -/
def tagReadMifareStart (s : TagState) (id : ℕ) (read : TagRead) : TagState :=
  tagReadMifareNextSector s id { read with mifareSector := 0, mifareSectorsArr := [] }

/-- `mifare_read_block`. -/
def mifareReadBlock (s : TagState) (id : ℕ) (read : TagRead) (block : ℕ) : TagState :=
  s.await id read (.mifareBlock [0x30, block.toUInt8])

/-- The retry after a key failed: the default keys from the start after the cached one,
else the next of them. -/
def mifareNextKey (read : TagRead) : TagRead :=
  if read.mifareCachedAttempt then { read with mifareCachedAttempt := false }
  else { read with mifareKeyIndex := read.mifareKeyIndex + 1 }

/-- `mifare_auth_ready`. -/
def mifareAuthReady (s : TagState) (id : ℕ) (read : TagRead) (reply : TagReply) : TagState :=
  if !read.client then s.free id
  else
    match reply.data? with
    | none =>
      -- the client keeps pointing at a read that is freed here
      if reply.cancelled then s.free id
      else tagReadMifareTryKey s id (mifareNextKey read)
    | some _ =>
      mifareReadBlock s id { read with mifareBlockOffset := 0, mifareBlocksArr := [] }
        (mifareSectorFirstBlock read.mifareSector)

/-- `mifare_sector_done`. -/
def mifareSectorDone (s : TagState) (id : ℕ) (read : TagRead) : TagState :=
  let obj := Object.put [] "sector" (.number (toInt32 read.mifareSector))
  let obj := obj.put "keyType" (.string (text (if read.mifareAuthType ≠ 0 then "B" else "A")))
  let obj := obj.put "key" (.string (text (ndefBytesToHex read.mifareKey)))
  let obj := obj.put "blocks" (.array read.mifareBlocksArr)
  let client := mifareCacheStore s.client read.mifareUid read.mifareSector read.mifareKey
  tagReadMifareNextSector { s with client := client } id
    { read with
      mifareBlocksArr := []
      mifareSectorsArr := read.mifareSectorsArr ++ [.object obj]
      mifareSector := read.mifareSector + 1 }

/-- A response that is a block: real MIFARE Classic blocks are exactly 16 bytes. -/
def TagReply.block? (reply : TagReply) : Option Bytes :=
  reply.data?.bind fun bytes => if bytes.length = 16 then some bytes else none

/-- `mifare_block_read_ready`. -/
def mifareBlockReadReady (s : TagState) (id : ℕ) (read : TagRead) (reply : TagReply) : TagState :=
  if !read.client then s.free id
  else
    match reply.block? with
    | some bytes =>
      let read :=
        { read with
          mifareBlocksArr := read.mifareBlocksArr ++ [.string (text (ndefBytesToHex bytes))]
          mifareBlockOffset := read.mifareBlockOffset + 1 }
      if read.mifareBlockOffset ≥ mifareSectorBlockCount read.mifareSector then
        mifareSectorDone s id read
      else
        mifareReadBlock s id read
          (mifareSectorFirstBlock read.mifareSector + read.mifareBlockOffset)
    | none =>
      if read.mifareBlockOffset = 0 then
        -- wrong key after all
        tagReadMifareTryKey s id (mifareNextKey { read with mifareBlocksArr := [] })
      else mifareSectorDone s id read

/-! ## Records and raw data -/

/-- `tag_read_raw_data`. -/
def tagReadRawData (s : TagState) (id : ℕ) (read : TagRead) : TagState :=
  if !read.isType2 then tagReadFinish s id read
  else s.await id read (.type2Proxy read.path)

/-- `tag_read_next_record`. -/
def tagReadNextRecord (s : TagState) (id : ℕ) (read : TagRead) : TagState :=
  match read.recordPaths[read.recordIndex]? with
  | none => tagReadRawData s id read
  | some path => s.await id read (.ndefProxy path)

/-- `raw_data_ready`. -/
def rawDataReady (s : TagState) (id : ℕ) (read : TagRead) (reply : TagReply) : TagState :=
  if !read.client then s.free id
  else
    match reply.data? with
    | some bytes =>
      tagReadFinish s id { read with
        tagObj := read.tagObj.put "rawDataHex" (.string (text (ndefBytesToHex bytes))) }
    | none => tagReadFinish s id read

/-- `raw_data_proxy_ready`. -/
def rawDataProxyReady (s : TagState) (id : ℕ) (read : TagRead) (path : String)
    (reply : TagReply) : TagState :=
  if !read.client then s.free id
  else if reply.isProxy then s.await id read (.readAllData path)
  else tagReadFinish s id read

variable (glib : GlibText)

/-- `ndef_get_all_ready`. -/
def ndefGetAllReady (s : TagState) (id : ℕ) (read : TagRead) (reply : TagReply) : TagState :=
  if !read.client then s.free id
  else
    let records :=
      match reply.record? with
      | some info =>
        read.recordsArr ++
          [.object (ndefRecordToJson glib info.tnf info.type info.id info.payload info.beyond)]
      | none => read.recordsArr
    tagReadNextRecord s id
      { read with recordsArr := records, recordIndex := read.recordIndex + 1 }

/-- `ndef_proxy_ready`. -/
def ndefProxyReady (s : TagState) (id : ℕ) (read : TagRead) (path : String) (reply : TagReply) :
    TagState :=
  if !read.client then s.free id
  else if reply.isProxy then s.await id read (.ndefGetAll path)
  else tagReadNextRecord s id { read with recordIndex := read.recordIndex + 1 }

/-! ## The start of a read -/

/-- A read that fails before there is anything to publish. -/
def tagReadGiveUp (s : TagState) (id : ℕ) (read : TagRead) : TagState :=
  if read.client then { s with client := { s.client with reading := none } }.free id
  else s.free id

/-- `tag_get_all_ready`. -/
def tagGetAllReady (s : TagState) (id : ℕ) (read : TagRead) (reply : TagReply) : TagState :=
  match reply.tagInfo? with
  | none => tagReadGiveUp s id read
  | some info =>
    if !read.client then s.free id
    else
      let s := { s with client := { s.client with tagProtocol := info.protocol } }
      let read :=
        { read with
          tagObj := tagObject read.path info
          isType2 := info.isType2
          recordsArr := []
          recordPaths := info.ndefRecords
          recordIndex := 0 }
      if info.type = nfcTagTypeMifareClassic then
        tagReadMifareStart s id { read with mifareUid := info.mifareUid }
      else tagReadNextRecord s id read

/-- `tag_proxy_ready`. -/
def tagProxyReady (s : TagState) (id : ℕ) (read : TagRead) (path : String) (reply : TagReply) :
    TagState :=
  if !reply.isProxy then tagReadGiveUp s id read
  else if !read.client then s.free id
  else s.await id read (.getAll3 path)

/-- A fresh `struct tag_read`. -/
def TagRead.new (path : String) : TagRead where
  client := true
  path := path
  cancelled := false
  tagObj := []
  recordsArr := []
  recordPaths := []
  recordIndex := 0
  isType2 := false
  mifareUid := none
  mifareSector := 0
  mifareKeyIndex := 0
  mifareAuthType := 0
  mifareBlockOffset := 0
  mifareKey := List.replicate 6 0
  mifareCachedAttempt := false
  mifareSectorsArr := []
  mifareBlocksArr := []

/-- `tag_read_start`. -/
def tagReadStart (s : TagState) (path : String) : TagState :=
  { s with
    client := { s.client with reading := some s.pool.next }
    pool := s.pool.spawn (TagRead.new path) (.tagProxy path) }

/-- `tag_read_abort`. -/
def TagRead.abort (read : TagRead) : TagRead := { read with client := false, cancelled := true }

/-- The current read, if there is one, is aborted. -/
def abortReading (s : TagState) : TagState :=
  match s.client.reading with
  | none => s
  | some id =>
    -- the flag goes up if the client points at a read that has been freed
    { s with
      client := { s.client with reading := none }
      pool := s.pool.modify id TagRead.abort
      fault := s.fault || (s.pool.tasks id).isNone }

/-- `set_current_tag`. -/
def setCurrentTag (s : TagState) (path : Option String) : TagState :=
  if s.client.tagPath = path then s
  else
    let s := abortReading s
    let client :=
      { s.client with tagPath := path, tagIsType2 := false, tagProtocol := 0, tagJson := none }
    -- subscribers hear of the tag at once, of its contents when the read ends
    let s := { s with client := notifyTag client }
    match path with
    | none => s
    | some path => tagReadStart s path

/-! ## Steps -/

/-- What can happen: the list of tags is reported (`update_tags`, by signal, with the
adapter's state, or empty when the adapter goes), or the call at a position ends. -/
inductive TagEvent
  | tags (tags : List String)
  | complete (i : ℕ) (reply : TagReply)
  deriving DecidableEq, Repr

/-- The callback of a call. -/
def tagCallback (s : TagState) (id : ℕ) (read : TagRead) (call : TagCall) (reply : TagReply) :
    TagState :=
  match call with
  | .tagProxy path => tagProxyReady s id read path reply
  | .getAll3 _ => tagGetAllReady s id read reply
  | .ndefProxy path => ndefProxyReady s id read path reply
  | .ndefGetAll _ => ndefGetAllReady glib s id read reply
  | .type2Proxy path => rawDataProxyReady s id read path reply
  | .readAllData _ => rawDataReady s id read reply
  | .mifareAuth _ => mifareAuthReady s id read reply
  | .mifareBlock _ => mifareBlockReadReady s id read reply

/-- One step. -/
def tagStep (s : TagState) : TagEvent → TagState
  | .tags tags => setCurrentTag s tags.head?
  | .complete i reply =>
    match s.pool.calls[i]? with
    | none => s
    | some (id, call) =>
      match s.pool.tasks id with
      -- the callback would use a read that has been freed
      | none => { s with fault := true }
      | some read => tagCallback glib { s with pool := s.pool.take i } id read call reply

/-- A call ends with a cancellation error only after its cancellable was cancelled. -/
def TagEvent.Honest (s : TagState) : TagEvent → Prop
  | .tags _ => True
  | .complete i reply =>
    reply.cancelled = true →
      (s.pool.calls[i]?.bind fun call => s.pool.tasks call.1).all
        (fun read => read.cancelled) = true

instance (s : TagState) (e : TagEvent) : Decidable (e.Honest s) := by
  cases e <;> unfold TagEvent.Honest <;> infer_instance

end NfcAdapter
