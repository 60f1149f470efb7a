/-
# Reading the records of a tag

While a tag stays current, the calls made for it and their replies have one form: the tag's
information, one record after the other in the order nfcd lists them, the raw data of a
Type 2 tag.  Nothing is shown before the last reply; what is shown then is what was
answered.  MIFARE Classic tags are read by sweeping instead.
-/
import NfcAdapter.TagReadShown
import NfcAdapter.TagSweep

namespace NfcAdapter

open Json (text Value Object)
open Runs
open TaskPool (Pool)
open Trials

variable {glib : GlibText} {path : String} {info : TagInfo} {id : ℕ}

/-! ## The record of a read -/

/-- The two calls that bring a tag's information. -/
inductive Informed (path : String) (info : TagInfo) : List Exchange → Prop
  | mk {made answer : TagReply} (hmade : made.isProxy = true)
      (hanswer : answer.tagInfo? = some info) :
    Informed path info [(.tagProxy path, made), (.getAll3 path, answer)]

/-- The JSON of an NDEF record. -/
def recordJson (glib : GlibText) (record : NdefInfo) : Value :=
  .object (ndefRecordToJson glib record.tnf record.type record.id record.payload record.beyond)

/-- The calls for record `k`, and its JSON if nfcd had an answer. -/
inductive RecordLog (glib : GlibText) (info : TagInfo) (k : ℕ) :
    List Exchange → Option Value → Prop
  | skipped {record : String} {made : TagReply} (hrecord : info.ndefRecords[k]? = some record)
      (hmade : made.isProxy = false) :
    RecordLog glib info k [(.ndefProxy record, made)] none
  | asked {record : String} {made : TagReply} (hrecord : info.ndefRecords[k]? = some record)
      (hmade : made.isProxy = true) (answer : TagReply) :
    RecordLog glib info k [(.ndefProxy record, made), (.ndefGetAll record, answer)]
      (answer.record?.map (recordJson glib))

/-- The calls for the raw data, which only Type 2 tags have. -/
inductive RawDataLog (path : String) (info : TagInfo) : List Exchange → Option Bytes → Prop
  | none (htype2 : info.isType2 = false) : RawDataLog path info [] none
  | skipped {made : TagReply} (htype2 : info.isType2 = true) (hmade : made.isProxy = false) :
    RawDataLog path info [(.type2Proxy path, made)] none
  | asked {made : TagReply} (htype2 : info.isType2 = true) (hmade : made.isProxy = true)
      (answer : TagReply) :
    RawDataLog path info [(.type2Proxy path, made), (.readAllData path, answer)] answer.data?

/-- What getTagInfo shows of a tag that has been read. -/
def tagJsonOf (path : String) (info : TagInfo) (records : List Value) (rawData : Option Bytes) :
    Object :=
  ((tagObject path info).put? "rawDataHex"
    (rawData.map fun bytes => .string (text (ndefBytesToHex bytes)))).put "records" (.array records)

/-- The read has ended: without information, or with all there was to ask for. -/
inductive ReadOver (glib : GlibText) (path : String) : List Exchange → Option Object → Prop
  | noProxy {made : TagReply} (hmade : made.isProxy = false) :
    ReadOver glib path [(.tagProxy path, made)] none
  | noInfo {made answer : TagReply} (hmade : made.isProxy = true)
      (hanswer : answer.tagInfo? = none) :
    ReadOver glib path [(.tagProxy path, made), (.getAll3 path, answer)] none
  | finished {info : TagInfo} {start log raw : List Exchange} {records : List Value}
      {rawData : Option Bytes} (hstart : Informed path info start)
      (hrecords : Swept (RecordLog glib info) info.ndefRecords.length log records)
      (hraw : RawDataLog path info raw rawData) :
    ReadOver glib path (start ++ log ++ raw) (some (tagJsonOf path info records rawData))

/-! ## A read under way -/

/-- A read with a tag's information and these records. -/
structure Collecting (path : String) (info : TagInfo) (read : TagRead) (records : List Value) :
    Prop where
  tagObj : read.tagObj = tagObject path info
  isType2 : read.isType2 = info.isType2
  recordPaths : read.recordPaths = info.ndefRecords
  recordsArr : read.recordsArr = records

/-- The reply that a read waits for. -/
inductive ReadWaits (glib : GlibText) (path : String) (read : TagRead) :
    List Exchange → TagCall → Prop
  | proxy : ReadWaits glib path read [] (.tagProxy path)
  | info {made : TagReply} (hmade : made.isProxy = true) :
    ReadWaits glib path read [(.tagProxy path, made)] (.getAll3 path)
  | recordProxy {info : TagInfo} {start log : List Exchange} {records : List Value}
      {record : String} (hstart : Informed path info start)
      (hread : Collecting path info read records)
      (hlog : Swept (RecordLog glib info) read.recordIndex log records)
      (hrecord : info.ndefRecords[read.recordIndex]? = some record) :
    ReadWaits glib path read (start ++ log) (.ndefProxy record)
  | record {info : TagInfo} {start log : List Exchange} {records : List Value} {record : String}
      {made : TagReply} (hstart : Informed path info start)
      (hread : Collecting path info read records)
      (hlog : Swept (RecordLog glib info) read.recordIndex log records)
      (hrecord : info.ndefRecords[read.recordIndex]? = some record)
      (hmade : made.isProxy = true) :
    ReadWaits glib path read (start ++ log ++ [(.ndefProxy record, made)]) (.ndefGetAll record)
  | rawProxy {info : TagInfo} {start log : List Exchange} {records : List Value}
      (hstart : Informed path info start) (hread : Collecting path info read records)
      (hlog : Swept (RecordLog glib info) info.ndefRecords.length log records)
      (htype2 : info.isType2 = true) :
    ReadWaits glib path read (start ++ log) (.type2Proxy path)
  | rawData {info : TagInfo} {start log : List Exchange} {records : List Value}
      {made : TagReply} (hstart : Informed path info start)
      (hread : Collecting path info read records)
      (hlog : Swept (RecordLog glib info) info.ndefRecords.length log records)
      (htype2 : info.isType2 = true) (hmade : made.isProxy = true) :
    ReadWaits glib path read (start ++ log ++ [(.type2Proxy path, made)]) (.readAllData path)

/-- The read of the current tag waits for the reply to a call, and nothing is shown yet. -/
structure Reading (glib : GlibText) (path : String) (c : TagClient) (read : TagRead)
    (log : List Exchange) (call : TagCall) : Prop where
  attached : read.client = true
  onPath : read.path = path
  hidden : c.tagJson = none
  waits : ReadWaits glib path read log call

/-- What a callback of the read does. -/
inductive ReadStep (glib : GlibText) (path : String) (s : TagState) (id : ℕ)
    (log : List Exchange) : TagState → Prop
  | awaits {client : TagClient} {read : TagRead} {call : TagCall}
      (h : Reading glib path client read log call) :
    ReadStep glib path s id log ({ s with client := client }.await id read call)
  | frees {client : TagClient} (hreading : client.reading = none)
      (h : ReadOver glib path log client.tagJson) :
    ReadStep glib path s id log ({ s with client := client }.free id)

/-- The client may be changed first. -/
theorem ReadStep.of_client {s s' : TagState} {log : List Exchange} {client : TagClient}
    (h : ReadStep glib path { s with client := client } id log s') :
    ReadStep glib path s id log s' := by
  cases h with
  | awaits h => exact .awaits h
  | frees hreading h => exact .frees hreading h

/-! ## What the callbacks do -/

section Callbacks

variable {s : TagState} {read : TagRead} {start log : List Exchange} {records : List Value}

/-- Only the records nfcd lists are asked for. -/
theorem index_le {n : ℕ} (h : Swept (RecordLog glib info) n log records) :
    n ≤ info.ndefRecords.length := by
  cases h with
  | start => exact Nat.zero_le _
  | next _ hunit =>
    cases hunit with
    | skipped hrecord _ => exact (List.getElem?_eq_some_iff.mp hrecord).1
    | asked hrecord _ _ => exact (List.getElem?_eq_some_iff.mp hrecord).1

/-- A read that has all it asked for publishes it. -/
theorem readStep_finish (hclient : read.client = true) (hstart : Informed path info start)
    (hrecords : read.recordsArr = records)
    (hlog : Swept (RecordLog glib info) info.ndefRecords.length log records)
    {raw : List Exchange} {rawData : Option Bytes} (hraw : RawDataLog path info raw rawData)
    (hobj : read.tagObj = (tagObject path info).put? "rawDataHex"
      (rawData.map fun bytes => .string (text (ndefBytesToHex bytes)))) :
    ReadStep glib path s id (start ++ log ++ raw) (tagReadFinish s id read) := by
  have hattached : (!read.client) = false := by rw [hclient]; rfl
  rw [tagReadFinish, hattached]
  refine .frees rfl ?_
  show ReadOver glib path _ (some (read.tagObj.put "records" (.array read.recordsArr)))
  rw [hobj, hrecords]
  exact .finished hstart hlog hraw

/-- All records have been asked for. -/
theorem readStep_rawData (hclient : read.client = true) (hpath : read.path = path)
    (hhidden : s.client.tagJson = none) (hstart : Informed path info start)
    (hread : Collecting path info read records)
    (hlog : Swept (RecordLog glib info) info.ndefRecords.length log records) :
    ReadStep glib path s id (start ++ log) (tagReadRawData s id read) := by
  unfold tagReadRawData
  rw [hread.isType2, hpath]
  cases htype2 : info.isType2 with
  | false =>
    have hfinish : ReadStep glib path s id (start ++ log ++ []) (tagReadFinish s id read) :=
      readStep_finish hclient hstart hread.recordsArr hlog (.none htype2) hread.tagObj
    rw [List.append_nil] at hfinish
    exact hfinish
  | true => exact .awaits ⟨hclient, hpath, hhidden, .rawProxy hstart hread hlog htype2⟩

/-- The next record's turn, if there is one. -/
theorem readStep_nextRecord (hclient : read.client = true) (hpath : read.path = path)
    (hhidden : s.client.tagJson = none) (hstart : Informed path info start)
    (hread : Collecting path info read records)
    (hlog : Swept (RecordLog glib info) read.recordIndex log records) :
    ReadStep glib path s id (start ++ log) (tagReadNextRecord s id read) := by
  unfold tagReadNextRecord
  rw [hread.recordPaths]
  cases hrecord : info.ndefRecords[read.recordIndex]? with
  | none =>
    have hindex : read.recordIndex = info.ndefRecords.length :=
      Nat.le_antisymm (index_le hlog) (List.getElem?_eq_none_iff.mp hrecord)
    rw [hindex] at hlog
    exact readStep_rawData hclient hpath hhidden hstart hread hlog
  | some record =>
    exact .awaits ⟨hclient, hpath, hhidden, .recordProxy hstart hread hlog hrecord⟩

/-- A read gives up before anything was asked of the tag. -/
theorem readStep_giveUp (hclient : read.client = true) (hhidden : s.client.tagJson = none)
    (h : ReadOver glib path log none) : ReadStep glib path s id log (tagReadGiveUp s id read) := by
  rw [tagReadGiveUp_of_attached hclient]
  refine .frees rfl ?_
  show ReadOver glib path log s.client.tagJson
  rw [hhidden]
  exact h

theorem readStep_tagProxyReady (hclient : read.client = true) (hpath : read.path = path)
    (hhidden : s.client.tagJson = none) (reply : TagReply) :
    ReadStep glib path s id [(.tagProxy path, reply)] (tagProxyReady s id read path reply) := by
  have hattached : (!read.client) = false := by rw [hclient]; rfl
  unfold tagProxyReady
  cases hmade : reply.isProxy with
  | false => exact readStep_giveUp hclient hhidden (.noProxy hmade)
  | true =>
    rw [hattached]
    exact .awaits ⟨hclient, hpath, hhidden, .info hmade⟩

/-- The information is there, and it is not that of a MIFARE Classic tag. -/
theorem readStep_tagGetAllReady (hclient : read.client = true) (hpath : read.path = path)
    (hhidden : s.client.tagJson = none) {made reply : TagReply} (hmade : made.isProxy = true)
    (hplain : ∀ info, reply.tagInfo? = some info → info.type ≠ nfcTagTypeMifareClassic) :
    ReadStep glib path s id [(.tagProxy path, made), (.getAll3 path, reply)]
      (tagGetAllReady s id read reply) := by
  have hattached : (!read.client) = false := by rw [hclient]; rfl
  unfold tagGetAllReady
  cases hinfo : reply.tagInfo? with
  | none => exact readStep_giveUp hclient hhidden (.noInfo hmade hinfo)
  | some info =>
    simp only [hattached, Bool.false_eq_true, if_false, if_neg (hplain info hinfo)]
    have hstart : Informed path info [(.tagProxy path, made), (.getAll3 path, reply)] :=
      .mk hmade hinfo
    have hread : Collecting path info (read.withInfo info) [] :=
      ⟨by rw [← hpath]; rfl, rfl, rfl, rfl⟩
    have hinformed : (read.withInfo info).client = true ∧ (read.withInfo info).path = path :=
      ⟨hclient, hpath⟩
    exact ReadStep.of_client (readStep_nextRecord
      (s := { s with client := { s.client with tagProtocol := info.protocol } })
      hinformed.1 hinformed.2 hhidden hstart hread .start)

/-- The proxy of a record. -/
theorem readStep_ndefProxyReady (hclient : read.client = true) (hpath : read.path = path)
    (hhidden : s.client.tagJson = none) (hstart : Informed path info start)
    (hread : Collecting path info read records)
    (hlog : Swept (RecordLog glib info) read.recordIndex log records) {record : String}
    (hrecord : info.ndefRecords[read.recordIndex]? = some record) (reply : TagReply) :
    ReadStep glib path s id (start ++ log ++ [(.ndefProxy record, reply)])
      (ndefProxyReady s id read record reply) := by
  have hattached : (!read.client) = false := by rw [hclient]; rfl
  unfold ndefProxyReady
  rw [hattached]
  cases hmade : reply.isProxy with
  | true => exact .awaits ⟨hclient, hpath, hhidden, .record hstart hread hlog hrecord hmade⟩
  | false =>
    -- the record is left out
    have hnext := hlog.next (.skipped hrecord hmade)
    rw [Option.toList_none, List.append_nil] at hnext
    rw [List.append_assoc]
    exact readStep_nextRecord hclient hpath hhidden hstart
      ⟨hread.tagObj, hread.isType2, hread.recordPaths, hread.recordsArr⟩ hnext

/-- The answer of a record. -/
theorem readStep_ndefGetAllReady (hclient : read.client = true) (hpath : read.path = path)
    (hhidden : s.client.tagJson = none) (hstart : Informed path info start)
    (hread : Collecting path info read records)
    (hlog : Swept (RecordLog glib info) read.recordIndex log records) {record : String}
    (hrecord : info.ndefRecords[read.recordIndex]? = some record) {made : TagReply}
    (hmade : made.isProxy = true) (reply : TagReply) :
    ReadStep glib path s id
      (start ++ log ++ [(.ndefProxy record, made)] ++ [(.ndefGetAll record, reply)])
      (ndefGetAllReady glib s id read reply) := by
  have hattached : (!read.client) = false := by rw [hclient]; rfl
  have hnext := hlog.next (.asked hrecord hmade reply)
  rw [List.append_assoc, List.append_assoc, List.singleton_append]
  unfold ndefGetAllReady
  rw [hattached]
  refine readStep_nextRecord hclient hpath hhidden hstart ?_ hnext
  refine ⟨hread.tagObj, hread.isType2, hread.recordPaths, ?_⟩
  dsimp only
  rw [hread.recordsArr]
  cases reply.record? with
  | none => exact (List.append_nil _).symm
  | some record => rfl

/-- The proxy for the raw data. -/
theorem readStep_rawDataProxyReady (hclient : read.client = true) (hpath : read.path = path)
    (hhidden : s.client.tagJson = none) (hstart : Informed path info start)
    (hread : Collecting path info read records)
    (hlog : Swept (RecordLog glib info) info.ndefRecords.length log records)
    (htype2 : info.isType2 = true) (reply : TagReply) :
    ReadStep glib path s id (start ++ log ++ [(.type2Proxy path, reply)])
      (rawDataProxyReady s id read path reply) := by
  have hattached : (!read.client) = false := by rw [hclient]; rfl
  unfold rawDataProxyReady
  rw [hattached]
  cases hmade : reply.isProxy with
  | true => exact .awaits ⟨hclient, hpath, hhidden, .rawData hstart hread hlog htype2 hmade⟩
  | false =>
    exact readStep_finish hclient hstart hread.recordsArr hlog (.skipped htype2 hmade) hread.tagObj

/-- The raw data. -/
theorem readStep_rawDataReady (hclient : read.client = true) (hstart : Informed path info start)
    (hread : Collecting path info read records)
    (hlog : Swept (RecordLog glib info) info.ndefRecords.length log records)
    (htype2 : info.isType2 = true) {made : TagReply} (hmade : made.isProxy = true)
    (reply : TagReply) :
    ReadStep glib path s id
      (start ++ log ++ [(.type2Proxy path, made)] ++ [(.readAllData path, reply)])
      (rawDataReady s id read reply) := by
  have hattached : (!read.client) = false := by rw [hclient]; rfl
  have hraw : RawDataLog path info [(.type2Proxy path, made), (.readAllData path, reply)]
      reply.data? := .asked htype2 hmade reply
  rw [List.append_assoc, List.singleton_append]
  unfold rawDataReady
  rw [hattached]
  cases hdata : reply.data? with
  | none =>
    rw [hdata] at hraw
    exact readStep_finish hclient hstart hread.recordsArr hlog hraw hread.tagObj
  | some bytes =>
    rw [hdata] at hraw
    refine readStep_finish ?_ hstart ?_ hlog hraw ?_
    · exact hclient
    · exact hread.recordsArr
    · show read.tagObj.put "rawDataHex" _ = _
      rw [hread.tagObj]
      rfl

/-- **Every callback** of the current tag's read. -/
theorem readStep_tagCallback {call : TagCall} (h : Reading glib path s.client read log call)
    {reply : TagReply}
    (hplain : ∀ info, reply.tagInfo? = some info → info.type ≠ nfcTagTypeMifareClassic) :
    ReadStep glib path s id (log ++ [(call, reply)]) (tagCallback glib s id read call reply) := by
  obtain ⟨hclient, hpath, hhidden, hwaits⟩ := h
  cases hwaits with
  | proxy => exact readStep_tagProxyReady hclient hpath hhidden reply
  | info hmade => exact readStep_tagGetAllReady hclient hpath hhidden hmade hplain
  | recordProxy hstart hread hlog hrecord =>
    exact readStep_ndefProxyReady hclient hpath hhidden hstart hread hlog hrecord reply
  | record hstart hread hlog hrecord hmade =>
    exact readStep_ndefGetAllReady hclient hpath hhidden hstart hread hlog hrecord hmade reply
  | rawProxy hstart hread hlog htype2 =>
    exact readStep_rawDataProxyReady hclient hpath hhidden hstart hread hlog htype2 reply
  | rawData hstart hread hlog htype2 hmade =>
    exact readStep_rawDataReady hclient hstart hread hlog htype2 hmade reply

end Callbacks

/-! ## Bounds -/

/-- The information a read has been told. -/
def toldInfo (log : List Exchange) : Option TagInfo := log[1]?.bind fun x => x.2.tagInfo?

/-- The calls a read makes at most, as far as it has been told. -/
def readBound (log : List Exchange) : ℕ :=
  match toldInfo log with
  | none => 2
  | some info => 4 + 2 * info.ndefRecords.length

section Bounds

variable {start log : List Exchange} {records : List Value}

theorem readBound_of_informed (h : Informed path info start) (rest : List Exchange) :
    readBound (start ++ rest) = 4 + 2 * info.ndefRecords.length ∧ start.length = 2 := by
  cases h with
  | @mk made answer hmade hanswer =>
    have htold : toldInfo ([(.tagProxy path, made), (.getAll3 path, answer)] ++ rest) = some info :=
      hanswer
    rw [readBound, htold]
    exact ⟨rfl, rfl⟩

/-- Two calls for a record, at most. -/
theorem length_recordsLog {n : ℕ} (h : Swept (RecordLog glib info) n log records) :
    log.length ≤ n * 2 := by
  refine h.length_le fun k log r hunit => ?_
  cases hunit <;> simp

theorem RawDataLog.length_le {raw : List Exchange} {rawData : Option Bytes}
    (h : RawDataLog path info raw rawData) : raw.length ≤ 2 := by
  cases h <;> simp

theorem ReadWaits.length_lt {read : TagRead} {call : TagCall}
    (h : ReadWaits glib path read log call) : log.length < readBound log := by
  cases h with
  | proxy => exact Nat.two_pos
  | info hmade => exact Nat.one_lt_two
  | recordProxy hstart hread hlog hrecord =>
    obtain ⟨hbound, htwo⟩ := readBound_of_informed hstart _
    have hindex := (List.getElem?_eq_some_iff.mp hrecord).1
    have hlen := length_recordsLog hlog
    rw [hbound, List.length_append]
    omega
  | record hstart hread hlog hrecord hmade =>
    have hindex := (List.getElem?_eq_some_iff.mp hrecord).1
    have hlen := length_recordsLog hlog
    rw [List.append_assoc]
    obtain ⟨hbound, htwo⟩ := readBound_of_informed hstart _
    rw [hbound, List.length_append, List.length_append, List.length_singleton]
    omega
  | rawProxy hstart hread hlog htype2 =>
    obtain ⟨hbound, htwo⟩ := readBound_of_informed hstart _
    have hlen := length_recordsLog hlog
    rw [hbound, List.length_append]
    omega
  | rawData hstart hread hlog htype2 hmade =>
    have hlen := length_recordsLog hlog
    rw [List.append_assoc]
    obtain ⟨hbound, htwo⟩ := readBound_of_informed hstart _
    rw [hbound, List.length_append, List.length_append, List.length_singleton]
    omega

theorem ReadOver.length_le {obj : Option Object} (h : ReadOver glib path log obj) :
    log.length ≤ readBound log := by
  cases h with
  | noProxy hmade => exact Nat.le_succ 1
  | @noInfo made answer hmade hanswer =>
    have htold : toldInfo [(.tagProxy path, made), (.getAll3 path, answer)] = none := hanswer
    rw [readBound, htold]
    exact le_rfl
  | finished hstart hrecords hraw =>
    have hlen := length_recordsLog hrecords
    have hrawLen := hraw.length_le
    rw [List.append_assoc]
    obtain ⟨hbound, htwo⟩ := readBound_of_informed hstart _
    rw [hbound, List.length_append, List.length_append]
    omega

end Bounds

/-! ## The invariant -/

/-- What a tag answers is not the information of a MIFARE Classic tag. -/
def TagEvent.Plain : TagEvent → Prop
  | .complete _ (.tagInfo info) => info.type ≠ nfcTagTypeMifareClassic
  | _ => True

instance : (e : TagEvent) → Decidable e.Plain
  | .complete _ (.tagInfo info) => inferInstanceAs (Decidable (info.type ≠ _))
  | .complete _ (.failed _) | .complete _ .proxy | .complete _ (.record _) | .complete _ (.data _)
  | .tags _ => isTrue trivial

theorem TagEvent.Plain.notClassic {i : ℕ} {reply : TagReply}
    (h : (TagEvent.complete i reply).Plain) :
    ∀ info, reply.tagInfo? = some info → info.type ≠ nfcTagTypeMifareClassic := by
  intro info hinfo
  cases reply with
  | tagInfo told =>
    cases hinfo
    exact h
  | _ => cases hinfo

/-- The invariant of runs in which the tag stays: its read is under way or over, and no other read
can reach the client. -/
structure RecordsInv (glib : GlibText) (path : String) (id : ℕ) (s : TagState)
    (log : List Exchange) : Prop where
  wf : s.pool.WF none
  alone : ∀ j read, j ≠ id → s.pool.tasks j = some read → read.client = false
  live : ∀ read, s.pool.tasks id = some read → ∃ call, (id, call) ∈ s.pool.calls ∧
    Reading glib path s.client read log call
  ended : s.pool.tasks id = none → s.client.reading = none ∧ ReadOver glib path log s.client.tagJson

section Run

variable {s s' : TagState} {log : List Exchange}

/-- A callback of the read. -/
theorem recordsInv_of_step {i : ℕ} {call : TagCall} (hwf : s.pool.WF none)
    (halone : ∀ j read, j ≠ id → s.pool.tasks j = some read → read.client = false)
    (hi : s.pool.calls[i]? = some (id, call)) {client : TagClient}
    (h : ReadStep glib path ⟨client, s.pool.take i, s.fault⟩ id log s') :
    RecordsInv glib path id s' log := by
  cases h with
  | @awaits client read' call' h =>
    refine ⟨(hwf.take hi).await read' call', ?_, ?_, ?_⟩
    · intro j r hj hr
      rcases Pool.tasks_await_eq_some.mp hr with ⟨rfl, -⟩ | ⟨-, hr⟩
      · exact absurd rfl hj
      · exact halone j r hj hr
    · intro r hr
      rcases Pool.tasks_await_eq_some.mp hr with ⟨-, rfl⟩ | ⟨hid, -⟩
      · exact ⟨call', Pool.mem_calls_await.mpr (Or.inr ⟨rfl, rfl⟩), h⟩
      · exact absurd rfl hid
    · intro hnone
      have hsome : ((s.pool.take i).await id read' call').tasks id = some read' :=
        Pool.tasks_await_eq_some.mpr (Or.inl ⟨rfl, rfl⟩)
      cases hnone.symm.trans hsome
  | @frees client hreading h =>
    refine ⟨(hwf.take hi).free, ?_, ?_, fun _ => ⟨hreading, h⟩⟩
    · intro j r hj hr
      exact halone j r hj (Pool.tasks_free_eq_some.mp hr).2
    · intro r hr
      exact absurd rfl (Pool.tasks_free_eq_some.mp hr).1

/-- A callback of a read that was aborted before. -/
theorem RecordsInv.other (h : RecordsInv glib path id s log) {i j : ℕ} {call : TagCall}
    (hi : s.pool.calls[i]? = some (j, call)) (hj : j ≠ id) :
    RecordsInv glib path id ({ s with pool := s.pool.take i }.free j) log := by
  have hsame : ((s.pool.take i).free j).tasks id = s.pool.tasks id := by
    rw [Pool.tasks_free, if_neg (Ne.symm hj)]
    rfl
  refine ⟨(h.wf.take hi).free, ?_, ?_, fun hnone => h.ended (hsame ▸ hnone)⟩
  · intro k r hk hr
    exact h.alone k r hk (Pool.tasks_free_eq_some.mp hr).2
  · intro r hr
    obtain ⟨call', hcall', hread⟩ := h.live r (hsame ▸ hr)
    exact ⟨call', (h.wf.mem_take hi).mpr ⟨Ne.symm hj, hcall'⟩, hread⟩

/-- **One step.** -/
theorem RecordsInv.step (h : RecordsInv glib path id s log) {e : TagEvent} (he : e.Stays s)
    (hplain : e.Plain) :
    RecordsInv glib path id (tagStep glib s e) (log ++ (exchangeOf id s e).toList) := by
  cases e with
  | tags tags =>
    have hhead : s.client.tagPath = tags.head? := he
    have hsame : tagStep glib s (.tags tags) = s := if_pos hhead
    rw [hsame, exchangeOf, Option.toList_none, List.append_nil]
    exact h
  | complete i reply =>
    cases hi : s.pool.calls[i]? with
    | none => simpa [tagStep, exchangeOf, hi] using h
    | some entry =>
      obtain ⟨j, call⟩ := entry
      have hmem := List.mem_of_getElem? hi
      obtain ⟨read, ht⟩ := h.wf.exists_task hmem
      rw [tagStep_complete reply hi ht]
      by_cases hj : j = id
      · subst hj
        obtain ⟨call', hcall', hread⟩ := h.live read ht
        obtain rfl := h.wf.call_unique hmem hcall'
        have hexchange : exchangeOf j s (.complete i reply) = some (call, reply) := by
          simp [exchangeOf, hi]
        rw [hexchange, Option.toList_some]
        have hread' : Reading glib path { s with pool := s.pool.take i }.client read log call :=
          hread
        exact recordsInv_of_step h.wf h.alone hi 
          (readStep_tagCallback hread' (TagEvent.Plain.notClassic hplain))
      · have hexchange : exchangeOf id s (.complete i reply) = none := by
          simp [exchangeOf, hi, hj]
        rw [hexchange, Option.toList_none, List.append_nil,
          tagCallback_of_detached call reply (h.alone j read hj ht)]
        exact h.other hi hj

/-- **The start of a read.** -/
theorem recordsInv_start (h : Shown s) (hnew : s.client.tagPath ≠ some path) (tags : List String) :
    RecordsInv glib path s.pool.next (tagStep glib s (.tags (path :: tags))) [] := by
  obtain ⟨hwf, hdetached⟩ := h.abortReading
  have hnext : (abortReading s).pool.next = s.pool.next := by
    unfold abortReading
    split <;> rfl
  have hstart : tagStep glib s (.tags (path :: tags)) = tagReadStart { abortReading s with
      client := notifyTag { (abortReading s).client with
        tagPath := some path, tagIsType2 := false, tagProtocol := 0, tagJson := none } } path :=
    if_neg hnew
  rw [hstart, ← hnext]
  refine ⟨hwf.spawn _ _, ?_, ?_, ?_⟩
  · intro j read hj hread
    rcases Pool.tasks_spawn_eq_some.mp hread with ⟨rfl, -⟩ | ⟨-, hread⟩
    · exact absurd rfl hj
    · exact hdetached j read hread
  · intro read hread
    rcases Pool.tasks_spawn_eq_some.mp hread with ⟨-, rfl⟩ | ⟨hid, -⟩
    · exact ⟨.tagProxy path, List.mem_append_right _ (List.mem_singleton_self _), rfl, rfl, rfl,
        .proxy⟩
    · exact absurd rfl hid
  · intro hnone
    have hsome := Pool.tasks_spawn_eq_some (p := (abortReading s).pool) (c := .tagProxy path)
      (t := TagRead.new path) |>.mpr (Or.inl ⟨rfl, rfl⟩)
    cases hnone.symm.trans hsome

end Run

/-! ## Every run -/

/-- Whatever has happened, no information is shown of a tag that is not current. -/
theorem shown_run (glib : GlibText) (es : List TagEvent) : Shown (run (tagStep glib) .init es) := by
  apply invariant Shown _ shown_init
  intro s e h
  cases e with
  | tags tags => exact h.setCurrentTag tags.head?
  | complete i reply => exact h.complete glib i reply

/-- A tag comes into the field after some run. -/
def tagArrival (glib : GlibText) (es : List TagEvent) (path : String) (tags : List String) :
    TagState :=
  tagStep glib (run (tagStep glib) .init es) (.tags (path :: tags))

/-- Where the read of a tag is. -/
inductive ReadStatus (glib : GlibText) (path : String) (id : ℕ) (s : TagState)
    (log : List Exchange) : Prop
  | waiting {call : TagCall} (hcall : (id, call) ∈ s.pool.calls)
      (hshort : log.length < readBound log) (hhidden : s.client.tagJson = none)
  | over (hfreed : s.pool.tasks id = none) (hreading : s.client.reading = none)
      (hbound : log.length ≤ readBound log) (h : ReadOver glib path log s.client.tagJson)

/-- **A tag is shown as it was read**, whole and at once.  From the moment a tag comes into the
field, as long as it stays, in every run and however the calls end: its read has a call under
way and nothing is shown of the tag; or, after at most two calls for the information, two for
every record and two for the raw data, the read has ended, and what is shown is exactly what
was answered, the records in nfcd's order. -/
theorem tag_is_shown_as_read (glib : GlibText) (es : List TagEvent) (path : String)
    (tags : List String) (hnew : (run (tagStep glib) .init es).client.tagPath ≠ some path)
    (fs : List TagEvent)
    (hstays : Along (fun s e => e.Stays s ∧ e.Plain) (tagStep glib) (tagArrival glib es path tags)
      fs) :
    ReadStatus glib path (run (tagStep glib) .init es).pool.next
      (run (tagStep glib) (tagArrival glib es path tags) fs)
      (trace (exchangeOf (run (tagStep glib) .init es).pool.next) (tagStep glib)
        (tagArrival glib es path tags) fs) := by
  have hstart : RecordsInv glib path (run (tagStep glib) .init es).pool.next
      (tagArrival glib es path tags) [] := recordsInv_start (shown_run glib es) hnew tags
  have hrun := hstays.trace_invariant
    (RecordsInv glib path (run (tagStep glib) .init es).pool.next)
    (fun s log e h he => h.step he.1 he.2) hstart
  generalize run (tagStep glib) (tagArrival glib es path tags) fs = s at hrun ⊢
  cases hread : s.pool.tasks (run (tagStep glib) .init es).pool.next with
  | some read =>
    obtain ⟨call, hcall, hreading⟩ := hrun.live read hread
    exact .waiting hcall hreading.waits.length_lt hreading.hidden
  | none =>
    obtain ⟨hreading, hover⟩ := hrun.ended hread
    exact .over hread hreading hover.length_le hover

/-- A Type 2 tag with two records: nfcd fails to answer for the first. -/
def twoRecordTag : List TagEvent :=
  [.complete 0 .proxy,
    .complete 0 (.tagInfo ⟨true, 1, 2, 1, [tagIfaceType2], ["/nfc0/tag1/ndef0", "/nfc0/tag1/ndef1"],
      []⟩),
    .complete 0 (.failed false), .complete 0 .proxy,
    .complete 0 (.record ⟨1, [0x54], [], [0x02, 0x65, 0x6E, 0x68, 0x69], []⟩),
    .complete 0 .proxy, .complete 0 (.data [0x03, 0x00, 0xFE])]

theorem tag_is_shown_as_read_twoRecords :
    ReadStatus asciiGlib "/nfc0/tag1" 1
      (run (tagStep asciiGlib)
        (tagArrival asciiGlib [.tags ["/nfc0/tag0"], .complete 0 (.failed false)] "/nfc0/tag1" [])
        twoRecordTag)
      (trace (exchangeOf 1) (tagStep asciiGlib)
        (tagArrival asciiGlib [.tags ["/nfc0/tag0"], .complete 0 (.failed false)] "/nfc0/tag1" [])
        twoRecordTag) :=
  tag_is_shown_as_read asciiGlib [.tags ["/nfc0/tag0"], .complete 0 (.failed false)] "/nfc0/tag1" []
    (by decide +kernel) twoRecordTag (by decide +kernel)

end NfcAdapter
