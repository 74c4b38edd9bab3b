import VoipSwitch.Cdr.Record
import VoipSwitch.Lib.Upsert
import Mathlib.Data.List.Sort
import Mathlib.Data.Prod.Lex

/-! The CDR database of a domain, and the transaction that persists a spooled batch in it. -/
namespace VoipSwitch

open Keyed

def i64Max : Nat := 2 ^ 63 - 1

/-- `as_i64`: what an `INTEGER` column can hold. -/
def asI64 (value : UInt64) : Except String Int :=
  if value.toNat ≤ i64Max then .ok value.toNat
  else .error "value out of SQLite INTEGER range"

def optionAsI64 : Option UInt64 → Except String (Option Int)
  | none => .ok none
  | some value => (asI64 value).map some

structure CallCdrRow where
  callId : String
  domainId : String
  callerNumber : String
  calleeNumber : String
  inboundRouteId : Option String
  inboundRouteName : Option String
  inboundTrunkRef : Option String
  inboundTrunkName : Option String
  outboundRouteId : Option String
  outboundRouteName : Option String
  outboundTrunkRef : Option String
  outboundTrunkName : Option String
  startedAtMs : Int
  answeredAtMs : Option Int
  endedAtMs : Int
  durationMs : Int
  billableMs : Int
  answered : Int
  finalStatus : Option Int
  hangupCause : String
  mediaForwardingMode : Option String
  traceAvailable : Int
  callerToCalleePackets : Int
  callerToCalleeBytes : Int
  calleeToCallerPackets : Int
  calleeToCallerBytes : Int
  callerToCalleeRtcpPackets : Int
  calleeToCallerRtcpPackets : Int
  incomplete : Int
  incompleteReason : Option String
deriving DecidableEq

/-- The row that `cdr_upsert_statement` inserts. -/
def cdrUpsertStatement (record : CdrRecord) : Except String CallCdrRow := do
  return {
    callId := record.callId
    domainId := record.domainId
    callerNumber := record.callerNumber
    calleeNumber := record.calleeNumber
    inboundRouteId := record.inboundRouteId
    inboundRouteName := record.inboundRouteName
    inboundTrunkRef := record.inboundTrunkRef
    inboundTrunkName := record.inboundTrunkName
    outboundRouteId := record.outboundRouteId
    outboundRouteName := record.outboundRouteName
    outboundTrunkRef := record.outboundTrunkRef
    outboundTrunkName := record.outboundTrunkName
    startedAtMs := ← asI64 record.startedAtMs
    answeredAtMs := ← optionAsI64 record.answeredAtMs
    endedAtMs := ← asI64 record.endedAtMs
    durationMs := ← asI64 record.durationMs
    billableMs := ← asI64 record.billableMs
    answered := record.answered.toInt
    finalStatus := record.finalStatus.map fun status => status.toNat
    hangupCause := record.hangupCause
    mediaForwardingMode := record.mediaForwardingMode.map (·.asStr)
    traceAvailable := record.traceAvailable.toInt
    callerToCalleePackets := ← asI64 record.callerToCalleePackets
    callerToCalleeBytes := ← asI64 record.callerToCalleeBytes
    calleeToCallerPackets := ← asI64 record.calleeToCallerPackets
    calleeToCallerBytes := ← asI64 record.calleeToCallerBytes
    callerToCalleeRtcpPackets := ← asI64 record.callerToCalleeRtcpPackets
    calleeToCallerRtcpPackets := ← asI64 record.calleeToCallerRtcpPackets
    incomplete := record.incomplete.toInt
    incompleteReason := record.incompleteReason }

/-- `ON CONFLICT(call_id) DO UPDATE` of `call_cdr`: a call stays in its domain and keeps its start,
and the marks that were made stay. -/
def CallCdrRow.merge : Merge CallCdrRow where
  apply old excluded :=
    { excluded with
      callId := old.callId
      domainId := old.domainId
      startedAtMs := old.startedAtMs
      traceAvailable := max old.traceAvailable excluded.traceAvailable
      incomplete := max old.incomplete excluded.incomplete
      incompleteReason := excluded.incompleteReason.or old.incompleteReason }
  self row := by simp
  again old row := by
    simp only [CallCdrRow.mk.injEq, max_assoc, max_self, true_and]
    cases row.incompleteReason <;> simp

/-- What `ensure_cdr_schema` makes of a row that was written before modes were. -/
def CallCdrRow.filled (row : CallCdrRow) : CallCdrRow :=
  if row.mediaForwardingMode.isNone &&
      (row.answered = 1 || decide (0 < row.callerToCalleePackets) ||
        decide (0 < row.calleeToCallerPackets)) then
    { row with mediaForwardingMode := some "userspace" }
  else row

structure LegCdrRow where
  callId : String
  sessionId : String
  domainId : String
  legRole : String
  direction : String
  endpointRef : Option String
  endpointNumber : Option String
  signalingNumber : Option String
  routeId : Option String
  routeName : Option String
  trunkRef : Option String
  trunkName : Option String
  joinedAtMs : Int
  answeredAtMs : Option Int
  leftAtMs : Int
  finalStatus : Option Int
  hangupCause : Option String
  mediaPackets : Int
  mediaBytes : Int
  mediaRtcpPackets : Int
  bridgeIds : String
deriving DecidableEq

def legCdrUpsertStatement (record : LegCdrRecord) : Except String LegCdrRow := do
  return {
    callId := record.callId
    sessionId := record.sessionId
    domainId := record.domainId
    legRole := record.legRole
    direction := record.direction
    endpointRef := record.endpointRef
    endpointNumber := record.endpointNumber
    signalingNumber := record.signalingNumber
    routeId := record.routeId
    routeName := record.routeName
    trunkRef := record.trunkRef
    trunkName := record.trunkName
    joinedAtMs := ← asI64 record.joinedAtMs
    answeredAtMs := ← optionAsI64 record.answeredAtMs
    leftAtMs := ← asI64 record.leftAtMs
    finalStatus := record.finalStatus.map fun status => status.toNat
    hangupCause := record.hangupCause
    mediaPackets := ← asI64 record.mediaPackets
    mediaBytes := ← asI64 record.mediaBytes
    mediaRtcpPackets := ← asI64 record.mediaRtcpPackets
    bridgeIds := record.bridgeIds }

/-- `ON CONFLICT(call_id, session_id) DO UPDATE` of `leg_cdr`. -/
def LegCdrRow.merge : Merge LegCdrRow where
  apply old excluded :=
    { excluded with
      callId := old.callId
      sessionId := old.sessionId
      domainId := old.domainId
      joinedAtMs := old.joinedAtMs }
  self _ := rfl
  again _ _ := rfl

theorem LegCdrRow.merge_overwrites : LegCdrRow.merge.Overwrites := fun _ _ _ => rfl

/-- A recording with the times of its row. -/
structure CallRecordingRow where
  recordingId : String
  callId : String
  domainId : String
  status : String
  callerNumber : String
  calleeNumber : String
  startedAtMs : Int
  endedAtMs : Option Int
  durationMs : Int
  format : String
  sampleRate : Int
  channelCount : Int
  fileName : String
  storageRoot : String
  storagePath : String
  fileSizeBytes : Int
  packetsTapped : Int
  packetsDropped : Int
  errorCode : Option String
  errorMessage : Option String
  createdAt : Int
  updatedAt : Int
deriving DecidableEq

def recordingUpsertStatement (record : RecordingRecord) : Except String CallRecordingRow := do
  return {
    recordingId := record.recordingId
    callId := record.callId
    domainId := record.domainId
    status := record.status
    callerNumber := record.callerNumber
    calleeNumber := record.calleeNumber
    startedAtMs := ← asI64 record.startedAtMs
    endedAtMs := ← optionAsI64 record.endedAtMs
    durationMs := ← asI64 record.durationMs
    format := record.format
    sampleRate := record.sampleRate.toNat
    channelCount := record.channelCount.toNat
    fileName := record.fileName
    storageRoot := record.storageRoot
    storagePath := record.storagePath
    fileSizeBytes := ← asI64 record.fileSizeBytes
    packetsTapped := ← asI64 record.packetsTapped
    packetsDropped := ← asI64 record.packetsDropped
    errorCode := record.errorCode
    errorMessage := record.errorMessage
    createdAt := ← asI64 record.startedAtMs
    updatedAt := ← asI64 (record.endedAtMs.getD record.startedAtMs) }

/-- `ON CONFLICT(call_id) DO UPDATE` of `call_recording`. -/
def CallRecordingRow.merge : Merge CallRecordingRow where
  apply old excluded :=
    { old with
      status := excluded.status
      endedAtMs := excluded.endedAtMs
      durationMs := excluded.durationMs
      fileName := excluded.fileName
      storageRoot := excluded.storageRoot
      storagePath := excluded.storagePath
      fileSizeBytes := excluded.fileSizeBytes
      packetsTapped := excluded.packetsTapped
      packetsDropped := excluded.packetsDropped
      errorCode := excluded.errorCode
      errorMessage := excluded.errorMessage
      updatedAt := excluded.updatedAt }
  self _ := rfl
  again _ _ := rfl

structure TraceCallRow where
  callId : String
  domainId : String
  firstObservedAtMs : Int
  endedAtMs : Option Int
  incomplete : Int
deriving DecidableEq

structure CallTraceMessage where
  callId : String
  domainId : String
  sequence : UInt64
  observedAtMs : UInt64
  direction : String
  adapterCallLegId : String
  sessionId : Option String
  sourceAddr : Option String
  destinationAddr : Option String
  startLine : String
  packet : String
deriving DecidableEq

/-- The tables of the call records, by the keys of their conflicts. -/
structure CdrTables where
  callCdr : Table String CallCdrRow
  legCdr : Table (String ×ₗ String) LegCdrRow
  callRecording : Table String CallRecordingRow
deriving DecidableEq

/-- The tables of the traces; a message is known by its call and its sequence number. -/
structure TraceTables where
  callTraceCall : Table String TraceCallRow
  callTraceMessage : Table (String ×ₗ Int) CallTraceMessage
deriving DecidableEq

structure DomainDatabase where
  records : CdrTables
  traces : TraceTables
deriving DecidableEq

def DomainDatabase.empty : DomainDatabase where
  records := { callCdr := .empty, legCdr := .empty, callRecording := .empty }
  traces := { callTraceCall := .empty, callTraceMessage := .empty }

section Records

/-- Another call has a recording of this name, and this call has none. -/
def CdrTables.nameTaken (t : CdrTables) (row : CallRecordingRow) : Bool :=
  (t.callRecording.get row.callId).isNone &&
    t.callRecording.entries.any fun entry => entry.2.recordingId = row.recordingId

def CdrTables.upsertRecording (row : CallRecordingRow) (t : CdrTables) :
    Except String CdrTables :=
  if t.nameTaken row then .error "UNIQUE constraint failed: call_recording.recording_id"
  else .ok { t with callRecording := t.callRecording.upsert CallRecordingRow.merge row.callId row }

def LegCdrRow.key (row : LegCdrRow) : String ×ₗ String := toLex (row.callId, row.sessionId)

/-- The part of `persist_cdr_batch` that concerns the call, its legs and its recording. -/
def CdrTables.persist (command : CdrWriteCommand) (t : CdrTables) : Except String CdrTables := do
  let t ← match command.recording with
    | none => pure t
    | some recording => t.upsertRecording (← recordingUpsertStatement recording)
  let legs ← command.legCdrs.mapM legCdrUpsertStatement
  let row ← cdrUpsertStatement command.callCdr
  return { t with
    legCdr := t.legCdr.upsertAll LegCdrRow.merge (legs.map fun leg => (leg.key, leg))
    callCdr := t.callCdr.upsert CallCdrRow.merge row.callId row }

end Records

section Traces

/-- `ON CONFLICT(call_id) DO UPDATE` of `complete_trace_statement`. -/
def TraceCallRow.complete : Merge TraceCallRow where
  apply old excluded :=
    { old with
      domainId := excluded.domainId
      endedAtMs := excluded.endedAtMs
      incomplete := max old.incomplete excluded.incomplete }
  self row := by simp
  again old row := by simp

/-- The calls that ended, the latest first. -/
def TraceTables.ended (t : TraceTables) : List (Int × String) :=
  (t.callTraceCall.entries.filterMap fun entry =>
    entry.2.endedAtMs.map fun endedAtMs => (endedAtMs, entry.1)).insertionSort
      fun a b => b.1 < a.1 ∨ b.1 = a.1 ∧ b.2 ≤ a.2

/-- `trace_retention_statements`: the traces of the last hundred calls are kept. -/
def TraceTables.retain (t : TraceTables) : TraceTables :=
  let expired := (t.ended.drop 100).map Prod.snd
  { callTraceCall := t.callTraceCall.retain fun callId _ => callId ∉ expired
    callTraceMessage := t.callTraceMessage.retain fun key _ => (ofLex key).1 ∉ expired }

def TraceTables.completeTrace (callId domainId : String) (endedAtMs : UInt64) (incomplete : Bool)
    (t : TraceTables) : Except String TraceTables := do
  let endedAtMs ← asI64 endedAtMs
  let row : TraceCallRow :=
    { callId, domainId, firstObservedAtMs := endedAtMs, endedAtMs := some endedAtMs,
      incomplete := incomplete.toInt }
  return { t with callTraceCall := t.callTraceCall.upsert TraceCallRow.complete callId row }.retain

end Traces

def CdrWriteCommand.mixesDomains (command : CdrWriteCommand) : Bool :=
  let domainId := command.callCdr.domainId
  command.traceDomainId != domainId || command.legCdrs.any (·.domainId != domainId) ||
    command.recording.any (·.domainId != domainId)

/-- Every access opens the database first, and `ensure_cdr_schema` is a part of that. -/
def CdrTables.ensureCdrSchema (t : CdrTables) : CdrTables :=
  { t with callCdr := t.callCdr.mapValues (·.filled) }

def DomainDatabase.openDomainCdrDb (db : DomainDatabase) : DomainDatabase :=
  { db with records := db.records.ensureCdrSchema }

/-- The transaction of `persist_cdr_batch`, which is rolled back by an error. -/
def DomainDatabase.transact (command : CdrWriteCommand) (db : DomainDatabase) :
    Except String DomainDatabase := do
  let records ← db.records.persist command
  let traces ←
    if command.callCdr.traceAvailable then
      db.traces.completeTrace command.traceCallId command.traceDomainId command.traceEndedAtMs
        false
    else pure db.traces
  return { records, traces }

def DomainDatabase.persistCdrBatch (command : CdrWriteCommand) (db : DomainDatabase) :
    Except String Unit × DomainDatabase :=
  if command.mixesDomains then
    (.error "CDR write batch contains records from multiple domains", db)
  else
    let db := db.openDomainCdrDb
    match db.transact command with
    | .ok db => (.ok (), db)
    | .error error => (.error error, db)

/-- The databases of the domains. -/
abbrev DomainDatabases := DomainId → DomainDatabase

/-- An execution of `persist_cdr_batch`, whatever comes of it. -/
def DomainDatabases.persist (databases : DomainDatabases) (command : CdrWriteCommand) :
    DomainDatabases :=
  let domainId := command.callCdr.domainId
  Function.update databases domainId ((databases domainId).persistCdrBatch command).2

end VoipSwitch
