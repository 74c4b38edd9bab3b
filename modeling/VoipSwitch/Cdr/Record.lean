import VoipSwitch.Lib.Serial
import VoipSwitch.Cdr.Spool

/-! The commands that are spooled, and the documents that their frames hold. -/
namespace VoipSwitch

open Document Framed

inductive MediaForwardingMode where
  | userspace
  | fastPath
  | mixed
deriving DecidableEq

namespace MediaForwardingMode

def asStr : MediaForwardingMode → String
  | .userspace => "userspace"
  | .fastPath => "fast_path"
  | .mixed => "mixed"

instance : Serial MediaForwardingMode where
  toJson mode := .str mode.asStr
  ofJson
    | .str "userspace" => .ok .userspace
    | .str "fast_path" => .ok .fastPath
    | .str "mixed" => .ok .mixed
    | _ => .error "unknown variant: expected one of `userspace`, `fast_path`, `mixed`"

instance : RoundTrip MediaForwardingMode where
  ofJson_toJson mode := by
    cases mode with
    | userspace => rfl
    | fastPath => rfl
    | mixed => rfl

instance : NonNull MediaForwardingMode where
  toJson_ne_null _ := Json.noConfusion

end MediaForwardingMode

structure CdrRecord where
  callId : String
  domainId : String
  callerNumber : String
  calleeNumber : String
  inboundRouteId : Option String
  inboundRouteName : Option String
  inboundTrunkRef : Option String
  inboundTrunkName : Option String
  outboundRouteId : Option String
  outboundRouteName : Option String
  outboundTrunkRef : Option String
  outboundTrunkName : Option String
  startedAtMs : UInt64
  answeredAtMs : Option UInt64
  endedAtMs : UInt64
  durationMs : UInt64
  billableMs : UInt64
  answered : Bool
  finalStatus : Option UInt16
  hangupCause : String
  mediaForwardingMode : Option MediaForwardingMode
  callerToCalleePackets : UInt64
  callerToCalleeBytes : UInt64
  calleeToCallerPackets : UInt64
  calleeToCallerBytes : UInt64
  callerToCalleeRtcpPackets : UInt64
  calleeToCallerRtcpPackets : UInt64
  traceAvailable : Bool
  traceIncomplete : Bool
  recordingStatus : Option String
  recordingAvailable : Bool
  incomplete : Bool
  incompleteReason : Option String

namespace CdrRecord

def fields (record : CdrRecord) : List (String × Json) :=
  [("call_id", toJson record.callId),
    ("domain_id", toJson record.domainId),
    ("caller_number", toJson record.callerNumber),
    ("callee_number", toJson record.calleeNumber),
    ("inbound_route_id", toJson record.inboundRouteId),
    ("inbound_route_name", toJson record.inboundRouteName),
    ("inbound_trunk_ref", toJson record.inboundTrunkRef),
    ("inbound_trunk_name", toJson record.inboundTrunkName),
    ("outbound_route_id", toJson record.outboundRouteId),
    ("outbound_route_name", toJson record.outboundRouteName),
    ("outbound_trunk_ref", toJson record.outboundTrunkRef),
    ("outbound_trunk_name", toJson record.outboundTrunkName),
    ("started_at_ms", toJson record.startedAtMs),
    ("answered_at_ms", toJson record.answeredAtMs),
    ("ended_at_ms", toJson record.endedAtMs),
    ("duration_ms", toJson record.durationMs),
    ("billable_ms", toJson record.billableMs),
    ("answered", toJson record.answered),
    ("final_status", toJson record.finalStatus),
    ("hangup_cause", toJson record.hangupCause),
    ("media_forwarding_mode", toJson record.mediaForwardingMode),
    ("caller_to_callee_packets", toJson record.callerToCalleePackets),
    ("caller_to_callee_bytes", toJson record.callerToCalleeBytes),
    ("callee_to_caller_packets", toJson record.calleeToCallerPackets),
    ("callee_to_caller_bytes", toJson record.calleeToCallerBytes),
    ("caller_to_callee_rtcp_packets", toJson record.callerToCalleeRtcpPackets),
    ("callee_to_caller_rtcp_packets", toJson record.calleeToCallerRtcpPackets),
    ("trace_available", toJson record.traceAvailable),
    ("trace_incomplete", toJson record.traceIncomplete),
    ("recording_status", toJson record.recordingStatus),
    ("recording_available", toJson record.recordingAvailable),
    ("incomplete", toJson record.incomplete),
    ("incomplete_reason", toJson record.incompleteReason)]

def ofFields (fields : List (String × Json)) : Except String CdrRecord := do
  let callId ← required fields "call_id"
  let domainId ← required fields "domain_id"
  let callerNumber ← required fields "caller_number"
  let calleeNumber ← required fields "callee_number"
  let inboundRouteId ← defaulted fields "inbound_route_id"
  let inboundRouteName ← defaulted fields "inbound_route_name"
  let inboundTrunkRef ← defaulted fields "inbound_trunk_ref"
  let inboundTrunkName ← defaulted fields "inbound_trunk_name"
  let outboundRouteId ← defaulted fields "outbound_route_id"
  let outboundRouteName ← defaulted fields "outbound_route_name"
  let outboundTrunkRef ← defaulted fields "outbound_trunk_ref"
  let outboundTrunkName ← defaulted fields "outbound_trunk_name"
  let startedAtMs ← required fields "started_at_ms"
  let answeredAtMs ← defaulted fields "answered_at_ms"
  let endedAtMs ← required fields "ended_at_ms"
  let durationMs ← required fields "duration_ms"
  let billableMs ← required fields "billable_ms"
  let answered ← required fields "answered"
  let finalStatus ← defaulted fields "final_status"
  let hangupCause ← required fields "hangup_cause"
  let mediaForwardingMode ← defaulted fields "media_forwarding_mode"
  let callerToCalleePackets ← required fields "caller_to_callee_packets"
  let callerToCalleeBytes ← required fields "caller_to_callee_bytes"
  let calleeToCallerPackets ← required fields "callee_to_caller_packets"
  let calleeToCallerBytes ← required fields "callee_to_caller_bytes"
  let callerToCalleeRtcpPackets ← required fields "caller_to_callee_rtcp_packets"
  let calleeToCallerRtcpPackets ← required fields "callee_to_caller_rtcp_packets"
  let traceAvailable ← defaulted fields "trace_available"
  let traceIncomplete ← defaulted fields "trace_incomplete"
  let recordingStatus ← defaulted fields "recording_status"
  let recordingAvailable ← defaulted fields "recording_available"
  let incomplete ← defaulted fields "incomplete"
  let incompleteReason ← defaulted fields "incomplete_reason"
  return {
    callId, domainId, callerNumber, calleeNumber, inboundRouteId, inboundRouteName,
    inboundTrunkRef, inboundTrunkName, outboundRouteId, outboundRouteName, outboundTrunkRef,
    outboundTrunkName, startedAtMs, answeredAtMs, endedAtMs, durationMs, billableMs, answered,
    finalStatus, hangupCause, mediaForwardingMode, callerToCalleePackets, callerToCalleeBytes,
    calleeToCallerPackets, calleeToCallerBytes, callerToCalleeRtcpPackets,
    calleeToCallerRtcpPackets, traceAvailable, traceIncomplete, recordingStatus,
    recordingAvailable, incomplete, incompleteReason }

instance : Serial CdrRecord where
  toJson record := .obj record.fields
  ofJson := ofObject ofFields

theorem ofFields_fields (record : CdrRecord) : ofFields record.fields = .ok record := by
  simp only [ofFields, required, defaulted, field, fields, occurrences_cons, occurrences_nil,
    String.reduceEq, if_true, if_false, ofJson_toJson, bind_ok]
  rfl

instance : RoundTrip CdrRecord where
  ofJson_toJson record := (ofObject_obj _ _).trans (ofFields_fields record)

end CdrRecord

structure LegCdrRecord where
  callId : String
  sessionId : String
  domainId : String
  legRole : String
  direction : String
  endpointRef : Option String
  endpointNumber : Option String
  signalingNumber : Option String
  routeId : Option String
  routeName : Option String
  trunkRef : Option String
  trunkName : Option String
  joinedAtMs : UInt64
  answeredAtMs : Option UInt64
  leftAtMs : UInt64
  finalStatus : Option UInt16
  hangupCause : Option String
  mediaPackets : UInt64
  mediaBytes : UInt64
  mediaRtcpPackets : UInt64
  bridgeIds : String

namespace LegCdrRecord

def fields (record : LegCdrRecord) : List (String × Json) :=
  [("call_id", toJson record.callId),
    ("session_id", toJson record.sessionId),
    ("domain_id", toJson record.domainId),
    ("leg_role", toJson record.legRole),
    ("direction", toJson record.direction),
    ("endpoint_ref", toJson record.endpointRef),
    ("endpoint_number", toJson record.endpointNumber),
    ("signaling_number", toJson record.signalingNumber),
    ("route_id", toJson record.routeId),
    ("route_name", toJson record.routeName),
    ("trunk_ref", toJson record.trunkRef),
    ("trunk_name", toJson record.trunkName),
    ("joined_at_ms", toJson record.joinedAtMs),
    ("answered_at_ms", toJson record.answeredAtMs),
    ("left_at_ms", toJson record.leftAtMs),
    ("final_status", toJson record.finalStatus),
    ("hangup_cause", toJson record.hangupCause),
    ("media_packets", toJson record.mediaPackets),
    ("media_bytes", toJson record.mediaBytes),
    ("media_rtcp_packets", toJson record.mediaRtcpPackets),
    ("bridge_ids", toJson record.bridgeIds)]

def ofFields (fields : List (String × Json)) : Except String LegCdrRecord := do
  let callId ← required fields "call_id"
  let sessionId ← required fields "session_id"
  let domainId ← required fields "domain_id"
  let legRole ← required fields "leg_role"
  let direction ← required fields "direction"
  let endpointRef ← defaulted fields "endpoint_ref"
  let endpointNumber ← defaulted fields "endpoint_number"
  let signalingNumber ← defaulted fields "signaling_number"
  let routeId ← defaulted fields "route_id"
  let routeName ← defaulted fields "route_name"
  let trunkRef ← defaulted fields "trunk_ref"
  let trunkName ← defaulted fields "trunk_name"
  let joinedAtMs ← required fields "joined_at_ms"
  let answeredAtMs ← defaulted fields "answered_at_ms"
  let leftAtMs ← required fields "left_at_ms"
  let finalStatus ← defaulted fields "final_status"
  let hangupCause ← defaulted fields "hangup_cause"
  let mediaPackets ← required fields "media_packets"
  let mediaBytes ← required fields "media_bytes"
  let mediaRtcpPackets ← required fields "media_rtcp_packets"
  let bridgeIds ← required fields "bridge_ids"
  return {
    callId, sessionId, domainId, legRole, direction, endpointRef, endpointNumber,
    signalingNumber, routeId, routeName, trunkRef, trunkName, joinedAtMs, answeredAtMs,
    leftAtMs, finalStatus, hangupCause, mediaPackets, mediaBytes, mediaRtcpPackets, bridgeIds }

instance : Serial LegCdrRecord where
  toJson record := .obj record.fields
  ofJson := ofObject ofFields

theorem ofFields_fields (record : LegCdrRecord) : ofFields record.fields = .ok record := by
  simp only [ofFields, required, defaulted, field, fields, occurrences_cons, occurrences_nil,
    String.reduceEq, if_true, if_false, ofJson_toJson, bind_ok]
  rfl

instance : RoundTrip LegCdrRecord where
  ofJson_toJson record := (ofObject_obj _ _).trans (ofFields_fields record)

end LegCdrRecord

/-- A recording. Where it is stored is not shown to the readers of the record, so those two fields
are not written. -/
structure RecordingRecord where
  recordingId : String
  callId : String
  domainId : String
  status : String
  callerNumber : String
  calleeNumber : String
  startedAtMs : UInt64
  endedAtMs : Option UInt64
  durationMs : UInt64
  format : String
  sampleRate : UInt32
  channelCount : UInt8
  fileName : String
  storageRoot : String
  storagePath : String
  fileSizeBytes : UInt64
  packetsTapped : UInt64
  packetsDropped : UInt64
  errorCode : Option String
  errorMessage : Option String

namespace RecordingRecord

def fields (record : RecordingRecord) : List (String × Json) :=
  [("recording_id", toJson record.recordingId),
    ("call_id", toJson record.callId),
    ("domain_id", toJson record.domainId),
    ("status", toJson record.status),
    ("caller_number", toJson record.callerNumber),
    ("callee_number", toJson record.calleeNumber),
    ("started_at_ms", toJson record.startedAtMs),
    ("ended_at_ms", toJson record.endedAtMs),
    ("duration_ms", toJson record.durationMs),
    ("format", toJson record.format),
    ("sample_rate", toJson record.sampleRate),
    ("channel_count", toJson record.channelCount),
    ("file_name", toJson record.fileName),
    ("file_size_bytes", toJson record.fileSizeBytes),
    ("packets_tapped", toJson record.packetsTapped),
    ("packets_dropped", toJson record.packetsDropped),
    ("error_code", toJson record.errorCode),
    ("error_message", toJson record.errorMessage)]

def ofFields (fields : List (String × Json)) : Except String RecordingRecord := do
  let recordingId ← required fields "recording_id"
  let callId ← required fields "call_id"
  let domainId ← required fields "domain_id"
  let status ← required fields "status"
  let callerNumber ← required fields "caller_number"
  let calleeNumber ← required fields "callee_number"
  let startedAtMs ← required fields "started_at_ms"
  let endedAtMs ← defaulted fields "ended_at_ms"
  let durationMs ← required fields "duration_ms"
  let format ← required fields "format"
  let sampleRate ← required fields "sample_rate"
  let channelCount ← required fields "channel_count"
  let fileName ← required fields "file_name"
  let storageRoot ← required fields "storage_root"
  let storagePath ← required fields "storage_path"
  let fileSizeBytes ← required fields "file_size_bytes"
  let packetsTapped ← required fields "packets_tapped"
  let packetsDropped ← required fields "packets_dropped"
  let errorCode ← defaulted fields "error_code"
  let errorMessage ← defaulted fields "error_message"
  return {
    recordingId, callId, domainId, status, callerNumber, calleeNumber, startedAtMs, endedAtMs,
    durationMs, format, sampleRate, channelCount, fileName, storageRoot, storagePath,
    fileSizeBytes, packetsTapped, packetsDropped, errorCode, errorMessage }

instance : Serial RecordingRecord where
  toJson record := .obj record.fields
  ofJson := ofObject ofFields

/-- What is written of a recording cannot be read back. -/
theorem ofFields_fields (record : RecordingRecord) :
    ofFields record.fields = .error "missing field `storage_root`" := by
  simp only [ofFields, required, defaulted, field, fields, occurrences_cons, occurrences_nil,
    String.reduceEq, if_true, if_false, ofJson_toJson, bind_ok, bind_error]
  rfl

theorem ofJson_toJson (record : RecordingRecord) :
    (ofJson (toJson record) : Except String RecordingRecord) =
      .error "missing field `storage_root`" :=
  (ofObject_obj _ _).trans (ofFields_fields record)

instance : NonNull RecordingRecord where
  toJson_ne_null _ := Json.noConfusion

end RecordingRecord

structure CdrWriteCommand where
  callCdr : CdrRecord
  legCdrs : List LegCdrRecord
  recording : Option RecordingRecord
  traceCallId : String
  traceDomainId : String
  traceEndedAtMs : UInt64

namespace CdrWriteCommand

def fields (record : CdrWriteCommand) : List (String × Json) :=
  [("call_cdr", toJson record.callCdr),
    ("leg_cdrs", toJson record.legCdrs),
    ("recording", toJson record.recording),
    ("trace_call_id", toJson record.traceCallId),
    ("trace_domain_id", toJson record.traceDomainId),
    ("trace_ended_at_ms", toJson record.traceEndedAtMs)]

def ofFields (fields : List (String × Json)) : Except String CdrWriteCommand := do
  let callCdr ← required fields "call_cdr"
  let legCdrs ← required fields "leg_cdrs"
  let recording ← defaulted fields "recording"
  let traceCallId ← required fields "trace_call_id"
  let traceDomainId ← required fields "trace_domain_id"
  let traceEndedAtMs ← required fields "trace_ended_at_ms"
  return {
    callCdr, legCdrs, recording, traceCallId, traceDomainId, traceEndedAtMs }

instance : Serial CdrWriteCommand where
  toJson record := .obj record.fields
  ofJson := ofObject ofFields

theorem ofFields_fields (command : CdrWriteCommand) :
    ofFields command.fields =
      if command.recording.isSome then .error "missing field `storage_root`" else .ok command := by
  have hRecording : (ofJson (toJson command.recording) : Except String (Option RecordingRecord)) =
      if command.recording.isSome then .error "missing field `storage_root`"
      else .ok command.recording := by
    cases command.recording with
    | none => rfl
    | some record =>
        rw [ofJson_some, RecordingRecord.ofJson_toJson]
        rfl
  simp only [ofFields, required, defaulted, field, fields, occurrences_cons, occurrences_nil,
    String.reduceEq, if_true, if_false, Document.ofJson_toJson, bind_ok, hRecording]
  split
  · rfl
  · rfl

/-- A command is read back unless it has a recording. -/
theorem ofJson_toJson (command : CdrWriteCommand) :
    (ofJson (toJson command) : Except String CdrWriteCommand) =
      if command.recording.isSome then .error "missing field `storage_root`" else .ok command :=
  (ofObject_obj _ _).trans (ofFields_fields command)

end CdrWriteCommand

/-- What a frame holds. -/
structure SpoolFrame where
  schemaVersion : UInt16
  command : CdrWriteCommand

namespace SpoolFrame

def fields (frame : SpoolFrame) : List (String × Json) :=
  [("schema_version", toJson frame.schemaVersion),
    ("command", toJson frame.command)]

def ofFields (fields : List (String × Json)) : Except String SpoolFrame := do
  let schemaVersion ← required fields "schema_version"
  let command ← required fields "command"
  return { schemaVersion, command }

instance : Serial SpoolFrame where
  toJson frame := .obj frame.fields
  ofJson := ofObject ofFields

end SpoolFrame

/-- One byte of a checksum, by the reflected polynomial. -/
def crc32Byte (crc : UInt32) (byte : UInt8) : UInt32 :=
  (List.range 8).foldl (fun crc _ =>
    if crc &&& 1 = 1 then (crc >>> 1) ^^^ 0xedb88320 else crc >>> 1) (crc ^^^ byte.toUInt32)

def crc32 (bytes : Bytes) : UInt32 :=
  bytes.foldl crc32Byte 0xffffffff ^^^ 0xffffffff

example : crc32 ("123456789".toList.map (·.toUInt8)) = 0xcbf43926 := by decide +kernel

/-- The writer and the reader of JSON texts. -/
structure JsonText where
  toVec : Json → Bytes
  fromSlice : Bytes → Except String Json

/-- The frames of the spool: a JSON text and its CRC-32. -/
def spoolCodec (text : JsonText) : Codec CdrWriteCommand where
  encode version command :=
    text.toVec (toJson { schemaVersion := UInt16.ofNat version, command : SpoolFrame })
  decode bytes := do
    let json ← text.fromSlice bytes
    let frame : SpoolFrame ← ofJson json
    return (frame.schemaVersion.toNat, frame.command)
  check := crc32

/-- The document of a command's frame. -/
def CdrWriteCommand.document (command : CdrWriteCommand) : Json :=
  toJson { schemaVersion := UInt16.ofNat spoolSchemaVersion, command : SpoolFrame }

namespace SpoolFrame

theorem ofJson_document (command : CdrWriteCommand) :
    (ofJson command.document : Except String SpoolFrame) =
      if command.recording.isSome then .error "missing field `storage_root`"
      else .ok { schemaVersion := UInt16.ofNat spoolSchemaVersion, command } := by
  rw [show (ofJson command.document : Except String SpoolFrame) =
    ofFields [("schema_version", toJson (UInt16.ofNat spoolSchemaVersion)),
      ("command", toJson command)] from ofObject_obj _ _]
  simp only [ofFields, required, field, occurrences_cons, occurrences_nil, String.reduceEq, if_true,
    if_false, ofJson_toJson, bind_ok, CdrWriteCommand.ofJson_toJson]
  split
  · rfl
  · rfl

end SpoolFrame

/-- The text of the command's frame is read back as the document that it was written from. -/
def JsonText.ReadsBack (text : JsonText) (command : CdrWriteCommand) : Prop :=
  text.fromSlice (text.toVec command.document) = .ok command.document

theorem decode_encode {text : JsonText} {command : CdrWriteCommand}
    (h : text.ReadsBack command) :
    (spoolCodec text).decode ((spoolCodec text).encode spoolSchemaVersion command) =
      if command.recording.isSome then .error "missing field `storage_root`"
      else .ok (spoolSchemaVersion, command) := by
  have hText : text.fromSlice (text.toVec command.document) = .ok command.document := h
  rw [spoolCodec]
  simp only
  rw [← CdrWriteCommand.document, hText, bind_ok, SpoolFrame.ofJson_document]
  split
  · rfl
  · rfl

theorem decode_encode_of_none {text : JsonText} {command : CdrWriteCommand}
    (h : text.ReadsBack command) (hRecording : command.recording = none) :
    (spoolCodec text).decode ((spoolCodec text).encode spoolSchemaVersion command) =
      .ok (spoolSchemaVersion, command) := by
  rw [decode_encode h, hRecording]
  rfl

/-- A writer of compact texts, with a reader that knows the texts of some documents. -/
def JsonText.knowing (documents : List Json) : JsonText where
  toVec json := json.render
  fromSlice bytes :=
    match documents.find? fun document => document.render = bytes with
    | some document => .ok document
    | none => .error "expected value at line 1 column 1"

theorem JsonText.knowing_readsBack (command : CdrWriteCommand) :
    (JsonText.knowing [command.document]).ReadsBack command := by
  rw [ReadsBack, knowing]
  simp only [List.find?_cons, decide_true]

/-- The record of an unanswered call. -/
def sampleCdr (callId : String) : CdrRecord where
  callId
  domainId := "domain-a"
  callerNumber := "1001"
  calleeNumber := "1002"
  inboundRouteId := none
  inboundRouteName := none
  inboundTrunkRef := none
  inboundTrunkName := none
  outboundRouteId := none
  outboundRouteName := none
  outboundTrunkRef := none
  outboundTrunkName := none
  startedAtMs := 100
  answeredAtMs := none
  endedAtMs := 200
  durationMs := 100
  billableMs := 0
  answered := false
  finalStatus := some 480
  hangupCause := "unavailable"
  mediaForwardingMode := none
  callerToCalleePackets := 0
  callerToCalleeBytes := 0
  calleeToCallerPackets := 0
  calleeToCallerBytes := 0
  callerToCalleeRtcpPackets := 0
  calleeToCallerRtcpPackets := 0
  traceAvailable := false
  traceIncomplete := false
  recordingStatus := none
  recordingAvailable := false
  incomplete := false
  incompleteReason := none

def sampleCommand (callId : String) : CdrWriteCommand where
  callCdr := sampleCdr callId
  legCdrs := []
  recording := none
  traceCallId := callId
  traceDomainId := "domain-a"
  traceEndedAtMs := 200

/-- The text of a command grows with the name of its call. -/
theorem length_document (callId : String) :
    (sampleCommand callId).document.render.length + 2 * (Json.renderStr "").length =
      (sampleCommand "").document.render.length + 2 * (Json.renderStr callId).length := by
  have hDocument : ∀ name, (sampleCommand name).document =
      .obj [("schema_version", .num 1), ("command", .obj [("call_cdr",
        .obj (("call_id", .str name) :: ("domain_id", .str "domain-a") ::
          ((sampleCdr "").fields.drop 2))), ("leg_cdrs", .arr []), ("recording", .null),
        ("trace_call_id", .str name), ("trace_domain_id", .str "domain-a"),
        ("trace_ended_at_ms", .num 200)])] := fun _ => rfl
  rw [hDocument, hDocument]
  simp only [Json.render, Json.renderFields, List.length_append, List.length_cons]
  omega

end VoipSwitch
