import VoipSwitch.Ai.Outbox
import VoipSwitch.Lib.Schema

/-! The decoders of the AI connections. A message is read from a parsed document as the derived
deserializers read it: a struct by field names or by position, unknown fields ignored, and an
identifier as any text at all. -/
namespace VoipSwitch.AiProtocol

open Keyed Schema Reader Fields Connector

section Identifiers

def jobIds (job : JobRef) : List String :=
  [job.jobId, job.tenantId, job.conversationId, job.operationId]

def profileIds (profile : AiProfileSnapshot) : List String := [profile.profileId]

def participantIds (participant : Participant) : List String := [participant.participantId]

def streamIds (stream : StreamBinding) : List String := [stream.streamId, stream.participantId]

def segmentIds (segment : AsrSegment) : List String :=
  jobIds segment.conversation ++ [segment.participantId]

/-- The identifiers of jobs, tenants, conversations, operations, streams, participants and
profiles that a message contains. -/
def ControlMessage.identifiers : ControlMessage → List String
  | .connectorHello _ | .gatewayHello _ | .profileCatalogRequest _ | .llmTaskCompleted _
  | .cancelLlmTask _ | .ttsSynthesized _ | .error _ => []
  | .profileCatalogSnapshot snapshot => snapshot.profiles.flatMap fun p => profileIds p.profile
  | .submitPostCallJob request =>
    jobIds request.job ++ profileIds request.profile ++
      request.participants.flatMap participantIds ++ request.streams.flatMap streamIds
  | .submitLlmTask request => profileIds request.profile
  | .durableAccepted job _ | .resultPersisted job _ | .cancelJob job _ | .jobStatusRequest job
  | .jobResultRequest job | .assistConversationReady job | .stopAssistConversation job _
  | .conversationReady job _ | .stopConversation job _ | .conversationStopped job _ => jobIds job
  | .audioInputReady job acceptedStreams => jobIds job ++ acceptedStreams
  | .endAudioInput request => jobIds request.job ++ request.finalSequences.keys
  | .jobCompleted completed =>
    jobIds completed.job ++ completed.transcript.map (·.participantId)
  | .jobStatus status => jobIds status.job
  | .startConversation request =>
    jobIds request.conversation ++ profileIds request.profile ++
      participantIds request.participant ++ streamIds request.inputStream
  | .startAssistConversation request =>
    jobIds request.conversation ++ profileIds request.profile ++
      request.participants.flatMap participantIds ++ request.streams.flatMap streamIds
  | .asrPartial segment | .asrFinal segment => segmentIds segment
  | .assistSuggestion suggestion => jobIds suggestion.conversation
  | .actionRequested request => jobIds request.conversation ++ [request.operationId]
  | .actionResult result => jobIds result.conversation ++ [result.operationId]
  | .ttsStateChanged change => jobIds change.conversation
  | .synthesizeTts request => [request.profileId]

/-- The job references that a message contains. -/
def ControlMessage.jobs : ControlMessage → List JobRef
  | .connectorHello _ | .gatewayHello _ | .profileCatalogRequest _ | .llmTaskCompleted _
  | .cancelLlmTask _ | .ttsSynthesized _ | .error _ | .profileCatalogSnapshot _
  | .submitLlmTask _ | .synthesizeTts _ => []
  | .submitPostCallJob request => [request.job]
  | .durableAccepted job _ | .resultPersisted job _ | .cancelJob job _ | .jobStatusRequest job
  | .jobResultRequest job | .assistConversationReady job | .stopAssistConversation job _
  | .conversationReady job _ | .stopConversation job _ | .conversationStopped job _
  | .audioInputReady job _ => [job]
  | .endAudioInput request => [request.job]
  | .jobCompleted completed => [completed.job]
  | .jobStatus status => [status.job]
  | .startConversation request => [request.conversation]
  | .startAssistConversation request => [request.conversation]
  | .asrPartial segment | .asrFinal segment => [segment.conversation]
  | .assistSuggestion suggestion => [suggestion.conversation]
  | .actionRequested request => [request.conversation]
  | .actionResult result => [result.conversation]
  | .ttsStateChanged change => [change.conversation]

def metadataIds (metadata : MediaFrameMetadata) : List String :=
  [metadata.jobId, metadata.tenantId, metadata.conversationId, metadata.participantId,
    metadata.streamId]

end Identifiers

section Parts

def jobRef : Reader JobRef jobIds :=
  (struct (required "job_id" name <| required "tenant_id" name <|
    required "conversation_id" name <| required "operation_id" name <|
    required "generation" (unsigned 64) done)).map
    (fun (jobId, tenantId, conversationId, operationId, generation, ()) =>
      { jobId, tenantId, conversationId, operationId, generation })
    (by intro a s; simp [jobIds, pairIds])

def pipelineType : Reader AiPipelineType noIds :=
  enumeration [("transcription", .transcription), ("realtime_assist", .realtimeAssist),
    ("post_call_analysis", .postCallAnalysis), ("llm_task", .llmTask),
    ("voice_agent", .voiceAgent)]

def profileSnapshot : Reader AiProfileSnapshot profileIds :=
  (struct (required "profile_id" name <| required "profile_version" (unsigned 64) <|
    withDefault "pipeline_type" pipelineType .postCallAnalysis rfl <|
    optional "asr_provider_id" text <| optional "llm_provider_id" text <|
    withDefault "tts_provider_id" text.option none rfl <|
    required "capture_complete_ratio" number <| required "capture_process_min_ratio" number <|
    required "capture_complete_max_gap_ms" (unsigned 64) <|
    required "capture_process_max_gap_ms" (unsigned 64) done)).map
    (fun (profileId, profileVersion, pipelineType, asrProviderId, llmProviderId, ttsProviderId,
        captureCompleteRatio, captureProcessMinRatio, captureCompleteMaxGapMs,
        captureProcessMaxGapMs, ()) =>
      { profileId, profileVersion, pipelineType, asrProviderId, llmProviderId, ttsProviderId,
        captureCompleteRatio, captureProcessMinRatio, captureCompleteMaxGapMs,
        captureProcessMaxGapMs })
    (by intro a s; simp [profileIds, pairIds, optionIds])

def participant : Reader Participant participantIds :=
  (struct (required "participant_id" name <| required "role" text <|
    optional "display_number" text done)).map
    (fun (participantId, role, displayNumber, ()) => { participantId, role, displayNumber })
    (by intro a s; simp [participantIds, pairIds, optionIds])

def direction : Reader MediaDirection noIds :=
  enumeration [("from_participant", .fromParticipant), ("to_participant", .toParticipant)]

def codec : Reader AudioCodec noIds :=
  enumeration [("pcma", .pcma), ("pcmu", .pcmu), ("pcm16_le", .pcm16Le)]

def streamBinding : Reader StreamBinding streamIds :=
  (struct (required "stream_id" name <| required "participant_id" name <|
    required "direction" direction <| required "codec" codec <|
    required "sample_rate" (unsigned 32) <| required "channels" (unsigned 8) done)).map
    (fun (streamId, participantId, direction, codec, sampleRate, channels, ()) =>
      { streamId, participantId, direction, codec, sampleRate, channels })
    (by intro a s; simp [streamIds, pairIds])

def bytes : Reader (List UInt8) noIds :=
  (list (unsigned 8)).map (fun values => values.map Nat.toUInt8) (by intro a s; simp)

def welcomePrompt : Reader WelcomePrompt noIds :=
  adjacent "kind" "value" fun
    | "text" => some (text.map .text fun _ _ => Iff.rfl)
    | "pcm_wav" => some (bytes.map .pcmWav fun _ _ => Iff.rfl)
    | _ => none

/-- The fields of an action's variant; its tag stands among them. -/
def agentActionFields (variant : String) : Option (Reader AgentAction noIds) :=
  let tagged {β : Type} {ids : β → List String} (rest : Fields β ids) :=
    struct (required "type" (plain fun v => .ok v) rest)
  match variant with
  | "play_text" => some <|
    (tagged (required "text" text <| required "voice" text done)).map
      (fun (_, words, voice, ()) => .playText words voice) (by intro a s; simp [pairIds])
  | "collect_digits" => some <|
    (tagged (required "max_digits" (unsigned 8) <| required "timeout_ms" (unsigned 64) done)).map
      (fun (_, maxDigits, timeoutMs, ()) => .collectDigits maxDigits timeoutMs)
      (by intro a s; simp [pairIds])
  | "transfer_to_extension" => some <|
    (tagged (required "number" text done)).map
      (fun (_, number, ()) => .transferToExtension number) (by intro a s; simp [pairIds])
  | "transfer_to_business_target" => some <|
    (tagged (required "target" text done)).map
      (fun (_, target, ()) => .transferToBusinessTarget target) (by intro a s; simp [pairIds])
  | "end_call" => some <|
    (tagged (required "reason" text done)).map
      (fun (_, reason, ()) => .endCall reason) (by intro a s; simp [pairIds])
  | _ => none

/-- The tag of an action: its name, or its place among the variants. -/
def agentActionTag : Value → Option String
  | .str s => some s
  | .int n => ["play_text", "collect_digits", "transfer_to_extension",
      "transfer_to_business_target", "end_call"][n.toNat]?
  | _ => none

def agentAction : Reader AgentAction noIds :=
  plain fun v =>
    let tag := match v with
      | .obj fields => fields.lookup "type"
      | .arr (first :: _) => some first
      | _ => none
    match (tag.bind agentActionTag).bind agentActionFields with
    | none => .error "unknown variant"
    | some r => r.read v

end Parts

section Messages

def connectorHello : Reader ConnectorHello noIds :=
  (struct (required "connector_instance_id" text <| required "connector_kind" text <|
    required "supported_versions" (list (unsigned 16)) <|
    required "capabilities" (list text) done)).map
    (fun (connectorInstanceId, connectorKind, supportedVersions, capabilities, ()) =>
      { connectorInstanceId, connectorKind, supportedVersions, capabilities })
    (by intro a s; simp [pairIds])

def gatewayHello : Reader GatewayHello noIds :=
  (struct (required "selected_version" (unsigned 16) <| required "gateway_instance_id" text <|
    required "capabilities" (list text) done)).map
    (fun (selectedVersion, gatewayInstanceId, capabilities, ()) =>
      { selectedVersion, gatewayInstanceId, capabilities })
    (by intro a s; simp [pairIds])

def profileProjection : Reader AiProfileProjection fun p => profileIds p.profile :=
  (struct (required "profile" profileSnapshot <| required "enabled" boolean <|
    required "executable" boolean done)).map
    (fun (profile, enabled, executable, ()) => { profile, enabled, executable })
    (by intro a s; simp [pairIds])

def catalogSnapshot :
    Reader ProfileCatalogSnapshot fun s => s.profiles.flatMap fun p => profileIds p.profile :=
  (struct (required "catalog_version" (unsigned 64) <|
    required "profiles" (list profileProjection) done)).map
    (fun (catalogVersion, profiles, ()) => { catalogVersion, profiles })
    (by intro a s; simp [pairIds])

def submitPostCallJob :
    Reader SubmitPostCallJob fun r => (ControlMessage.submitPostCallJob r).identifiers :=
  (struct (required "job" jobRef <| required "profile" profileSnapshot <|
    required "participants" (list participant) <|
    required "streams" (list streamBinding) done)).map
    (fun (job, profile, participants, streams, ()) => { job, profile, participants, streams })
    (by intro a s; simp [ControlMessage.identifiers, pairIds])

def submitLlmTask : Reader SubmitLlmTask fun r => profileIds r.profile :=
  (struct (required "task_id" text <| required "request_id" text <| required "task_kind" text <|
    required "profile" profileSnapshot <| required "schema_version" (unsigned 32) <|
    required "prompt_version" (unsigned 32) <| required "evidence_digest" text <|
    required "evidence_json" text <| required "deadline_ms" (unsigned 64) done)).map
    (fun (taskId, requestId, taskKind, profile, schemaVersion, promptVersion, evidenceDigest,
        evidenceJson, deadlineMs, ()) =>
      { taskId, requestId, taskKind, profile, schemaVersion, promptVersion, evidenceDigest,
        evidenceJson, deadlineMs })
    (by intro a s; simp [pairIds])

def llmTaskCompleted : Reader LlmTaskCompleted noIds :=
  (struct (required "task_id" text <| required "request_id" text <|
    required "schema_version" (unsigned 32) <| required "status" text <|
    required "result_json" text <| required "evidence_digest" text done)).map
    (fun (taskId, requestId, schemaVersion, status, resultJson, evidenceDigest, ()) =>
      { taskId, requestId, schemaVersion, status, resultJson, evidenceDigest })
    (by intro a s; simp [pairIds])

def cancelLlmTask : Reader CancelLlmTask noIds :=
  (struct (required "task_id" text <| required "request_id" text <|
    required "reason" text done)).map
    (fun (taskId, requestId, reason, ()) => { taskId, requestId, reason })
    (by intro a s; simp [pairIds])

def endAudioInput : Reader EndAudioInput fun r => jobIds r.job ++ r.finalSequences.keys :=
  (struct (required "job" jobRef <|
    required "final_sequences" (keyed (unsigned 64)) done)).map
    (fun (job, finalSequences, ()) => { job, finalSequences })
    (by intro a s; simp [pairIds])

def transcriptSegment : Reader TranscriptSegment fun t => [t.participantId] :=
  (struct (required "participant_id" name <| required "start_ms" (unsigned 64) <|
    required "end_ms" (unsigned 64) <| required "text" text <|
    required "final_segment" boolean done)).map
    (fun (participantId, startMs, endMs, text, finalSegment, ()) =>
      { participantId, startMs, endMs, text, finalSegment })
    (by intro a s; simp [pairIds])

def structuredCallResult : Reader StructuredCallResult noIds :=
  (struct (required "schema_version" (unsigned 32) <| required "summary" text <|
    required "purpose" text <| required "outcome" text <| required "key_points" (list text) <|
    required "action_items" (list text) <| required "tags" (list text) <|
    withDefault "action" agentAction.option none rfl done)).map
    (fun (schemaVersion, summary, purpose, outcome, keyPoints, actionItems, tags, action, ()) =>
      { schemaVersion, summary, purpose, outcome, keyPoints, actionItems, tags, action })
    (by intro a s; simp [pairIds, optionIds])

def captureQuality : Reader CaptureQuality noIds :=
  enumeration [("complete", .complete), ("incomplete_processable", .incompleteProcessable),
    ("insufficient", .insufficient)]

def jobCompleted :
    Reader JobCompleted fun c => jobIds c.job ++ c.transcript.map (·.participantId) :=
  (struct (required "job" jobRef <| required "result_version" (unsigned 64) <|
    required "capture_quality" captureQuality <|
    required "transcript" (list transcriptSegment) <|
    required "result" structuredCallResult done)).map
    (fun (job, resultVersion, captureQuality, transcript, result, ()) =>
      { job, resultVersion, captureQuality, transcript, result })
    (by intro a s; simp [pairIds, List.mem_flatMap, eq_comm])

def jobState : Reader JobState noIds :=
  enumeration [("capturing", .capturing), ("queued", .queued), ("running_asr", .runningAsr),
    ("running_llm", .runningLlm), ("completed", .completed), ("persisted", .persisted),
    ("cancelled", .cancelled), ("failed", .failed), ("timed_out", .timedOut)]

def jobStatus : Reader JobStatus fun t => jobIds t.job :=
  (struct (required "job" jobRef <| required "state" jobState <|
    required "analysis_version" (unsigned 32) <| optional "result_version" (unsigned 64) <|
    optional "error_code" text done)).map
    (fun (job, state, analysisVersion, resultVersion, errorCode, ()) =>
      { job, state, analysisVersion, resultVersion, errorCode })
    (by intro a s; simp [pairIds, optionIds])

def startConversation :
    Reader StartConversation fun r => (ControlMessage.startConversation r).identifiers :=
  (struct (required "conversation" jobRef <| required "profile" profileSnapshot <|
    required "participant" participant <| required "input_stream" streamBinding <|
    withDefault "welcome" welcomePrompt.option none rfl done)).map
    (fun (conversation, profile, participant, inputStream, welcome, ()) =>
      { conversation, profile, participant, inputStream, welcome })
    (by intro a s; simp [ControlMessage.identifiers, pairIds, optionIds])

def startAssistConversation : Reader StartAssistConversation
    fun r => (ControlMessage.startAssistConversation r).identifiers :=
  (struct (required "conversation" jobRef <| required "profile" profileSnapshot <|
    required "participants" (list participant) <|
    required "streams" (list streamBinding) done)).map
    (fun (conversation, profile, participants, streams, ()) =>
      { conversation, profile, participants, streams })
    (by intro a s; simp [ControlMessage.identifiers, pairIds])

def asrSegment : Reader AsrSegment segmentIds :=
  (struct (required "conversation" jobRef <| required "participant_id" name <|
    required "segment_id" (unsigned 64) <| required "text" text <|
    required "start_ms" (unsigned 64) <| required "end_ms" (unsigned 64) done)).map
    (fun (conversation, participantId, segmentId, text, startMs, endMs, ()) =>
      { conversation, participantId, segmentId, text, startMs, endMs })
    (by intro a s; simp [segmentIds, pairIds])

def assistSuggestion : Reader AssistSuggestion fun t => jobIds t.conversation :=
  (struct (required "conversation" jobRef <| required "suggestion_id" (unsigned 64) <|
    required "kind" text <| required "text" text <| optional "confidence" number <|
    required "source_segment_id" (unsigned 64) done)).map
    (fun (conversation, suggestionId, kind, text, confidence, sourceSegmentId, ()) =>
      { conversation, suggestionId, kind, text, confidence, sourceSegmentId })
    (by intro a s; simp [pairIds, optionIds])

def conversationState : Reader ConversationState noIds :=
  enumeration [("starting", .starting), ("listening", .listening), ("thinking", .thinking),
    ("speaking", .speaking), ("stopping", .stopping), ("stopped", .stopped)]

def actionRequested :
    Reader ActionRequested fun r => jobIds r.conversation ++ [r.operationId] :=
  (struct (required "conversation" jobRef <| required "operation_id" name <|
    required "generation" (unsigned 64) <| required "action" agentAction <|
    required "deadline_at_ms" (unsigned 64) done)).map
    (fun (conversation, operationId, generation, action, deadlineAtMs, ()) =>
      { conversation, operationId, generation, action, deadlineAtMs })
    (by intro a s; simp [pairIds])

def actionResult : Reader ActionResult fun r => jobIds r.conversation ++ [r.operationId] :=
  (struct (required "conversation" jobRef <| required "operation_id" name <|
    required "generation" (unsigned 64) <| required "success" boolean <| required "code" text <|
    optional "message" text done)).map
    (fun (conversation, operationId, generation, success, code, message, ()) =>
      { conversation, operationId, generation, success, code, message })
    (by intro a s; simp [pairIds, optionIds])

def ttsState : Reader TtsState noIds :=
  enumeration [("started", .started), ("stopped", .stopped), ("interrupted", .interrupted),
    ("failed", .failed)]

def ttsStateChanged : Reader TtsStateChanged fun t => jobIds t.conversation :=
  (struct (required "conversation" jobRef <| required "generation" (unsigned 64) <|
    required "state" ttsState <| optional "sample_rate" (unsigned 32) done)).map
    (fun (conversation, generation, state, sampleRate, ()) =>
      { conversation, generation, state, sampleRate })
    (by intro a s; simp [pairIds, optionIds])

def synthesizeTts : Reader SynthesizeTts fun r => [r.profileId] :=
  (struct (required "request_id" text <| required "profile_id" name <| required "text" text <|
    withDefault "voice" text "" rfl done)).map
    (fun (requestId, profileId, text, voice, ()) => { requestId, profileId, text, voice })
    (by intro a s; simp [pairIds])

def ttsSynthesized : Reader TtsSynthesized noIds :=
  (struct (required "request_id" text <| required "success" boolean <|
    withDefault "pcm16_le" bytes [] rfl <| withDefault "sample_rate" (unsigned 32) 0 rfl <|
    optional "error" text done)).map
    (fun (requestId, success, pcm16Le, sampleRate, error, ()) =>
      { requestId, success, pcm16Le, sampleRate, error })
    (by intro a s; simp [pairIds, optionIds])

def protocolError : Reader ProtocolError noIds :=
  (struct (required "code" text <| required "message" text <| required "retryable" boolean <|
    optional "related_message_id" text done)).map
    (fun (code, message, retryable, relatedMessageId, ()) =>
      { code, message, retryable, relatedMessageId })
    (by intro a s; simp [pairIds, optionIds])

/-- A message that is a job reference alone. -/
def jobOnly (field : String) : Reader JobRef jobIds :=
  (struct (required field jobRef done)).map Prod.fst (by intro a s; simp [pairIds])

/-- A message that is a job reference with one field more. -/
def jobAnd {α : Type} (first second : String) (r : Reader α noIds) :
    Reader (JobRef × α) fun p => jobIds p.1 :=
  (struct (required first jobRef <| required second r done)).map
    (fun (job, a, ()) => (job, a)) (by intro a s; simp [pairIds])

/-- The payload of each message type. -/
def messageReader (type : String) : Option (Reader ControlMessage ControlMessage.identifiers) :=
  match type with
  | "connector_hello" => some (connectorHello.map .connectorHello fun _ _ => Iff.rfl)
  | "gateway_hello" => some (gatewayHello.map .gatewayHello fun _ _ => Iff.rfl)
  | "profile_catalog_request" => some <|
    (struct (optional "known_catalog_version" (unsigned 64) done)).map
      (fun (known, ()) => .profileCatalogRequest known)
      (by intro a s; simp [ControlMessage.identifiers, pairIds, optionIds])
  | "profile_catalog_snapshot" =>
    some (catalogSnapshot.map .profileCatalogSnapshot fun _ _ => Iff.rfl)
  | "submit_post_call_job" =>
    some (submitPostCallJob.map .submitPostCallJob fun _ _ => Iff.rfl)
  | "submit_llm_task" => some (submitLlmTask.map .submitLlmTask fun _ _ => Iff.rfl)
  | "llm_task_completed" => some (llmTaskCompleted.map .llmTaskCompleted fun _ _ => Iff.rfl)
  | "cancel_llm_task" => some (cancelLlmTask.map .cancelLlmTask fun _ _ => Iff.rfl)
  | "durable_accepted" => some <|
    (jobAnd "job" "duplicate" boolean).map (fun p => .durableAccepted p.1 p.2)
      fun _ _ => Iff.rfl
  | "audio_input_ready" => some <|
    (struct (required "job" jobRef <| required "accepted_streams" (list name) done)).map
      (fun (job, streams, ()) => .audioInputReady job streams)
      (by intro a s; simp [ControlMessage.identifiers, pairIds])
  | "end_audio_input" => some (endAudioInput.map .endAudioInput fun _ _ => Iff.rfl)
  | "job_completed" => some (jobCompleted.map .jobCompleted fun _ _ => Iff.rfl)
  | "result_persisted" => some <|
    (jobAnd "job" "result_version" (unsigned 64)).map (fun p => .resultPersisted p.1 p.2)
      fun _ _ => Iff.rfl
  | "cancel_job" => some <|
    (jobAnd "job" "reason" text).map (fun p => .cancelJob p.1 p.2) fun _ _ => Iff.rfl
  | "job_status_request" => some ((jobOnly "job").map .jobStatusRequest fun _ _ => Iff.rfl)
  | "job_status" => some (jobStatus.map .jobStatus fun _ _ => Iff.rfl)
  | "job_result_request" => some ((jobOnly "job").map .jobResultRequest fun _ _ => Iff.rfl)
  | "start_conversation" => some (startConversation.map .startConversation fun _ _ => Iff.rfl)
  | "start_assist_conversation" =>
    some (startAssistConversation.map .startAssistConversation fun _ _ => Iff.rfl)
  | "assist_conversation_ready" =>
    some ((jobOnly "conversation").map .assistConversationReady fun _ _ => Iff.rfl)
  | "stop_assist_conversation" => some <|
    (jobAnd "conversation" "reason" text).map (fun p => .stopAssistConversation p.1 p.2)
      fun _ _ => Iff.rfl
  | "asr_partial" => some (asrSegment.map .asrPartial fun _ _ => Iff.rfl)
  | "asr_final" => some (asrSegment.map .asrFinal fun _ _ => Iff.rfl)
  | "assist_suggestion" => some (assistSuggestion.map .assistSuggestion fun _ _ => Iff.rfl)
  | "conversation_ready" => some <|
    (jobAnd "conversation" "state" conversationState).map (fun p => .conversationReady p.1 p.2)
      fun _ _ => Iff.rfl
  | "stop_conversation" => some <|
    (jobAnd "conversation" "reason" text).map (fun p => .stopConversation p.1 p.2)
      fun _ _ => Iff.rfl
  | "conversation_stopped" => some <|
    (jobAnd "conversation" "reason" text).map (fun p => .conversationStopped p.1 p.2)
      fun _ _ => Iff.rfl
  | "action_requested" => some (actionRequested.map .actionRequested fun _ _ => Iff.rfl)
  | "action_result" => some (actionResult.map .actionResult fun _ _ => Iff.rfl)
  | "tts_state_changed" => some (ttsStateChanged.map .ttsStateChanged fun _ _ => Iff.rfl)
  | "synthesize_tts" => some (synthesizeTts.map .synthesizeTts fun _ _ => Iff.rfl)
  | "tts_synthesized" => some (ttsSynthesized.map .ttsSynthesized fun _ _ => Iff.rfl)
  | "error" => some (protocolError.map .error fun _ _ => Iff.rfl)
  | _ => none

def message : Reader ControlMessage ControlMessage.identifiers :=
  adjacent "type" "payload" messageReader

/-- The message's fields stand among the envelope's. -/
def envelope : Reader (ControlEnvelope ControlMessage) fun e => e.message.identifiers where
  read v :=
    match v with
    | .obj _ => do
      let (version, messageId, timestampMs, ()) ← (struct (required "protocol_version"
        (unsigned 16) <| required "message_id" text <|
        required "timestamp_ms" (unsigned 64) done)).read v
      let m ← message.read v
      return {
        protocolVersion := version.toUInt16
        messageId := messageId
        timestampMs := timestampMs.toUInt64
        message := m }
    | _ => .error "expected a map"
  texts := message.texts
  sound := by
    intro v a h s
    cases v with
    | obj fields =>
        obtain ⟨_, _, h⟩ := ok_of_bind h
        obtain ⟨m, hMessage, h⟩ := ok_of_bind h
        obtain rfl := Except.ok.inj h
        exact message.sound hMessage s
    | _ => cases h

def mediaMetadata : Reader MediaFrameMetadata metadataIds :=
  (struct (required "job_id" name <| required "tenant_id" name <|
    required "conversation_id" name <| required "participant_id" name <|
    required "stream_id" name <| required "sequence" (unsigned 64) <|
    required "generation" (unsigned 64) <| required "direction" direction <|
    required "codec" codec <| required "sample_rate" (unsigned 32) <|
    required "channels" (unsigned 8) <| required "media_timestamp" (unsigned 64) <|
    required "duration_ms" (unsigned 16) <| required "end_of_stream" boolean done)).map
    (fun (jobId, tenantId, conversationId, participantId, streamId, sequence, generation,
        direction, codec, sampleRate, channels, mediaTimestamp, durationMs, endOfStream, ()) =>
      { jobId, tenantId, conversationId, participantId, streamId
        sequence := sequence.toUInt64
        generation := generation.toUInt64
        direction, codec
        sampleRate := sampleRate.toUInt32
        channels := channels.toUInt8
        mediaTimestamp := mediaTimestamp.toUInt64
        durationMs := durationMs.toUInt16
        endOfStream })
    (by intro a s; simp [metadataIds, pairIds])

end Messages

end VoipSwitch.AiProtocol
