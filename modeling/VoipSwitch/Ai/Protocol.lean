import Mathlib.Algebra.Order.Field.Rat
import VoipSwitch.Ai.Connector
import VoipSwitch.Call.Event

/-! The messages of the AI control connection and the checks that an envelope's message
passes when it is read. Floating-point numbers are the rationals they stand for. -/
namespace VoipSwitch.AiProtocol

open Connector (MediaDirection AudioCodec)

section Profiles

inductive AiPipelineType where
  | transcription
  | realtimeAssist
  | postCallAnalysis
  | llmTask
  | voiceAgent
deriving DecidableEq

namespace AiPipelineType

def requiresAsr : AiPipelineType → Bool
  | .transcription | .realtimeAssist | .postCallAnalysis | .voiceAgent => true
  | .llmTask => false

def requiresLlm : AiPipelineType → Bool
  | .realtimeAssist | .postCallAnalysis | .llmTask | .voiceAgent => true
  | .transcription => false

def requiresTts (pipelineType : AiPipelineType) : Bool := pipelineType = .voiceAgent

/-- The variant's name in error texts. -/
def name : AiPipelineType → String
  | .transcription => "Transcription"
  | .realtimeAssist => "RealtimeAssist"
  | .postCallAnalysis => "PostCallAnalysis"
  | .llmTask => "LlmTask"
  | .voiceAgent => "VoiceAgent"

end AiPipelineType

structure AiProfileSnapshot where
  profileId : String
  profileVersion : Nat
  pipelineType : AiPipelineType
  asrProviderId : Option String
  llmProviderId : Option String
  ttsProviderId : Option String
  captureCompleteRatio : ℚ
  captureProcessMinRatio : ℚ
  captureCompleteMaxGapMs : Nat
  captureProcessMaxGapMs : Nat
deriving DecidableEq

/-- One capability of `validate_provider_combination`. -/
def checkProvider (pipelineType : AiPipelineType) (capability : String) (required : Bool)
    (value : Option String) : Except String Unit :=
  let present := value.any fun id => !isBlank id
  if required = present then .ok ()
  else if required then .error s!"{capability} provider is required for {pipelineType.name}"
  else .error s!"{capability} provider is not used by {pipelineType.name}"

def validateProviderCombination (pipelineType : AiPipelineType)
    (asrProviderId llmProviderId ttsProviderId : Option String) : Except String Unit := do
  checkProvider pipelineType "ASR" pipelineType.requiresAsr asrProviderId
  checkProvider pipelineType "LLM" pipelineType.requiresLlm llmProviderId
  checkProvider pipelineType "TTS" pipelineType.requiresTts ttsProviderId

def AiProfileSnapshot.validate (profile : AiProfileSnapshot) : Except String Unit := do
  if profile.profileVersion = 0 then
    throw "profile version must be greater than zero"
  validateProviderCombination profile.pipelineType profile.asrProviderId profile.llmProviderId
    profile.ttsProviderId
  if ¬ (0 ≤ profile.captureCompleteRatio ∧ profile.captureCompleteRatio ≤ 1)
      ∨ ¬ (0 ≤ profile.captureProcessMinRatio ∧ profile.captureProcessMinRatio ≤ 1)
      ∨ profile.captureCompleteRatio < profile.captureProcessMinRatio then
    throw "invalid capture ratio thresholds"
  if profile.captureProcessMaxGapMs < profile.captureCompleteMaxGapMs then
    throw "complete gap threshold must not exceed process threshold"

structure AiProfileProjection where
  profile : AiProfileSnapshot
  enabled : Bool
  executable : Bool
deriving DecidableEq

structure ProfileCatalogSnapshot where
  catalogVersion : Nat
  profiles : List AiProfileProjection
deriving DecidableEq

/-- The loop of `ProfileCatalogSnapshot::validate` over the profiles still to check. -/
def checkProfiles (ids : List String) : List AiProfileProjection → Except String Unit
  | [] => .ok ()
  | projection :: rest => do
    projection.profile.validate
    if projection.profile.profileId ∈ ids then
      throw s!"duplicate profile {projection.profile.profileId}"
    checkProfiles (projection.profile.profileId :: ids) rest

def ProfileCatalogSnapshot.validate (snapshot : ProfileCatalogSnapshot) : Except String Unit :=
  if snapshot.catalogVersion = 0 then .error "profile catalog version must be greater than zero"
  else checkProfiles [] snapshot.profiles

end Profiles

section Conversations

structure Participant where
  participantId : String
  role : String
  displayNumber : Option String
deriving DecidableEq

structure StreamBinding where
  streamId : String
  participantId : String
  direction : MediaDirection
  codec : AudioCodec
  sampleRate : Nat
  channels : Nat
deriving DecidableEq

inductive WelcomePrompt where
  | text (words : String)
  | pcmWav (bytes : List UInt8)
deriving DecidableEq

def WelcomePrompt.validate : WelcomePrompt → Except String Unit
  | .text words =>
    if isBlank words then .error "welcome text must not be empty"
    else if 2000 < words.utf8ByteSize then .error "welcome text is too long"
    else .ok ()
  | .pcmWav bytes =>
    if bytes.isEmpty ∨ 768 * 1024 < bytes.length then
      .error "welcome WAV must contain 1..=786432 bytes"
    else .ok ()

structure StartConversation where
  conversation : JobRef
  profile : AiProfileSnapshot
  participant : Participant
  inputStream : StreamBinding
  welcome : Option WelcomePrompt
deriving DecidableEq

def StartConversation.validate (request : StartConversation) : Except String Unit := do
  request.profile.validate
  if request.profile.pipelineType ≠ .voiceAgent then
    throw "conversation requires a voice_agent profile"
  if request.conversation.generation = 0 then
    throw "conversation generation must be greater than zero"
  if request.inputStream.participantId ≠ request.participant.participantId then
    throw "conversation stream participant mismatch"
  if request.inputStream.direction ≠ .fromParticipant then
    throw "conversation input stream must be from participant"
  match request.welcome with
  | some welcome => welcome.validate
  | none => pure ()

structure StartAssistConversation where
  conversation : JobRef
  profile : AiProfileSnapshot
  participants : List Participant
  streams : List StreamBinding
deriving DecidableEq

def StartAssistConversation.validate (request : StartAssistConversation) :
    Except String Unit := do
  request.profile.validate
  if request.profile.pipelineType ≠ .realtimeAssist then
    throw "assist conversation requires a realtime_assist profile"
  if request.conversation.generation = 0 ∨ request.participants.isEmpty
      ∨ request.streams.isEmpty then
    throw "assist conversation requires generation, participants and streams"
  request.streams.forM fun stream => do
    if ¬ request.participants.any (·.participantId = stream.participantId) then
      throw "assist stream references unknown participant"
    if stream.direction ≠ .fromParticipant then
      throw "assist stream must be from participant"

inductive ConversationState where
  | starting
  | listening
  | thinking
  | speaking
  | stopping
  | stopped
deriving DecidableEq

structure AsrSegment where
  conversation : JobRef
  participantId : String
  segmentId : Nat
  text : String
  startMs : Nat
  endMs : Nat
deriving DecidableEq

structure AssistSuggestion where
  conversation : JobRef
  suggestionId : Nat
  kind : String
  text : String
  confidence : Option ℚ
  sourceSegmentId : Nat
deriving DecidableEq

inductive TtsState where
  | started
  | stopped
  | interrupted
  | failed
deriving DecidableEq

structure TtsStateChanged where
  conversation : JobRef
  generation : Nat
  state : TtsState
  sampleRate : Option Nat
deriving DecidableEq

structure SynthesizeTts where
  requestId : String
  profileId : String
  text : String
  voice : String
deriving DecidableEq

def SynthesizeTts.validate (request : SynthesizeTts) : Except String Unit := do
  if isBlank request.requestId ∨ 128 < request.requestId.utf8ByteSize then
    throw "invalid TTS request id"
  if isBlank request.text ∨ 2000 < request.text.utf8ByteSize then
    throw "invalid TTS text"
  if 256 < request.voice.utf8ByteSize then
    throw "TTS voice is too long"

structure TtsSynthesized where
  requestId : String
  success : Bool
  pcm16Le : List UInt8
  sampleRate : Nat
  error : Option String
deriving DecidableEq

end Conversations

section Jobs

structure SubmitPostCallJob where
  job : JobRef
  profile : AiProfileSnapshot
  participants : List Participant
  streams : List StreamBinding
deriving DecidableEq

def SubmitPostCallJob.validate (request : SubmitPostCallJob) : Except String Unit := do
  if request.job.generation = 0 then
    throw "generation must be greater than zero"
  if request.participants.isEmpty ∨ request.streams.isEmpty then
    throw "job requires participants and streams"
  request.profile.validate
  if request.profile.pipelineType ≠ .postCallAnalysis then
    throw "post-call job requires a post_call_analysis profile"
  request.streams.forM fun stream => do
    if ¬ request.participants.any (·.participantId = stream.participantId) then
      throw s!"stream {stream.streamId} references unknown participant"

structure SubmitLlmTask where
  taskId : String
  requestId : String
  taskKind : String
  profile : AiProfileSnapshot
  schemaVersion : Nat
  promptVersion : Nat
  evidenceDigest : String
  evidenceJson : String
  deadlineMs : Nat
deriving DecidableEq

def SubmitLlmTask.validate (request : SubmitLlmTask) : Except String Unit := do
  if request.taskId.isEmpty ∨ request.requestId.isEmpty then
    throw "task and request ids are required"
  if request.taskKind ≠ "ops_diagnosis" then
    throw "unsupported llm task kind"
  request.profile.validate
  if request.profile.pipelineType ≠ .llmTask then
    throw "llm task requires an llm_task profile"
  if request.schemaVersion = 0 ∨ request.promptVersion = 0 ∨ request.deadlineMs = 0
      ∨ 300000 < request.deadlineMs then
    throw "task versions and deadline must be positive"
  if 262144 < request.evidenceJson.utf8ByteSize then
    throw "evidence budget exceeded"

structure LlmTaskCompleted where
  taskId : String
  requestId : String
  schemaVersion : Nat
  status : String
  resultJson : String
  evidenceDigest : String
deriving DecidableEq

def LlmTaskCompleted.validate (result : LlmTaskCompleted) : Except String Unit := do
  if result.taskId.isEmpty ∨ result.requestId.isEmpty then
    throw "task and request ids are required"
  if result.schemaVersion = 0 ∨ 262144 < result.resultJson.utf8ByteSize then
    throw "invalid llm task result schema or size"
  if ¬ (result.status = "completed" ∨ result.status = "insufficient_evidence"
      ∨ result.status = "failed") then
    throw "invalid llm task result status"

structure CancelLlmTask where
  taskId : String
  requestId : String
  reason : String
deriving DecidableEq

def CancelLlmTask.validate (request : CancelLlmTask) : Except String Unit :=
  if request.taskId.isEmpty ∨ request.requestId.isEmpty ∨ 512 < request.reason.utf8ByteSize then
    .error "invalid llm task cancellation"
  else .ok ()

inductive CaptureQuality where
  | complete
  | incompleteProcessable
  | insufficient
deriving DecidableEq

structure TranscriptSegment where
  participantId : String
  startMs : Nat
  endMs : Nat
  text : String
  finalSegment : Bool
deriving DecidableEq

structure StructuredCallResult where
  schemaVersion : Nat
  summary : String
  purpose : String
  outcome : String
  keyPoints : List String
  actionItems : List String
  tags : List String
  action : Option AgentAction
deriving DecidableEq

structure JobCompleted where
  job : JobRef
  resultVersion : Nat
  captureQuality : CaptureQuality
  transcript : List TranscriptSegment
  result : StructuredCallResult
deriving DecidableEq

inductive JobState where
  | capturing
  | queued
  | runningAsr
  | runningLlm
  | completed
  | persisted
  | cancelled
  | failed
  | timedOut
deriving DecidableEq

structure JobStatus where
  job : JobRef
  state : JobState
  analysisVersion : Nat
  resultVersion : Option Nat
  errorCode : Option String
deriving DecidableEq

structure EndAudioInput where
  job : JobRef
  finalSequences : Keyed.OrdMap String Nat
deriving DecidableEq

end Jobs

structure ConnectorHello where
  connectorInstanceId : String
  connectorKind : String
  supportedVersions : List Nat
  capabilities : List String
deriving DecidableEq

structure GatewayHello where
  selectedVersion : Nat
  gatewayInstanceId : String
  capabilities : List String
deriving DecidableEq

structure ProtocolError where
  code : String
  message : String
  retryable : Bool
  relatedMessageId : Option String
deriving DecidableEq

/-- The messages of the control connection; those with one or two fields have them here. -/
inductive ControlMessage where
  | connectorHello (hello : ConnectorHello)
  | gatewayHello (hello : GatewayHello)
  | profileCatalogRequest (knownCatalogVersion : Option Nat)
  | profileCatalogSnapshot (snapshot : ProfileCatalogSnapshot)
  | submitPostCallJob (request : SubmitPostCallJob)
  | submitLlmTask (request : SubmitLlmTask)
  | llmTaskCompleted (result : LlmTaskCompleted)
  | cancelLlmTask (request : CancelLlmTask)
  | durableAccepted (job : JobRef) (duplicate : Bool)
  | audioInputReady (job : JobRef) (acceptedStreams : List String)
  | endAudioInput (request : EndAudioInput)
  | jobCompleted (completed : JobCompleted)
  | resultPersisted (job : JobRef) (resultVersion : Nat)
  | cancelJob (job : JobRef) (reason : String)
  | jobStatusRequest (job : JobRef)
  | jobStatus (status : JobStatus)
  | jobResultRequest (job : JobRef)
  | startConversation (request : StartConversation)
  | startAssistConversation (request : StartAssistConversation)
  | assistConversationReady (conversation : JobRef)
  | stopAssistConversation (conversation : JobRef) (reason : String)
  | asrPartial (segment : AsrSegment)
  | asrFinal (segment : AsrSegment)
  | assistSuggestion (suggestion : AssistSuggestion)
  | conversationReady (conversation : JobRef) (state : ConversationState)
  | stopConversation (conversation : JobRef) (reason : String)
  | conversationStopped (conversation : JobRef) (reason : String)
  | actionRequested (request : ActionRequested)
  | actionResult (result : ActionResult)
  | ttsStateChanged (change : TtsStateChanged)
  | synthesizeTts (request : SynthesizeTts)
  | ttsSynthesized (result : TtsSynthesized)
  | error (error : ProtocolError)
deriving DecidableEq

def ControlMessage.validate : ControlMessage → Except String Unit
  | .submitPostCallJob request => request.validate
  | .submitLlmTask request => request.validate
  | .llmTaskCompleted result => result.validate
  | .cancelLlmTask request => request.validate
  | .profileCatalogSnapshot snapshot => snapshot.validate
  | .startConversation request => request.validate
  | .startAssistConversation request => request.validate
  | .actionRequested request => request.validate
  | .synthesizeTts request => request.validate
  | .endAudioInput request =>
    if request.finalSequences.isEmpty then
      .error "end_audio_input requires at least one final sequence"
    else .ok ()
  | _ => .ok ()

end VoipSwitch.AiProtocol
