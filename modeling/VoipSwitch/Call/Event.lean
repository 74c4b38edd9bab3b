import VoipSwitch.Call.Dtmf
import VoipSwitch.Core.Aggregate
import VoipSwitch.Core.Text
import VoipSwitch.Lib.Json

/-! What reaches a call coordinator and what it sends: adapter frames and actions, media
actions and their results, attempt registrations, and the messages of the AI service. -/
namespace VoipSwitch

open Document

/-- Frame types of the leg events that the adapter reports. -/
inductive LegFrame where
  | inboundInviteOffered
  | outboundProvisional
  | outboundAnswered
  | outboundFailed
  | inboundInviteCancelled
  | dialogDisconnected
deriving DecidableEq

structure CallLegEvent where
  callId : Option CallId
  sessionId : Option SessionId
  adapterCallLegId : AdapterCallLegId
  legEventSeq : Nat
  statusCode : Option Nat
  sdp : Option SdpBody
  reason : Option Int
deriving DecidableEq

/-- Commands to the adapter. An acknowledgement may name a kind that the switch never
sends; those are the `other` kinds. -/
inductive ActionKind where
  | adoptInboundInvite
  | originateEndpoint
  | originateTrunk
  | forwardProvisional
  | answerInboundInvite
  | rejectInboundInvite
  | cancelOutbound
  | hangupDialog
  | sendDtmfInfo
  | other (name : String)
deriving DecidableEq

namespace ActionKind

def asStr : ActionKind → String
  | .adoptInboundInvite => "AdoptInboundInvite"
  | .originateEndpoint => "OriginateEndpoint"
  | .originateTrunk => "OriginateTrunk"
  | .forwardProvisional => "ForwardProvisional"
  | .answerInboundInvite => "AnswerInboundInvite"
  | .rejectInboundInvite => "RejectInboundInvite"
  | .cancelOutbound => "CancelOutbound"
  | .hangupDialog => "HangupDialog"
  | .sendDtmfInfo => "SendDtmfInfo"
  | .other name => name

/-- `action_kind.starts_with("Originate")`. -/
def isOriginate (kind : ActionKind) : Bool := startsWith kind.asStr "Originate"

end ActionKind

structure ActionIdentity where
  callId : CallId
  sessionId : SessionId
  actionKind : ActionKind
  actionId : String
  generation : Nat
deriving DecidableEq

/-- An action frame that the adapter's write queue took. -/
structure SubmittedAction where
  identity : ActionIdentity
  domainId : DomainId
  body : Json

/-- `insert_identity`: the identity overrides what the body says about it. -/
def insertIdentity (body : List (String × Json)) (identity : ActionIdentity) : Json :=
  .obj (Json.setField (Json.setField (Json.setField (Json.setField body
    "call_id" (.str identity.callId)) "session_id" (.str identity.sessionId))
    "action_id" (.str identity.actionId)) "generation" (.num identity.generation))

structure ActionDeliveryFailed where
  identity : ActionIdentity
  reason : String
deriving DecidableEq

inductive CallActionAckStatus where
  | accepted
  | rejected
  | duplicate
deriving DecidableEq

structure CallActionAck where
  callId : CallId
  sessionId : SessionId
  actionKind : ActionKind
  actionId : String
  generation : Nat
  status : CallActionAckStatus
  result : Json

namespace CallActionAck

def identity (ack : CallActionAck) : ActionIdentity where
  callId := ack.callId
  sessionId := ack.sessionId
  actionKind := ack.actionKind
  actionId := ack.actionId
  generation := ack.generation

def originalStatus (ack : CallActionAck) : Option String :=
  (ack.result.get? "original_status").bind Json.asStr?

def accepted (ack : CallActionAck) : Bool :=
  match ack.status with
  | .accepted => true
  | .rejected => false
  | .duplicate => ack.originalStatus = some "accepted"

/-- Why the adapter rejected the action, with the reader's own default text. -/
def rejection (ack : CallActionAck) (default : String) : String :=
  (((ack.result.get? "message").bind Json.asStr?).orElse fun _ => ack.originalStatus).getD default

end CallActionAck

structure DtmfInfoSendResult where
  callId : CallId
  sessionId : SessionId
  adapterCallLegId : AdapterCallLegId
  actionId : String
  generation : Nat
  statusCode : Option Nat
  reason : Int
  succeeded : Bool
deriving DecidableEq

inductive PrepareSdpPurpose where
  | provisional (statusCode : Nat) (startRingTimer : Bool)
  | answer (payloadTypes : List Nat)
  | aiAgentAnswer
  | transferAnswer
  | calleeAttemptOffer (attemptSeq : Nat)
deriving DecidableEq

structure RecordingSpec where
  callId : CallId
  domainId : DomainId
  callerNumber : String
  calleeNumber : String
  startedAtMs : Nat
  recordingDir : String
  payloadTypes : List Nat
deriving DecidableEq

inductive DtmfMediaMode where
  | observe
  | collect
deriving DecidableEq

structure DtmfCapabilityLeaseRequest where
  leaseId : MediaCapabilityLeaseId
  owner : BusinessOperationId
  sourceSessionId : SessionId
  mode : DtmfMediaMode
  requestedGeneration : Nat
deriving DecidableEq

structure DtmfCapabilityReady where
  leaseId : MediaCapabilityLeaseId
  sourceSessionId : SessionId
  mediaGeneration : Nat
deriving DecidableEq

/-- Requests of one call's media worker, which serves them one after another. -/
inductive MediaAction where
  | prepareSdp (actionId : String) (generation : Nat) (purpose : PrepareSdpPurpose)
      (sdp : SdpBody) (routeTarget : Option String)
  | startAnswerMedia (actionId : String) (generation : Nat) (recording : Option RecordingSpec)
      (bridgeId : String) (allowFastPath : Bool)
  | acquireDtmfCapability (actionId : String) (generation : Nat)
      (request : DtmfCapabilityLeaseRequest)
  | releaseDtmfCapability (actionId : String) (generation : Nat)
      (leaseId : MediaCapabilityLeaseId)
deriving DecidableEq

inductive MediaActionResult where
  | sdpPrepared (actionId : String) (generation : Nat) (purpose : PrepareSdpPurpose)
      (result : Except String SdpBody)
  | answerMediaStarted (actionId : String) (generation : Nat) (recordingError : Option String)
  | dtmfCapabilityAcquired (actionId : String) (generation : Nat)
      (result : Except String DtmfCapabilityReady)
  | dtmfCapabilityReleased (actionId : String) (generation : Nat) (result : Except String Nat)

/-- The media worker answers a request with its own identity, generation and purpose;
only the outcome is the worker's. -/
def MediaAction.answeredBy : MediaAction → MediaActionResult → Bool
  | .prepareSdp actionId generation purpose _ _, .sdpPrepared actionId' generation' purpose' _ =>
    actionId' = actionId && generation' = generation && purpose' = purpose
  | .startAnswerMedia actionId generation recording _ _,
      .answerMediaStarted actionId' generation' recordingError =>
    actionId' = actionId && generation' = generation
      && (recording.isSome || recordingError.isNone)
  | .acquireDtmfCapability actionId generation _,
      .dtmfCapabilityAcquired actionId' generation' _ =>
    actionId' = actionId && generation' = generation
  | .releaseDtmfCapability actionId generation _,
      .dtmfCapabilityReleased actionId' generation' _ =>
    actionId' = actionId && generation' = generation
  | _, _ => false

/-- A new callee session handed to the registrar. -/
structure AttemptRegistration where
  callId : CallId
  coordinatorSessionId : SessionId
  coordinatorGeneration : Nat
  previousSessionId : SessionId
  attemptSeq : Nat
  sessionId : SessionId
  session : Session
  actionGeneration : Nat
deriving DecidableEq

inductive AttemptRegistrationResult where
  | registered (attemptSeq : Nat) (sessionId : SessionId)
  | rejected (attemptSeq : Nat) (sessionId : SessionId) (reason : String)
deriving DecidableEq

def AttemptRegistration.answeredBy (request : AttemptRegistration) :
    AttemptRegistrationResult → Bool
  | .registered attemptSeq sessionId | .rejected attemptSeq sessionId _ =>
    attemptSeq = request.attemptSeq && sessionId = request.sessionId

structure JobRef where
  jobId : String
  tenantId : String
  conversationId : String
  operationId : String
  generation : Nat
deriving DecidableEq

inductive AgentAction where
  | playText (text voice : String)
  | collectDigits (maxDigits timeoutMs : Nat)
  | transferToExtension (number : String)
  | transferToBusinessTarget (target : String)
  | endCall (reason : String)
deriving DecidableEq

structure ActionRequested where
  conversation : JobRef
  operationId : String
  generation : Nat
  action : AgentAction
  deadlineAtMs : Nat
deriving DecidableEq

structure ActionResult where
  conversation : JobRef
  operationId : String
  generation : Nat
  success : Bool
  code : String
  message : Option String
deriving DecidableEq

/-- `validate_id` of the AI protocol's identifiers. -/
def validateId (kind value : String) : Except String Unit :=
  if value.isEmpty ∨ 128 < value.utf8ByteSize then .error s!"{kind} must contain 1..=128 bytes"
  else if ¬ value.toList.all fun c =>
      isAsciiAlphanumeric c || c = '-' || c = '_' || c = '.' || c = ':' then
    .error s!"{kind} contains unsupported characters"
  else .ok ()

def AgentAction.validate : AgentAction → Except String Unit
  | .playText text voice =>
    if isBlank text ∨ 16 * 1024 < text.utf8ByteSize ∨ 256 < voice.utf8ByteSize then
      .error "invalid PlayText parameters"
    else .ok ()
  | .collectDigits maxDigits timeoutMs =>
    if maxDigits = 0 ∨ 32 < maxDigits ∨ timeoutMs = 0 ∨ 300000 < timeoutMs then
      .error "invalid CollectDigits parameters"
    else .ok ()
  | .transferToExtension number =>
    if number.isEmpty ∨ 32 < number.utf8ByteSize ∨ ¬ number.toList.all isAsciiDigit then
      .error "invalid extension number"
    else .ok ()
  | .transferToBusinessTarget target =>
    if target.isEmpty ∨ 256 < target.utf8ByteSize ∨ '\n' ∈ target.toList ∨ '\r' ∈ target.toList then
      .error "invalid business target"
    else .ok ()
  | .endCall reason =>
    if 1024 < reason.utf8ByteSize then .error "end-call reason is too long" else .ok ()

def ActionRequested.validate (request : ActionRequested) : Except String Unit :=
  if request.conversation.generation = 0 ∨ request.generation = 0 then
    .error "action generation must be greater than zero"
  else if isBlank request.operationId then .error "action operation id must not be empty"
  else if request.deadlineAtMs = 0 then .error "action deadline must be set"
  else request.action.validate

structure CoordinatorHandoffToken where
  callId : CallId
  sourceSessionId : SessionId
  targetSessionId : SessionId
  sourceGeneration : Nat
  targetGeneration : Nat
deriving DecidableEq

structure CoordinatorIdentity where
  sessionId : SessionId
  generation : Nat
deriving DecidableEq

inductive ControlMessage where
  | legEvent (frame : LegFrame) (event : CallLegEvent)
  | peerLegEvent (frame : LegFrame) (event : CallLegEvent)
  | peerActionFailed (failure : ActionDeliveryFailed)
  | actionDeliveryFailed (failure : ActionDeliveryFailed)
  | callActionAck (ack : CallActionAck)
  | mediaActionResult (result : MediaActionResult)
  | mediaDtmfObserved (event : DigitEvent)
  | sipDtmfReceived (event : DigitEvent)
  | peerDigitEvent (event : DigitEvent)
  | dtmfInfoSendResult (result : DtmfInfoSendResult)
  | attemptRegistrationResult (result : AttemptRegistrationResult)
  | aiActionRequested (request : ActionRequested)
  | aiGatewayUnavailable
  | prepareCoordinatorHandoff (token : CoordinatorHandoffToken)
  | prepareCoordinatorTarget (token : CoordinatorHandoffToken)
  | callFinalized
  | forceCleanup
  | shutdown

inductive EventMessage where
  | querySessionSummary
  | startDigitCollection (spec : DigitCollectionSpec)
  | cancelDigitCollection (collectorId : CollectorId)
deriving DecidableEq

inductive CallTimerKind where
  | dial
  | ring
  | cleanup
deriving DecidableEq

end VoipSwitch
