import VoipSwitch.Call.Actor
import VoipSwitch.Lib.Transition

/-! The requests of the AI service, shutdown, and the actor's loop as a transition system:
one transition per handled message or expired timer. -/
namespace VoipSwitch

open Stateful Keyed Document

/-- The candidate that reaches a registered endpoint. -/
def endpointResolvedRoute (env : Env) (domainId : DomainId) (endpointId endpointNumber : String) :
    Option OutboundCandidate :=
  match env.registrations.find? fun item =>
      item.domainId = domainId && item.endpointId = endpointId with
  | none => none
  | some item =>
    if item.registered && env.registrationsReady then
      some
        { outboundTarget := .endpoint endpointId endpointNumber
          calleeRouteTarget := item.routeTarget }
    else none

namespace Coordinator

/-- How an AI action ended: success, code and message. -/
structure AiOutcome where
  success : Bool
  code : String
  message : Option String := none
deriving DecidableEq

def validateAiAction (env : Env) (s : Coordinator) (request : ActionRequested) :
    Except String Unit :=
  match request.validate with
  | .error error => .error error
  | .ok _ =>
    if request.conversation.conversationId ≠ s.call.callId then
      .error "conversation does not match active call"
    else if request.conversation.tenantId ≠ s.call.domainId then
      .error "conversation tenant does not match active domain"
    else if request.generation ≠ request.conversation.generation then
      .error "action generation mismatch"
    else if request.deadlineAtMs < env.unixTimestampMs then .error "action deadline exceeded"
    else if ¬ (s.aiAgentConversationActive ∧ s.call.isAnswered) then
      .error "AI action is only valid on an answered AI Agent call"
    else if s.call.isTerminating then .error "call is terminating"
    else .ok ()

/-- End an AI call: the agent's own leg has no dialog, so only the caller is hung up. -/
def endAiCall (cause : HangupCause) (actionId : String) (body : List (String × Json)) :
    Handler Unit := do
  beginTerminating cause
  updateCall fun call => { call with hangupCause := some cause }
  assignState .terminating
  markCalleeTerminated
  cancelTimer .dial
  cancelTimer .ring
  submitCallerAction .hangupDialog actionId body
  startTimer .cleanup

/-- The collection that a `CollectDigits` action asks for. -/
def aiCollectionSpec (env : Env) (s : Coordinator) (request : ActionRequested)
    (maxDigits timeoutMs : Nat) : DigitCollectionSpec :=
  let timeoutMs := min timeoutMs (max (request.deadlineAtMs - env.unixTimestampMs) 1)
  { collectorId := request.operationId
    owner := request.operationId
    sourceSessionId := s.call.callerSessionId
    mode := .collect
    allowed := [.d0, .d1, .d2, .d3, .d4, .d5, .d6, .d7, .d8, .d9, .star]
    minDigits := 1
    maxDigits
    terminators := [.pound]
    firstDigitTimeoutMs := timeoutMs
    interDigitTimeoutMs := timeoutMs
    overallTimeoutMs := timeoutMs }

def collectAiDigits (request : ActionRequested) (maxDigits timeoutMs : Nat) :
    Handler AiOutcome := do
  let env ← Proc.read
  let s ← Proc.get
  if env.aiJobs.isNone then Proc.fail (.message "AI connector is unavailable")
  else
    match env.eventMailbox.refusal "call_coordinator_event_mailbox_full"
        "call_coordinator_gone" with
    | some reason => Proc.fail (.message reason)
    | none => do
      observe (.digitsRequested (s.aiCollectionSpec env request maxDigits timeoutMs))
      pure { success := true, code := "DEFERRED" }

def startTransferFailurePrompt (request : ActionRequested) (reason : String) : Handler Unit := do
  let env ← Proc.read
  bumpPromptGeneration
  let s ← Proc.get
  observe (.prompt false (s.currentAiLanguage env))
  sendActionResult
    { conversation := request.conversation, operationId := request.operationId,
      generation := request.generation, success := false, code := "TRANSFER_FAILED",
      message := some reason }

/-- Where a transfer to an extension leads, or why it leads nowhere. -/
def transferRoute (env : Env) (s : Coordinator) (number : String) :
    Except String OutboundCandidate :=
  match env.domain with
  | none => .error "domain_not_found"
  | some domain =>
    match domain.extensions.find? fun extension =>
        extension.enabled && extension.number = number with
    | none => .error "extension_not_found"
    | some extension =>
      match endpointResolvedRoute env s.call.domainId extension.id extension.number with
      | none => .error "extension_unavailable"
      | some candidate => .ok candidate

/-- The error text of a step that failed. -/
def failureText {α : Type} : Except Error α → Option String
  | .ok _ => none
  | .error error => some error.text

def transferToExtension (request : ActionRequested) (number : String) : Handler AiOutcome := do
  let env ← Proc.read
  let s ← Proc.get
  if s.pendingAiTransfer.isSome then pure { success := true, code := "IDEMPOTENT_REPLAY" }
  else
    match s.transferRoute env number with
    | .error reason => do
      startTransferFailurePrompt request reason
      pure { success := true, code := "DEFERRED" }
    | .ok candidate => do
      let language := s.currentAiLanguage env
      Proc.modify fun s =>
        { s with
          pendingAiTransfer := some
            { conversation := request.conversation, operationId := request.operationId,
              generation := request.generation, number, language } }
      bumpPromptGeneration
      observe (.prompt true language)
      let started ← Proc.attempt (beginAiTransferAttempt candidate)
      Proc.whenSome (failureText started) fun reason =>
        failAiTransfer s!"attempt_start_failed:{reason}"
      pure { success := true, code := "DEFERRED" }

/-- Validate and carry out an AI action. An action that was carried out before is only
acknowledged. -/
def performAiAction (request : ActionRequested) : Handler AiOutcome := do
  let env ← Proc.read
  let s ← Proc.get
  match s.validateAiAction env request with
  | .error error => Proc.fail (.message error)
  | .ok _ =>
    let key := (s!"ai:{request.operationId}", request.generation)
    if key ∈ s.completedActions then pure { success := true, code := "IDEMPOTENT_REPLAY" }
    else do
      Proc.modify fun s => { s with completedActions := key :: s.completedActions }
      match request.action with
      | .endCall reason => do
        endAiCall .normalClearing s!"ai-end-call-{s.call.callId}" [("reason", .str reason)]
        pure { success := true, code := "ACCEPTED" }
      | .collectDigits maxDigits timeoutMs => collectAiDigits request maxDigits timeoutMs
      | .transferToExtension number => transferToExtension request number
      | .transferToBusinessTarget _ | .playText _ _ =>
        pure
          { success := false
            code := "ACTION_NOT_AVAILABLE"
            message := some "action requires a later core capability batch" }

/-- The outcome that is reported for an action: an error rejects it. -/
def aiOutcome : Except Error AiOutcome → AiOutcome
  | .ok outcome => outcome
  | .error error => { success := false, code := "ACTION_REJECTED", message := some error.text }

def handleAiAction (request : ActionRequested) : Handler Unit := do
  let result ← Proc.attempt (performAiAction request)
  let outcome := aiOutcome result
  if outcome.code ≠ "DEFERRED" then
    sendActionResult
      { conversation := request.conversation, operationId := request.operationId,
        generation := request.generation, success := outcome.success, code := outcome.code,
        message := outcome.message }
  else pure ()

def handleAiGatewayUnavailable : Handler Unit := do
  let s ← Proc.get
  if ¬ s.aiAgentConversationActive ∨ s.call.isTerminating then pure ()
  else
    let fallbackMode := if s.call.aiFallbackTarget.getD "end_call" = "end_call" then "end_call"
      else "unsupported"
    endAiCall .temporaryFailure s!"ai-gateway-unavailable-{s.call.callId}"
      [("reason", .str "ai_gateway_unavailable"), ("fallback", .str fallbackMode)]

def beginShutdown : Handler Unit := do
  Proc.modify fun s => { s with retryAfterCleanup := none }
  let s ← Proc.get
  if s.call.isTerminating then pure ()
  else do
    beginTerminating .systemShutdown
    cancelTimer .dial
    cancelTimer .ring
    Proc.when (¬ s.call.callerTerminated)
      (submitCallerAction (if s.call.isAnswered then .hangupDialog else .rejectInboundInvite)
        s!"shutdown-caller-{s.call.callId}" (s.statusBody 503))
    Proc.when (s.aiAgentConversationActive ∧ s.pendingAiTransfer.isNone) markCalleeTerminated
    let s ← Proc.get
    Proc.when (¬ s.call.calleeTerminated)
      (submitCalleeAction
        (if s.call.isAnswered ∧ s.pendingAiTransfer.isNone then .hangupDialog else .cancelOutbound)
        s!"shutdown-callee-{s.call.callId}" [("reason", .str "system_shutdown")])
    startTimer .cleanup

/-- `hangup_cause.get_or_insert(InternalError)`, then finalization. -/
def finishUnexplained : Handler Unit := do
  updateCall fun call =>
    { call with hangupCause := getOrInsert call.hangupCause .internalError }
  beginFinishCall

/-- End the call at once, with this cause if it has none yet. -/
def finishNow (cause : HangupCause) : Handler Unit := do
  beginTerminating cause
  beginFinishCall

/-- What follows every handled message. An error ends the call at once; the result says
whether the loop goes on. -/
def completeProcessing (result : Except Error Unit) : Handler Bool :=
  match result with
  | .error _ => do
    beginTerminating .internalError
    finishUnexplained
    pure true
  | .ok _ => do
    let s ← Proc.get
    if s.finalized then pure false
    else if s.call.callerTerminated ∧ s.call.calleeTerminated then do
      beginFinishCall
      pure true
    else pure true

/-- Handle a message and settle its result. -/
def process (m : Handler Unit) : Handler Bool := do
  let result ← Proc.attempt m
  completeProcessing result

inductive ControlSource where
  | ownedLeg
  | coordinator
deriving DecidableEq

/-- The coordinator role moved to a callee leg whose mailbox the message came through. -/
def fromOwnedCallee (s : Coordinator) (source : ControlSource) : Bool :=
  source = .ownedLeg && s.ownedSessionId ≠ s.call.callerSessionId

/-- The handlers of the messages that end with `complete_processing`. -/
def dispatch (source : ControlSource) (s : Coordinator) : ControlMessage → Handler Unit
  | .legEvent frame event =>
    if s.ownedSessionId = s.call.callerSessionId then handleCallerLegEvent frame event
    else handlePeerLegEvent frame event
  | .peerLegEvent frame event => handlePeerLegEvent frame event
  | .actionDeliveryFailed failure => handleActionFailure failure (s.fromOwnedCallee source)
  | .peerActionFailed failure => handleActionFailure failure true
  | .callActionAck ack =>
    if s.fromOwnedCallee source then handleOwnedLegActionAck ack else handleActionAck ack
  | .mediaActionResult result => handleMediaActionResult result
  | .mediaDtmfObserved event | .sipDtmfReceived event => handleSourceDigit event
  | .peerDigitEvent event => handlePeerDigit event
  | .dtmfInfoSendResult result => handleDtmfInfoSendResult result
  | .attemptRegistrationResult result => handleAttemptRegistrationResult result
  | .aiActionRequested request => handleAiAction request
  | .aiGatewayUnavailable => handleAiGatewayUnavailable
  | .shutdown => beginShutdown
  | .prepareCoordinatorHandoff _ | .prepareCoordinatorTarget _ => pure ()
  | .callFinalized | .forceCleanup => pure ()

/-- Handle one control message; the result says whether the loop goes on. -/
def handleControl (source : ControlSource) (message : ControlMessage) : Handler Bool := do
  let env ← Proc.read
  let s ← Proc.get
  match s.finalizationStarted, message with
  | true, .forceCleanup => pure false
  | _, .callFinalized => do
    Proc.modify fun s => { s with finalized := true }
    pure false
  | true, _ => pure true
  | false, .forceCleanup => do
    finishNow (if env.shuttingDown then .systemShutdown else .internalError)
    pure false
  | false, message => process (dispatch source s message)

/-- Submit the actions that set the call up. The first refusal ends the call. -/
def submitInitialActions : List InitialCallAction → Handler Unit
  | [] => pure ()
  | action :: rest => do
    let submit := if action.callee then submitCalleeAction else submitCallerAction
    let result ← Proc.attempt (submit action.actionKind action.actionId action.body)
    match result with
    | .ok _ => submitInitialActions rest
    | .error _ => do
      beginTerminating .internalError
      updateCall fun call => { call with hangupCause := some .internalError }
      beginFinishCall

/-- An AI agent answers by itself: prepare the answer as soon as the call starts. -/
def prepareAiAgentAnswer : Handler Unit := do
  let s ← Proc.get
  if ¬ s.finalizationStarted ∧ startsWith s.call.calleeTarget "ai_agent:" then do
    bumpMediaGeneration
    let s ← Proc.get
    let result ← Proc.attempt (submitMedia (.prepareSdp
      s!"prepare-ai-agent-answer-{s.call.callId}" s.mediaGeneration .aiAgentAnswer s.callerOffer
      none))
    match result with
    | .ok _ => pure ()
    | .error _ => finishNow .internalError
  else pure ()

/-- Set the call up, once. -/
def start : Handler Unit := do
  let s ← Proc.get
  if s.actorStarted then pure ()
  else do
    Proc.modify fun s => { s with actorStarted := true, initialActions := [] }
    submitInitialActions s.initialActions
    prepareAiAgentAnswer
    let s ← Proc.get
    if s.finalizationStarted then pure () else startTimer .dial

/-- An actor that starts while the switch shuts down ends its call right away. -/
def enterShuttingDown : Handler Unit := do
  Proc.modify fun s => { s with actorStarted := true }
  let _ ← process beginShutdown

/-- What the actor does before it enters its loop, at its start and after a handoff. -/
def enter : Handler Unit := do
  let env ← Proc.read
  Proc.modify fun s => { s with running := true }
  Proc.when env.shuttingDown enterShuttingDown
  start

/-- What the actor does after it left its loop. -/
def leave : Handler Unit := do
  let s ← Proc.get
  Proc.modify fun s => { s with running := false, stopped := true }
  if s.finalized then pure () else finishUnexplained

/-- Go on with the loop or leave it. -/
def continueIf (goesOn : Bool) : Handler Unit := if goesOn then pure () else leave

/-- `prepare_handoff`: whether the actor is the one that the token asks to hand over. -/
def handoffPrepared (s : Coordinator) (token : CoordinatorHandoffToken) : Bool :=
  s.call.callId = token.callId && s.ownedSessionId = token.sourceSessionId
    && s.call.aggregate.coordinator = token.sourceSessionId
    && s.call.aggregate.coordinatorGeneration = token.sourceGeneration
    && token.sourceGeneration < u64Max && token.sourceGeneration + 1 = token.targetGeneration
    && (s.call.aggregate.handoffCandidates none).contains token.targetSessionId

/-- A message of one of the two control mailboxes. Only the coordinator's own mailbox may
ask the actor to give itself up. -/
def receive (source : ControlSource) (message : ControlMessage) : Handler Unit := do
  let env ← Proc.read
  let s ← Proc.get
  match source, message with
  | .coordinator, .prepareCoordinatorHandoff token =>
    if s.handoffPrepared token ∧ env.handoffAwaited then
      Proc.modify fun s => { s with running := false, handedOver := some token }
    else pure ()
  | source, message => do
    let goesOn ← handleControl source message
    continueIf goesOn

/-- The callee actor that takes the coordinator over. -/
structure CalleeActorView where
  session : Session
  coordinatorCallId : CallId
  legEventDeduper : LegEventDeduper
  actionGeneration : Nat
  completedActions : List (String × Nat)
  dtmfSource : DtmfSourceState

/-- `install_on`'s checks before the aggregate is changed. -/
def installReady (s : Coordinator) (token : CoordinatorHandoffToken) (target : CalleeActorView)
    (committed : CoordinatorIdentity) : Bool :=
  committed.sessionId = token.targetSessionId && committed.generation = token.targetGeneration
    && target.session.callId = token.callId && target.session.id = token.targetSessionId
    && !target.session.state.isTerminal
    && s.call.callId = token.callId && s.ownedSessionId = token.sourceSessionId
    && s.call.aggregate.coordinator = token.sourceSessionId
    && s.call.aggregate.coordinatorGeneration = token.sourceGeneration
    && target.coordinatorCallId = token.callId

/-- Install the coordinator on the callee's leg. Where that fails the previous owner goes
on with the state it had. -/
def installOn (target : CalleeActorView) (committed : CoordinatorIdentity) : Handler Unit := do
  let s ← Proc.get
  match s.handedOver with
  | none => pure ()
  | some token => do
    Proc.modify fun s => { s with handedOver := none }
    if ¬ s.installReady token target committed then pure ()
    else do
      let result ← Proc.attempt (onCall (CallRuntime.onAggregate
        (CallAggregate.handoffCoordinator token.sourceSessionId token.sourceGeneration
          token.targetSessionId)))
      match result with
      | .error _ => pure ()
      | .ok generation =>
        if generation = token.targetGeneration then
          Proc.modify fun s =>
            { s with
              ownedSessionId := target.session.id
              legEventDeduper := target.legEventDeduper
              dtmf := { s.dtmf with source := target.dtmfSource }
              ownedActionGeneration := target.actionGeneration
              ownedCompletedActions := target.completedActions }
        else pure ()

/-- What can happen to a coordinator next. -/
inductive Input where
  /-- The actor is started, or started again after a handoff. -/
  | enter
  | control (source : ControlSource) (message : ControlMessage)
  /-- The media worker answers one of the requests it was given. -/
  | mediaResult (request : MediaAction) (result : MediaActionResult)
  /-- The registrar answers one of the registrations it was given. -/
  | registrationResult (request : AttemptRegistration) (result : AttemptRegistrationResult)
  | timer (kind : CallTimerKind)
  | collectorTimer
  | event (message : EventMessage)
  | shutdownSignal
  | mailboxClosed
  | installHandoff (target : CalleeActorView) (committed : CoordinatorIdentity)
  | rollbackHandoff

def timerSlot (s : Coordinator) : CallTimerKind → Option CallTimerSlot
  | .dial => s.dialTimer
  | .ring => s.ringTimer
  | .cleanup => s.cleanupTimer

def processStep (m : Handler Unit) : Handler Unit := do
  let goesOn ← process m
  continueIf goesOn

def handle : Input → Handler Unit
  | .enter => enter
  | .control source message => receive source message
  | .mediaResult request result => do
    Proc.modify fun s => { s with mediaQueue := s.mediaQueue.erase request }
    receive .coordinator (.mediaActionResult result)
  | .registrationResult request result => do
    Proc.modify fun s => { s with attemptQueue := s.attemptQueue.erase request }
    receive .coordinator (.attemptRegistrationResult result)
  | .timer kind => do
    let s ← Proc.get
    match s.timerSlot kind with
    | none => pure ()
    | some slot => processStep (handleTimerExpiry kind slot.generation)
  | .collectorTimer => do
    let s ← Proc.get
    match s.dtmf.collectorTimer with
    | none => pure ()
    | some slot =>
      processStep (handleDigitCollectorTimeout slot.generation slot.collectorId slot.deadline)
  | .event message => handleEventMessage message
  | .shutdownSignal => processStep beginShutdown
  | .mailboxClosed => leave
  | .installHandoff target committed => installOn target committed
  | .rollbackHandoff => Proc.modify fun s => { s with handedOver := none }

/-- Results of the media worker and of the registrar come as inputs of their own; the
finalizer reports only what it was asked to finalize. -/
def deliverable (s : Coordinator) : ControlMessage → Bool
  | .mediaActionResult _ | .attemptRegistrationResult _ => false
  | .callFinalized => s.finalizationStarted
  | _ => true

/-- What can happen in state `s`. Leg events, acknowledgements, failures, digits and AI
requests may arrive in any order and with any content; a timer fires only while it is
armed, and the media worker and the registrar answer each request once. -/
def admissible (s : Coordinator) : Input → Prop
  | .enter => s.running = false ∧ s.stopped = false ∧ s.handedOver = none
  | .control _ message => s.running = true ∧ s.deliverable message = true
  | .mediaResult request result =>
    s.running = true ∧ request ∈ s.mediaQueue ∧ request.answeredBy result
  | .registrationResult request result =>
    s.running = true ∧ request ∈ s.attemptQueue ∧ request.answeredBy result
  | .timer kind => s.running = true ∧ (s.timerSlot kind).isSome = true
  | .collectorTimer => s.running = true ∧ s.dtmf.collectorTimer.isSome = true
  | .event _ | .shutdownSignal | .mailboxClosed => s.running = true
  | .installHandoff _ _ | .rollbackHandoff => s.handedOver.isSome = true

def step (env : Env) (input : Input) (s : Coordinator) : Coordinator :=
  (handle input).final env s

/-- The actions that set a call up towards its first candidate. -/
def initialActionsFor (config : CallConfigSnapshot) (callId callerSessionId : String)
    (callerAdapterLegId : String) (calleeOffer : SdpBody) : List InitialCallAction :=
  let adopt : InitialCallAction :=
    { callee := false, actionKind := .adoptInboundInvite, actionId := s!"adopt-{callId}"
      body := [("domain_id", .str config.domainId),
        ("adapter_call_leg_id", .str callerAdapterLegId)] }
  let tail : List (String × Json) :=
    [("caller_number", .str config.numbers.signalingCaller), ("caller_display_name", .null),
      ("callee_number", .str config.numbers.signalingCallee), ("sdp_offer", .str calleeOffer),
      ("sip_metadata", .obj []), ("extension_headers", .obj [])]
  let head : List (String × Json) :=
    [("domain_id", .str config.domainId), ("caller_session_id", .str callerSessionId)]
  let actionId := s!"originate-{callId}-attempt-1"
  match config.first.outboundTarget with
  | .endpoint endpointId endpointNumber =>
    [adopt, { callee := true, actionKind := .originateEndpoint, actionId
              body := head ++ [("endpoint_id", .str endpointId),
                ("endpoint_number", .str endpointNumber)] ++ tail }]
  | .trunk trunkRef =>
    [adopt, { callee := true, actionKind := .originateTrunk, actionId
              body := head ++ [("trunk_ref", .str trunkRef)] ++ tail }]
  | .aiAgent _ => [adopt]

/-- What an inbound invitation brings to a new call. -/
structure Invitation where
  config : CallConfigSnapshot
  callId : CallId
  callerAdapterLegId : AdapterCallLegId
  sdpOffer : SdpBody
  /-- The offer that was prepared for the first callee. -/
  calleeOffer : SdpBody
  startedAtMs : Nat
  /-- The monotonic clock when the call was created. -/
  createdAt : Nat

def Invitation.callerSessionId (invitation : Invitation) : SessionId :=
  s!"session-{invitation.callId}-caller"

/-- The coordinator that an invitation creates, before its actor runs. -/
def create (invitation : Invitation) : Except Error Coordinator :=
  match CallRuntime.new invitation.callId invitation.callerSessionId
      (calleeSessionIdOf invitation.callId 1) invitation.callerAdapterLegId invitation.config
      invitation.startedAtMs with
  | .error error => .error error
  | .ok call => .ok
    { call
      initialActions := initialActionsFor invitation.config invitation.callId
        invitation.callerSessionId invitation.callerAdapterLegId invitation.calleeOffer
      remainingCandidates := invitation.config.candidates.tail
      callerOffer := invitation.sdpOffer
      routeDeadline := invitation.createdAt + invitation.config.timeouts.routeBudget
      ownedSessionId := invitation.callerSessionId }

/-- The coordinator as a transition system. A label is an input and the environment that
it is handled in. -/
def system : Transition.System Coordinator (Env × Input) where
  init s := ∃ invitation, create invitation = .ok s
  next s label s' := s.admissible label.2 ∧ s' = step label.1 label.2 s

end Coordinator

end VoipSwitch
