import VoipSwitch.Call.Attempt

/-! What the coordinator does with the events of its legs and with the results of its media
worker: ringing, the three steps of an answer, failures and disconnects. -/
namespace VoipSwitch

open Stateful Keyed Document

namespace Coordinator

/-- The body of an action that names the caller's leg and a status. -/
def statusBody (s : Coordinator) (status : Nat) : List (String × Json) :=
  [("adapter_call_leg_id", .str s.call.callerAdapterLegId), ("status_code", .num status)]

def failMediaNegotiation (calleeCommand : ActionKind) : Handler Unit := do
  let s ← Proc.get
  if s.call.isTerminating then pure ()
  else do
    beginTerminating .internalError
    Proc.modify fun s => { s with answerInProgress := false }
    assignState .terminating
    updateCall fun call =>
      { call with lastStatus := some 488, hangupCause := some .incompatibleDestination }
    cancelTimer .dial
    cancelTimer .ring
    bumpMediaGeneration
    submitCalleeAction calleeCommand s!"media-failure-callee-{s.call.callId}" []
    submitCallerAction .rejectInboundInvite s!"media-failure-caller-{s.call.callId}"
      (s.statusBody 488)
    startTimer .cleanup

def forwardProvisional (statusCode : Nat) (body : List (String × Json)) : Handler Unit := do
  let s ← Proc.get
  submitCallerAction .forwardProvisional s!"provisional-{s.call.callId}-{statusCode}" body

/-- Ringing of an ordinary attempt is passed on to the caller, through the media worker if
it carries early media. -/
def relayProvisional (statusCode : Nat) (sdp : Option SdpBody) : Handler Unit := do
  updateCall fun call => { call with lastStatus := some statusCode }
  assignState .establishing
  let s ← Proc.get
  let startRingTimer := s.ringTimer.isNone
  Proc.when startRingTimer (startTimer .ring)
  match sdp with
  | some sdp =>
    if ¬ s.call.media then failMediaNegotiation .cancelOutbound
    else do
      bumpMediaGeneration
      let s ← Proc.get
      submitMedia (.prepareSdp s!"prepare-provisional-{s.call.callId}-{statusCode}"
        s.mediaGeneration (.provisional statusCode startRingTimer) sdp none)
  | none =>
    forwardProvisional statusCode
      [("session_id", .str s.call.callerSessionId),
        ("adapter_call_leg_id", .str s.call.callerAdapterLegId),
        ("status_code", .num statusCode), ("sdp", .null)]

def handleProvisional (event : CallLegEvent) : Handler Unit := do
  let s ← Proc.get
  let statusCode := event.statusCode.getD 180
  if s.call.isTerminating ∨ s.pendingAnswer.isSome ∨ s.answerInProgress
      ∨ (s.call.isAnswered ∧ s.pendingAiTransfer.isNone) then
    pure ()
  else if statusCode ≠ 180 ∧ statusCode ≠ 183 then pure ()
  else do
    cancelTimer .dial
    if s.pendingAiTransfer.isSome then do
      updateCall fun call => { call with lastStatus := some statusCode }
      Proc.when s.ringTimer.isNone (startTimer .ring)
    else relayProvisional statusCode event.sdp

/-- The callee answered a call that already ends: hang it up, once. -/
def hangupLateAnswer : Handler Unit := do
  let s ← Proc.get
  if s.call.lateAnswerCleanupSent then pure ()
  else do
    updateCall fun call => { call with lateAnswerCleanupSent := true }
    submitCalleeAction .hangupDialog s!"hangup-late-answer-{s.call.callId}" []

/-- First step of an answer: have the caller's answer prepared. -/
def prepareAnswer (answer : SdpBody) (transferAnswer : Bool) : Handler Unit := do
  let env ← Proc.read
  bumpMediaGeneration
  Proc.modify fun s => { s with answerInProgress := true }
  let s ← Proc.get
  submitMedia (.prepareSdp s!"prepare-answer-{s.call.callId}" s.mediaGeneration
    (if transferAnswer then .transferAnswer else .answer (env.payloadTypes answer)) answer none)

def handleAnswered (event : CallLegEvent) : Handler Unit := do
  cancelTimer .dial
  let retried ← retryAfterLateAnswer
  if retried then pure ()
  else do
    let s ← Proc.get
    let transferAnswer := s.pendingAiTransfer.isSome
    if (!transferAnswer && s.call.isAnswered) || s.pendingAnswer.isSome then pure ()
    else if s.call.isTerminating then hangupLateAnswer
    else
      match event.sdp with
      | none => failMediaNegotiation .hangupDialog
      | some answer =>
        if ¬ s.call.media then failMediaNegotiation .hangupDialog
        else prepareAnswer answer transferAnswer

/-- Second step of an answer: answer the caller's invitation. -/
def completeAnswer (callerAnswer : SdpBody) (payloadTypes : List Nat) : Handler Unit := do
  let s ← Proc.get
  let actionId := s!"answer-{s.call.callId}"
  submitCallerAction .answerInboundInvite actionId
    [("domain_id", .str s.call.domainId), ("call_id", .str s.call.callId),
      ("adapter_call_leg_id", .str s.call.callerAdapterLegId), ("status_code", .num 200),
      ("sdp_answer", .str callerAnswer), ("sip_metadata", .obj []),
      ("extension_headers", .obj [])]
  assignState .answering
  Proc.modify fun s => { s with pendingAnswer := some { actionId, payloadTypes } }

def recordingSpecFromSnapshot (call : CallRuntime) (answeredAtMs : Nat)
    (payloadTypes : List Nat) : RecordingSpec where
  callId := call.callId
  domainId := call.domainId
  callerNumber := call.configSnapshot.numbers.originalCaller
  calleeNumber := call.configSnapshot.numbers.originalCallee
  startedAtMs := answeredAtMs
  recordingDir := call.configSnapshot.recordingDir
  payloadTypes := payloadTypes

def tryStartAiCapture (env : Env) (call : CallRuntime) (payloadTypes : List Nat) : Bool :=
  match call.aiPolicy, env.aiJobs with
  | some policy, some jobs => jobs.captureStarts policy payloadTypes
  | _, _ => false

def startAnswerMedia (actionId : String) (recording : Option RecordingSpec)
    (allowFastPath : Bool) : Handler Unit := do
  let s ← Proc.get
  submitMedia (.startAnswerMedia actionId s.mediaGeneration recording s.call.callId allowFastPath)

/-- What the call does when its caller and its callee are both connected. -/
def startMedia (answeredAtMs : Nat) (payloadTypes : List Nat) : Handler Unit := do
  let env ← Proc.read
  let s ← Proc.get
  let recording := if s.call.recordingRequested then
      some (recordingSpecFromSnapshot s.call answeredAtMs payloadTypes)
    else none
  let capturing := !startsWith s.call.calleeTarget "ai_agent:"
    && tryStartAiCapture env s.call payloadTypes
  startAnswerMedia s!"start-answer-media-{s.call.callId}" recording
    (!s.call.recordingRequested && !capturing)

/-- The call ends because `event` disconnected one of its legs, or its peer follows. -/
def disconnectPeer (event : CallLegEvent) : Handler Unit := do
  beginTerminating .internalError
  cancelTimer .ring
  let s ← Proc.get
  if event.sessionId = some s.call.callerSessionId then
    if s.pendingAiTransfer.isSome then do
      Proc.modify fun s => { s with pendingAiTransfer := none }
      submitCalleeAction (if s.answerInProgress then .hangupDialog else .cancelOutbound)
        s!"hangup-ai-transfer-{s.call.callId}" []
    else if s.aiAgentConversationActive then markCalleeTerminated
    else submitCalleeAction .hangupDialog s!"hangup-{s.call.callId}" []
  else submitCallerAction .hangupDialog s!"hangup-{s.call.callId}" []

/-- The common end of the handlers that end a call: finish it if no leg is left, else arm
the cleanup timer where the handler asked for it. -/
def finishOrArmCleanup (startCleanupTimer : Bool) : Handler Unit := do
  let s ← Proc.get
  if s.call.callerTerminated ∧ s.call.calleeTerminated then beginFinishCall
  else if startCleanupTimer then startTimer .cleanup
  else pure ()

def markLegTerminated (sessionId : Option SessionId) : Handler Unit := do
  let s ← Proc.get
  if sessionId = some s.call.callerSessionId then
    updateCall fun call => { call with callerTerminated := true }
  else if sessionId = some s.call.calleeSessionId then markCalleeTerminated
  else pure ()

def handleDisconnected (event : CallLegEvent) : Handler Unit := do
  let s ← Proc.get
  let fromCaller := event.sessionId = some s.call.callerSessionId
  if s.aiTransferFailed ∧ ¬ fromCaller then pure ()
  else if ¬ s.call.isTerminating ∧ s.pendingAiTransfer.isSome ∧ ¬ fromCaller then
    failAiTransfer "callee_disconnected"
  else if ¬ s.call.isTerminating ∧ event.sessionId = some s.call.calleeSessionId
      ∧ s.retryAfterCleanup.isSome then do
    let _ ← retryAfterAttemptEnded (event.statusCode.getD 487)
  else do
    cancelTimer .dial
    let shouldSignalPeer := !s.call.isTerminating
    assignState .terminating
    Proc.when shouldSignalPeer
      (updateCall fun call => { call with lastStatus := event.statusCode.or call.lastStatus })
    updateCall fun call =>
      { call with hangupCause := getOrInsert call.hangupCause .normalClearing }
    markLegTerminated event.sessionId
    Proc.when shouldSignalPeer (disconnectPeer event)
    finishOrArmCleanup shouldSignalPeer

/-- Third step of an answer: the adapter answered the caller's invitation. -/
def connectAnswer (pending : PendingAnswer) : Handler Unit := do
  let env ← Proc.read
  assignState .connected
  let s ← Proc.get
  onCall (CallRuntime.markAnswered env.unixTimestampMs s.mediaGeneration)
  updateCall fun call => { call with lastStatus := some 200 }
  cancelTimer .ring
  startMedia env.unixTimestampMs pending.payloadTypes
  Proc.modify fun s => { s with answerInProgress := false }
  let s ← Proc.get
  Proc.whenSome s.deferredCalleeDisconnect fun event => do
    Proc.modify fun s => { s with deferredCalleeDisconnect := none }
    handleDisconnected event

def confirmAnswer (actionId : String) : Handler Unit := do
  let s ← Proc.get
  match s.pendingAnswer with
  | none => pure ()
  | some pending => do
    Proc.modify fun s => { s with pendingAnswer := none }
    if pending.actionId ≠ actionId ∨ s.call.isTerminating then
      Proc.modify fun s => { s with answerInProgress := false }
    else connectAnswer pending

/-- The callee of a transfer is connected to the caller in place of the AI agent. -/
def connectTransfer : Handler Unit := do
  let env ← Proc.read
  Proc.modify fun s => { s with answerInProgress := false, aiTransferFailed := false }
  bumpPromptGeneration
  assignState .connected
  updateCall fun call => { call with calleeTerminated := false }
  let s ← Proc.get
  onCall (CallRuntime.markTransferAnswered env.unixTimestampMs s.mediaGeneration)
  startAnswerMedia s!"start-transfer-media-{s.call.callId}" none false
  Proc.whenSome s.pendingAiTransfer fun transfer => do
    Proc.modify fun s => { s with pendingAiTransfer := none }
    reportTransfer transfer true "TRANSFER_CONNECTED" transfer.number

/-- Whether a prepared SDP belongs to a request that the call has moved past. -/
def staleSdp (s : Coordinator) (generation : Nat) (purpose : PrepareSdpPurpose) : Bool :=
  generation ≠ s.mediaGeneration || s.call.isTerminating ||
    match purpose with
    | .provisional _ _ => s.pendingAnswer.isSome || s.answerInProgress || s.call.isAnswered
    | _ => false

def handleSdpFailed (purpose : PrepareSdpPurpose) (error : String) : Handler Unit :=
  match purpose with
  | .provisional _ _ => failMediaNegotiation .cancelOutbound
  | .answer _ | .aiAgentAnswer | .transferAnswer => failMediaNegotiation .hangupDialog
  | .calleeAttemptOffer attemptSeq => handleAttemptOfferPrepared attemptSeq (.error error)

def handleSdpPrepared (purpose : PrepareSdpPurpose) (prepared : SdpBody) : Handler Unit :=
  match purpose with
  | .provisional statusCode startRingTimer => do
    let s ← Proc.get
    forwardProvisional statusCode
      [("adapter_call_leg_id", .str s.call.callerAdapterLegId),
        ("status_code", .num statusCode), ("sdp", .str prepared)]
    Proc.when (startRingTimer && s.ringTimer.isNone) (startTimer .ring)
  | .answer payloadTypes => completeAnswer prepared payloadTypes
  | .aiAgentAnswer => completeAnswer prepared []
  | .transferAnswer => connectTransfer
  | .calleeAttemptOffer attemptSeq => handleAttemptOfferPrepared attemptSeq (.ok prepared)

def handleMediaActionResult (result : MediaActionResult) : Handler Unit := do
  let env ← Proc.read
  let s ← Proc.get
  match result with
  | .sdpPrepared _ generation purpose outcome =>
    if s.staleSdp generation purpose then pure ()
    else
      match outcome with
      | .error error => handleSdpFailed purpose error
      | .ok prepared => handleSdpPrepared purpose prepared
  | .answerMediaStarted _ generation recordingError =>
    if generation ≠ s.mediaGeneration then pure ()
    else do
      Proc.whenSome recordingError fun error =>
        updateCall fun call => { call with recordingStartError := some error }
      onCall (CallRuntime.activateCurrentBridge generation env.unixTimestampMs)
  | .dtmfCapabilityAcquired actionId generation outcome =>
    if generation ≠ s.mediaGeneration ∨ s.call.isTerminating then pure ()
    else handleDtmfCapabilityAcquired actionId outcome
  | .dtmfCapabilityReleased actionId generation outcome =>
    if generation ≠ s.mediaGeneration then pure ()
    else handleDtmfCapabilityReleased actionId outcome

/-- Pass a callee's failure on to the caller. -/
def rejectCaller (status : Nat) : Handler Unit := do
  let s ← Proc.get
  beginTerminating .internalError
  cancelTimer .ring
  submitCallerAction .rejectInboundInvite s!"reject-{s.call.callId}" (s.statusBody status)

/-- The end of a call whose callee failed and that tries no further candidate. -/
def rejectAfterFailure (event : CallLegEvent) : Handler Unit := do
  let s ← Proc.get
  let shouldSignalPeer := !s.call.isTerminating
  Proc.when shouldSignalPeer
    (updateCall fun call => { call with lastStatus := event.statusCode })
  beginTerminating .callRejected
  Proc.when (event.sessionId = some s.call.calleeSessionId) markCalleeTerminated
  Proc.when shouldSignalPeer (rejectCaller (event.statusCode.getD 480))
  finishOrArmCleanup shouldSignalPeer

def handleFailed (event : CallLegEvent) : Handler Unit := do
  cancelTimer .dial
  let s ← Proc.get
  let statusCode := event.statusCode.getD 480
  if ¬ s.call.isTerminating ∧ s.pendingAiTransfer.isSome then
    failAiTransfer s!"sip_{statusCode}"
  else if s.call.isTerminating then rejectAfterFailure event
  else do
    let retried ← retryAfterAttemptEnded statusCode
    if retried then pure () else rejectAfterFailure event

/-- The caller gave up: cancel or hang up the callee, unless only the AI agent is there. -/
def cancelPeer (transferPending : Bool) : Handler Bool := do
  beginTerminating .internalError
  cancelTimer .ring
  let s ← Proc.get
  if transferPending then do
    submitCalleeAction (if s.answerInProgress then .hangupDialog else .cancelOutbound)
      s!"cancel-ai-transfer-{s.call.callId}" []
    pure true
  else if s.aiAgentConversationActive then do
    markCalleeTerminated
    pure false
  else if s.call.isAnswered then do
    submitCalleeAction .hangupDialog s!"hangup-after-cancel-{s.call.callId}" []
    pure true
  else do
    submitCalleeAction .cancelOutbound s!"cancel-{s.call.callId}" []
    pure true

def handleCancelled : Handler Unit := do
  cancelTimer .dial
  bumpPromptGeneration
  let s ← Proc.get
  Proc.modify fun s => { s with pendingAiTransfer := none }
  let shouldSignalPeer := !s.call.isTerminating
  updateCall fun call => { call with callerTerminated := true }
  assignState .terminating
  updateCall fun call =>
    { call with hangupCause := getOrInsert call.hangupCause .originatorCancel }
  let startCleanupTimer ← if shouldSignalPeer then cancelPeer s.pendingAiTransfer.isSome
    else pure false
  finishOrArmCleanup startCleanupTimer

end Coordinator

end VoipSwitch
