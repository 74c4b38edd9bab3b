import VoipSwitch.Call.Legs

/-! The coordinator actor: timers, adapter acknowledgements and failures, the requests of
the AI service, the handover of the coordinator role, and the loop that ties them
together. -/
namespace VoipSwitch

open Stateful Keyed Document

namespace Coordinator

/-- Cancel the callee of a transfer that took too long. The AI agent keeps the call. -/
def timeoutAiTransfer (kind : CallTimerKind) (actionId reason : String) : Handler Unit := do
  cancelTimer kind
  submitCalleeAction .cancelOutbound actionId [("reason", .str reason)]
  failAiTransfer reason

/-- The callee did not ring or answer in time and no further candidate is tried. -/
def timeoutCall (kind : CallTimerKind) (status : Nat) (cause : HangupCause)
    (cancelActionId rejectActionId reason : String) : Handler Unit := do
  cancelTimer kind
  assignState .terminating
  updateCall fun call => { call with lastStatus := some status, hangupCause := some cause }
  submitCalleeAction .cancelOutbound cancelActionId [("reason", .str reason)]
  let s ← Proc.get
  submitCallerAction .rejectInboundInvite rejectActionId (s.statusBody status)
  startTimer .cleanup

def handleDialTimer (generation : Nat) : Handler Unit := do
  let s ← Proc.get
  if s.call.dialTimerGeneration ≠ generation ∨ s.call.isTerminating then pure ()
  else if s.pendingAiTransfer.isSome then
    timeoutAiTransfer .dial s!"ai-transfer-dial-timeout-{s.call.callId}" "dial_timeout"
  else if s.call.isAnswered then pure ()
  else do
    let waiting ← waitForRetryCleanup 408
    if waiting then pure ()
    else
      timeoutCall .dial 408 .recoveryOnTimerExpire s!"dial-timeout-cancel-{s.call.callId}"
        s!"dial-timeout-reject-{s.call.callId}" "dial_timeout"

def handleRingTimer (generation : Nat) : Handler Unit := do
  let s ← Proc.get
  if s.call.ringTimerGeneration ≠ generation ∨ s.call.isTerminating then pure ()
  else if s.pendingAiTransfer.isSome then
    timeoutAiTransfer .ring s!"ai-transfer-ring-timeout-{s.call.callId}" "ring_timeout"
  else if s.call.isAnswered then pure ()
  else do
    let waiting ← waitForRetryCleanup 480
    if waiting then pure ()
    else
      timeoutCall .ring 480 .noUserResponse s!"ring-timeout-cancel-{s.call.callId}"
        s!"ring-timeout-reject-{s.call.callId}" "ring_timeout"

/-- The call did not end by itself: hang up what is left and remove it. -/
def forceRemoval : Handler Unit := do
  let s ← Proc.get
  Proc.when (¬ s.call.callerTerminated)
    (submitCallerAction .hangupDialog s!"cleanup-hangup-caller-{s.call.callId}" [])
  Proc.when (¬ s.call.calleeTerminated)
    (submitCalleeAction .hangupDialog s!"cleanup-hangup-callee-{s.call.callId}" [])
  updateCall fun call =>
    { call with hangupCause := getOrInsert call.hangupCause .internalError }
  beginFinishCall

def handleCleanupTimer (generation : Nat) : Handler Unit := do
  let s ← Proc.get
  if s.call.cleanupTimerGeneration ≠ generation then pure ()
  else if s.retryAfterCleanup.isSome then do
    let _ ← forceRetryAfterCleanup
  else if ¬ s.call.isTerminating then pure ()
  else forceRemoval

/-- A timer of the call fired with the generation of its slot. -/
def handleTimerExpiry (kind : CallTimerKind) (generation : Nat) : Handler Unit :=
  match kind with
  | .dial => do
    Proc.modify fun s => { s with dialTimer := none }
    handleDialTimer generation
  | .ring => do
    Proc.modify fun s => { s with ringTimer := none }
    handleRingTimer generation
  | .cleanup => do
    Proc.modify fun s => { s with cleanupTimer := none }
    handleCleanupTimer generation

def acceptLegEvent (event : CallLegEvent) : Handler Bool := do
  let s ← Proc.get
  if event.callId.any (· ≠ s.call.callId) then pure false
  else do
    let (accepted, legEventDeduper) :=
      s.legEventDeduper.accept event.adapterCallLegId event.legEventSeq
    Proc.modify fun s => { s with legEventDeduper }
    pure accepted

def handleCallerLegEvent (frame : LegFrame) (event : CallLegEvent) : Handler Unit := do
  let accepted ← acceptLegEvent event
  if ¬ accepted then pure ()
  else
    match frame with
    | .inboundInviteCancelled => handleCancelled
    | .dialogDisconnected => handleDisconnected event
    | _ => pure ()

def handlePeerLegEvent (frame : LegFrame) (event : CallLegEvent) : Handler Unit := do
  let s ← Proc.get
  observe (.calleeEvent frame event s.call.calleeSessionId)
  if event.sessionId ≠ some s.call.calleeSessionId then pure ()
  else if frame = .outboundProvisional ∧ s.retryAfterCleanup.isSome then pure ()
  else if frame = .dialogDisconnected ∧ s.answerInProgress ∧ ¬ s.call.isTerminating then
    Proc.modify fun s => { s with deferredCalleeDisconnect := some event }
  else
    match frame with
    | .outboundProvisional => handleProvisional event
    | .outboundAnswered => handleAnswered event
    | .outboundFailed => handleFailed event
    | .dialogDisconnected => handleDisconnected event
    | _ => pure ()

/-- Whether an acknowledgement or failure of a caller action is fresh; it is then spent. -/
def acceptActionResult (identity : ActionIdentity) : Handler Bool := do
  let s ← Proc.get
  if identity.callId ≠ s.call.callId ∨ identity.sessionId ≠ s.call.callerSessionId
      ∨ identity.generation ≠ s.actionGeneration then
    pure false
  else if (identity.actionId, identity.generation) ∈ s.completedActions then pure false
  else do
    Proc.modify fun s =>
      { s with completedActions := (identity.actionId, identity.generation) :: s.completedActions }
    pure true

/-- The end of a call one of whose actions failed. -/
def terminateActionFailure (kind : ActionKind) (peerFailure : Bool) : Handler Unit := do
  beginTerminating .internalError
  assignState .terminating
  updateCall fun call =>
    { call with
      lastStatus := getOrInsert call.lastStatus 503
      hangupCause := some .internalError }
  cancelTimer .dial
  cancelTimer .ring
  Proc.when peerFailure markCalleeTerminated
  let s ← Proc.get
  Proc.when kind.isOriginate
    (submitCallerAction .rejectInboundInvite s!"reject-action-failure-{s.call.callId}"
      (s.statusBody 503))
  startTimer .cleanup

/-- What a failed action means to the call, once the failure is known to be fresh. -/
def applyActionFailure (failure : ActionDeliveryFailed) (peerFailure : Bool) : Handler Unit := do
  let s ← Proc.get
  let kind := failure.identity.actionKind
  if kind = .sendDtmfInfo then
    updateDtmf fun dtmf => { dtmf with router := dtmf.router.recordInfoSendResult false }
  else if peerFailure ∧ kind.isOriginate ∧ s.pendingAiTransfer.isSome then
    failAiTransfer s!"originate_failed:{failure.reason}"
  else do
    let retried ← if peerFailure && kind.isOriginate then retryAfterOriginateFailure
      else pure false
    if retried then pure ()
    else do
      let s ← Proc.get
      if s.call.isTerminating then pure () else terminateActionFailure kind peerFailure

def handleActionFailure (failure : ActionDeliveryFailed) (peerFailure : Bool) :
    Handler Unit := do
  let fresh ← if peerFailure then pure true else acceptActionResult failure.identity
  if fresh then applyActionFailure failure peerFailure else pure ()

def handleActionAck (ack : CallActionAck) : Handler Unit :=
  if ack.accepted then do
    let fresh ← acceptActionResult ack.identity
    if fresh ∧ ack.actionKind = .answerInboundInvite then confirmAnswer ack.actionId else pure ()
  else
    handleActionFailure
      { identity := ack.identity, reason := ack.rejection "adapter rejected call action" } false

/-- Acknowledgements of the leg that the coordinator took over in a handoff. -/
def handleOwnedLegActionAck (ack : CallActionAck) : Handler Unit := do
  let s ← Proc.get
  if ack.callId ≠ s.call.callId ∨ ack.sessionId ≠ s.ownedSessionId
      ∨ ack.generation ≠ s.ownedActionGeneration
      ∨ (ack.actionId, ack.generation) ∈ s.ownedCompletedActions then
    pure ()
  else do
    Proc.modify fun s =>
      { s with
        ownedCompletedActions := (ack.actionId, ack.generation) :: s.ownedCompletedActions }
    if ack.accepted then pure ()
    else
      handleActionFailure
        { identity := ack.identity, reason := ack.rejection "adapter rejected owner leg action" }
        true

end Coordinator

end VoipSwitch
