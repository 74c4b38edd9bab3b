import VoipSwitch.Call.Collect

/-! The sequential hunt: when a failed attempt is followed by the next candidate, how its
offer is prepared and its session registered, and how a call ends when no candidate is
left. -/
namespace VoipSwitch

open Stateful Keyed Document

def retryableStatus (statusCode : Nat) : Bool :=
  statusCode = 408 || statusCode = 480 || statusCode = 500 || statusCode = 502
    || statusCode = 503 || statusCode = 504

def hangupCauseForStatus (statusCode : Nat) : HangupCause :=
  if statusCode = 408 ∨ statusCode = 504 then .recoveryOnTimerExpire
  else if statusCode = 480 then .noUserResponse
  else if statusCode = 486 ∨ statusCode = 600 then .userBusy
  else if statusCode = 503 then .temporaryFailure
  else .networkFailure

def targetCalleeNumber (target : OutboundTarget) (signalingCallee : String) : String :=
  match target with
  | .endpoint _ endpointNumber => endpointNumber
  | .trunk _ | .aiAgent _ => signalingCallee

namespace Coordinator

/-- Start finalization once: stop collecting, disarm the timers, release the topology and
hand the CDR values over. -/
def beginFinishCall : Handler Unit := do
  let env ← Proc.read
  let s ← Proc.get
  if s.finalizationStarted then pure ()
  else do
    Proc.modify fun s => { s with finalizationStarted := true }
    abortDigitCollection "call_terminated"
    cancelAllTimers
    bumpMediaGeneration
    updateCall (·.releaseTopology env.unixTimestampMs)
    Proc.modify fun s => { s with finalSnapshot := some (.ofCall s.call) }
    updateCall fun call => { call with media := false }

/-- Tell the AI service how a transfer ended. The identifier is checked only here. -/
def reportTransfer (transfer : PendingAiTransfer) (success : Bool) (code : String)
    (message : String) : Handler Unit := do
  let env ← Proc.read
  match env.aiJobs with
  | none => pure ()
  | some _ =>
    match validateId "OperationId" transfer.operationId with
    | .error error => Proc.fail (.message error)
    | .ok _ =>
      sendActionResult
        { conversation := transfer.conversation, operationId := transfer.operationId,
          generation := transfer.generation, success, code, message := some message }

def failAiTransfer (reason : String) : Handler Unit := do
  let env ← Proc.read
  cancelTimer .dial
  cancelTimer .ring
  bumpPromptGeneration
  let s ← Proc.get
  let transfer := s.pendingAiTransfer
  Proc.modify fun s => { s with aiTransferFailed := true, pendingAiTransfer := none }
  observe (.prompt false ((transfer.map (·.language)).getD (s.currentAiLanguage env)))
  Proc.whenSome transfer fun transfer =>
    reportTransfer transfer false "TRANSFER_FAILED" reason
  updateCall fun call => { call with calleeTerminated := true, lastStatus := some 480 }

/-- Ask the media worker for the offer of a new callee session. -/
def prepareCalleeOffer (actionId : String) (attemptSeq : Nat) (routeTarget : Option String) :
    Handler Unit := do
  bumpMediaGeneration
  let s ← Proc.get
  submitMedia (.prepareSdp actionId s.mediaGeneration (.calleeAttemptOffer attemptSeq)
    s.callerOffer routeTarget)

def beginAiTransferAttempt (candidate : OutboundCandidate) : Handler Unit := do
  let env ← Proc.read
  let s ← Proc.get
  if env.shuttingDown ∨ s.call.isTerminating then Proc.fail (.message "call is draining")
  else if s.pendingAttemptCandidate.isSome ∨ s.pendingAttemptRegistration.isSome
      ∨ s.pendingAiTransfer.isNone then
    Proc.fail (.message "transfer attempt already in progress")
  else do
    cancelTimer .dial
    cancelTimer .ring
    cancelTimer .cleanup
    let attemptSeq := satSucc16 s.currentAttemptSeq
    Proc.modify fun s =>
      { s with pendingAttemptCandidate := some { attemptSeq, candidate } }
    prepareCalleeOffer s!"prepare-transfer-offer-{s.call.callId}-{attemptSeq}" attemptSeq
      candidate.calleeRouteTarget

def hasRetryCandidate (env : Env) (s : Coordinator) (statusCode : Nat) : Bool :=
  !s.call.isAnswered && !s.call.isTerminating && s.pendingAttemptCandidate.isNone
    && s.pendingAttemptRegistration.isNone && s.retryAfterCleanup.isNone
    && !s.remainingCandidates.isEmpty && retryableStatus statusCode
    && s.call.configSnapshot.timeouts.minAttemptWindow
      ≤ s.routeBudgetRemaining (env.instant .hasRetryCandidate)

/-- Cancel the running attempt and remember to try the next candidate once it is gone. -/
def waitForRetryCleanup (statusCode : Nat) : Handler Bool := do
  let env ← Proc.read
  let s ← Proc.get
  if ¬ s.hasRetryCandidate env statusCode then pure false
  else do
    cancelTimer .dial
    cancelTimer .ring
    Proc.modify fun s =>
      { s with
        retryAfterCleanup := some statusCode
        call := { s.call with lastStatus := some statusCode } }
    submitCalleeAction .cancelOutbound
      s!"retry-cancel-{s.call.callId}-attempt-{s.currentAttemptSeq}"
      [("reason", .str "sequential_hunt_retry")]
    startTimer .cleanup
    pure true

/-- Give the running attempt up and start preparing the next candidate, if one may still
be tried. -/
def beginNextAttempt (previousStatus : Nat) : Handler Bool := do
  let env ← Proc.read
  let s ← Proc.get
  if env.shuttingDown ∨ s.call.isTerminating then pure false
  else if ¬ retryableStatus previousStatus
      ∨ s.routeBudgetRemaining (env.instant .beginNextAttempt)
        < s.call.configSnapshot.timeouts.minAttemptWindow then
    pure false
  else
    match s.remainingCandidates with
    | [] => pure false
    | candidate :: rest => do
      Proc.modify fun s => { s with remainingCandidates := rest }
      onCall (CallRuntime.updateCurrentAttempt .failed
        (some (hangupCauseForStatus previousStatus)))
      cancelTimer .dial
      cancelTimer .ring
      cancelTimer .cleanup
      let attemptSeq := satSucc16 s.currentAttemptSeq
      Proc.modify fun s =>
        { s with
          pendingAttemptCandidate := some { attemptSeq, candidate }
          call := { s.call with lastStatus := some previousStatus } }
      prepareCalleeOffer s!"prepare-attempt-offer-{s.call.callId}-{attemptSeq}" attemptSeq
        candidate.calleeRouteTarget
      pure true

/-- End the call before the caller was answered: record the outcome, reject the caller's
invitation and arm the cleanup timer. -/
def terminateUnanswered (status : Nat) (cause : HangupCause) (actionId : String) :
    Handler Unit := do
  beginTerminating .internalError
  assignState .terminating
  updateCall fun call =>
    { call with lastStatus := some status, hangupCause := some cause, calleeTerminated := true }
  let s ← Proc.get
  submitCallerAction .rejectInboundInvite actionId
    [("adapter_call_leg_id", .str s.call.callerAdapterLegId), ("status_code", .num status)]
  startTimer .cleanup

def terminateRetrySetup (cause : String) : Handler Unit := do
  let s ← Proc.get
  terminateUnanswered 503 .internalError s!"reject-{cause}-{s.call.callId}"

def terminateExhaustedRetry (statusCode : Nat) : Handler Unit := do
  let s ← Proc.get
  terminateUnanswered statusCode .noRoute s!"reject-route-budget-{s.call.callId}"

/-- Try the next candidate and end the call if there is none. -/
def nextAttemptOrTerminate (statusCode : Nat) : Handler Unit := do
  let started ← beginNextAttempt statusCode
  if started then pure () else terminateExhaustedRetry statusCode

def markCalleeTerminated : Handler Unit :=
  updateCall fun call => { call with calleeTerminated := true }

def retryAfterOriginateFailure : Handler Bool := do
  let env ← Proc.read
  let s ← Proc.get
  if ¬ s.hasRetryCandidate env 503 then pure false
  else do
    markCalleeTerminated
    beginNextAttempt 503

def retryAfterAttemptEnded (statusCode : Nat) : Handler Bool := do
  let env ← Proc.read
  let s ← Proc.get
  match s.retryAfterCleanup with
  | some retryStatus => do
    Proc.modify fun s => { s with retryAfterCleanup := none }
    cancelTimer .cleanup
    markCalleeTerminated
    nextAttemptOrTerminate retryStatus
    pure true
  | none =>
    if ¬ s.hasRetryCandidate env statusCode then pure false
    else do
      markCalleeTerminated
      beginNextAttempt statusCode

def retryAfterLateAnswer : Handler Bool := do
  let s ← Proc.get
  match s.retryAfterCleanup with
  | none => pure false
  | some statusCode => do
    Proc.modify fun s => { s with retryAfterCleanup := none }
    cancelTimer .cleanup
    submitCalleeAction .hangupDialog
      s!"retry-late-answer-hangup-{s.call.callId}-attempt-{s.currentAttemptSeq}" []
    markCalleeTerminated
    nextAttemptOrTerminate statusCode
    pure true

def forceRetryAfterCleanup : Handler Bool := do
  let s ← Proc.get
  match s.retryAfterCleanup with
  | none => pure false
  | some statusCode => do
    Proc.modify fun s => { s with retryAfterCleanup := none }
    submitCalleeAction .hangupDialog
      s!"retry-cleanup-hangup-{s.call.callId}-attempt-{s.currentAttemptSeq}" []
    markCalleeTerminated
    nextAttemptOrTerminate statusCode
    pure true

/-- A new callee session could not be set up. -/
def failAttemptSetup (reason : String) : Handler Unit := do
  let s ← Proc.get
  if s.pendingAiTransfer.isSome then failAiTransfer reason else terminateRetrySetup reason

/-- Hand a prepared callee session to the registrar. -/
def requestRegistration (pending : PendingAttemptCandidate) (calleeOffer : SdpBody) :
    Handler Unit := do
  let env ← Proc.read
  let s ← Proc.get
  let sessionId := calleeSessionIdOf s.call.callId pending.attemptSeq
  Proc.modify fun s => { s with actionGeneration := satSucc64 s.actionGeneration }
  let session ← CallRuntime.ofExcept (s.call.makeCalleeSession sessionId pending.attemptSeq
    pending.candidate.outboundTarget env.unixTimestampMs)
  Proc.modify fun s =>
    { s with
      pendingAttemptRegistration := some
        { attemptSeq := pending.attemptSeq, candidate := pending.candidate, sessionId,
          calleeOffer } }
  match env.registrar with
  | .sent => Proc.modify fun s =>
    { s with
      attemptQueue := s.attemptQueue ++
        [{ callId := s.call.callId
           coordinatorSessionId := s.call.aggregate.coordinator
           coordinatorGeneration := s.call.aggregate.coordinatorGeneration
           previousSessionId := s.call.calleeSessionId
           attemptSeq := pending.attemptSeq
           sessionId
           session
           actionGeneration := s.actionGeneration }] }
  | .full | .closed => do
    Proc.modify fun s => { s with pendingAttemptRegistration := none }
    failAttemptSetup "attempt_registration_overload"

def handleAttemptOfferPrepared (attemptSeq : Nat) (result : Except String SdpBody) :
    Handler Unit := do
  let s ← Proc.get
  match s.pendingAttemptCandidate with
  | none => pure ()
  | some pending => do
    Proc.modify fun s => { s with pendingAttemptCandidate := none }
    if pending.attemptSeq ≠ attemptSeq ∨ s.call.isTerminating then pure ()
    else
      match result with
      | .error _ => failAttemptSetup "attempt_media_failed"
      | .ok offer => requestRegistration pending offer

def submitOriginate (candidate : OutboundCandidate) (calleeOffer : SdpBody) : Handler Unit := do
  let s ← Proc.get
  let actionId := s!"originate-{s.call.callId}-attempt-{s.currentAttemptSeq}"
  let numbers := s.call.configSnapshot.numbers
  let calleeNumber := targetCalleeNumber candidate.outboundTarget numbers.signalingCallee
  let tail : List (String × Json) :=
    [("caller_number", .str numbers.signalingCaller), ("caller_display_name", .null),
      ("callee_number", .str calleeNumber), ("sdp_offer", .str calleeOffer),
      ("sip_metadata", .obj []), ("extension_headers", .obj [])]
  let head : List (String × Json) :=
    [("domain_id", .str s.call.domainId), ("caller_session_id", .str s.call.callerSessionId)]
  match candidate.outboundTarget with
  | .endpoint endpointId endpointNumber =>
    submitCalleeAction .originateEndpoint actionId
      (head ++ [("endpoint_id", .str endpointId), ("endpoint_number", .str endpointNumber)] ++ tail)
  | .trunk trunkRef =>
    submitCalleeAction .originateTrunk actionId (head ++ [("trunk_ref", .str trunkRef)] ++ tail)
  | .aiAgent _ => pure ()

/-- The registrar took the new callee session: it becomes the current attempt and is
dialled. -/
def adoptAttempt (pending : PendingAttemptRegistration) (sessionId : SessionId) :
    Handler Unit := do
  let env ← Proc.read
  let target := pending.candidate.outboundTarget
  onCall (CallRuntime.registerAttempt pending.attemptSeq sessionId target env.unixTimestampMs)
  observe (.attemptRegistered pending.attemptSeq sessionId target)
  Proc.modify fun s => { s with currentAttemptSeq := pending.attemptSeq }
  updateCall fun call =>
    { call with
      calleeTarget := target.stableRef
      outboundTrunkRef := pending.candidate.outboundTrunkRef
      outboundTrunkName := pending.candidate.outboundTrunkName
      recordingRequested := pending.candidate.recordingRequested
      aiPolicy := pending.candidate.aiPolicy
      recordingStartError := none
      lastStatus := none
      hangupCause := none
      calleeTerminated := false
      lateAnswerCleanupSent := false }
  submitOriginate pending.candidate pending.calleeOffer
  startTimer .dial

def handleAttemptRegistrationResult (result : AttemptRegistrationResult) : Handler Unit := do
  let s ← Proc.get
  match result, s.pendingAttemptRegistration with
  | .registered _ _, none => pure ()
  | .registered attemptSeq sessionId, some pending => do
    Proc.modify fun s => { s with pendingAttemptRegistration := none }
    if pending.attemptSeq ≠ attemptSeq ∨ pending.sessionId ≠ sessionId
        ∨ s.call.isTerminating then
      pure ()
    else adoptAttempt pending sessionId
  | .rejected _ _ _, none => pure ()
  | .rejected attemptSeq sessionId _, some pending =>
    if pending.attemptSeq = attemptSeq ∧ pending.sessionId = sessionId then do
      Proc.modify fun s => { s with pendingAttemptRegistration := none }
      failAttemptSetup "attempt_registration_failed"
    else pure ()

end Coordinator

end VoipSwitch
