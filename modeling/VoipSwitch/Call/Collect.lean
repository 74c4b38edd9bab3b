import VoipSwitch.Call.State

/-! Digit collection inside the coordinator, and the routing of digits that no collector
consumes. -/
namespace VoipSwitch

open Stateful Keyed Document

namespace Coordinator

def updateDtmf (f : DtmfRuntime → DtmfRuntime) : Handler Unit :=
  Proc.modify fun s => { s with dtmf := f s.dtmf }

def updateCollectors (f : Collectors → Collectors) : Handler Unit :=
  updateDtmf fun dtmf => { dtmf with collectors := f dtmf.collectors }

def sendReply (reply : CollectorReply) : Handler Unit :=
  updateDtmf fun dtmf => { dtmf with replies := reply :: dtmf.replies }

def scheduleDigitCollectorTimer : Handler Unit :=
  updateDtmf fun dtmf =>
    { dtmf with
      collectorTimerGeneration := satSucc64 dtmf.collectorTimerGeneration
      collectorTimer := (nextDigitCollectorDeadline dtmf.collectors).map
        fun (sleepUntil, collectorId, deadline) =>
          { generation := satSucc64 dtmf.collectorTimerGeneration, collectorId, deadline,
            sleepUntil } }

/-- Give one collector up: answer its requester and queue the release of its lease. A
release that is refused is only logged. -/
def abortCollector (reason : String) (collector : DigitCollectorState) : Handler Unit := do
  Proc.when collector.readyReply
    (sendReply (.ready collector.spec.collectorId (.error reason)))
  let s ← Proc.get
  let _ ← offerMedia
    (.releaseDtmfCapability collector.releaseActionId s.mediaGeneration collector.leaseId)
  Proc.when collector.resultReply (sendReply (.result
    { collectorId := collector.spec.collectorId, code := .failed, digits := collector.digits,
      reason := some reason }))

def abortDigitCollection (reason : String) : Handler Unit := do
  updateDtmf fun dtmf =>
    { dtmf with
      collectorTimerGeneration := satSucc64 dtmf.collectorTimerGeneration
      collectorTimer := none }
  let s ← Proc.get
  updateCollectors fun _ => []
  s.dtmf.collectors.values.forM (abortCollector reason)

def failDigitCollectionStart (collectorId : CollectorId) (error : String) : Handler Unit := do
  let s ← Proc.get
  match s.dtmf.collectors.lookup collectorId with
  | none => pure ()
  | some collector =>
    updateCollectors (·.erase collectorId)
    Proc.when collector.readyReply
      (sendReply (.ready collector.spec.collectorId (.error error)))
    Proc.when collector.resultReply (sendReply (.result
      { collectorId := collector.spec.collectorId
        code := if collector.cancelRequested then .cancelled else .failed
        digits := collector.digits
        reason := some error }))
    scheduleDigitCollectorTimer

def handleDtmfCapabilityReleased (actionId : String) (result : Except String Nat) :
    Handler Unit := do
  let s ← Proc.get
  match s.dtmf.collectors.find? fun (_, collector) =>
      collector.phase = .releasing && collector.releaseActionId = actionId with
  | none => pure ()
  | some (collectorId, collector) =>
    updateCollectors (·.erase collectorId)
    let outcome := collector.pendingOutcome.getD
      { collectorId := collector.spec.collectorId, code := .failed, digits := collector.digits,
        reason := some "missing_collection_outcome" }
    let outcome := match result with
      | .ok _ => outcome
      | .error error =>
        { outcome with
          code := DigitCollectionResultCode.failed
          reason := some s!"capability_release_failed:{error}" }
    Proc.when collector.resultReply (sendReply (.result outcome))
    scheduleDigitCollectorTimer

def finishDigitCollection (collectorId : CollectorId) (code : DigitCollectionResultCode)
    (reason : Option String) : Handler Unit := do
  let s ← Proc.get
  match s.dtmf.collectors.lookup collectorId with
  | none => pure ()
  | some collector =>
    if collector.phase ≠ .active then pure ()
    else do
      updateCollectors (·.adjust collectorId fun collector =>
        { collector with
          phase := .releasing
          firstDeadline := none
          interDeadline := none
          overallDeadline := none
          pendingOutcome := some
            { collectorId := collector.spec.collectorId, code, digits := collector.digits,
              reason } })
      let refusal ← offerMedia (.releaseDtmfCapability collector.releaseActionId
        s.mediaGeneration collector.leaseId)
      Proc.whenSome refusal fun error =>
        handleDtmfCapabilityReleased collector.releaseActionId (.error error)
      scheduleDigitCollectorTimer

/-- Whether a collection may start now. -/
def validateDigitCollection (s : Coordinator) (spec : DigitCollectionSpec) : Except String Unit :=
  match spec.validate with
  | .error error => .error error
  | .ok _ =>
    if ¬ s.call.isAnswered ∨ s.call.isTerminating then .error "call_or_leg_terminating"
    else
      match validateDigitCollectorRegistration s.dtmf.collectors spec with
      | .error error => .error error
      | .ok _ =>
        if spec.sourceSessionId ≠ s.call.callerSessionId
            ∧ spec.sourceSessionId ≠ s.call.calleeSessionId then
          .error "stale_source_session"
        else .ok ()

def startDigitCollection (spec : DigitCollectionSpec) : Handler Unit := do
  let s ← Proc.get
  match s.validateDigitCollection spec with
  | .error error =>
    sendReply (.ready spec.collectorId (.error error))
    sendReply (.result
      { collectorId := spec.collectorId, code := .failed, digits := [], reason := some error })
  | .ok _ =>
    let leaseId := s!"dtmf-collector-{s.call.callId}-{spec.collectorId}"
    let acquireActionId := s!"acquire-{leaseId}"
    let releaseActionId := s!"release-{leaseId}"
    updateCollectors (·.insert spec.collectorId
      (DigitCollectorState.new spec leaseId acquireActionId releaseActionId))
    let refusal ← offerMedia (.acquireDtmfCapability acquireActionId s.mediaGeneration
      { leaseId, owner := spec.owner, sourceSessionId := spec.sourceSessionId
        mode := if spec.mode = .observe then .observe else .collect
        requestedGeneration := s.mediaGeneration })
    Proc.whenSome refusal fun error => failDigitCollectionStart spec.collectorId error

/-- Whether the collector was found; its requester gets the answer. -/
def cancelDigitCollection (collectorId : CollectorId) : Handler Bool := do
  let s ← Proc.get
  match s.dtmf.collectors.lookup collectorId with
  | none => pure false
  | some collector =>
    match collector.requestCancel with
    | (.awaitAcquire, collector) => do
      updateCollectors (·.adjust collectorId fun _ => { collector with readyReply := false })
      Proc.when collector.readyReply
        (sendReply (.ready collectorId (.error "dtmf_collection_cancelled")))
      pure true
    | (.finish, _) => do
      finishDigitCollection collectorId .cancelled (some "dtmf_collection_cancelled")
      pure true
    | (.alreadyReleasing, _) => pure true

def handleDtmfCapabilityAcquired (actionId : String)
    (result : Except String DtmfCapabilityReady) : Handler Unit := do
  let env ← Proc.read
  let s ← Proc.get
  match s.dtmf.collectors.find? fun (_, collector) =>
      collector.phase = .acquiring && collector.acquireActionId = actionId with
  | none => pure ()
  | some (collectorId, collector) =>
    match result with
    | .error error => failDigitCollectionStart collectorId error
    | .ok ready =>
      if ready.leaseId ≠ collector.leaseId
          ∨ ready.sourceSessionId ≠ collector.spec.sourceSessionId then
        failDigitCollectionStart collectorId "dtmf_capability_result_mismatch"
      else do
        Proc.when collector.readyReply (sendReply (.ready collectorId
          (if collector.cancelRequested then .error "dtmf_collection_cancelled"
            else .ok
              { collectorId := collector.spec.collectorId
                mediaGeneration := ready.mediaGeneration })))
        if collector.cancelRequested then do
          updateCollectors (·.adjust collectorId fun collector =>
            { collector with readyReply := false, phase := .active })
          finishDigitCollection collectorId .cancelled (some "dtmf_collection_cancelled")
        else do
          updateCollectors (·.adjust collectorId fun collector =>
            ({ collector with readyReply := false } : DigitCollectorState).activate
              (env.instant .collector))
          scheduleDigitCollectorTimer

def collectDigit (event : DigitEvent) : Handler Bool := do
  let env ← Proc.read
  let s ← Proc.get
  let (batch, collectors) :=
    applyDigitToCollectors event (env.instant .collector) s.dtmf.collectors
  updateCollectors fun _ => collectors
  batch.completed.forM fun (collectorId, code, reason) =>
    finishDigitCollection collectorId code reason
  scheduleDigitCollectorTimer
  pure batch.consume

def handleDigitCollectorTimeout (generation : Nat) (collectorId : CollectorId)
    (deadline : DigitCollectorDeadline) : Handler Unit := do
  let s ← Proc.get
  if generation ≠ s.dtmf.collectorTimerGeneration then pure ()
  else do
    updateDtmf fun dtmf => { dtmf with collectorTimer := none }
    finishDigitCollection collectorId deadline.resultCode none
    scheduleDigitCollectorTimer

def handleEventMessage (message : EventMessage) : Handler Unit :=
  match message with
  | .querySessionSummary => pure ()
  | .startDigitCollection spec => startDigitCollection spec
  | .cancelDigitCollection collectorId => do
    let _ ← cancelDigitCollection collectorId

/-- Relay a digit that no collector consumed. Only SIP INFO digits need an action; RFC 4733
digits already flow through the media bridge. -/
def relayDigit (event : DigitEvent) (peerSessionId : SessionId) : Handler Unit := do
  let s ← Proc.get
  match event.eventId with
  | .sipInfo dialogGeneration _ cseq =>
    submitCallerAction .sendDtmfInfo
      s!"dtmf-info-{s.call.callId}-{dialogGeneration}-{cseq}"
      [("target_session_id", .str peerSessionId), ("digit", .str event.digit.asStr),
        ("duration_ms", .num event.durationMs), ("content_mode", .str event.transport.asStr)]
  | _ => pure ()

def routeDigit (event : DigitEvent) : Handler Unit := do
  let consumed ← collectDigit event
  if consumed then updateDtmf fun dtmf => { dtmf with router := dtmf.router.recordConsumed }
  else do
    let s ← Proc.get
    let (disposition, router) := s.dtmf.router.route event s.call.callerSessionId
      (some s.call.calleeSessionId) (!s.call.isTerminating)
    updateDtmf fun dtmf => { dtmf with router }
    match disposition with
    | .forward peerSessionId =>
      if event.transport = .sipInfoRelay ∨ event.transport = .sipInfoDtmf then
        relayDigit event peerSessionId
      else pure ()
    | .ignore _ => pure ()

def handleSourceDigit (event : DigitEvent) : Handler Unit := do
  let s ← Proc.get
  if ¬ validSourceEvent event s.call.domainId s.call.callId s.ownedSessionId then pure ()
  else do
    let (decision, source) := s.dtmf.source.accept event
    updateDtmf fun dtmf => { dtmf with source }
    if decision = .accepted then routeDigit event else pure ()

def handlePeerDigit (event : DigitEvent) : Handler Unit := do
  let s ← Proc.get
  if event.domainId ≠ s.call.domainId ∨ event.callId ≠ s.call.callId then pure ()
  else routeDigit event

def handleDtmfInfoSendResult (result : DtmfInfoSendResult) : Handler Unit := do
  let s ← Proc.get
  if result.callId ≠ s.call.callId ∨ result.sessionId ≠ s.call.callerSessionId
      ∨ result.generation ≠ s.actionGeneration then
    pure ()
  else
    updateDtmf fun dtmf =>
      { dtmf with router := dtmf.router.recordInfoSendResult result.succeeded }

end Coordinator

end VoipSwitch
