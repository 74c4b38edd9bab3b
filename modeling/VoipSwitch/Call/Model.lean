import VoipSwitch.Call.Event

/-! The runtime record of one call: its configuration snapshot, the aggregate it owns and
the fields that the coordinator's handlers write directly. -/
namespace VoipSwitch

open Stateful Keyed

/-- Errors of the call runtime. Only the texts of `message` errors reach a reader. -/
inductive Error where
  | call (error : CallError)
  | number (error : NumberError)
  | message (text : String)
deriving DecidableEq

def Error.text : Error → String
  | .call error => reprStr error
  | .number error => reprStr error
  | .message text => text

inductive OutboundTarget where
  | endpoint (endpointId endpointNumber : String)
  | trunk (trunkRef : String)
  | aiAgent (agentId : String)
deriving DecidableEq

namespace OutboundTarget

def stableRef : OutboundTarget → String
  | .endpoint endpointId _ => s!"endpoint:{endpointId}"
  | .trunk trunkRef => trunkRef
  | .aiAgent agentId => s!"ai_agent:{agentId}"

def calleeTarget : OutboundTarget → Except Error CalleeTarget
  | .endpoint endpointId endpointNumber =>
    match ExtensionNumber.parse endpointNumber with
    | .ok number => .ok (.extension endpointId number)
    | .error e => .error (.number e)
  | .trunk trunkRef => .ok (.trunk trunkRef)
  | .aiAgent agentId => .ok (.aiAgent agentId)

def sessionEndpoint : OutboundTarget → Except Error SessionEndpoint
  | .endpoint endpointId endpointNumber =>
    match ExtensionNumber.parse endpointNumber with
    | .ok number => .ok (.endpoint { endpointId, number })
    | .error e => .error (.number e)
  | .trunk trunkRef => .ok (.trunk trunkRef)
  | .aiAgent agentId => .ok (.aiAgent agentId)

end OutboundTarget

structure AiPolicyDecisionSnapshot where
  policyId : Nat
  profileId : String
deriving DecidableEq

structure OutboundCandidate where
  outboundTarget : OutboundTarget
  calleeRouteTarget : Option String := none
  outboundTrunkRef : Option String := none
  outboundTrunkName : Option String := none
  recordingRequested : Bool := false
  recordingPolicyIds : List Nat := []
  aiPolicy : Option AiPolicyDecisionSnapshot := none
  aiAgentRevision : Option Nat := none
  aiFallbackTarget : Option String := none
deriving DecidableEq

/-- Call timeouts, in milliseconds. -/
structure CallTimeouts where
  route : Nat := 3000
  dial : Nat := 5000
  ring : Nat := 60000
  cleanup : Nat := 5000
  routeBudget : Nat := 180000
  minAttemptWindow : Nat := 1000
deriving DecidableEq

structure CallNumberSnapshot where
  originalCaller : String
  originalCallee : String
  signalingCaller : String
  signalingCallee : String
deriving DecidableEq

structure RouteSnapshot where
  routeId : Option String := none
  routeName : Option String := none
  trunkRef : Option String := none
  trunkName : Option String := none
deriving DecidableEq

/-- What a call was decided on when it began. There is always a first candidate. -/
structure CallConfigSnapshot where
  domainId : DomainId
  numbers : CallNumberSnapshot
  inbound : RouteSnapshot
  outbound : RouteSnapshot
  candidates : List OutboundCandidate
  candidates_ne_nil : candidates ≠ []
  timeouts : CallTimeouts
  recordingDir : String

namespace CallConfigSnapshot

/-- `CallConfigSnapshot::new`. The bridge and media policies are constants. -/
def new (domainId : DomainId) (numbers : CallNumberSnapshot) (inbound outbound : RouteSnapshot)
    (candidates : List OutboundCandidate) (timeouts : CallTimeouts) (recordingDir : String) :
    Except String CallConfigSnapshot :=
  if h : candidates = [] then .error "call config snapshot requires at least one candidate"
  else .ok
    { domainId, numbers, inbound, outbound, candidates, candidates_ne_nil := h, timeouts,
      recordingDir }

def bridgePolicy (_ : CallConfigSnapshot) : BridgePolicy := .sequentialHunt

def first (snapshot : CallConfigSnapshot) : OutboundCandidate :=
  snapshot.candidates.head snapshot.candidates_ne_nil

end CallConfigSnapshot

structure CallRuntime where
  configSnapshot : CallConfigSnapshot
  aggregate : CallAggregate
  caller : Session
  currentAttemptId : CalleeAttemptId
  currentCalleeSessionId : SessionId
  currentBridgeId : Option BridgeId
  callerAdapterLegId : AdapterCallLegId
  callerNumber : String
  calleeNumber : String
  calleeTarget : String
  aiAgentCall : Bool
  aiAgentRevision : Option Nat
  aiFallbackTarget : Option String
  inboundRoute : RouteSnapshot
  outboundRouteId : Option String
  outboundRouteName : Option String
  outboundTrunkRef : Option String
  outboundTrunkName : Option String
  recordingRequested : Bool
  aiPolicy : Option AiPolicyDecisionSnapshot
  recordingStartError : Option String
  /-- Whether the call still holds its media bridge. -/
  media : Bool
  state : CallState
  lastStatus : Option Nat
  hangupCause : Option HangupCause
  dialTimerGeneration : Nat
  ringTimerGeneration : Nat
  cleanupTimerGeneration : Nat
  lateAnswerCleanupSent : Bool
  callerTerminated : Bool
  calleeTerminated : Bool

/-- `attempt-{attempt_seq}`. -/
def attemptIdOf (attemptSeq : Nat) : CalleeAttemptId := s!"attempt-{attemptSeq}"

/-- The session id of the callee of attempt `attemptSeq`. -/
def calleeSessionIdOf (callId : CallId) (attemptSeq : Nat) : SessionId :=
  s!"session-{callId}-callee-attempt-{attemptSeq}"

namespace CallRuntime

abbrev Op (α : Type) : Type := Proc Unit CallRuntime Error α

/-- Run an operation of the aggregate. -/
def onAggregate {α : Type} (m : CallAggregate.Op α) : Op α :=
  Proc.focus aggregate (fun aggregate call => { call with aggregate }) .call () m

def callId (call : CallRuntime) : CallId := call.aggregate.id

def domainId (call : CallRuntime) : DomainId := call.aggregate.domainId

def callerSessionId (call : CallRuntime) : SessionId := call.caller.id

def calleeSessionId (call : CallRuntime) : SessionId := call.currentCalleeSessionId

def isTerminating (call : CallRuntime) : Bool := call.state.isTerminatingOrCompleted

def isAnswered (call : CallRuntime) : Bool := call.caller.answeredAtMs.isSome

def hangupCauseStr (call : CallRuntime) : Option String :=
  call.hangupCause.map HangupCause.asCdrString

def originalAiAgentId (call : CallRuntime) : Option String :=
  match call.configSnapshot.first.outboundTarget with
  | .aiAgent agentId => some agentId
  | _ => none

def calleeSession (caller : Session) (sessionId : SessionId) (attemptId : CalleeAttemptId)
    (target : OutboundTarget) (createdAtMs : Nat) : Except Error Session :=
  match target.sessionEndpoint with
  | .error e => .error e
  | .ok endpoint => .ok
    { id := sessionId
      domainId := caller.domainId
      callId := caller.callId
      role := .callee attemptId
      direction := .outbound
      endpoint
      state := .dialing
      sip := none
      peer := some caller.id
      createdAtMs
      answeredAtMs := none
      hangupCause := none }

def makeCalleeSession (call : CallRuntime) (sessionId : SessionId) (attemptSeq : Nat)
    (target : OutboundTarget) (createdAtMs : Nat) : Except Error Session :=
  calleeSession call.caller sessionId (attemptIdOf attemptSeq) target createdAtMs

/-- Lift a value that may have failed into a procedure. -/
def ofExcept {ρ σ α : Type} : Except Error α → Proc ρ σ Error α
  | .ok a => pure a
  | .error e => Proc.fail e

/-- Enter a new callee leg and its attempt into the aggregate and start dialling it. -/
def enterAttempt (callee : Session) (attemptId : CalleeAttemptId) (target : OutboundTarget) :
    Op Unit := do
  onAggregate (CallAggregate.addLeg callee)
  let calleeTarget ← ofExcept target.calleeTarget
  onAggregate (CallAggregate.addCalleeAttempt attemptId callee.id calleeTarget)
  onAggregate (CallAggregate.updateAttemptState attemptId .dialing none)

/-- The caller's session as an invitation creates it. -/
def callerSession (callId callerSessionId calleeSessionId callerAdapterLegId : String)
    (config : CallConfigSnapshot) (startedAtMs : Nat) : Session where
  id := callerSessionId
  domainId := config.domainId
  callId := callId
  role := .caller
  direction := .inbound
  endpoint := .external config.numbers.originalCaller
  state := .dialing
  sip := some { adapterCallLegId := callerAdapterLegId, generation := 1 }
  peer := some calleeSessionId
  createdAtMs := startedAtMs
  answeredAtMs := none
  hangupCause := none

/-- `CallRuntime::new` up to the registration of its first attempt. -/
def base (callId callerSessionId calleeSessionId callerAdapterLegId : String)
    (config : CallConfigSnapshot) (startedAtMs : Nat) (aggregate : CallAggregate) :
    CallRuntime where
  configSnapshot := config
  aggregate := aggregate
  caller := callerSession callId callerSessionId calleeSessionId callerAdapterLegId config
    startedAtMs
  currentAttemptId := attemptIdOf 1
  currentCalleeSessionId := calleeSessionId
  currentBridgeId := none
  callerAdapterLegId := callerAdapterLegId
  callerNumber := config.numbers.originalCaller
  calleeNumber := config.numbers.originalCallee
  calleeTarget := config.first.outboundTarget.stableRef
  aiAgentCall := match config.first.outboundTarget with
    | .aiAgent _ => true
    | _ => false
  aiAgentRevision := config.first.aiAgentRevision
  aiFallbackTarget := config.first.aiFallbackTarget
  inboundRoute := config.inbound
  outboundRouteId := config.outbound.routeId
  outboundRouteName := config.outbound.routeName
  outboundTrunkRef := config.first.outboundTrunkRef
  outboundTrunkName := config.first.outboundTrunkName
  recordingRequested := config.first.recordingRequested
  aiPolicy := config.first.aiPolicy
  recordingStartError := none
  media := true
  state := .establishing
  lastStatus := none
  hangupCause := none
  dialTimerGeneration := 0
  ringTimerGeneration := 0
  cleanupTimerGeneration := 0
  lateAnswerCleanupSent := false
  callerTerminated := false
  calleeTerminated := false

/-- `CallRuntime::new` with the media bridge that the creating task attaches. -/
def new (callId callerSessionId calleeSessionId callerAdapterLegId : String)
    (config : CallConfigSnapshot) (startedAtMs : Nat) : Except Error CallRuntime :=
  let caller := callerSession callId callerSessionId calleeSessionId callerAdapterLegId config
    startedAtMs
  match calleeSession caller calleeSessionId (attemptIdOf 1) config.first.outboundTarget
      startedAtMs, CallAggregate.new caller config.bridgePolicy startedAtMs with
  | .error e, _ => .error e
  | _, .error e => .error (.call e)
  | .ok callee, .ok aggregate =>
    match enterAttempt callee (attemptIdOf 1) config.first.outboundTarget ()
        (base callId callerSessionId calleeSessionId callerAdapterLegId config startedAtMs
          aggregate) with
    | (.ok _, call) => .ok call
    | (.error e, _) => .error e

/-- Fix the call's end. A cause that is already recorded stays. -/
def beginTerminating (cause : HangupCause) (call : CallRuntime) : CallRuntime :=
  { call with
    state := if call.state.isTerminatingOrCompleted then call.state else .terminating
    hangupCause := getOrInsert call.hangupCause cause }

def updateCurrentAttempt (state : CalleeAttemptState) (cause : Option HangupCause) : Op Unit := do
  let call ← Proc.get
  onAggregate (CallAggregate.updateAttemptState call.currentAttemptId state cause)

def selectCurrentAttempt (answeredAtMs : Nat) : Op Unit := do
  let call ← Proc.get
  let _ ← onAggregate (CallAggregate.selectWinner call.currentAttemptId answeredAtMs)
  pure ()

/-- Both legs are bridged and the bridge between them is planned. -/
def planBridge (mediaGeneration answeredAtMs : Nat) : Op Unit := do
  let call ← Proc.get
  onAggregate (CallAggregate.updateLegState call.caller.id .bridged)
  onAggregate (CallAggregate.updateLegState call.currentCalleeSessionId .bridged)
  let bridgeId := s!"bridge-{call.currentAttemptId}"
  onAggregate (CallAggregate.addBridge bridgeId call.caller.id call.currentCalleeSessionId
    mediaGeneration answeredAtMs)
  Proc.modify fun call => { call with currentBridgeId := some bridgeId }

def markAnswered (answeredAtMs mediaGeneration : Nat) : Op Unit := do
  updateCurrentAttempt .answered none
  selectCurrentAttempt answeredAtMs
  Proc.modify fun call =>
    { call with caller := { call.caller.markAnswered answeredAtMs with state := .bridged } }
  planBridge mediaGeneration answeredAtMs

def activateCurrentBridge (mediaGeneration activeAtMs : Nat) : Op Unit := do
  let call ← Proc.get
  match call.currentBridgeId with
  | none => Proc.fail (.message "current bridge missing")
  | some bridgeId => onAggregate (CallAggregate.activateBridge bridgeId mediaGeneration activeAtMs)

/-- Mark a leg as left and ignore a leg that is not there. -/
def leaveLeg (leftAtMs : Nat) (aggregate : CallAggregate) (sessionId : SessionId) :
    CallAggregate :=
  (CallAggregate.markLegLeft sessionId leftAtMs).final () aggregate

def releaseTopology (releasedAtMs : Nat) (call : CallRuntime) : CallRuntime :=
  let aggregate := leaveLeg releasedAtMs (call.aggregate.releaseAllBridges releasedAtMs)
    call.caller.id
  { call with
    aggregate := (aggregate.calleeAttempts.values.map (·.sessionId)).foldl
      (leaveLeg releasedAtMs) aggregate }

def registerAttempt (attemptSeq : Nat) (sessionId : SessionId) (target : OutboundTarget)
    (createdAtMs : Nat) : Op Unit := do
  let call ← Proc.get
  let callee ← ofExcept (call.makeCalleeSession sessionId attemptSeq target createdAtMs)
  enterAttempt callee (attemptIdOf attemptSeq) target
  Proc.modify fun call =>
    { call with
      currentAttemptId := attemptIdOf attemptSeq
      currentCalleeSessionId := sessionId
      caller := { call.caller with peer := some sessionId } }

def markTransferAnswered (answeredAtMs mediaGeneration : Nat) : Op Unit := do
  let call ← Proc.get
  let previous := call.aggregate.winner.bind fun winner =>
    call.aggregate.calleeAttempts.values.find? (·.attemptId = winner)
  Proc.whenSome previous fun attempt =>
    onAggregate (CallAggregate.markLegLeft attempt.sessionId answeredAtMs)
  updateCurrentAttempt .answered none
  let call ← Proc.get
  let _ ← onAggregate (CallAggregate.replaceWinner call.currentAttemptId answeredAtMs)
  Proc.modify fun call =>
    { call with
      aggregate := call.aggregate.releaseAllBridges answeredAtMs
      caller := { call.caller with state := .bridged } }
  planBridge mediaGeneration answeredAtMs

end CallRuntime

end VoipSwitch
