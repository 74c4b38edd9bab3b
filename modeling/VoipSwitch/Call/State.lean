import VoipSwitch.Call.Model

/-! The coordinator's state and the primitives its handlers are built from: sending to
the adapter and to the media worker, timers, and the assignments of the call state. -/
namespace VoipSwitch

open Stateful Keyed Document

/-- What a bounded queue did with a request that was offered to it without waiting. -/
inductive SendOutcome where
  | sent
  | full
  | closed
deriving DecidableEq

/-- Why a request was refused, in the words of the queue it was offered to. -/
def SendOutcome.refusal (full closed : String) : SendOutcome → Option String
  | .sent => none
  | .full => some full
  | .closed => some closed

/-- The places that read the monotonic clock while one message is handled. -/
inductive ClockRead where
  | hasRetryCandidate
  | beginNextAttempt
  | startTimer
  | collector
deriving DecidableEq

/-- The AI service as a call sees it. -/
structure AiJobs where
  control : ActionResult → SendOutcome
  /-- Whether a capture under this policy starts on these payload types. -/
  captureStarts : AiPolicyDecisionSnapshot → List Nat → Bool

structure ExtensionView where
  id : String
  number : String
  enabled : Bool
deriving DecidableEq

structure AiAgentView where
  agentId : String
  welcomeLanguage : String
deriving DecidableEq

/-- The part of a domain's configuration that a running call reads. -/
structure DomainView where
  extensions : List ExtensionView
  aiAgents : List AiAgentView
deriving DecidableEq

/-- A registered endpoint and the address it is reached at. -/
structure RegistrationView where
  domainId : DomainId
  endpointId : String
  registered : Bool
  routeTarget : Option String
deriving DecidableEq

/-- Everything outside the coordinator that one handled message reads. -/
structure Env where
  unixTimestampMs : Nat
  instant : ClockRead → Nat
  shuttingDown : Bool
  adapter : ActionIdentity → SendOutcome
  media : MediaAction → SendOutcome
  registrar : SendOutcome
  eventMailbox : SendOutcome
  aiJobs : Option AiJobs
  /-- Payload types that `parse_audio_sdp` finds, none if it fails. -/
  payloadTypes : SdpBody → List Nat
  domain : Option DomainView
  registrations : List RegistrationView
  registrationsReady : Bool
  /-- Whoever asked for a handoff is still there to receive the actor. -/
  handoffAwaited : Bool

structure CallTimerSlot where
  generation : Nat
  deadline : Nat
deriving DecidableEq

structure InitialCallAction where
  callee : Bool
  actionKind : ActionKind
  actionId : String
  body : List (String × Json)

structure PendingAnswer where
  actionId : String
  payloadTypes : List Nat
deriving DecidableEq

structure PendingAttemptCandidate where
  attemptSeq : Nat
  candidate : OutboundCandidate
deriving DecidableEq

structure PendingAttemptRegistration where
  attemptSeq : Nat
  candidate : OutboundCandidate
  sessionId : SessionId
  calleeOffer : SdpBody
deriving DecidableEq

structure PendingAiTransfer where
  conversation : JobRef
  operationId : String
  generation : Nat
  number : String
  language : String
deriving DecidableEq

/-- Highest sequence number seen per adapter leg, for a bounded number of legs. -/
structure LegEventDeduper where
  highestSequences : OrdMap AdapterCallLegId Nat := []
  order : List AdapterCallLegId := []
  capacity : Nat := 16384

namespace LegEventDeduper

def expire (capacity : Nat) : List AdapterCallLegId → OrdMap AdapterCallLegId Nat →
    List AdapterCallLegId × OrdMap AdapterCallLegId Nat
  | [], highest => ([], highest)
  | oldest :: rest, highest =>
    if capacity < highest.length then expire capacity rest (highest.erase oldest)
    else (oldest :: rest, highest)

def accept (deduper : LegEventDeduper) (leg : AdapterCallLegId) (sequence : Nat) :
    Bool × LegEventDeduper :=
  if (deduper.highestSequences.lookup leg).any (sequence ≤ ·) then (false, deduper)
  else
    let order := if deduper.highestSequences.contains leg then deduper.order
      else deduper.order ++ [leg]
    let kept := expire deduper.capacity order (deduper.highestSequences.insert leg sequence)
    (true, { deduper with order := kept.1, highestSequences := kept.2 })

end LegEventDeduper

/-- Answers sent to whoever asked for digits. -/
inductive CollectorReply where
  | ready (collectorId : CollectorId) (result : Except String DigitCollectionReady)
  | result (outcome : DigitCollectionOutcome)

/-- The digit state of the coordinator. -/
structure DtmfRuntime where
  source : DtmfSourceState := {}
  router : DtmfRouter := {}
  collectors : Collectors := []
  collectorTimer : Option DigitCollectorTimerSlot := none
  collectorTimerGeneration : Nat := 0
  replies : List CollectorReply := []

/-- The values of a call that its CDR is built from. -/
structure FinalCallSnapshot where
  callId : CallId
  domainId : DomainId
  callerNumber : String
  calleeNumber : String
  topology : CallAggregate
  calleeTarget : String
  aiAgentCall : Bool
  inboundRoute : RouteSnapshot
  outboundRouteId : Option String
  outboundRouteName : Option String
  outboundTrunkRef : Option String
  outboundTrunkName : Option String
  startedAtMs : Nat
  answeredAtMs : Option Nat
  lastStatus : Option Nat
  hangupCause : Option String
  answered : Bool
  recordingRequested : Bool
  recordingStartError : Option String
  callerSessionId : SessionId
  calleeSessionId : SessionId

def FinalCallSnapshot.ofCall (call : CallRuntime) : FinalCallSnapshot where
  callId := call.callId
  domainId := call.domainId
  callerNumber := call.callerNumber
  calleeNumber := call.calleeNumber
  topology := call.aggregate
  calleeTarget := call.calleeTarget
  aiAgentCall := call.aiAgentCall
  inboundRoute := call.inboundRoute
  outboundRouteId := call.outboundRouteId
  outboundRouteName := call.outboundRouteName
  outboundTrunkRef := call.outboundTrunkRef
  outboundTrunkName := call.outboundTrunkName
  startedAtMs := call.aggregate.startedAtMs
  answeredAtMs := call.caller.answeredAtMs
  lastStatus := call.lastStatus
  hangupCause := call.hangupCauseStr
  answered := call.isAnswered
  recordingRequested := call.recordingRequested
  recordingStartError := call.recordingStartError
  callerSessionId := call.callerSessionId
  calleeSessionId := call.calleeSessionId

/-- What happened to a call, as an observer of the coordinator would write it down. -/
inductive Entry where
  /-- An action that the adapter queue took. -/
  | submitted (action : SubmittedAction)
  /-- A callee event handed to the coordinator, and the callee session at that time. -/
  | calleeEvent (frame : LegFrame) (event : CallLegEvent) (current : SessionId)
  /-- An assignment of the call state. -/
  | stateAssigned (source target : CallState)
  /-- An attempt that entered the aggregate after the first one. -/
  | attemptRegistered (attemptSeq : Nat) (sessionId : SessionId) (target : OutboundTarget)
  | aiResult (result : ActionResult)
  /-- A digit collection that the AI service asked for was posted to the coordinator. -/
  | digitsRequested (spec : DigitCollectionSpec)
  | prompt (looping : Bool) (language : String)

/-- The keys of actions are compared part by part. -/
instance lawfulBEq_actionKey : LawfulBEq (String × Nat) := Prod.instLawfulBEq

/-- The coordinator: the runtime state, the leg its actor owns, the requests that the
media worker and the registrar still have to answer, and a journal of what happened. -/
structure Coordinator where
  call : CallRuntime
  actorStarted : Bool := false
  legEventDeduper : LegEventDeduper := {}
  finalized : Bool := false
  finalizationStarted : Bool := false
  actionGeneration : Nat := 1
  completedActions : List (String × Nat) := []
  mediaGeneration : Nat := 0
  dtmf : DtmfRuntime := {}
  initialActions : List InitialCallAction
  pendingAnswer : Option PendingAnswer := none
  answerInProgress : Bool := false
  deferredCalleeDisconnect : Option CallLegEvent := none
  dialTimer : Option CallTimerSlot := none
  ringTimer : Option CallTimerSlot := none
  cleanupTimer : Option CallTimerSlot := none
  remainingCandidates : List OutboundCandidate
  currentAttemptSeq : Nat := 1
  pendingAttemptCandidate : Option PendingAttemptCandidate := none
  pendingAttemptRegistration : Option PendingAttemptRegistration := none
  retryAfterCleanup : Option Nat := none
  callerOffer : SdpBody
  routeDeadline : Nat
  pendingAiTransfer : Option PendingAiTransfer := none
  aiTransferFailed : Bool := false
  promptGeneration : Nat := 0
  ownedSessionId : SessionId
  ownedActionGeneration : Nat := 1
  ownedCompletedActions : List (String × Nat) := []
  /-- The actor's loop is running. -/
  running : Bool := false
  /-- The actor left its loop for good. -/
  stopped : Bool := false
  /-- The handoff for which the actor gave itself up. -/
  handedOver : Option CoordinatorHandoffToken := none
  mediaQueue : List MediaAction := []
  attemptQueue : List AttemptRegistration := []
  finalSnapshot : Option FinalCallSnapshot := none
  journal : List Entry := []

abbrev Handler (α : Type) : Type := Proc Env Coordinator Error α

namespace Coordinator

def updateCall (f : CallRuntime → CallRuntime) : Handler Unit :=
  Proc.modify fun s => { s with call := f s.call }

/-- Run an operation of the call runtime. -/
def onCall {α : Type} (m : CallRuntime.Op α) : Handler α :=
  Proc.focus call (fun call s => { s with call }) id () m

/-- Write down what happened. -/
def observe (entry : Entry) : Handler Unit :=
  Proc.modify fun s => { s with journal := entry :: s.journal }

/-- `call.state = state`. -/
def assignState (state : CallState) : Handler Unit :=
  Proc.modify fun s =>
    { s with
      call := { s.call with state }
      journal := .stateAssigned s.call.state state :: s.journal }

def beginTerminating (cause : HangupCause) : Handler Unit :=
  Proc.modify fun s =>
    { s with
      call := s.call.beginTerminating cause
      journal := .stateAssigned s.call.state (s.call.beginTerminating cause).state :: s.journal }

def routeBudgetRemaining (s : Coordinator) (now : Nat) : Nat := s.routeDeadline - now

def startTimer (kind : CallTimerKind) : Handler Unit := do
  let env ← Proc.read
  let now := env.instant .startTimer
  match kind with
  | .dial => Proc.modify fun s =>
    { s with
      call := { s.call with dialTimerGeneration := satSucc64 s.call.dialTimerGeneration }
      dialTimer := some
        { generation := satSucc64 s.call.dialTimerGeneration
          deadline := now + min s.call.configSnapshot.timeouts.dial (s.routeBudgetRemaining now) } }
  | .ring => Proc.modify fun s =>
    { s with
      call := { s.call with ringTimerGeneration := satSucc64 s.call.ringTimerGeneration }
      ringTimer := some
        { generation := satSucc64 s.call.ringTimerGeneration
          deadline := now + min s.call.configSnapshot.timeouts.ring (s.routeBudgetRemaining now) } }
  | .cleanup => Proc.modify fun s =>
    { s with
      call := { s.call with cleanupTimerGeneration := satSucc64 s.call.cleanupTimerGeneration }
      cleanupTimer := some
        { generation := satSucc64 s.call.cleanupTimerGeneration
          deadline := now + s.call.configSnapshot.timeouts.cleanup } }

def cancelTimer (kind : CallTimerKind) : Handler Unit :=
  match kind with
  | .dial => Proc.modify fun s =>
    { s with
      call := { s.call with dialTimerGeneration := satSucc64 s.call.dialTimerGeneration }
      dialTimer := none }
  | .ring => Proc.modify fun s =>
    { s with
      call := { s.call with ringTimerGeneration := satSucc64 s.call.ringTimerGeneration }
      ringTimer := none }
  | .cleanup => Proc.modify fun s =>
    { s with
      call := { s.call with cleanupTimerGeneration := satSucc64 s.call.cleanupTimerGeneration }
      cleanupTimer := none }

def cancelAllTimers : Handler Unit := do
  cancelTimer .dial
  cancelTimer .ring
  cancelTimer .cleanup

def actionIdentity (s : Coordinator) (sessionId : SessionId) (kind : ActionKind)
    (actionId : String) : ActionIdentity where
  callId := s.call.callId
  sessionId := sessionId
  actionKind := kind
  actionId := actionId
  generation := s.actionGeneration

def submitAction (sessionId : SessionId) (kind : ActionKind) (actionId : String)
    (body : List (String × Json)) : Handler Unit := do
  let env ← Proc.read
  let s ← Proc.get
  let identity := s.actionIdentity sessionId kind actionId
  match (env.adapter identity).refusal "adapter action queue full"
      "adapter runtime writer stopped" with
  | none =>
    observe (.submitted
      { identity, domainId := s.call.domainId, body := insertIdentity body identity })
  | some reason => Proc.fail (.message reason)

def submitCallerAction (kind : ActionKind) (actionId : String) (body : List (String × Json)) :
    Handler Unit := do
  let s ← Proc.get
  submitAction s.call.callerSessionId kind actionId body

def submitCalleeAction (kind : ActionKind) (actionId : String) (body : List (String × Json)) :
    Handler Unit := do
  let s ← Proc.get
  submitAction s.call.calleeSessionId kind actionId body

/-- Offer a request to the media worker; the result says why it was refused. -/
def offerMedia (action : MediaAction) : Handler (Option String) := do
  let env ← Proc.read
  match (env.media action).refusal "media action queue full" "media action executor stopped" with
  | none => do
    Proc.modify fun s => { s with mediaQueue := s.mediaQueue ++ [action] }
    pure none
  | some reason => pure (some reason)

def submitMedia (action : MediaAction) : Handler Unit := do
  match ← offerMedia action with
  | none => pure ()
  | some reason => Proc.fail (.message reason)

def bumpMediaGeneration : Handler Unit :=
  Proc.modify fun s => { s with mediaGeneration := satSucc64 s.mediaGeneration }

/-- `prompt_generation.fetch_add(1)`, which wraps around. -/
def bumpPromptGeneration : Handler Unit :=
  Proc.modify fun s => { s with promptGeneration := (s.promptGeneration + 1) % 2 ^ 64 }

/-- Send a result to the AI service, if there is one. -/
def sendActionResult (result : ActionResult) : Handler Unit := do
  let env ← Proc.read
  match env.aiJobs with
  | none => pure ()
  | some jobs =>
    match (jobs.control result).refusal "AI control queue full" "AI control connector stopped" with
    | none => observe (.aiResult result)
    | some reason => Proc.fail (.message reason)

def aiAgentConversationActive (s : Coordinator) : Bool :=
  startsWith s.call.calleeTarget "ai_agent:" || s.pendingAiTransfer.isSome || s.aiTransferFailed

def currentAiLanguage (env : Env) (s : Coordinator) : String :=
  match s.call.originalAiAgentId with
  | none => "zh-CN"
  | some agentId =>
    let language := (env.domain.bind fun domain =>
      domain.aiAgents.find? (·.agentId = agentId)).map (·.welcomeLanguage)
    (language.filter fun l => l = "zh-CN" || l = "en-US").getD "zh-CN"

end Coordinator

end VoipSwitch
