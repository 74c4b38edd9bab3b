import VoipSwitch.Call.Collections
import VoipSwitch.Call.Lifecycle

/-! How the outcome of a digit collection reaches its operation. The adapter runtime hands starts
and cancels to the coordinators of its calls; the outcome comes back through one task, and the
answer to a cancel through another. -/
namespace VoipSwitch

open Stateful Keyed Proc Transition

def coordinatorEventMailboxCapacity : Nat := 128

/-- A coordinator with the mailbox of its events. It is closed once its actor is gone. -/
structure DigitCall where
  coordinator : Coordinator
  mailbox : List EventMessage := []
  closed : Bool := false

/-- What the session manager of a runtime knows of a call. -/
structure SessionLookup where
  identified : Bool
  callerSession : Option SessionId
  peerSession : Option SessionId
  coordinator : Option Nat
deriving DecidableEq

namespace SessionLookup

def sourceSession (found : SessionLookup) : DtmfOperationSource → Except String SessionId
  | .caller =>
    match found.callerSession with
    | none => .error "caller_session_not_found"
    | some sessionId => .ok sessionId
  | .callee =>
    match found.peerSession with
    | none => .error "current_callee_not_found"
    | some sessionId => .ok sessionId

/-- The coordinator that is to start a collection, and the session it is to listen to. -/
def forStart (found : SessionLookup) (source : DtmfOperationSource) :
    Except String (Nat × SessionId) :=
  if ¬ found.identified then .error "call_not_found"
  else
    match found.sourceSession source with
    | .error error => .error error
    | .ok sessionId =>
      match found.coordinator with
      | none => .error "call_coordinator_not_found"
      | some call => .ok (call, sessionId)

/-- The coordinator that is to cancel a collection. -/
def forCancel (found : SessionLookup) : Except String Nat :=
  if ¬ found.identified then .error "call_not_found"
  else
    match found.coordinator with
    | none => .error "call_coordinator_not_found"
    | some call => .ok call

end SessionLookup

def DtmfOperationSpec.collection (spec : DtmfOperationSpec) (operationId : DtmfOperationId)
    (sourceSessionId : SessionId) : DigitCollectionSpec where
  collectorId := operationId
  owner := operationId
  sourceSessionId := sourceSessionId
  mode := spec.mode.collectionMode
  allowed := spec.allowed
  minDigits := spec.minDigits
  maxDigits := spec.maxDigits
  terminators := spec.terminators
  firstDigitTimeoutMs := spec.firstDigitTimeoutMs
  interDigitTimeoutMs := spec.interDigitTimeoutMs
  overallTimeoutMs := spec.overallTimeoutMs

/-- A task that reports on a collection waits for its readiness first, then for its result. -/
inductive ResultPhase where
  | ready
  | result (readyError : Option String)
  | done
deriving DecidableEq

structure ResultTask where
  operationId : DtmfOperationId
  call : Nat
  phase : ResultPhase
deriving DecidableEq

/-- What may happen to the collections of a coordinator, its mailbox apart. -/
inductive CollectorEvent where
  | capabilityAcquired (actionId : String) (result : Except String DtmfCapabilityReady)
  | capabilityReleased (actionId : String) (result : Except String Nat)
  | digit (event : DigitEvent)
  | timeout (generation : Nat) (collectorId : CollectorId) (deadline : DigitCollectorDeadline)
  | aborted (reason : String)

def CollectorEvent.handler : CollectorEvent → Handler Unit
  | .capabilityAcquired actionId result => Coordinator.handleDtmfCapabilityAcquired actionId result
  | .capabilityReleased actionId result => Coordinator.handleDtmfCapabilityReleased actionId result
  | .digit event => do
    let _ ← Coordinator.collectDigit event
  | .timeout generation collectorId deadline =>
    Coordinator.handleDigitCollectorTimeout generation collectorId deadline
  | .aborted reason => Coordinator.abortDigitCollection reason

/-- The service, the calls of all runtimes, the tasks that report on collections, and the answers
to cancels that are on their way back. -/
structure DigitWorld where
  run : OperationRun := {}
  calls : List DigitCall := []
  tasks : List ResultTask := []
  answers : List (DtmfOperationId × Except String Unit) := []

inductive DigitStep where
  /-- A client or a runtime calls the service. -/
  | service (call : DtmfOperationCall)
  /-- A runtime takes the first operation of its queue. -/
  | handle (tx : Nat) (found : SessionLookup) (now : Nat)
  | openCall (coordinator : Coordinator)
  /-- The actor of a call is gone, and with it whatever it has not answered. -/
  | closeCall (call : Nat)
  /-- Digits are asked for without an operation. -/
  | requestDigits (call : Nat) (spec : DigitCollectionSpec)
  | takeMessage (call : Nat) (env : Env)
  | collect (call : Nat) (env : Env) (event : CollectorEvent)
  /-- Anything else that the coordinator does. -/
  | proceed (call : Nat) (coordinator : Coordinator)
  | reportReady (task now : Nat)
  | reportResult (task now : Nat)
  | reportCancel (answer now : Nat)

/-- The calls that the service gets from its clients, and from runtimes that come and go. -/
def DtmfOperationCall.isRequest : DtmfOperationCall → Bool
  | .attachRuntime | .detachRuntime _ _ | .start _ _ | .cancel _ _ | .dropReceiver _ => true
  | .markAcquiring _ _ | .markReady _ _ _ | .complete _ _ _ | .fail _ _ _ | .receive _ => false

/-- The ids that the service gives; no other requester of digits uses them. -/
def isOperationId (id : CollectorId) : Bool := "dtmf-op-".toList.isPrefixOf id.toList

namespace CollectorReply

def readyOf (id : CollectorId) : CollectorReply → Option (Except String DigitCollectionReady)
  | .ready collectorId answer => if collectorId = id then some answer else none
  | .result _ => none

def resultOf (id : CollectorId) : CollectorReply → Option DigitCollectionOutcome
  | .ready _ _ => none
  | .result outcome => if outcome.collectorId = id then some outcome else none

end CollectorReply

/-- What the requester of a collection is told about its readiness. -/
def DigitCall.readyAnswer (actor : DigitCall) (id : CollectorId) :
    Option (Except String DigitCollectionReady) :=
  actor.coordinator.dtmf.replies.findSome? (CollectorReply.readyOf id)

/-- The outcome that the requester of a collection is sent. -/
def DigitCall.outcome (actor : DigitCall) (id : CollectorId) : Option DigitCollectionOutcome :=
  actor.coordinator.dtmf.replies.findSome? (CollectorReply.resultOf id)

namespace DigitWorld

def serve (call : DtmfOperationCall) (w : DigitWorld) : DigitWorld :=
  { w with run := w.run.step call }

/-- `try_send` to the event mailbox of a coordinator. -/
def post (call : Nat) (message : EventMessage) (w : DigitWorld) : Except String DigitWorld :=
  match w.calls[call]? with
  | none => .error "call_coordinator_gone"
  | some actor =>
    if actor.closed then .error "call_coordinator_gone"
    else if coordinatorEventMailboxCapacity ≤ actor.mailbox.length then
      .error "call_coordinator_event_mailbox_full"
    else
      .ok { w with
        calls := w.calls.set call { actor with mailbox := actor.mailbox ++ [message] } }

/-- `handle_dtmf_runtime_operation` for a start. -/
def handleStart (operationId : DtmfOperationId) (spec : DtmfOperationSpec) (found : SessionLookup)
    (now : Nat) (w : DigitWorld) : DigitWorld :=
  match found.forStart spec.source with
  | .error error => w.serve (.fail operationId error now)
  | .ok (call, sourceSessionId) =>
    let w := w.serve (.markAcquiring operationId now)
    match w.post call (.startDigitCollection (spec.collection operationId sourceSessionId)) with
    | .error error => w.serve (.fail operationId error now)
    | .ok w => { w with tasks := w.tasks ++ [{ operationId, call, phase := .ready }] }

/-- `handle_dtmf_runtime_operation` for a cancel. -/
def handleCancel (operationId : DtmfOperationId) (found : SessionLookup) (now : Nat)
    (w : DigitWorld) : DigitWorld :=
  match found.forCancel with
  | .error error => w.serve (.fail operationId error now)
  | .ok call =>
    match w.post call (.cancelDigitCollection operationId) with
    | .error error => w.serve (.fail operationId error now)
    | .ok w => w

/-- The operation that a runtime takes next. -/
def waiting (w : DigitWorld) (tx : Nat) : Option DtmfRuntimeOperation :=
  w.run.service.queues[tx]?.bind (·.waiting.head?)

def handleNext (tx : Nat) (found : SessionLookup) (now : Nat) (w : DigitWorld) :
    Option DigitWorld :=
  match w.waiting tx with
  | none => none
  | some (.start operationId spec) =>
    some ((w.serve (.receive tx)).handleStart operationId spec found now)
  | some (.cancel operationId _) =>
    some ((w.serve (.receive tx)).handleCancel operationId found now)

/-- The answers to cancels that are dropped with a mailbox. -/
def droppedCancel : EventMessage → Option (DtmfOperationId × Except String Unit)
  | .cancelDigitCollection id => some (id, .error "digit_collection_cancel_channel_closed")
  | _ => none

def closeCall (call : Nat) (w : DigitWorld) : Option DigitWorld :=
  match w.calls[call]? with
  | none => none
  | some actor =>
    some { w with
      calls := w.calls.set call
        { coordinator := { actor.coordinator with
            dtmf := { actor.coordinator.dtmf with collectors := [] } }
          mailbox := []
          closed := true }
      answers := w.answers ++ actor.mailbox.filterMap droppedCancel }

/-- A coordinator that is still there goes on. -/
def advance (call : Nat) (f : DigitCall → Option DigitCall) (w : DigitWorld) :
    Option DigitWorld :=
  match w.calls[call]? with
  | none => none
  | some actor =>
    if actor.closed then none
    else
      match f actor with
      | none => none
      | some next => some { w with calls := w.calls.set call next }

/-- What a cancel finds: its answer. -/
def cancelAnswer (id : CollectorId) (env : Env) (coordinator : Coordinator) : Except String Unit :=
  match (Coordinator.cancelDigitCollection id env coordinator).1 with
  | .ok true => .ok ()
  | _ => .error "dtmf_collector_not_found"

def takeMessage (call : Nat) (env : Env) (w : DigitWorld) : Option DigitWorld :=
  match w.calls[call]? with
  | none => none
  | some actor =>
    match actor.closed, actor.mailbox with
    | true, _ | _, [] => none
    | false, .querySessionSummary :: mailbox =>
      some { w with calls := w.calls.set call { actor with mailbox } }
    | false, .startDigitCollection spec :: mailbox =>
      some { w with
        calls := w.calls.set call
          { actor with
            coordinator := (Coordinator.startDigitCollection spec).final env actor.coordinator
            mailbox } }
    | false, .cancelDigitCollection id :: mailbox =>
      some { w with
        calls := w.calls.set call
          { actor with
            coordinator := (Coordinator.cancelDigitCollection id).final env actor.coordinator
            mailbox }
        answers := w.answers ++ [(id, cancelAnswer id env actor.coordinator)] }

/-- The task that reports on a collection has its readiness. -/
def reportReady (task now : Nat) (w : DigitWorld) : Option DigitWorld :=
  match w.tasks[task]? with
  | some { operationId, call, phase := .ready } =>
    match w.calls[call]? with
    | none => none
    | some actor =>
      match actor.readyAnswer operationId, actor.closed with
      | some (.ok ready), _ =>
        some { w.serve (.markReady operationId ready.mediaGeneration now) with
          tasks := w.tasks.set task { operationId, call, phase := .result none } }
      | some (.error error), _ =>
        some { w with
          tasks := w.tasks.set task { operationId, call, phase := .result (some error) } }
      | none, true =>
        some { w with
          tasks := w.tasks.set task
            { operationId, call
              phase := .result (some "digit_collection_ready_channel_closed") } }
      | none, false => none
  | _ => none

/-- The task that reports on a collection has its result. -/
def reportResult (task now : Nat) (w : DigitWorld) : Option DigitWorld :=
  match w.tasks[task]? with
  | some { operationId, call, phase := .result readyError } =>
    match w.calls[call]? with
    | none => none
    | some actor =>
      match actor.outcome operationId, actor.closed with
      | some outcome, _ =>
        some { w.serve (.complete operationId outcome now) with
          tasks := w.tasks.set task { operationId, call, phase := .done } }
      | none, true =>
        some { w.serve (.fail operationId
            (readyError.getD "digit_collection_result_channel_closed") now) with
          tasks := w.tasks.set task { operationId, call, phase := .done } }
      | none, false => none
  | _ => none

/-- The task that has asked for a cancel has its answer. -/
def reportCancel (answer now : Nat) (w : DigitWorld) : Option DigitWorld :=
  match w.answers[answer]? with
  | none => none
  | some (_, .ok _) => some { w with answers := w.answers.eraseIdx answer }
  | some (operationId, .error error) =>
    some { w.serve (.fail operationId error now) with answers := w.answers.eraseIdx answer }

def step (w : DigitWorld) : DigitStep → Option DigitWorld
  | .service call => if call.isRequest then some (w.serve call) else none
  | .handle tx found now => w.handleNext tx found now
  | .openCall coordinator =>
    some { w with calls := w.calls ++ [{ coordinator := { coordinator with dtmf := {} } }] }
  | .closeCall call => w.closeCall call
  | .requestDigits call spec =>
    if isOperationId spec.collectorId then none
    else (w.post call (.startDigitCollection spec)).toOption
  | .takeMessage call env => w.takeMessage call env
  | .collect call env event =>
    w.advance call fun actor =>
      some { actor with coordinator := event.handler.final env actor.coordinator }
  | .proceed call coordinator =>
    w.advance call fun actor =>
      some { actor with
        coordinator := { coordinator with
          dtmf := { coordinator.dtmf with
            collectors := actor.coordinator.dtmf.collectors
            replies := actor.coordinator.dtmf.replies } } }
  | .reportReady task now => w.reportReady task now
  | .reportResult task now => w.reportResult task now
  | .reportCancel answer now => w.reportCancel answer now

def system : System DigitWorld DigitStep where
  init w := w = {}
  next w step next := w.step step = some next

end DigitWorld

end VoipSwitch
