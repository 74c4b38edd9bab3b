import VoipSwitch.Call.Dtmf
import VoipSwitch.Lib.Proc
import VoipSwitch.Lib.Transition
import Mathlib.Data.List.Basic

/-! Digit collections as operations that a client starts, cancels and looks up later: the
service that keeps their status, and what its calls can do to the status of an operation. -/
namespace VoipSwitch

open Stateful Keyed Transition

inductive DtmfOperationSource where
  | caller
  | callee
deriving DecidableEq

inductive DtmfOperationMode where
  | observe
  | collect
deriving DecidableEq

def DtmfOperationMode.collectionMode : DtmfOperationMode → DigitCollectionMode
  | .observe => .observe
  | .collect => .collect

structure DtmfOperationSpec where
  callId : CallId
  source : DtmfOperationSource
  mode : DtmfOperationMode
  allowed : List DtmfDigit
  minDigits : Nat
  maxDigits : Nat
  terminators : List DtmfDigit
  firstDigitTimeoutMs : Nat
  interDigitTimeoutMs : Nat
  overallTimeoutMs : Nat
deriving DecidableEq

abbrev DtmfOperationId := String

inductive DtmfRuntimeOperation where
  | start (operationId : DtmfOperationId) (spec : DtmfOperationSpec)
  | cancel (operationId : DtmfOperationId) (callId : CallId)
deriving DecidableEq

inductive DtmfOperationStatus where
  | pending
  | acquiring
  | ready
  | completed
  | cancelling
  | cancelled
  | failed
deriving DecidableEq

namespace DtmfOperationStatus

def isTerminal : DtmfOperationStatus → Bool
  | .completed | .cancelled | .failed => true
  | _ => false

/-- The order in which an operation is to pass through its statuses. -/
def rank : DtmfOperationStatus → Nat
  | .pending => 0
  | .acquiring => 1
  | .ready => 2
  | .cancelling => 3
  | .completed | .cancelled | .failed => 4

/-- An operation may stand at the second status after the first. -/
def Forward (earlier later : DtmfOperationStatus) : Prop :=
  later = earlier ∨ earlier.rank < later.rank

variable {a b c : DtmfOperationStatus}

instance : Decidable (a.Forward b) := inferInstanceAs (Decidable (_ ∨ _))

theorem Forward.refl : a.Forward a := .inl rfl

theorem Forward.trans (first : a.Forward b) (second : b.Forward c) : a.Forward c := by
  rcases first with rfl | hFirst
  · exact second
  · rcases second with rfl | hSecond
    · exact .inr hFirst
    · exact .inr (lt_trans hFirst hSecond)

theorem rank_le : a.rank ≤ 4 := by
  cases a <;> simp [rank]

theorem rank_of_isTerminal (h : a.isTerminal = true) : a.rank = 4 := by
  cases a <;> simp_all [isTerminal, rank]

theorem forward_of_isTerminal (hOpen : a.isTerminal = false) (h : b.isTerminal = true) :
    a.Forward b := by
  right
  rw [rank_of_isTerminal h]
  cases a <;> simp_all [isTerminal, rank]

theorem Forward.eq_of_isTerminal (h : a.Forward b) (hTerminal : a.isTerminal = true) :
    b = a := by
  rcases h with hSame | hLess
  · exact hSame
  · rw [rank_of_isTerminal hTerminal] at hLess
    have hBound : b.rank ≤ 4 := rank_le
    omega

theorem Forward.of_cancelling (h : cancelling.Forward b) :
    b = cancelling ∨ b.isTerminal = true := by
  cases b <;> simp_all [Forward, rank, isTerminal]

end DtmfOperationStatus

structure DtmfOperationView where
  operationId : DtmfOperationId
  callId : CallId
  source : DtmfOperationSource
  mode : DtmfOperationMode
  status : DtmfOperationStatus
  mediaGeneration : Option Nat
  resultCode : Option String
  digits : Option String
  digitCount : Nat
  reason : Option String
  createdAtMs : Nat
  updatedAtMs : Nat
deriving DecidableEq

def dtmfOperationQueueCapacity : Nat := 32

def dtmfOperationHistoryCapacity : Nat := 128

/-- The queue from the service to one adapter runtime. -/
structure DtmfOperationQueue where
  waiting : List DtmfRuntimeOperation := []
  closed : Bool := false
deriving DecidableEq

inductive TrySendError where
  | full
  | closed
deriving DecidableEq

def DtmfOperationQueue.trySend (queue : DtmfOperationQueue) (operation : DtmfRuntimeOperation) :
    Except TrySendError DtmfOperationQueue :=
  if queue.closed then .error .closed
  else if dtmfOperationQueueCapacity ≤ queue.waiting.length then .error .full
  else .ok { queue with waiting := queue.waiting ++ [operation] }

structure RuntimeBinding where
  generation : Nat
  tx : Nat
deriving DecidableEq

/-- The state of the service, with the queues of the runtimes attached so far. A sender `tx`
is the position of its queue among them. -/
structure DtmfOperationState where
  runtimeGeneration : Nat := 0
  runtime : Option RuntimeBinding := none
  operationSequence : Nat := 0
  operations : OrdMap DtmfOperationId DtmfOperationView := []
  order : List DtmfOperationId := []
  queues : List DtmfOperationQueue := []
deriving DecidableEq

/-- The clock is read for the operation's id, and once more for its times. -/
structure OperationClock where
  idMs : Nat
  nowMs : Nat
deriving DecidableEq

def operationIdOf (idMs sequence : Nat) : DtmfOperationId := s!"dtmf-op-{idMs}-{sequence}"

theorem dash_not_mem_repr (n : Nat) : '-' ∉ n.repr.toList := by
  intro hMem
  rw [Nat.toList_repr] at hMem
  have hDigit := Nat.isDigit_of_mem_toDigits (by decide) (by decide) hMem
  simp only [Char.isDigit] at hDigit
  exact absurd hDigit (by decide)

/-- Ids of different sequence numbers differ, whatever the times. -/
theorem operationIdOf_inj {a b c d : Nat} (h : operationIdOf a b = operationIdOf c d) : b = d := by
  have hChars (idMs sequence : Nat) : (operationIdOf idMs sequence).toList =
      "dtmf-op-".toList ++ (idMs.repr.toList ++ '-' :: sequence.repr.toList) := by
    simp [operationIdOf, toString]
  have hLists := congrArg String.toList h
  rw [hChars, hChars] at hLists
  have hTail := List.append_cancel_left hLists
  have hParts := (List.append_cons_inj_of_notMem (dash_not_mem_repr a) (dash_not_mem_repr b)
    ).mp hTail
  have hDigits := hParts.2.2
  rw [Nat.toList_repr, Nat.toList_repr] at hDigits
  simpa using congrArg (fun digits => Nat.ofDigitChars 10 digits 0) hDigits

def DtmfDigit.digitChar : DtmfDigit → Char
  | .d0 => '0' | .d1 => '1' | .d2 => '2' | .d3 => '3' | .d4 => '4'
  | .d5 => '5' | .d6 => '6' | .d7 => '7' | .d8 => '8' | .d9 => '9'
  | .star => '*' | .pound => '#'
  | .a => 'A' | .b => 'B' | .c => 'C' | .d => 'D' | .flash => 'F'

def formatDigits (digits : List DtmfDigit) : String := .ofList (digits.map (·.digitChar))

/-- `result_code`. -/
def DigitCollectionResultCode.asStr : DigitCollectionResultCode → String
  | .completed => "completed"
  | .firstDigitTimeout => "first_digit_timeout"
  | .interDigitTimeout => "inter_digit_timeout"
  | .overallTimeout => "overall_timeout"
  | .cancelled => "cancelled"
  | .failed => "failed"

/-- The status of an operation whose collection ended with `code`. -/
def DigitCollectionResultCode.operationStatus : DigitCollectionResultCode → DtmfOperationStatus
  | .cancelled => .cancelled
  | .failed => .failed
  | .completed | .firstDigitTimeout | .interDigitTimeout | .overallTimeout => .completed

namespace DtmfOperationState

/-- A call on the service that may be refused. -/
abbrev OperationProc (α : Type) : Type := Proc OperationClock DtmfOperationState String α

def attachRuntime (state : DtmfOperationState) : DtmfOperationState :=
  { state with
    runtimeGeneration := satSucc64 state.runtimeGeneration
    runtime := some
      { generation := satSucc64 state.runtimeGeneration, tx := state.queues.length }
    queues := state.queues ++ [{}] }

def detachRuntime (generation now : Nat) (state : DtmfOperationState) : DtmfOperationState :=
  { state with
    runtime :=
      if state.runtime.map (·.generation) = some generation then none else state.runtime
    operations := state.operations.mapValues fun _ operation =>
      if operation.status.isTerminal then operation
      else { operation with
        status := .failed
        reason := some "adapter_runtime_disconnected"
        updatedAtMs := now } }

def trySend (state : DtmfOperationState) (tx : Nat) (operation : DtmfRuntimeOperation) :
    Except TrySendError DtmfOperationState :=
  match state.queues[tx]? with
  | none => .error .closed
  | some queue =>
    match queue.trySend operation with
    | .ok queue => .ok { state with queues := state.queues.set tx queue }
    | .error error => .error error

/-- Drop the oldest operations until the capacity is met again. -/
def trimOperations : List DtmfOperationId → OrdMap DtmfOperationId DtmfOperationView →
    List DtmfOperationId × OrdMap DtmfOperationId DtmfOperationView
  | [], operations => ([], operations)
  | oldest :: rest, operations =>
    if dtmfOperationHistoryCapacity < rest.length + 1 then
      trimOperations rest (operations.erase oldest)
    else (oldest :: rest, operations)

def trimHistory (state : DtmfOperationState) : DtmfOperationState :=
  let kept := trimOperations state.order state.operations
  { state with order := kept.1, operations := kept.2 }

/-- A queue did not take an operation. -/
def refuse {α : Type} : TrySendError → OperationProc α
  | .full => Proc.fail "RESOURCE_EXHAUSTED: DTMF operation queue is full"
  | .closed => do
    Proc.modify fun state => { state with runtime := none }
    Proc.fail "ADAPTER_UNAVAILABLE: adapter runtime operation queue is closed"

def start (spec : DtmfOperationSpec) : OperationProc DtmfOperationView := do
  let clock ← Proc.read
  let state ← Proc.get
  match state.runtime with
  | none => Proc.fail "ADAPTER_UNAVAILABLE: adapter runtime is not connected"
  | some runtime => do
    let state := { state with operationSequence := satSucc64 state.operationSequence }
    Proc.modify fun _ => state
    let operationId := operationIdOf clock.idMs state.operationSequence
    let view : DtmfOperationView :=
      { operationId
        callId := spec.callId
        source := spec.source
        mode := spec.mode
        status := .pending
        mediaGeneration := none
        resultCode := none
        digits := none
        digitCount := 0
        reason := none
        createdAtMs := clock.nowMs
        updatedAtMs := clock.nowMs }
    match state.trySend runtime.tx (.start operationId spec) with
    | .error error => refuse error
    | .ok state => do
      Proc.modify fun _ => trimHistory
        { state with
          operations := state.operations.insert operationId view
          order := state.order ++ [operationId] }
      pure view

def cancel (operationId : DtmfOperationId) : OperationProc DtmfOperationView := do
  let clock ← Proc.read
  let state ← Proc.get
  match state.runtime with
  | none => Proc.fail "ADAPTER_UNAVAILABLE: adapter runtime is not connected"
  | some runtime =>
    match state.operations.lookup operationId with
    | none => Proc.fail "RESOURCE_NOT_FOUND: DTMF operation not found"
    | some operation =>
      if operation.status.isTerminal then
        Proc.fail "FAILED_PRECONDITION: DTMF operation is already complete"
      else
        match state.trySend runtime.tx (.cancel operationId operation.callId) with
        | .error error => refuse error
        | .ok state => do
          let cancelling : DtmfOperationView :=
            { operation with status := .cancelling, updatedAtMs := clock.nowMs }
          Proc.modify fun _ =>
            { state with operations := state.operations.adjust operationId fun _ => cancelling }
          pure cancelling

/-- `update`: what is done to an operation that is still there and not over yet. -/
def update (operationId : DtmfOperationId) (now : Nat)
    (f : DtmfOperationView → DtmfOperationView) (state : DtmfOperationState) :
    DtmfOperationState :=
  { state with
    operations := state.operations.adjust operationId fun operation =>
      if operation.status.isTerminal then operation
      else { f operation with updatedAtMs := now } }

def markAcquiring (operationId : DtmfOperationId) (now : Nat) :
    DtmfOperationState → DtmfOperationState :=
  update operationId now fun operation => { operation with status := .acquiring }

def markReady (operationId : DtmfOperationId) (mediaGeneration now : Nat) :
    DtmfOperationState → DtmfOperationState :=
  update operationId now fun operation =>
    { operation with
      status := .ready
      mediaGeneration := some mediaGeneration
      reason := none }

def complete (operationId : DtmfOperationId) (outcome : DigitCollectionOutcome) (now : Nat) :
    DtmfOperationState → DtmfOperationState :=
  update operationId now fun operation =>
    { operation with
      status := outcome.code.operationStatus
      resultCode := some outcome.code.asStr
      digitCount := outcome.digits.length
      digits := some (formatDigits outcome.digits)
      reason := outcome.reason }

def fail (operationId : DtmfOperationId) (reason : String) (now : Nat) :
    DtmfOperationState → DtmfOperationState :=
  update operationId now fun operation =>
    { operation with status := .failed, reason := some reason }

/-- A runtime takes the first operation of its queue. -/
def receive (tx : Nat) (state : DtmfOperationState) : DtmfOperationState :=
  { state with
    queues := state.queues.modify tx fun queue => { queue with waiting := queue.waiting.tail } }

/-- A runtime drops its receiver. -/
def dropReceiver (tx : Nat) (state : DtmfOperationState) : DtmfOperationState :=
  { state with
    queues := state.queues.modify tx fun _ => { waiting := [], closed := true } }

end DtmfOperationState

/-- What is done to the service: by its clients, by the runtimes that attach to it, and by the
tasks that report on the collections. -/
inductive DtmfOperationCall where
  | attachRuntime
  | detachRuntime (generation now : Nat)
  | start (spec : DtmfOperationSpec) (clock : OperationClock)
  | cancel (operationId : DtmfOperationId) (clock : OperationClock)
  | markAcquiring (operationId : DtmfOperationId) (now : Nat)
  | markReady (operationId : DtmfOperationId) (mediaGeneration now : Nat)
  | complete (operationId : DtmfOperationId) (outcome : DigitCollectionOutcome) (now : Nat)
  | fail (operationId : DtmfOperationId) (reason : String) (now : Nat)
  | receive (tx : Nat)
  | dropReceiver (tx : Nat)
deriving DecidableEq

/-- The status that a call gives to an operation which is not over. -/
def DtmfOperationCall.target (operationId : DtmfOperationId) :
    DtmfOperationCall → Option DtmfOperationStatus
  | .detachRuntime _ _ => some .failed
  | .cancel id _ => if id = operationId then some .cancelling else none
  | .markAcquiring id _ => if id = operationId then some .acquiring else none
  | .markReady id _ _ => if id = operationId then some .ready else none
  | .complete id outcome _ => if id = operationId then some outcome.code.operationStatus else none
  | .fail id _ _ => if id = operationId then some .failed else none
  | .attachRuntime | .start _ _ | .receive _ | .dropReceiver _ => none

namespace DtmfOperationState

def apply (state : DtmfOperationState) : DtmfOperationCall → DtmfOperationState
  | .attachRuntime => state.attachRuntime
  | .detachRuntime generation now => state.detachRuntime generation now
  | .start spec clock => (start spec).final clock state
  | .cancel operationId clock => (cancel operationId).final clock state
  | .markAcquiring operationId now => state.markAcquiring operationId now
  | .markReady operationId mediaGeneration now => state.markReady operationId mediaGeneration now
  | .complete operationId outcome now => state.complete operationId outcome now
  | .fail operationId reason now => state.fail operationId reason now
  | .receive tx => state.receive tx
  | .dropReceiver tx => state.dropReceiver tx

/-- A runtime is attached and its queue takes one more operation. -/
def hasRoom (state : DtmfOperationState) : Bool :=
  match state.runtime.bind fun runtime => state.queues[runtime.tx]? with
  | none => false
  | some queue => !queue.closed && queue.waiting.length < dtmfOperationQueueCapacity

/-- The id of the operation that a call starts. -/
def issues (state : DtmfOperationState) : DtmfOperationCall → Option DtmfOperationId
  | .start _ clock =>
    if state.hasRoom then some (operationIdOf clock.idMs (satSucc64 state.operationSequence))
    else none
  | _ => none

variable {s t : DtmfOperationState} {id operationId : DtmfOperationId} {v : DtmfOperationView}
  {spec : DtmfOperationSpec} {clock : OperationClock} {call : DtmfOperationCall}

theorem trySend_ok {tx : Nat} {operation : DtmfRuntimeOperation}
    (h : s.trySend tx operation = .ok t) :
    ∃ queue, s.queues[tx]? = some queue ∧ queue.closed = false ∧
      queue.waiting.length < dtmfOperationQueueCapacity ∧
      t = { s with
        queues := s.queues.set tx { queue with waiting := queue.waiting ++ [operation] } } := by
  unfold trySend at h
  split at h
  · cases h
  · next queue hQueue =>
      split at h
      · next sent hSent =>
          unfold DtmfOperationQueue.trySend at hSent
          split at hSent
          · cases hSent
          · next hClosed =>
              split at hSent
              · cases hSent
              · next hFull =>
                  obtain rfl := Except.ok.inj hSent
                  obtain rfl := Except.ok.inj h
                  exact ⟨queue, hQueue, Bool.not_eq_true _ ▸ hClosed, Nat.lt_of_not_le hFull, rfl⟩
      · cases h

theorem hasRoom_iff : s.hasRoom = true ↔ ∃ runtime queue, s.runtime = some runtime ∧
    s.queues[runtime.tx]? = some queue ∧ queue.closed = false ∧
    queue.waiting.length < dtmfOperationQueueCapacity := by
  unfold hasRoom
  cases hRuntime : s.runtime with
  | none => simp
  | some runtime =>
      cases hQueue : s.queues[runtime.tx]? with
      | none => simp [hQueue]
      | some queue => simp [hQueue]

theorem hasRoom_of_trySend {runtime : RuntimeBinding} {operation : DtmfRuntimeOperation}
    {sequence : Nat} {error : TrySendError} (hRuntime : s.runtime = some runtime)
    (h : ({ s with operationSequence := sequence } : DtmfOperationState).trySend runtime.tx
      operation = .error error) : s.hasRoom = false := by
  rw [Bool.eq_false_iff]
  intro hRoom
  obtain ⟨bound, queue, hBound, hQueue, hOpen, hLess⟩ := hasRoom_iff.mp hRoom
  rw [hRuntime, Option.some.injEq] at hBound
  subst hBound
  have hSent : queue.trySend operation =
      .ok { queue with waiting := queue.waiting ++ [operation] } := by
    rw [DtmfOperationQueue.trySend, if_neg (Bool.eq_false_iff.mp hOpen),
      if_neg (Nat.not_le_of_lt hLess)]
  simp only [trySend, hQueue, hSent, reduceCtorEq] at h

/-- A refused call may count in the sequence and may find the runtime gone; it changes nothing
else. -/
def Refused (s t : DtmfOperationState) : Prop :=
  ∃ sequence runtime,
    (sequence = s.operationSequence ∨ sequence = satSucc64 s.operationSequence) ∧
    (runtime = s.runtime ∨ runtime = none) ∧
    t = { s with operationSequence := sequence, runtime := runtime }

theorem refuse_post {α : Type} {error : TrySendError} {sequence : Nat} {Q : α → _ → Prop}
    (hSequence : sequence = s.operationSequence ∨ sequence = satSucc64 s.operationSequence) :
    Proc.Post (refuse error : OperationProc α) clock { s with operationSequence := sequence } Q
      s.Refused := by
  cases error with
  | full => exact ⟨sequence, s.runtime, hSequence, .inl rfl, rfl⟩
  | closed => exact ⟨sequence, none, hSequence, .inr rfl, rfl⟩

/-- What an accepted start does. -/
structure Started (s : DtmfOperationState) (spec : DtmfOperationSpec) (clock : OperationClock)
    (view : DtmfOperationView) (t : DtmfOperationState) : Prop where
  operationId : view.operationId = operationIdOf clock.idMs (satSucc64 s.operationSequence)
  status : view.status = .pending
  sent : ∃ runtime queue, s.runtime = some runtime ∧ s.queues[runtime.tx]? = some queue ∧
    queue.closed = false ∧ queue.waiting.length < dtmfOperationQueueCapacity ∧
    t.queues = s.queues.set runtime.tx
      { queue with waiting := queue.waiting ++ [.start view.operationId spec] }
  operations : t.operations = (trimOperations (s.order ++ [view.operationId])
    (s.operations.insert view.operationId view)).2
  runtime : t.runtime = s.runtime
  runtimeGeneration : t.runtimeGeneration = s.runtimeGeneration
  operationSequence : t.operationSequence = satSucc64 s.operationSequence

theorem start_post : Proc.Post (start spec) clock s (s.Started spec clock)
    fun t => s.hasRoom = false ∧ s.Refused t := by
  unfold start
  simp only [Proc.post_bind, Proc.post_read, Proc.post_get]
  split
  · next hRuntime =>
      refine ⟨?_, s.operationSequence, s.runtime, .inl rfl, .inl rfl, rfl⟩
      rw [hasRoom, hRuntime, Option.bind_none]
  · next runtime hRuntime =>
      simp only [Proc.post_bind, Proc.post_modify]
      split
      · next error hSent =>
          have hRoom : s.hasRoom = false := hasRoom_of_trySend hRuntime hSent
          exact (refuse_post (.inr rfl)).mono (fun _ _ h => h) fun _ hRefused => ⟨hRoom, hRefused⟩
      · next sent hSent =>
          obtain ⟨queue, hQueue, hOpen, hRoom, rfl⟩ := trySend_ok hSent
          simp only [Proc.post_bind, Proc.post_modify, Proc.post_pure]
          exact ⟨rfl, rfl, ⟨runtime, queue, hRuntime, hQueue, hOpen, hRoom, rfl⟩, rfl, rfl, rfl,
            rfl⟩

/-- What an accepted cancel does. -/
structure Cancelled (s : DtmfOperationState) (operationId : DtmfOperationId)
    (clock : OperationClock) (view : DtmfOperationView) (t : DtmfOperationState) : Prop where
  status : view.status = .cancelling
  operation : ∃ operation, s.operations.lookup operationId = some operation ∧
    operation.status.isTerminal = false ∧
    view = { operation with status := .cancelling, updatedAtMs := clock.nowMs }
  sent : ∃ runtime queue, s.runtime = some runtime ∧ s.queues[runtime.tx]? = some queue ∧
    t = { s with
      operations := s.operations.adjust operationId fun _ => view
      queues := s.queues.set runtime.tx
        { queue with waiting := queue.waiting ++ [.cancel operationId view.callId] } }

theorem cancel_post :
    Proc.Post (cancel operationId) clock s (s.Cancelled operationId clock) s.Refused := by
  have hSame : s.Refused s := ⟨s.operationSequence, s.runtime, .inl rfl, .inl rfl, rfl⟩
  unfold cancel
  simp only [Proc.post_bind, Proc.post_read, Proc.post_get]
  split
  · exact hSame
  · next runtime hRuntime =>
      split
      · exact hSame
      · next operation hOperation =>
          simp only [Proc.post_ite]
          split
          · exact hSame
          · next hOpen =>
              split
              · exact refuse_post (.inl rfl)
              · next sent hSent =>
                  obtain ⟨queue, hQueue, -, -, rfl⟩ := trySend_ok hSent
                  simp only [Proc.post_bind, Proc.post_modify, Proc.post_pure]
                  exact ⟨rfl, ⟨operation, hOperation, Bool.not_eq_true _ ▸ hOpen, rfl⟩,
                    ⟨runtime, queue, hRuntime, hQueue, rfl⟩⟩

theorem trimOperations_ascending {order : List DtmfOperationId}
    {operations : OrdMap DtmfOperationId DtmfOperationView} (h : operations.Ascending) :
    (trimOperations order operations).2.Ascending := by
  induction order generalizing operations with
  | nil => exact h
  | cons oldest rest ih =>
      rw [trimOperations]
      split
      · exact ih (h.erase oldest)
      · exact h

/-- What is kept is kept as it is. -/
theorem lookup_trimOperations {order : List DtmfOperationId}
    {operations : OrdMap DtmfOperationId DtmfOperationView} (h : operations.Ascending)
    (hKept : (trimOperations order operations).2.lookup id = some v) :
    operations.lookup id = some v := by
  induction order generalizing operations with
  | nil => exact hKept
  | cons oldest rest ih =>
      rw [trimOperations] at hKept
      split at hKept
      · have hErased := ih (h.erase oldest) hKept
        rw [OrdMap.lookup_erase h] at hErased
        split at hErased
        · cases hErased
        · exact hErased
      · exact hKept

theorem issues_of_started (h : s.Started spec clock v t) :
    s.issues (.start spec clock) = some v.operationId := by
  obtain ⟨runtime, queue, hRuntime, hQueue, hOpen, hRoom, -⟩ := h.sent
  rw [issues, if_pos (hasRoom_iff.mpr ⟨runtime, queue, hRuntime, hQueue, hOpen, hRoom⟩),
    h.operationId]

/-- The operations keep their ids in order through every call. -/
theorem apply_ascending (h : s.operations.Ascending) (call : DtmfOperationCall) :
    (s.apply call).operations.Ascending := by
  have hUpdate (id : DtmfOperationId) (now : Nat) (f : DtmfOperationView → DtmfOperationView) :
      (update id now f s).operations.Ascending := h.adjust id _
  cases call with
  | attachRuntime | receive _ | dropReceiver _ => exact h
  | detachRuntime generation now =>
      simp only [apply, detachRuntime]
      exact h.mapValues _
  | start spec clock =>
      refine Proc.Post.final (P := fun t => t.operations.Ascending) (start_post.mono ?_ ?_)
      · intro view t hStarted
        rw [hStarted.operations]
        exact trimOperations_ascending (h.insert _ _)
      · rintro _ ⟨-, _, _, -, -, rfl⟩
        exact h
  | cancel operationId clock =>
      refine Proc.Post.final (P := fun t => t.operations.Ascending) (cancel_post.mono ?_ ?_)
      · intro view t hCancelled
        obtain ⟨_, _, -, -, rfl⟩ := hCancelled.sent
        exact h.adjust _ _
      · rintro _ ⟨_, _, -, -, rfl⟩
        exact h
  | markAcquiring _ _ | markReady _ _ _ | complete _ _ _ | fail _ _ _ => exact hUpdate _ _ _

/-- The view of an operation after an update. -/
theorem lookup_update {now : Nat} {f : DtmfOperationView → DtmfOperationView}
    {v' : DtmfOperationView} (h : (update operationId now f s).operations.lookup id = some v') :
    ∃ v, s.operations.lookup id = some v ∧
      (v' = v ∧ (operationId = id → v.status.isTerminal = true) ∨
        operationId = id ∧ v.status.isTerminal = false ∧
          v' = { f v with updatedAtMs := now }) := by
  rw [update, OrdMap.lookup_adjust] at h
  split at h
  · next hSame =>
      subst hSame
      obtain ⟨v, hLookup, rfl⟩ := Option.map_eq_some_iff.mp h
      refine ⟨v, hLookup, ?_⟩
      split
      · next hOver => exact .inl ⟨rfl, fun _ => hOver⟩
      · next hOpen => exact .inr ⟨rfl, Bool.not_eq_true _ ▸ hOpen, rfl⟩
  · next hOther => exact ⟨v', h, .inl ⟨rfl, fun hSame => (hOther hSame).elim⟩⟩

/-- An operation that is there after a call was there before it, or the call has started it. A
call leaves an operation that is over as it is, and gives any other its own status. -/
theorem lookup_apply (hAscending : s.operations.Ascending) {v' : DtmfOperationView}
    (h : (s.apply call).operations.lookup id = some v') :
    (∃ v, s.operations.lookup id = some v ∧
      (v' = v ∨ v.status.isTerminal = false ∧ call.target id = some v'.status)) ∨
    s.issues call = some id ∧ v'.status = .pending := by
  have hUpdate (operationId : DtmfOperationId) (now : Nat)
      (f : DtmfOperationView → DtmfOperationView)
      (hTarget : ∀ v, operationId = id → call.target id = some (f v).status)
      (h : (update operationId now f s).operations.lookup id = some v') :
      ∃ v, s.operations.lookup id = some v ∧
        (v' = v ∨ v.status.isTerminal = false ∧ call.target id = some v'.status) := by
    obtain ⟨v, hLookup, hChange⟩ := lookup_update h
    refine ⟨v, hLookup, ?_⟩
    rcases hChange with ⟨hSame, -⟩ | ⟨hId, hOpen, rfl⟩
    · exact .inl hSame
    · exact .inr ⟨hOpen, hTarget v hId⟩
  cases call with
  | attachRuntime | receive _ | dropReceiver _ => exact .inl ⟨v', h, .inl rfl⟩
  | detachRuntime generation now =>
      rw [apply, detachRuntime, OrdMap.lookup_mapValues] at h
      obtain ⟨v, hLookup, rfl⟩ := Option.map_eq_some_iff.mp h
      refine .inl ⟨v, hLookup, ?_⟩
      split
      · exact .inl rfl
      · next hOpen => exact .inr ⟨Bool.not_eq_true _ ▸ hOpen, rfl⟩
  | start spec clock =>
      have hPost : Proc.Post (start spec) clock s
          (fun _ t => t.operations.lookup id = some v' → s.operations.lookup id = some v' ∨
            s.issues (.start spec clock) = some id ∧ v'.status = .pending)
          fun t => t.operations.lookup id = some v' → s.operations.lookup id = some v' ∨
            s.issues (.start spec clock) = some id ∧ v'.status = .pending := by
        apply start_post.mono
        · intro view t hStarted hLookup
          rw [hStarted.operations] at hLookup
          have hKept := lookup_trimOperations (hAscending.insert _ _) hLookup
          rw [OrdMap.lookup_insert] at hKept
          split at hKept
          · next hSame =>
              obtain rfl := Option.some.inj hKept
              exact .inr ⟨hSame ▸ issues_of_started hStarted, hStarted.status⟩
          · exact .inl hKept
        · rintro _ ⟨-, _, _, -, -, rfl⟩ hLookup
          exact .inl hLookup
      exact (hPost.final h).imp_left fun hLookup => ⟨v', hLookup, .inl rfl⟩
  | cancel operationId clock =>
      left
      refine Proc.Post.final (P := fun t => t.operations.lookup id = some v' → _)
        (cancel_post.mono ?_ ?_) h
      · intro view t hCancelled hLookup
        obtain ⟨operation, hOperation, hOpen, hView⟩ := hCancelled.operation
        obtain ⟨_, _, -, -, rfl⟩ := hCancelled.sent
        rw [OrdMap.lookup_adjust] at hLookup
        split at hLookup
        · next hSame =>
            subst hSame
            rw [hOperation, Option.map_some, Option.some.injEq] at hLookup
            subst hLookup
            refine ⟨operation, hOperation, .inr ⟨hOpen, ?_⟩⟩
            rw [DtmfOperationCall.target, if_pos rfl, hCancelled.status]
        · exact ⟨v', hLookup, .inl rfl⟩
      · rintro _ ⟨_, _, -, -, rfl⟩ hLookup
        exact ⟨v', hLookup, .inl rfl⟩
  | markAcquiring _ _ | markReady _ _ _ | complete _ _ _ | fail _ _ _ =>
      refine .inl (hUpdate _ _ _ ?_ h)
      intro v hId
      rw [DtmfOperationCall.target, if_pos hId]

end DtmfOperationState

end VoipSwitch
