import VoipSwitch.Call.Conformance
import VoipSwitch.Call.Reporting
import Mathlib.Algebra.Order.BigOperators.Group.List

/-! What an operation is told of its collection. Every collection is counted: its start waits in a
queue or a mailbox, its collector runs, or its result has been sent; there is never more than one of
these. An operation that no failure overtakes ends with the outcome of its collection. -/
namespace VoipSwitch

open Stateful Keyed Proc Transition

section Sums

variable {α : Type} {f : α → Nat} {l : List α} {i j : Nat} {a b : α}

theorem sum_map_set (f : α → Nat) (h : l[i]? = some b) :
    ((l.set i a).map f).sum + f b = (l.map f).sum + f a := by
  induction l generalizing i with
  | nil => simp at h
  | cons head rest ih =>
      cases i with
      | zero =>
          obtain rfl := Option.some.inj h
          simp only [List.set_cons_zero, List.map_cons, List.sum_cons]
          omega
      | succ i =>
          have hRest := ih (i := i) h
          simp only [List.set_cons_succ, List.map_cons, List.sum_cons]
          omega

theorem le_sum_map (f : α → Nat) (h : l[i]? = some b) : f b ≤ (l.map f).sum :=
  List.single_le_sum (fun _ _ => Nat.zero_le _) _ (List.mem_map_of_mem (List.mem_of_getElem? h))

theorem add_le_sum_map (f : α → Nat) (hA : l[i]? = some a) (hB : l[j]? = some b) (hOther : i ≠ j) :
    f a + f b ≤ (l.map f).sum := by
  induction l generalizing i j with
  | nil => simp at hA
  | cons head rest ih =>
      rw [List.map_cons, List.sum_cons]
      cases i with
      | zero =>
          cases j with
          | zero => exact (hOther rfl).elim
          | succ j =>
              obtain rfl := Option.some.inj hA
              exact Nat.add_le_add_left (le_sum_map (i := j) f hB) _
      | succ i =>
          cases j with
          | zero =>
              obtain rfl := Option.some.inj hB
              have hLe := le_sum_map (i := i) f hA
              omega
          | succ j =>
              have hLe := ih (i := i) (j := j) hA hB fun hSame => hOther (congrArg _ hSame)
              omega

/-- An update in place by which `f` does not grow. -/
theorem sum_map_modify_le {g : α → α} (hLe : ∀ a, f (g a) ≤ f a) :
    ((l.modify i g).map f).sum ≤ (l.map f).sum := by
  induction l generalizing i with
  | nil => simp
  | cons head rest ih =>
      cases i with
      | zero =>
          simp only [List.modify_zero_cons, List.map_cons, List.sum_cons]
          exact Nat.add_le_add_right (hLe head) _
      | succ i =>
          simp only [List.modify_succ_cons, List.map_cons, List.sum_cons]
          exact Nat.add_le_add_left ih _

end Sums

/-- The start of the operation `id`. -/
def DtmfRuntimeOperation.startsOf (id : DtmfOperationId) : DtmfRuntimeOperation → Bool
  | .start operationId _ => operationId = id
  | .cancel _ _ => false

def DtmfOperationQueue.starts (queue : DtmfOperationQueue) (id : DtmfOperationId) : Nat :=
  queue.waiting.countP (·.startsOf id)

/-- The starts of `id` that no runtime has taken yet. -/
def DtmfOperationState.starts (s : DtmfOperationState) (id : DtmfOperationId) : Nat :=
  (s.queues.map (·.starts id)).sum

def EventMessage.startsOf (id : CollectorId) : EventMessage → Bool
  | .startDigitCollection spec => spec.collectorId = id
  | .querySessionSummary | .cancelDigitCollection _ => false

/-- What a coordinator has of the collection `id`: its start, its collector, or its result. -/
def DigitCall.owed (actor : DigitCall) (id : CollectorId) : Nat :=
  actor.mailbox.countP (·.startsOf id) + actor.coordinator.dtmf.held id

namespace DtmfOperationState

variable {s t : DtmfOperationState} {id : DtmfOperationId} {call : DtmfOperationCall}

theorem starts_sent {queue : DtmfOperationQueue} {tx : Nat} {operation : DtmfRuntimeOperation}
    (hQueue : s.queues[tx]? = some queue)
    (hQueues : t.queues = s.queues.set tx
      { queue with waiting := queue.waiting ++ [operation] }) :
    t.starts id = s.starts id + if operation.startsOf id then 1 else 0 := by
  have hSum := sum_map_set (a := { queue with waiting := queue.waiting ++ [operation] })
    (fun queue : DtmfOperationQueue => queue.starts id) hQueue
  have hNew : DtmfOperationQueue.starts { queue with waiting := queue.waiting ++ [operation] } id =
      queue.starts id + if operation.startsOf id then 1 else 0 := by
    rw [DtmfOperationQueue.starts, List.countP_append, List.countP_singleton]
    rfl
  rw [starts, hQueues]
  rw [hNew] at hSum
  simp only [starts]
  omega

/-- Only an accepted start adds a start, and it adds the one of its own operation. -/
theorem starts_apply (s : DtmfOperationState) (call : DtmfOperationCall) (id : DtmfOperationId) :
    (s.apply call).starts id ≤ s.starts id + if s.issues call = some id then 1 else 0 := by
  cases call with
  | attachRuntime =>
      show ((s.queues ++ [({} : DtmfOperationQueue)]).map fun queue => queue.starts id).sum ≤ _
      rw [List.map_append, List.sum_append]
      exact Nat.le_add_right _ _
  | start spec clock =>
      refine Proc.Post.final (P := fun t => t.starts id ≤
        s.starts id + if s.issues (.start spec clock) = some id then 1 else 0)
        (start_post.mono ?_ ?_)
      · intro view t hStarted
        obtain ⟨runtime, queue, -, hQueue, -, -, hQueues⟩ := hStarted.sent
        rw [starts_sent hQueue hQueues, issues_of_started hStarted]
        simp only [DtmfRuntimeOperation.startsOf, decide_eq_true_eq, Option.some.injEq]
        exact le_rfl
      · rintro _ ⟨-, _, _, -, -, rfl⟩
        exact Nat.le_add_right _ _
  | cancel operationId clock =>
      refine Proc.Post.final (P := fun t => t.starts id ≤ s.starts id + _) (cancel_post.mono ?_ ?_)
      · intro view t hCancelled
        obtain ⟨runtime, queue, -, hQueue, rfl⟩ := hCancelled.sent
        rw [starts_sent hQueue rfl]
        simp only [DtmfRuntimeOperation.startsOf, Bool.false_eq_true, if_false]
        exact Nat.le_add_right _ _
      · rintro _ ⟨_, _, -, -, rfl⟩
        exact Nat.le_add_right _ _
  | receive tx =>
      refine le_trans (sum_map_modify_le fun queue => ?_) (Nat.le_add_right _ _)
      exact List.Sublist.countP_le (List.tail_sublist _)
  | dropReceiver tx =>
      refine le_trans (sum_map_modify_le fun queue => ?_) (Nat.le_add_right _ _)
      exact Nat.zero_le _
  | _ => exact Nat.le_add_right _ _

/-- A start that a runtime takes is not waiting any more. -/
theorem starts_receive (id : DtmfOperationId) {tx : Nat} {operation : DtmfRuntimeOperation}
    (h : s.queues[tx]?.bind (·.waiting.head?) = some operation) :
    (s.apply (.receive tx)).starts id + (if operation.startsOf id then 1 else 0) =
      s.starts id := by
  obtain ⟨queue, hQueue, hHead⟩ := Option.bind_eq_some_iff.mp h
  obtain ⟨rest, hWaiting⟩ := List.head?_eq_some_iff.mp hHead
  have hModify : s.queues.modify tx (fun queue => { queue with waiting := queue.waiting.tail }) =
      s.queues.set tx { queue with waiting := rest } := by
    rw [List.modify_eq_set_getElem?, hQueue]
    simp [hWaiting]
  have hSum := sum_map_set (a := { queue with waiting := rest })
    (fun queue : DtmfOperationQueue => queue.starts id) hQueue
  have hOld : queue.starts id = DtmfOperationQueue.starts { queue with waiting := rest } id +
      if operation.startsOf id then 1 else 0 := by
    rw [DtmfOperationQueue.starts, hWaiting, List.countP_cons]
    rfl
  show ((s.queues.modify tx _).map fun queue => DtmfOperationQueue.starts queue id).sum + _ = _
  rw [hModify]
  rw [hOld] at hSum
  simp only [starts]
  omega

end DtmfOperationState

namespace OperationRun

variable {run : OperationRun} {id : DtmfOperationId}

/-- No start of an operation waits before its id was given. -/
theorem starts_of_unissued (h : Reachable system run) (hNew : id ∉ run.issued) :
    run.service.starts id = 0 := by
  have hAll : ∀ id, id ∉ run.issued → run.service.starts id = 0 := by
    apply h.invariant
    · rintro _ rfl id -
      rfl
    · rintro before call _ hBefore rfl id hNew
      have hLe := DtmfOperationState.starts_apply before.service call id
      have hOld : id ∉ before.issued := fun hMem => hNew (List.mem_append_right _ hMem)
      have hOther : before.service.issues call ≠ some id := fun hIssues =>
        hNew (List.mem_append_left _ (Option.mem_toList.mpr hIssues))
      rw [hBefore id hOld, if_neg hOther] at hLe
      exact Nat.le_zero.mp hLe
  exact hAll id hNew

theorem isOperationId_operationIdOf (idMs sequence : Nat) :
    isOperationId (operationIdOf idMs sequence) = true := by
  have hChars : (operationIdOf idMs sequence).toList =
      "dtmf-op-".toList ++ (idMs.repr.toList ++ '-' :: sequence.repr.toList) := by
    simp [operationIdOf, toString]
  rw [isOperationId, hChars, List.isPrefixOf_iff_prefix]
  exact List.prefix_append _ _

theorem isOperationId_of_issued (h : Reachable system run) (hMem : id ∈ run.issued) :
    isOperationId id = true := by
  obtain ⟨idMs, number, -, rfl⟩ := (numbered_of_reachable h).2 id hMem
  exact isOperationId_operationIdOf idMs number

end OperationRun

/-- The operation shows how its collection ended. -/
structure DtmfOperationView.Reflects (v : DtmfOperationView) (outcome : DigitCollectionOutcome) :
    Prop where
  status : v.status = outcome.code.operationStatus
  resultCode : v.resultCode = some outcome.code.asStr
  digits : v.digits = some (formatDigits outcome.digits)
  digitCount : v.digitCount = outcome.digits.length

namespace DigitWorld

def view (w : DigitWorld) (id : DtmfOperationId) : Option DtmfOperationView :=
  w.run.service.operations.lookup id

/-- What there is of the collection of an operation, over all queues and calls. -/
def collections (w : DigitWorld) (id : DtmfOperationId) : Nat :=
  w.run.service.starts id + (w.calls.map (·.owed id)).sum

/-- A collector has produced this outcome for the operation `id`. -/
def Produced (w : DigitWorld) (id : DtmfOperationId) (outcome : DigitCollectionOutcome) : Prop :=
  outcome.collectorId = id ∧ ∃ (call : Nat) (actor : DigitCall), w.calls[call]? = some actor ∧
    .result outcome ∈ actor.coordinator.dtmf.replies

/-- What holds as long as no failure overtakes a collection. -/
structure Sound (w : DigitWorld) : Prop where
  reachable : Reachable OperationRun.system w.run
  filed : ∀ (call : Nat) (actor : DigitCall), w.calls[call]? = some actor →
    Filed actor.coordinator.dtmf.collectors
  closed : ∀ (call : Nat) (actor : DigitCall), w.calls[call]? = some actor →
    actor.closed = true → actor.mailbox = [] ∧ actor.coordinator.dtmf.collectors = []
  single : ∀ id, isOperationId id = true → w.collections id ≤ 1
  fresh : ∀ id, isOperationId id = true → id ∉ w.run.issued → w.collections id = 0
  issued : ∀ task ∈ w.tasks, task.operationId ∈ w.run.issued
  /-- What there is of a reported collection is with the call that its task listens to. -/
  placed : ∀ task ∈ w.tasks, w.run.service.starts task.operationId = 0 ∧
    ∀ (call : Nat) (actor : DigitCall), w.calls[call]? = some actor → call ≠ task.call →
      actor.owed task.operationId = 0
  told : ∀ id v, isOperationId id = true → w.view id = some v → v.status.isTerminal = true →
    w.collections id ≠ 0 → ∃ outcome, w.Produced id outcome ∧ v.Reflects outcome
  done : ∀ task ∈ w.tasks, task.phase = .done → ∀ v, w.view task.operationId = some v →
    v.status.isTerminal = true

variable {w next : DigitWorld} {id : DtmfOperationId} {v v' : DtmfOperationView}
  {outcome : DigitCollectionOutcome} {actor actor' : DigitCall} {call : Nat}

theorem collections_init : collections {} id = 0 := rfl

theorem sound_init : Sound {} where
  reachable := ⟨{}, rfl, .refl⟩
  filed call actor hActor := by simp at hActor
  closed call actor hActor := by simp at hActor
  single id _ := by
    rw [collections_init]
    exact Nat.zero_le 1
  fresh id _ _ := collections_init
  issued task hTask := by simp at hTask
  placed task hTask := by simp at hTask
  told id v _ hView := by simp [view] at hView
  done task hTask := by simp at hTask

theorem owed_pos (hResult : .result outcome ∈ actor.coordinator.dtmf.replies)
    (hId : outcome.collectorId = id) : 1 ≤ actor.owed id := by
  have hCount : 0 < actor.coordinator.dtmf.replies.countP (·.isResultOf id) :=
    List.countP_pos_iff.mpr ⟨_, hResult, by simp [CollectorReply.isResultOf, hId]⟩
  rw [DigitCall.owed, DtmfRuntime.held]
  omega

/-- What has produced its outcome is nowhere else. -/
theorem Produced.unique (hSingle : w.collections id ≤ 1) (h : w.Produced id outcome)
    {other : DigitCollectionOutcome} (h' : w.Produced id other) : other = outcome := by
  obtain ⟨hId, first, actor, hActor, hResult⟩ := h
  obtain ⟨hId', second, actor', hActor', hResult'⟩ := h'
  have hOwed := owed_pos hResult hId
  have hOwed' := owed_pos hResult' hId'
  rw [collections] at hSingle
  by_cases hSame : first = second
  · subst hSame
    obtain rfl := Option.some.inj (hActor.symm.trans hActor')
    have hAll := le_sum_map (fun actor : DigitCall => actor.owed id) hActor
    have hCount : actor.coordinator.dtmf.replies.countP (·.isResultOf id) ≤ 1 := by
      simp only [DigitCall.owed, DtmfRuntime.held] at hAll
      simp only [DigitCall.owed, DtmfRuntime.held] at hSingle
      omega
    rw [List.countP_eq_length_filter] at hCount
    have hMem : CollectorReply.result outcome ∈
        actor.coordinator.dtmf.replies.filter (·.isResultOf id) :=
      List.mem_filter.mpr ⟨hResult, by simp [CollectorReply.isResultOf, hId]⟩
    have hMem' : CollectorReply.result other ∈
        actor.coordinator.dtmf.replies.filter (·.isResultOf id) :=
      List.mem_filter.mpr ⟨hResult', by simp [CollectorReply.isResultOf, hId']⟩
    cases hFilter : actor.coordinator.dtmf.replies.filter (·.isResultOf id) with
    | nil => simp [hFilter] at hMem
    | cons reply rest =>
        rw [hFilter] at hMem hMem' hCount
        have hRest : rest = [] := by
          rw [List.length_cons] at hCount
          exact List.length_eq_zero_iff.mp (by omega)
        subst hRest
        rw [List.mem_singleton] at hMem hMem'
        exact (CollectorReply.result.inj (hMem.trans hMem'.symm)).symm
  · have hAll := add_le_sum_map (fun actor : DigitCall => actor.owed id) hActor hActor' hSame
    omega

/-- The view of an operation after a call: it is the one from before, or the call has given the
operation its status, or the operation is new. -/
theorem view_serve (h : w.Sound) {call : DtmfOperationCall} (hFresh : w.run.reissues call = false)
    (hView : (w.serve call).view id = some v') :
    (∃ v, w.view id = some v ∧ (v' = v ∨
      v.status.isTerminal = false ∧ call.target id = some v'.status)) ∨
    id ∉ w.run.issued ∧ v'.status = .pending := by
  rcases DtmfOperationState.lookup_apply (OperationRun.ascending_of_reachable h.reachable)
    hView with hOld | ⟨hIssues, hStatus⟩
  · exact .inl hOld
  · refine .inr ⟨?_, hStatus⟩
    intro hMem
    rw [OperationRun.reissues, hIssues, Option.any_some, decide_eq_false_iff_not] at hFresh
    exact hFresh hMem

theorem collections_serve (w : DigitWorld) (call : DtmfOperationCall) (id : DtmfOperationId) :
    (w.serve call).collections id ≤
      w.collections id + if w.run.service.issues call = some id then 1 else 0 := by
  have hLe := DtmfOperationState.starts_apply w.run.service call id
  show (w.run.service.apply call).starts id + _ ≤ _
  rw [collections]
  simp only [serve]
  omega

/-- A call on the service. Whatever it ends must end as its collection did, unless there is nothing
of the collection any more. -/
theorem Sound.serve (h : w.Sound) {call : DtmfOperationCall} (hFresh : w.run.reissues call = false)
    (hEnds : ∀ id v v', isOperationId id = true → (w.serve call).collections id ≠ 0 →
      w.view id = some v → v.status.isTerminal = false → (w.serve call).view id = some v' →
      call.target id = some v'.status → v'.status.isTerminal = true →
      ∃ outcome, w.Produced id outcome ∧ v'.Reflects outcome) : (w.serve call).Sound := by
  have hIssued (id : DtmfOperationId) (hMem : id ∈ w.run.issued) :
      w.run.service.issues call ≠ some id := by
    intro hIssues
    rw [OperationRun.reissues, hIssues, Option.any_some, decide_eq_false_iff_not] at hFresh
    exact hFresh hMem
  have hStep : Reachable OperationRun.system (w.serve call).run :=
    h.reachable.runs (.step (C := fun _ _ => True) .refl trivial rfl)
  have hKept (id : DtmfOperationId) (hMem : id ∈ w.run.issued) :
      (w.serve call).collections id ≤ w.collections id := by
    have hLe := collections_serve w call id
    rwa [if_neg (hIssued id hMem)] at hLe
  refine ⟨hStep, h.filed, h.closed, ?_, ?_, ?_, ?_, ?_, ?_⟩
  · intro id hId
    by_cases hMem : id ∈ w.run.issued
    · exact le_trans (hKept id hMem) (h.single id hId)
    · have hLe := collections_serve w call id
      rw [h.fresh id hId hMem] at hLe
      split at hLe <;> omega
  · intro id hId hNew
    have hLe := collections_serve w call id
    have hOther : w.run.service.issues call ≠ some id := fun hIssues =>
      hNew (List.mem_append_left _ (Option.mem_toList.mpr hIssues))
    rw [h.fresh id hId fun hMem => hNew (List.mem_append_right _ hMem), if_neg hOther] at hLe
    exact Nat.le_zero.mp hLe
  · intro task hTask
    exact List.mem_append_right _ (h.issued task hTask)
  · intro task hTask
    refine ⟨?_, (h.placed task hTask).2⟩
    have hLe := DtmfOperationState.starts_apply w.run.service call task.operationId
    rw [if_neg (hIssued _ (h.issued task hTask)), (h.placed task hTask).1] at hLe
    exact Nat.le_zero.mp hLe
  · intro id v' hId hView hOver hThere
    rcases view_serve h hFresh hView with ⟨v, hBefore, hChange⟩ | ⟨-, hPending⟩
    · rcases hChange with rfl | ⟨hOpen, hTarget⟩
      · have hMem := OperationRun.issued_of_reachable h.reachable hBefore
        have hWas : w.collections id ≠ 0 := by
          have hLe := hKept id hMem
          omega
        exact h.told id v' hId hBefore hOver hWas
      · exact hEnds id v v' hId hThere hBefore hOpen hView hTarget hOver
    · rw [hPending] at hOver
      simp only [DtmfOperationStatus.isTerminal, Bool.false_eq_true] at hOver
  · intro task hTask hDone v' hView
    rcases view_serve h hFresh hView with ⟨v, hBefore, hChange⟩ | ⟨hNew, -⟩
    · have hOver := h.done task hTask hDone v hBefore
      rcases hChange with rfl | ⟨hOpen, -⟩
      · exact hOver
      · rw [hOver] at hOpen
        simp only [Bool.true_eq_false] at hOpen
    · exact (hNew (h.issued task hTask)).elim

/-- A call that ends nothing. -/
theorem Sound.serve_open (h : w.Sound) {call : DtmfOperationCall}
    (hFresh : w.run.reissues call = false)
    (hTarget : ∀ id status, call.target id = some status → status.isTerminal = false) :
    (w.serve call).Sound := by
  apply h.serve hFresh
  intro id v v' _ _ _ _ _ hStatus hOver
  rw [hTarget id _ hStatus] at hOver
  simp only [Bool.false_eq_true] at hOver

theorem reissues_of_issues {run : OperationRun} {call : DtmfOperationCall}
    (h : run.service.issues call = none) : run.reissues call = false := by
  rw [OperationRun.reissues, h, Option.any_none]

/-- A failure of an operation that is over, or of whose collection nothing is left. -/
theorem Sound.fail (h : w.Sound) {reason : String} {now : Nat}
    (hLost : isOperationId id = true → w.collections id ≠ 0 → ∀ v, w.view id = some v →
      v.status.isTerminal = true) : (w.serve (.fail id reason now)).Sound := by
  apply h.serve (reissues_of_issues rfl)
  intro other v v' hId hThere hBefore hOpen _ hTarget _
  rw [DtmfOperationCall.target, Option.ite_none_right_eq_some] at hTarget
  obtain ⟨rfl, -⟩ := hTarget
  have hOver := hLost hId hThere v hBefore
  rw [hOpen] at hOver
  simp only [Bool.false_eq_true] at hOver

theorem getElem?_set_cases {α : Type} {l : List α} {i j : Nat} {a b : α}
    (h : (l.set i a)[j]? = some b) : j = i ∧ b = a ∨ j ≠ i ∧ l[j]? = some b := by
  rw [List.getElem?_set] at h
  split at h
  · next hSame =>
      split at h
      · exact .inl ⟨hSame.symm, (Option.some.inj h).symm⟩
      · cases h
  · next hOther => exact .inr ⟨Ne.symm hOther, h⟩

/-- What a coordinator has of the collections shrinks, and what it has sent stays sent. -/
theorem Sound.setCall (h : w.Sound) (hActor : w.calls[call]? = some actor)
    (hOwed : ∀ id, isOperationId id = true → actor'.owed id ≤ actor.owed id)
    (hFiled : Filed actor'.coordinator.dtmf.collectors)
    (hClosed : actor'.closed = true →
      actor'.mailbox = [] ∧ actor'.coordinator.dtmf.collectors = [])
    (hSent : actor.coordinator.dtmf.replies <:+ actor'.coordinator.dtmf.replies)
    (answers : List (DtmfOperationId × Except String Unit)) :
    Sound { w with calls := w.calls.set call actor', answers := answers } := by
  have hKept (id : DtmfOperationId) (hId : isOperationId id = true) :
      collections { w with calls := w.calls.set call actor', answers := answers } id ≤
        w.collections id := by
    have hSum := sum_map_set (a := actor') (fun actor : DigitCall => actor.owed id) hActor
    have hLe := hOwed id hId
    simp only [collections]
    omega
  refine ⟨h.reachable, ?_, ?_, ?_, ?_, h.issued, ?_, ?_, h.done⟩
  · intro other found hFound
    rcases getElem?_set_cases hFound with ⟨-, rfl⟩ | ⟨-, hOther⟩
    · exact hFiled
    · exact h.filed other found hOther
  · intro other found hFound
    rcases getElem?_set_cases hFound with ⟨-, rfl⟩ | ⟨-, hOther⟩
    · exact hClosed
    · exact h.closed other found hOther
  · intro id hId
    exact le_trans (hKept id hId) (h.single id hId)
  · intro id hId hNew
    have hLe := hKept id hId
    rw [h.fresh id hId hNew] at hLe
    exact Nat.le_zero.mp hLe
  · intro task hTask
    refine ⟨(h.placed task hTask).1, ?_⟩
    intro other found hFound hElsewhere
    rcases getElem?_set_cases hFound with ⟨rfl, rfl⟩ | ⟨-, hOther⟩
    · have hLe := hOwed task.operationId
        (OperationRun.isOperationId_of_issued h.reachable (h.issued task hTask))
      rw [(h.placed task hTask).2 other actor hActor hElsewhere] at hLe
      exact Nat.le_zero.mp hLe
    · exact (h.placed task hTask).2 other found hOther hElsewhere
  · intro id v hId hView hOver hThere
    have hWas : w.collections id ≠ 0 := by
      have hLe := hKept id hId
      omega
    obtain ⟨outcome, ⟨hOwn, other, found, hFound, hResult⟩, hReflects⟩ :=
      h.told id v hId hView hOver hWas
    refine ⟨outcome, ⟨hOwn, ?_⟩, hReflects⟩
    by_cases hSame : call = other
    · subst hSame
      obtain rfl := Option.some.inj (hActor.symm.trans hFound)
      have hLess : call < w.calls.length := (List.getElem?_eq_some_iff.mp hActor).1
      exact ⟨call, actor', List.getElem?_set_self hLess, hSent.mem hResult⟩
    · exact ⟨other, found, (List.getElem?_set_ne hSame).trans hFound, hResult⟩

/-- A task goes on to its next phase. -/
theorem Sound.setTask (h : w.Sound) {task : ResultTask} {i : Nat} {phase : ResultPhase}
    (hTask : w.tasks[i]? = some task)
    (hDone : phase = .done → ∀ v, w.view task.operationId = some v → v.status.isTerminal = true) :
    Sound { w with tasks := w.tasks.set i { task with phase } } := by
  have hMem (other : ResultTask) (hOther : other ∈ w.tasks.set i { task with phase }) :
      ∃ before ∈ w.tasks, before.operationId = other.operationId ∧ before.call = other.call := by
    rcases List.mem_or_eq_of_mem_set hOther with hBefore | rfl
    · exact ⟨other, hBefore, rfl, rfl⟩
    · exact ⟨task, List.mem_of_getElem? hTask, rfl, rfl⟩
  refine ⟨h.reachable, h.filed, h.closed, h.single, h.fresh, ?_, ?_, h.told, ?_⟩
  · intro other hOther
    obtain ⟨before, hBefore, hId, -⟩ := hMem other hOther
    exact hId ▸ h.issued before hBefore
  · intro other hOther
    obtain ⟨before, hBefore, hId, hCall⟩ := hMem other hOther
    rw [← hId, ← hCall]
    exact h.placed before hBefore
  · intro other hOther hPhase
    rcases List.mem_or_eq_of_mem_set hOther with hBefore | rfl
    · exact h.done other hBefore hPhase
    · exact hDone hPhase

/-- A new call has no collections. -/
theorem Sound.openCall (h : w.Sound) (coordinator : Coordinator) :
    Sound { w with calls := w.calls ++ [{ coordinator := { coordinator with dtmf := {} } }] } := by
  have hLookup (other : Nat) (found : DigitCall)
      (hFound : (w.calls ++ [{ coordinator := { coordinator with dtmf := {} } }])[other]? =
        some found) :
      w.calls[other]? = some found ∨
        found = { coordinator := { coordinator with dtmf := {} } } := by
    rw [List.getElem?_append] at hFound
    split at hFound
    · exact .inl hFound
    · exact .inr (List.mem_singleton.mp (List.mem_of_getElem? hFound))
  have hSame (id : DtmfOperationId) : collections
      { w with calls := w.calls ++ [{ coordinator := { coordinator with dtmf := {} } }] } id =
        w.collections id := by
    simp only [collections, List.map_append, List.sum_append]
    rfl
  refine ⟨h.reachable, ?_, ?_, ?_, ?_, h.issued, ?_, ?_, h.done⟩
  · intro other found hFound
    rcases hLookup other found hFound with hOld | rfl
    · exact h.filed other found hOld
    · exact ⟨.nil, by intro id collector hNone; simp at hNone,
        by intro id collector outcome hNone; simp at hNone⟩
  · intro other found hFound hClosed
    rcases hLookup other found hFound with hOld | rfl
    · exact h.closed other found hOld hClosed
    · exact ⟨rfl, rfl⟩
  · intro id hId
    rw [hSame]
    exact h.single id hId
  · intro id hId hNew
    rw [hSame]
    exact h.fresh id hId hNew
  · intro task hTask
    refine ⟨(h.placed task hTask).1, ?_⟩
    intro other found hFound hElsewhere
    rcases hLookup other found hFound with hOld | rfl
    · exact (h.placed task hTask).2 other found hOld hElsewhere
    · rfl
  · intro id v hId hView hOver hThere
    rw [hSame] at hThere
    obtain ⟨outcome, ⟨hOwn, other, found, hFound, hResult⟩, hReflects⟩ :=
      h.told id v hId hView hOver hThere
    exact ⟨outcome, ⟨hOwn, other, found,
      List.getElem?_append_left (List.getElem?_eq_some_iff.mp hFound).1 ▸ hFound, hResult⟩,
      hReflects⟩

/-- The start of an operation is passed on to the coordinator of its call, and a task waits for
what comes of it. -/
theorem Sound.passed (h : w.Sound) {spec : DigitCollectionSpec}
    (hActor : w.calls[call]? = some actor) (hOpened : actor.closed = false)
    (hIssued : spec.collectorId ∈ w.run.issued)
    (hNone : w.collections spec.collectorId = 0)
    (hOpen : ∀ v, w.view spec.collectorId = some v → v.status.isTerminal = false)
    (hTasks : ∀ task ∈ w.tasks, task.operationId ≠ spec.collectorId) :
    Sound { w with
      calls := w.calls.set call
        { actor with mailbox := actor.mailbox ++ [.startDigitCollection spec] }
      tasks := w.tasks ++ [{ operationId := spec.collectorId, call, phase := .ready }] } := by
  have hOwed (id : DtmfOperationId) : DigitCall.owed
      { actor with mailbox := actor.mailbox ++ [.startDigitCollection spec] } id =
        actor.owed id + if spec.collectorId = id then 1 else 0 := by
    simp only [DigitCall.owed, List.countP_append, List.countP_singleton, EventMessage.startsOf,
      decide_eq_true_eq]
    omega
  have hSum (id : DtmfOperationId) : collections { w with
      calls := w.calls.set call
        { actor with mailbox := actor.mailbox ++ [.startDigitCollection spec] }
      tasks := w.tasks ++ [{ operationId := spec.collectorId, call, phase := .ready }] } id =
        w.collections id + if spec.collectorId = id then 1 else 0 := by
    have hSet := sum_map_set
      (a := { actor with mailbox := actor.mailbox ++ [.startDigitCollection spec] })
      (fun actor : DigitCall => actor.owed id) hActor
    simp only [hOwed] at hSet
    simp only [collections]
    omega
  have hZero := hNone
  rw [collections, Nat.add_eq_zero_iff] at hZero
  refine ⟨h.reachable, ?_, ?_, ?_, ?_, ?_, ?_, ?_, ?_⟩
  · intro other found hFound
    rcases getElem?_set_cases hFound with ⟨-, rfl⟩ | ⟨-, hOther⟩
    · exact h.filed call actor hActor
    · exact h.filed other found hOther
  · intro other found hFound hClosed
    rcases getElem?_set_cases hFound with ⟨-, rfl⟩ | ⟨-, hOther⟩
    · rw [hOpened] at hClosed
      simp only [Bool.false_eq_true] at hClosed
    · exact h.closed other found hOther hClosed
  · intro id hId
    rw [hSum]
    split
    · next hSame =>
        rw [← hSame, hNone]
    · exact h.single id hId
  · intro id hId hNew
    rw [hSum, if_neg fun hSame : spec.collectorId = id => hNew (hSame ▸ hIssued)]
    exact h.fresh id hId hNew
  · intro task hTask
    rcases List.mem_append.mp hTask with hOld | hNew
    · exact h.issued task hOld
    · rw [List.mem_singleton.mp hNew]
      exact hIssued
  · intro task hTask
    rcases List.mem_append.mp hTask with hOld | hNew
    · refine ⟨(h.placed task hOld).1, ?_⟩
      intro other found hFound hElsewhere
      rcases getElem?_set_cases hFound with ⟨rfl, rfl⟩ | ⟨-, hOther⟩
      · rw [hOwed, if_neg (Ne.symm (hTasks task hOld))]
        exact (h.placed task hOld).2 other actor hActor hElsewhere
      · exact (h.placed task hOld).2 other found hOther hElsewhere
    · rw [List.mem_singleton.mp hNew]
      refine ⟨hZero.1, ?_⟩
      intro other found hFound hElsewhere
      rcases getElem?_set_cases hFound with ⟨hSame, -⟩ | ⟨-, hOther⟩
      · exact (hElsewhere hSame).elim
      · have hLe := le_sum_map (fun actor : DigitCall => actor.owed spec.collectorId) hOther
        rw [hZero.2] at hLe
        exact Nat.le_zero.mp hLe
  · intro id v hId hView hOver hThere
    rw [hSum] at hThere
    by_cases hSame : spec.collectorId = id
    · subst hSame
      rw [hOpen v hView] at hOver
      simp only [Bool.false_eq_true] at hOver
    · rw [if_neg hSame] at hThere
      obtain ⟨outcome, ⟨hOwn, other, found, hFound, hResult⟩, hReflects⟩ :=
        h.told id v hId hView hOver hThere
      refine ⟨outcome, ⟨hOwn, ?_⟩, hReflects⟩
      by_cases hCall : call = other
      · subst hCall
        obtain rfl := Option.some.inj (hActor.symm.trans hFound)
        have hLess : call < w.calls.length := (List.getElem?_eq_some_iff.mp hActor).1
        exact ⟨call, _, List.getElem?_set_self hLess, hResult⟩
      · exact ⟨other, found, (List.getElem?_set_ne hCall).trans hFound, hResult⟩
  · intro task hTask hPhase
    rcases List.mem_append.mp hTask with hOld | hNew
    · exact h.done task hOld hPhase
    · rw [List.mem_singleton.mp hNew] at hPhase
      cases hPhase

theorem post_ok {message : EventMessage} (h : w.post call message = .ok next) :
    ∃ actor, w.calls[call]? = some actor ∧ actor.closed = false ∧
      next = { w with
        calls := w.calls.set call { actor with mailbox := actor.mailbox ++ [message] } } := by
  unfold post at h
  split at h
  · cases h
  · next actor hActor =>
      split at h
      · cases h
      · next hClosed =>
          split at h
          · cases h
          · exact ⟨actor, hActor, Bool.not_eq_true _ ▸ hClosed, (Except.ok.inj h).symm⟩

/-- A message that starts no collection of an operation. -/
theorem Sound.posted (h : w.Sound) {message : EventMessage}
    (hOther : ∀ id, isOperationId id = true → message.startsOf id = false)
    (hPost : w.post call message = .ok next) : next.Sound := by
  obtain ⟨actor, hActor, hOpened, rfl⟩ := post_ok hPost
  apply h.setCall hActor
  · intro id hId
    simp only [DigitCall.owed, List.countP_append, List.countP_singleton, hOther id hId]
    exact le_rfl
  · exact h.filed call actor hActor
  · intro hClosed
    rw [hOpened] at hClosed
    simp only [Bool.false_eq_true] at hClosed
  · exact List.suffix_rfl

theorem collections_receive (id : DtmfOperationId) {tx : Nat} {operation : DtmfRuntimeOperation}
    (h : w.waiting tx = some operation) :
    (w.serve (.receive tx)).collections id + (if operation.startsOf id then 1 else 0) =
      w.collections id := by
  have hStarts := DtmfOperationState.starts_receive id h
  show (w.run.service.apply (.receive tx)).starts id + _ + _ = _
  rw [collections]
  simp only [serve]
  omega

/-- A runtime handles the start of an operation. -/
theorem Sound.handleStart (h : w.Sound) {tx now : Nat} {spec : DtmfOperationSpec}
    (hNext : w.waiting tx = some (.start id spec)) (found : SessionLookup) :
    ((w.serve (.receive tx)).handleStart id spec found now).Sound := by
  have hTaken := collections_receive id hNext
  rw [if_pos (by simp [DtmfRuntimeOperation.startsOf])] at hTaken
  have hStarts : w.run.service.starts id ≠ 0 := by
    have hReceive := DtmfOperationState.starts_receive id hNext
    rw [if_pos (by simp [DtmfRuntimeOperation.startsOf])] at hReceive
    omega
  have hIssued : id ∈ w.run.issued := by
    by_contra hNew
    exact hStarts (OperationRun.starts_of_unissued h.reachable hNew)
  have hId := OperationRun.isOperationId_of_issued h.reachable hIssued
  have hSingle := h.single id hId
  have hNone : (w.serve (.receive tx)).collections id = 0 := by omega
  have hTasks (task : ResultTask) (hTask : task ∈ w.tasks) : task.operationId ≠ id := by
    rintro rfl
    exact hStarts (h.placed task hTask).1
  have hOpen (v : DtmfOperationView) (hView : w.view id = some v) :
      v.status.isTerminal = false := by
    rw [Bool.eq_false_iff]
    intro hOver
    obtain ⟨outcome, ⟨hOwn, call, actor, hActor, hResult⟩, -⟩ :=
      h.told id v hId hView hOver (by omega)
    have hOwed := owed_pos hResult hOwn
    have hSum := le_sum_map (fun actor : DigitCall => actor.owed id) hActor
    rw [collections] at hSingle
    omega
  have hReceived : (w.serve (.receive tx)).Sound :=
    h.serve_open (reissues_of_issues rfl) (by simp [DtmfOperationCall.target])
  unfold DigitWorld.handleStart
  split
  · exact hReceived.fail fun _ hThere => (hThere hNone).elim
  · next call sourceSessionId _ =>
      have hAcquiring : ((w.serve (.receive tx)).serve (.markAcquiring id now)).Sound := by
        apply hReceived.serve_open (reissues_of_issues rfl)
        intro other status hTarget
        rw [DtmfOperationCall.target, Option.ite_none_right_eq_some] at hTarget
        rw [← Option.some.inj hTarget.2]
        rfl
      have hStill : ((w.serve (.receive tx)).serve (.markAcquiring id now)).collections id = 0 := by
        have hLe := collections_serve (w.serve (.receive tx)) (.markAcquiring id now) id
        rw [hNone] at hLe
        exact Nat.le_zero.mp hLe
      simp only
      split
      · exact hAcquiring.fail fun _ hThere => (hThere hStill).elim
      · next passed hPost =>
          obtain ⟨actor, hActor, hOpened, rfl⟩ := post_ok hPost
          refine hAcquiring.passed hActor hOpened hIssued hStill ?_ hTasks
          intro v' hView
          rcases view_serve hReceived (reissues_of_issues rfl) hView with
            ⟨v, hBefore, hChange⟩ | ⟨-, hPending⟩
          · rcases hChange with rfl | ⟨-, hTarget⟩
            · exact hOpen v' hBefore
            · rw [DtmfOperationCall.target, Option.ite_none_right_eq_some] at hTarget
              rw [← Option.some.inj hTarget.2]
              rfl
          · rw [hPending]
            rfl

/-- The failures that a step stores by itself, not as the outcome of a collection: a cancel that is
refused or answered by an error, and the loss of a runtime. -/
def fails (w : DigitWorld) (id : DtmfOperationId) : DigitStep → Bool
  | .service (.detachRuntime _ _) => true
  | .handle tx found _ =>
    match w.waiting tx with
    | some (.cancel operationId _) =>
      operationId = id &&
        match found.forCancel with
        | .error _ => true
        | .ok call => !(w.post call (.cancelDigitCollection operationId)).isOk
    | _ => false
  | .reportCancel answer _ =>
    match w.answers[answer]? with
    | some (operationId, .error _) => operationId = id
    | _ => false
  | _ => false

/-- No failure overtakes a collection: it is stored for operations only that are over, or of whose
collection there is nothing. No operation gets the id of an earlier one. -/
def Careful (w : DigitWorld) (step : DigitStep) : Prop :=
  (∀ id, w.fails id step = true → w.collections id ≠ 0 →
    ∀ v, w.view id = some v → v.status.isTerminal = true) ∧
  ∀ call, step = .service call → w.run.reissues call = false

theorem Sound.handleCancel (h : w.Sound) {tx now : Nat} {callId : CallId}
    (hNext : w.waiting tx = some (.cancel id callId)) (found : SessionLookup)
    (hCareful : w.fails id (.handle tx found now) = true → w.collections id ≠ 0 →
      ∀ v, w.view id = some v → v.status.isTerminal = true) :
    ((w.serve (.receive tx)).handleCancel id found now).Sound := by
  have hReceived : (w.serve (.receive tx)).Sound :=
    h.serve_open (reissues_of_issues rfl) (by simp [DtmfOperationCall.target])
  have hSame := collections_receive id hNext
  rw [if_neg (by simp [DtmfRuntimeOperation.startsOf]), Nat.add_zero] at hSame
  have hFail (reason : String) (hFails : w.fails id (.handle tx found now) = true) :
      ((w.serve (.receive tx)).serve (.fail id reason now)).Sound := by
    apply hReceived.fail
    intro _ hThere
    exact hCareful hFails (hSame ▸ hThere)
  simp only [fails, hNext, decide_true, Bool.true_and] at hFail
  unfold DigitWorld.handleCancel
  split
  · next reason hFound =>
      rw [hFound] at hFail
      exact hFail reason rfl
  · next call hFound =>
      rw [hFound] at hFail
      split
      · next reason hPost =>
          apply hFail reason
          have hRefused : ∃ error, w.post call (.cancelDigitCollection id) = .error error := by
            cases hSent : w.post call (.cancelDigitCollection id) with
            | error error => exact ⟨error, rfl⟩
            | ok sent =>
                obtain ⟨actor, hActor, hClosed, hSet⟩ := post_ok hSent
                unfold post at hSent hPost
                rw [show (w.serve (.receive tx)).calls = w.calls from rfl] at hPost
                rw [hActor] at hSent hPost
                simp only [hClosed, Bool.false_eq_true, if_false] at hSent hPost
                split at hPost
                · next hFull =>
                    rw [if_pos hFull] at hSent
                    cases hSent
                · cases hPost
          obtain ⟨error, hError⟩ := hRefused
          simp only [hError, Except.isOk, Except.toBool, Bool.not_false]
      · next passed hPost =>
          exact hReceived.posted (fun _ _ => rfl) hPost

theorem contained (hFiled : Filed actor.coordinator.dtmf.collectors) :
    Coordinator.Budgeted actor.coordinator.dtmf.held actor.coordinator.dtmf.replies
      actor.coordinator :=
  ⟨hFiled, fun _ => le_rfl, List.suffix_rfl⟩

/-- A coordinator works on its collections, and may have taken a message from its mailbox. -/
theorem Sound.worked (h : w.Sound) (hActor : w.calls[call]? = some actor)
    (hOpened : actor.closed = false) {cap : CollectorId → Nat} {mailbox : List EventMessage}
    {coordinator : Coordinator}
    (hWithin : Coordinator.Budgeted cap actor.coordinator.dtmf.replies coordinator)
    (hCap : ∀ id, mailbox.countP (·.startsOf id) + cap id ≤ actor.owed id)
    (answers : List (DtmfOperationId × Except String Unit)) :
    Sound { w with
      calls := w.calls.set call { actor with coordinator := coordinator, mailbox := mailbox }
      answers := answers } := by
  apply h.setCall hActor
  · intro id _
    exact le_trans (Nat.add_le_add_left (hWithin.held id) _) (hCap id)
  · exact hWithin.filed
  · intro hClosed
    rw [hOpened] at hClosed
    simp only [Bool.false_eq_true] at hClosed
  · exact hWithin.sent

theorem handler_contains (event : CollectorEvent) : Coordinator.Contains event.handler := by
  cases event with
  | capabilityAcquired actionId result =>
      exact Coordinator.handleDtmfCapabilityAcquired_contains actionId result
  | capabilityReleased actionId result =>
      exact Coordinator.handleDtmfCapabilityReleased_contains actionId result
  | digit event =>
      exact (Coordinator.collectDigit_contains event).bind fun _ => .pure ()
  | timeout generation collectorId deadline =>
      exact Coordinator.handleDigitCollectorTimeout_contains generation collectorId deadline
  | aborted reason => exact Coordinator.abortDigitCollection_contains reason

theorem Sound.advance (h : w.Sound) {f : DigitCall → Option DigitCall}
    (hStep : w.advance call f = some next)
    (hf : ∀ actor actor', w.calls[call]? = some actor → f actor = some actor' →
      ∃ coordinator, actor' = { actor with coordinator := coordinator } ∧
        Coordinator.Budgeted actor.coordinator.dtmf.held actor.coordinator.dtmf.replies
          coordinator) : next.Sound := by
  unfold DigitWorld.advance at hStep
  split at hStep
  · cases hStep
  · next actor hActor =>
      split at hStep
      · cases hStep
      · next hOpened =>
          split at hStep
          · cases hStep
          · next actor' hNext =>
              obtain ⟨coordinator, rfl, hWithin⟩ := hf actor actor' hActor hNext
              rw [← Option.some.inj hStep]
              exact h.worked hActor (Bool.not_eq_true _ ▸ hOpened) hWithin (fun _ => le_rfl)
                w.answers

theorem Sound.takeMessage (h : w.Sound) {env : Env} (hStep : w.takeMessage call env = some next) :
    next.Sound := by
  unfold DigitWorld.takeMessage at hStep
  split at hStep
  · cases hStep
  · next actor hActor =>
      have hFiled := h.filed call actor hActor
      split at hStep
      · cases hStep
      · cases hStep
      · next mailbox hOpened hMailbox =>
          rw [← Option.some.inj hStep]
          apply h.worked hActor hOpened (contained hFiled) _ w.answers
          intro id
          rw [DigitCall.owed, hMailbox, List.countP_cons]
          omega
      · next spec mailbox hOpened hMailbox =>
          rw [← Option.some.inj hStep]
          have hPost : Post _ env _ _ _ :=
            Coordinator.startDigitCollection_post spec (contained hFiled)
          apply h.worked hActor hOpened hPost.final _ w.answers
          intro id
          rw [DigitCall.owed, hMailbox, List.countP_cons, Coordinator.grant]
          simp only [EventMessage.startsOf, decide_eq_true_eq]
          by_cases hSame : id = spec.collectorId
          · rw [if_pos hSame, if_pos hSame.symm]
            omega
          · rw [if_neg hSame, if_neg (Ne.symm hSame)]
            omega
      · next id mailbox hOpened hMailbox =>
          rw [← Option.some.inj hStep]
          have hPost := Coordinator.cancelDigitCollection_contains id env _ _ _ (contained hFiled)
          apply h.worked hActor hOpened hPost.final
          intro other
          rw [DigitCall.owed, hMailbox, List.countP_cons]
          omega

theorem Sound.closeCall (h : w.Sound) (hStep : w.closeCall call = some next) : next.Sound := by
  unfold DigitWorld.closeCall at hStep
  split at hStep
  · cases hStep
  · next actor hActor =>
      rw [← Option.some.inj hStep]
      apply h.setCall hActor
      · intro id _
        simp only [DigitCall.owed, DtmfRuntime.held, List.countP_nil, OrdMap.contains,
          OrdMap.lookup_nil, Option.isSome_none, Bool.false_eq_true, if_false]
        omega
      · exact ⟨.nil, by intro id collector hNone; simp at hNone,
          by intro id collector outcome hNone; simp at hNone⟩
      · exact fun _ => ⟨rfl, rfl⟩
      · exact List.suffix_rfl

theorem Sound.reportReady (h : w.Sound) {i now : Nat} (hStep : w.reportReady i now = some next) :
    next.Sound := by
  unfold DigitWorld.reportReady at hStep
  split at hStep
  · next operationId call hTask =>
      split at hStep
      · cases hStep
      · split at hStep
        · next _ ready _ =>
            rw [← Option.some.inj hStep]
            have hReady : (w.serve (.markReady operationId ready.mediaGeneration now)).Sound := by
              apply h.serve_open (reissues_of_issues rfl)
              intro other status hTarget
              rw [DtmfOperationCall.target, Option.ite_none_right_eq_some] at hTarget
              rw [← Option.some.inj hTarget.2]
              rfl
            exact hReady.setTask hTask (by simp)
        · rw [← Option.some.inj hStep]
          exact h.setTask hTask (by simp)
        · rw [← Option.some.inj hStep]
          exact h.setTask hTask (by simp)
        · cases hStep
  · cases hStep

theorem outcome_some (h : actor.outcome id = some outcome) :
    outcome.collectorId = id ∧ .result outcome ∈ actor.coordinator.dtmf.replies := by
  obtain ⟨reply, hMem, hReply⟩ := List.exists_of_findSome?_eq_some h
  cases reply with
  | ready _ _ => simp [CollectorReply.resultOf] at hReply
  | result found =>
      rw [CollectorReply.resultOf, Option.ite_none_right_eq_some] at hReply
      obtain rfl := Option.some.inj hReply.2
      exact ⟨hReply.1, hMem⟩

theorem countP_of_outcome_none (h : actor.outcome id = none) :
    actor.coordinator.dtmf.replies.countP (·.isResultOf id) = 0 := by
  rw [List.countP_eq_zero]
  intro reply hMem hResult
  have hNone := List.findSome?_eq_none_iff.mp h reply hMem
  cases reply with
  | ready _ _ => simp [CollectorReply.isResultOf] at hResult
  | result found =>
      simp only [CollectorReply.isResultOf, decide_eq_true_eq] at hResult
      simp [CollectorReply.resultOf, hResult] at hNone

/-- An operation is over once it has been completed or failed. -/
theorem view_ended {call : DtmfOperationCall} {f : DtmfOperationView → DtmfOperationView}
    {now : Nat} (hCall : w.run.service.apply call = w.run.service.update id now f)
    (hEnds : ∀ v, (f v).status.isTerminal = true) (hView : (w.serve call).view id = some v') :
    v'.status.isTerminal = true := by
  have hLookup : (w.run.service.update id now f).operations.lookup id = some v' := hCall ▸ hView
  obtain ⟨v, -, hChange⟩ := DtmfOperationState.lookup_update hLookup
  rcases hChange with ⟨rfl, hOver⟩ | ⟨-, -, rfl⟩
  · exact hOver rfl
  · exact hEnds v

theorem operationStatus_isTerminal (code : DigitCollectionResultCode) :
    code.operationStatus.isTerminal = true := by
  cases code <;> rfl

/-- Nothing is left of a collection whose call is gone without a result. -/
theorem Sound.lost (h : w.Sound) {task : ResultTask} (hTask : task ∈ w.tasks)
    (hActor : w.calls[task.call]? = some actor) (hClosed : actor.closed = true)
    (hNone : actor.outcome task.operationId = none) : w.collections task.operationId = 0 := by
  obtain ⟨hStarts, hElsewhere⟩ := h.placed task hTask
  obtain ⟨hMailbox, hCollectors⟩ := h.closed task.call actor hActor hClosed
  rw [collections, hStarts, Nat.zero_add, List.sum_eq_zero_iff]
  intro count hCount
  obtain ⟨other, hMem, rfl⟩ := List.mem_map.mp hCount
  obtain ⟨call, hCall⟩ := List.getElem?_of_mem hMem
  by_cases hSame : call = task.call
  · subst hSame
    obtain rfl := Option.some.inj (hActor.symm.trans hCall)
    rw [DigitCall.owed, DtmfRuntime.held, hMailbox, hCollectors, countP_of_outcome_none hNone]
    rfl
  · exact hElsewhere call other hCall hSame

/-- The task that reports on a collection ends its operation as the collection has ended. -/
theorem Sound.reportResult (h : w.Sound) {i now : Nat} (hStep : w.reportResult i now = some next) :
    next.Sound := by
  unfold DigitWorld.reportResult at hStep
  split at hStep
  · next operationId call readyError hTask =>
      split at hStep
      · cases hStep
      · next actor hActor =>
          split at hStep
          · next _ outcome hOutcome =>
              obtain ⟨hOwn, hResult⟩ := outcome_some hOutcome
              rw [← Option.some.inj hStep]
              have hComplete : (w.serve (.complete operationId outcome now)).Sound := by
                apply h.serve (reissues_of_issues rfl)
                intro id v v' _ _ hBefore hOpen hView hTarget _
                rw [DtmfOperationCall.target, Option.ite_none_right_eq_some] at hTarget
                obtain ⟨rfl, -⟩ := hTarget
                refine ⟨outcome, ⟨hOwn, call, actor, hActor, hResult⟩, ?_⟩
                obtain ⟨before, hLookup, hChange⟩ := DtmfOperationState.lookup_update hView
                obtain rfl := Option.some.inj (hBefore.symm.trans hLookup)
                rcases hChange with ⟨-, hOver⟩ | ⟨-, -, rfl⟩
                · rw [hOver rfl] at hOpen
                  simp only [Bool.true_eq_false] at hOpen
                · exact ⟨rfl, rfl, rfl, rfl⟩
              refine hComplete.setTask hTask fun _ v' hView => ?_
              exact view_ended rfl (fun _ => operationStatus_isTerminal outcome.code) hView
          · next hNone hClosed =>
              rw [← Option.some.inj hStep]
              have hLost := h.lost (List.mem_of_getElem? hTask) hActor hClosed hNone
              have hFail : (w.serve (.fail operationId
                  (readyError.getD "digit_collection_result_channel_closed") now)).Sound :=
                h.fail fun _ hThere => (hThere hLost).elim
              exact hFail.setTask hTask fun _ v' hView => view_ended rfl (fun _ => rfl) hView
          · cases hStep
  · cases hStep

/-- One careful step. -/
theorem Sound.step (h : w.Sound) {step : DigitStep} (hCareful : w.Careful step)
    (hStep : w.step step = some next) : next.Sound := by
  cases step with
  | service call =>
      simp only [DigitWorld.step, Option.ite_none_right_eq_some, Option.some.injEq] at hStep
      obtain ⟨hRequest, rfl⟩ := hStep
      cases call with
      | detachRuntime generation now =>
          apply h.serve (hCareful.2 _ rfl)
          intro id v v' hId hThere hBefore hOpen _ _ _
          have hWas : w.collections id ≠ 0 := by
            have hLe := collections_serve w (.detachRuntime generation now) id
            simp only [DtmfOperationState.issues, reduceCtorEq, if_false] at hLe
            omega
          have hOver := hCareful.1 id rfl hWas v hBefore
          rw [hOpen] at hOver
          simp only [Bool.false_eq_true] at hOver
      | attachRuntime | start _ _ | dropReceiver _ =>
          apply h.serve_open (hCareful.2 _ rfl)
          simp [DtmfOperationCall.target]
      | cancel operationId clock =>
          apply h.serve_open (hCareful.2 _ rfl)
          intro other status hTarget
          rw [DtmfOperationCall.target, Option.ite_none_right_eq_some] at hTarget
          rw [← Option.some.inj hTarget.2]
          rfl
      | markAcquiring _ _ | markReady _ _ _ | complete _ _ _ | fail _ _ _ | receive _ =>
          simp only [DtmfOperationCall.isRequest, Bool.false_eq_true] at hRequest
  | handle tx found now =>
      simp only [DigitWorld.step, handleNext] at hStep
      split at hStep
      · cases hStep
      · next id spec hNext =>
          rw [← Option.some.inj hStep]
          exact h.handleStart hNext found
      · next id callId hNext =>
          rw [← Option.some.inj hStep]
          exact h.handleCancel hNext found (hCareful.1 id)
  | openCall coordinator =>
      rw [← Option.some.inj hStep]
      exact h.openCall coordinator
  | closeCall call => exact h.closeCall hStep
  | requestDigits call spec =>
      simp only [DigitWorld.step, Option.ite_none_left_eq_some] at hStep
      obtain ⟨hOther, hPost⟩ := hStep
      cases hSent : w.post call (.startDigitCollection spec) with
      | error error =>
          rw [hSent] at hPost
          simp only [Except.toOption, reduceCtorEq] at hPost
      | ok sent =>
          rw [hSent] at hPost
          obtain rfl := Option.some.inj hPost
          apply h.posted _ hSent
          intro id hId
          rw [EventMessage.startsOf, decide_eq_false_iff_not]
          rintro rfl
          exact hOther hId
  | takeMessage call env => exact h.takeMessage hStep
  | collect call env event =>
      simp only [DigitWorld.step] at hStep
      apply h.advance hStep
      intro actor actor' hActor hNext
      refine ⟨_, (Option.some.inj hNext).symm, ?_⟩
      exact (handler_contains event env _ _ _ (contained (h.filed call actor hActor))).final
  | proceed call coordinator =>
      simp only [DigitWorld.step] at hStep
      apply h.advance hStep
      intro actor actor' hActor hNext
      refine ⟨_, (Option.some.inj hNext).symm, ?_⟩
      exact (contained (h.filed call actor hActor)).same rfl rfl
  | reportReady task now => exact h.reportReady hStep
  | reportResult task now => exact h.reportResult hStep
  | reportCancel answer now =>
      simp only [DigitWorld.step, DigitWorld.reportCancel] at hStep
      split at hStep
      · cases hStep
      · rw [← Option.some.inj hStep]
        exact { h with }
      · next operationId error hAnswer =>
          rw [← Option.some.inj hStep]
          have hFail : (w.serve (.fail operationId error now)).Sound := by
            apply h.fail
            intro _ hThere
            apply hCareful.1 operationId _ hThere
            simp only [fails, hAnswer, decide_true]
          exact { hFail with }

theorem sound_of_careful (h : ReachableWithin system Careful w) : w.Sound := by
  apply h.invariant
  · rintro _ rfl
    exact sound_init
  · intro before step after hBefore hCareful hStep
    exact hBefore.step hCareful hStep

/-- As long as no failure overtakes a collection, an operation that is over shows the outcome that
its collector has produced, and it is over once the task on its collection has reported. -/
theorem outcome_reported (h : ReachableWithin system Careful w) :
    (∀ id ∈ w.run.issued, ∀ outcome v, w.Produced id outcome → w.view id = some v →
      v.status.isTerminal = true → v.Reflects outcome) ∧
    ∀ task ∈ w.tasks, task.phase = .done → ∀ v, w.view task.operationId = some v →
      v.status.isTerminal = true := by
  have hSound := sound_of_careful h
  refine ⟨?_, hSound.done⟩
  intro id hIssued outcome v hProduced hView hOver
  have hId := OperationRun.isOperationId_of_issued hSound.reachable hIssued
  have hThere : w.collections id ≠ 0 := by
    obtain ⟨hOwn, call, actor, hActor, hResult⟩ := hProduced
    have hOwed := owed_pos hResult hOwn
    have hSum := le_sum_map (fun actor : DigitCall => actor.owed id) hActor
    rw [collections]
    omega
  obtain ⟨shown, hShown, hReflects⟩ := hSound.told id v hId hView hOver hThere
  rwa [Produced.unique (hSound.single id hId) hShown hProduced]

/-- The answered call of the example, and the caller to listen to. -/
def exampleLookup : SessionLookup where
  identified := true
  callerSession := some "session-c-caller"
  peerSession := none
  coordinator := some 0

def exampleDigit : DigitEvent where
  eventId := .rfc4733 1 "session-c-caller" 1 1 1
  domainId := "d"
  callId := "c"
  sourceSessionId := "session-c-caller"
  sourceMediaLegId := none
  digit := .d1
  transport := .rfc4733
  durationMs := 100
  observedAtMs := 1000
  sourceGeneration := .media 1
  incompleteEnd := false

/-- A digit is collected; the collector waits for the media worker to take its capability back. -/
def collected (coordinator : Coordinator) : List DigitStep :=
  [.service .attachRuntime, .service (.start OperationRun.exampleSpec ⟨1, 1⟩),
    .openCall coordinator, .handle 0 exampleLookup 2, .takeMessage 0 Coordinator.takingEnv,
    .collect 0 Coordinator.takingEnv (.capabilityAcquired "acquire-dtmf-collector-c-dtmf-op-1-1"
      (.ok
        { leaseId := "dtmf-collector-c-dtmf-op-1-1", sourceSessionId := "session-c-caller"
          mediaGeneration := 1 })),
    .reportReady 0 3, .collect 0 Coordinator.takingEnv (.digit exampleDigit)]

def released : DigitStep :=
  .collect 0 Coordinator.takingEnv (.capabilityReleased "release-dtmf-collector-c-dtmf-op-1-1"
    (.ok 1))

/-- The cancel reaches the coordinator when the collector has just gone, and its answer overtakes
the outcome. -/
def cancelledLate (coordinator : Coordinator) : List DigitStep :=
  collected coordinator ++
    [.service (.cancel "dtmf-op-1-1" ⟨4, 4⟩), .handle 0 exampleLookup 5, released,
      .takeMessage 0 Coordinator.takingEnv, .reportCancel 0 6]

/-- The operation's view shows `status` and `digits`. -/
def shows (status : DtmfOperationStatus) (digits : Option String) (w : DigitWorld) : Bool :=
  (w.view "dtmf-op-1-1").any fun v => v.status = status && v.digits = digits

/-- The collector of the operation has sent `outcome`. -/
def sentResult (outcome : DigitCollectionOutcome) (w : DigitWorld) : Bool :=
  w.calls.any fun actor => actor.coordinator.dtmf.replies.any fun reply =>
    match reply with
    | .result sent => sent = outcome
    | .ready _ _ => false

theorem produced_of_sentResult (h : w.sentResult outcome = true) :
    w.Produced outcome.collectorId outcome := by
  obtain ⟨actor, hActor, hReply⟩ := List.any_eq_true.mp h
  obtain ⟨reply, hMem, hSent⟩ := List.any_eq_true.mp hReply
  obtain ⟨call, hCall⟩ := List.mem_iff_getElem?.mp hActor
  cases reply with
  | ready collectorId answer => simp only [Bool.false_eq_true] at hSent
  | result sent =>
      obtain rfl := of_decide_eq_true hSent
      exact ⟨rfl, call, actor, hCall, hMem⟩

def answeredCoordinator : Option Coordinator :=
  Coordinator.schedule (fun _ _ => true) (Coordinator.callTo (.trunk "peer:1") [])
    (Coordinator.answeringSchedule ++
      [(Coordinator.takingEnv, Coordinator.callerAck .answerInboundInvite "answer-c" 1)])

/-- The outcome that the collector of the example sends. -/
def oneDigit : DigitCollectionOutcome where
  collectorId := "dtmf-op-1-1"
  code := .completed
  digits := [.d1]
  reason := none

/-- The schedule `steps` takes place at an answered call, every step of it meeting `C`. -/
def follows (C : DigitWorld → DigitStep → Bool) (steps : Coordinator → List DigitStep)
    (P : DigitWorld → Bool) : Bool :=
  answeredCoordinator.any fun coordinator =>
    ((steps coordinator).foldlM (fun w s => if C w s then step w s else none) {}).any P

theorem reachable_of_follows (C : DigitWorld → DigitStep → Bool)
    (steps : Coordinator → List DigitStep) (P : DigitWorld → Bool) (h : follows C steps P = true) :
    ∃ w, ReachableWithin system (fun w s => C w s = true) w ∧ P w = true := by
  obtain ⟨coordinator, _, hRun⟩ := (Option.any_eq_true ..).mp h
  obtain ⟨w, hEnd, hP⟩ := (Option.any_eq_true ..).mp hRun
  refine ⟨w, ⟨{}, rfl, runsWithin_of_foldlM ?_ hEnd⟩, hP⟩
  intro before s after hStep
  split at hStep
  · next hC => exact ⟨hC, hStep⟩
  · cases hStep

/-- Steps of runs in which nothing fails. -/
def smooth (w : DigitWorld) : DigitStep → Bool
  | .service (.detachRuntime _ _) | .reportCancel _ _ => false
  | .service call => !w.run.reissues call
  | .handle tx _ _ =>
    match w.waiting tx with
    | some (.cancel _ _) => false
    | _ => true
  | _ => true

/-- Both examples take place: a cancel that is late, and a collection that nothing disturbs. -/
theorem examples_follow :
    follows (fun _ _ => true) cancelledLate (fun w => w.shows .failed none &&
      w.sentResult oneDigit && decide ("dtmf-op-1-1" ∈ w.run.issued)) = true ∧
    follows smooth (fun s => collected s ++ [released, .reportResult 0 5])
      (fun w => w.shows .completed (some "1") && w.sentResult oneDigit &&
        decide ("dtmf-op-1-1" ∈ w.run.issued)) = true := by
  constructor
  · decide +kernel
  · decide +kernel

/-- The answer to a cancel overtakes the digits that were collected before. -/
theorem failed_by_late_cancel :
    ¬ ∀ w, Reachable system w → ∀ id ∈ w.run.issued, ∀ outcome v, w.Produced id outcome →
      w.view id = some v → v.status.isTerminal = true → v.Reflects outcome := by
  intro hFaithful
  obtain ⟨w, hRun, hEnd⟩ := reachable_of_follows (fun _ _ => true) cancelledLate
    (fun w => w.shows .failed none && w.sentResult oneDigit &&
      decide ("dtmf-op-1-1" ∈ w.run.issued)) examples_follow.1
  simp only [Bool.and_eq_true, decide_eq_true_eq] at hEnd
  obtain ⟨⟨hShows, hSent⟩, hIssued⟩ := hEnd
  obtain ⟨v, hView, hShown⟩ := (Option.any_eq_true ..).mp hShows
  simp only [Bool.and_eq_true, decide_eq_true_eq] at hShown
  have hReflects := hFaithful w hRun.reachable _ hIssued oneDigit v
    (produced_of_sentResult hSent) hView (by rw [hShown.1]; rfl)
  have hStatus := hReflects.status
  rw [hShown.1] at hStatus
  simp only [oneDigit, DigitCollectionResultCode.operationStatus, reduceCtorEq] at hStatus

theorem careful_of_smooth {s : DigitStep} (h : w.smooth s = true) : w.Careful s := by
  constructor
  · intro id hFails
    unfold fails at hFails
    split at hFails
    · simp [smooth] at h
    · next tx found now =>
        cases hNext : w.waiting tx with
        | none => simp [hNext] at hFails
        | some operation =>
            cases operation with
            | start operationId spec => simp [hNext] at hFails
            | cancel operationId callId => simp [smooth, hNext] at h
    · simp [smooth] at h
    · simp at hFails
  · rintro call rfl
    cases call <;> simp_all [smooth]

/-- The digit is reported, and the operation shows it. -/
theorem outcome_reported_collected :
    ∃ (w : DigitWorld) (v : DtmfOperationView), w.Produced "dtmf-op-1-1" oneDigit ∧
      w.view "dtmf-op-1-1" = some v ∧
      v.Reflects oneDigit := by
  obtain ⟨w, hRun, hEnd⟩ := reachable_of_follows smooth
    (fun s => collected s ++ [released, .reportResult 0 5])
    (fun w => w.shows .completed (some "1") && w.sentResult oneDigit &&
      decide ("dtmf-op-1-1" ∈ w.run.issued)) examples_follow.2
  simp only [Bool.and_eq_true, decide_eq_true_eq] at hEnd
  obtain ⟨⟨hShows, hSent⟩, hIssued⟩ := hEnd
  obtain ⟨v, hView, hShown⟩ := (Option.any_eq_true ..).mp hShows
  simp only [Bool.and_eq_true, decide_eq_true_eq] at hShown
  have hProduced := produced_of_sentResult hSent
  obtain ⟨start, hInit, hSteps⟩ := hRun
  have hReached : ReachableWithin system Careful w :=
    ⟨start, hInit, hSteps.mono fun _ _ hSmooth => careful_of_smooth hSmooth⟩
  exact ⟨w, v, hProduced, hView, (outcome_reported hReached).1 _ hIssued oneDigit v hProduced hView
    (by rw [hShown.1]; rfl)⟩

end DigitWorld

end VoipSwitch
