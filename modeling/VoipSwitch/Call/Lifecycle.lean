import VoipSwitch.Call.Operations

/-! Runs of the digit operation service: the status of an operation only moves forward unless an
adapter's mark overwrites it, and what the detaching of a runtime does to the operations of a
newer one. -/
namespace VoipSwitch

open Stateful Keyed Transition

namespace DtmfOperationState

variable {s : DtmfOperationState} {id : DtmfOperationId} {v : DtmfOperationView}
  {call : DtmfOperationCall}

/-- The mark of an adapter that would put an operation back: it is being cancelled, or it is
ready already and would be acquired again. -/
def overwrites (s : DtmfOperationState) : DtmfOperationCall → Bool
  | .markAcquiring operationId _ => (s.operations.lookup operationId).any fun operation =>
      operation.status = .ready || operation.status = .cancelling
  | .markReady operationId _ _ => (s.operations.lookup operationId).any fun operation =>
      operation.status = .cancelling
  | _ => false

theorem forward_of_target {status : DtmfOperationStatus} (hLookup : s.operations.lookup id = some v)
    (hOpen : v.status.isTerminal = false) (hKeeps : s.overwrites call = false)
    (hTarget : call.target id = some status) : v.status.Forward status := by
  cases call with
  | attachRuntime | start _ _ | receive _ | dropReceiver _ =>
      simp only [DtmfOperationCall.target, reduceCtorEq] at hTarget
  | detachRuntime generation now =>
      obtain rfl := Option.some.inj hTarget
      exact DtmfOperationStatus.forward_of_isTerminal hOpen rfl
  | cancel operationId clock =>
      simp only [DtmfOperationCall.target, Option.ite_none_right_eq_some] at hTarget
      obtain ⟨rfl, hStatus⟩ := hTarget
      obtain rfl := Option.some.inj hStatus
      cases hStatus : v.status <;>
        simp_all [DtmfOperationStatus.Forward, DtmfOperationStatus.rank,
          DtmfOperationStatus.isTerminal]
  | markAcquiring operationId now =>
      simp only [DtmfOperationCall.target, Option.ite_none_right_eq_some] at hTarget
      obtain ⟨rfl, hStatus⟩ := hTarget
      obtain rfl := Option.some.inj hStatus
      cases hStatus : v.status <;>
        simp_all [overwrites, DtmfOperationStatus.Forward, DtmfOperationStatus.rank,
          DtmfOperationStatus.isTerminal]
  | markReady operationId mediaGeneration now =>
      simp only [DtmfOperationCall.target, Option.ite_none_right_eq_some] at hTarget
      obtain ⟨rfl, hStatus⟩ := hTarget
      obtain rfl := Option.some.inj hStatus
      cases hStatus : v.status <;>
        simp_all [overwrites, DtmfOperationStatus.Forward, DtmfOperationStatus.rank,
          DtmfOperationStatus.isTerminal]
  | complete operationId outcome now =>
      simp only [DtmfOperationCall.target, Option.ite_none_right_eq_some] at hTarget
      obtain ⟨rfl, hStatus⟩ := hTarget
      obtain rfl := Option.some.inj hStatus
      apply DtmfOperationStatus.forward_of_isTerminal hOpen
      cases outcome.code <;> rfl
  | fail operationId reason now =>
      simp only [DtmfOperationCall.target, Option.ite_none_right_eq_some] at hTarget
      obtain ⟨rfl, hStatus⟩ := hTarget
      obtain rfl := Option.some.inj hStatus
      exact DtmfOperationStatus.forward_of_isTerminal hOpen rfl

end DtmfOperationState

/-- A service with the ids it has given to operations; its own history forgets them. -/
structure OperationRun where
  service : DtmfOperationState := {}
  issued : List DtmfOperationId := []
deriving DecidableEq

namespace OperationRun

def step (run : OperationRun) (call : DtmfOperationCall) : OperationRun where
  service := run.service.apply call
  issued := (run.service.issues call).toList ++ run.issued

def system : System OperationRun DtmfOperationCall where
  init run := run = {}
  next run call next := next = run.step call

/-- A start that is accepted under the id of an earlier operation. -/
def reissues (run : OperationRun) (call : DtmfOperationCall) : Bool :=
  (run.service.issues call).any fun operationId => operationId ∈ run.issued

def Orderly (run : OperationRun) (call : DtmfOperationCall) : Prop :=
  run.service.overwrites call = false ∧ run.reissues call = false

variable {run next : OperationRun} {id : DtmfOperationId} {v v' : DtmfOperationView}
  {call : DtmfOperationCall}

theorem ascending_of_reachable (h : Reachable system run) :
    run.service.operations.Ascending := by
  apply h.invariant
  · rintro _ rfl
    exact .nil
  · rintro before call _ hBefore rfl
    exact DtmfOperationState.apply_ascending hBefore call

theorem issued_of_reachable (h : Reachable system run)
    (hLookup : run.service.operations.lookup id = some v) : id ∈ run.issued := by
  have hIssued : run.service.operations.Ascending ∧
      ∀ id v, run.service.operations.lookup id = some v → id ∈ run.issued := by
    apply h.invariant
    · rintro _ rfl
      exact ⟨.nil, by intro id v hLookup; simp at hLookup⟩
    · rintro before call _ ⟨hAscending, hBefore⟩ rfl
      refine ⟨DtmfOperationState.apply_ascending hAscending call, ?_⟩
      intro id v hLookup
      rcases DtmfOperationState.lookup_apply hAscending hLookup with ⟨w, hWas, -⟩ | ⟨hNew, -⟩
      · exact List.mem_append_right _ (hBefore id w hWas)
      · exact List.mem_append_left _ (Option.mem_toList.mpr hNew)
  exact hIssued.2 id v hLookup

/-- One orderly call moves the status of an earlier operation forward only. -/
theorem forward_of_step (hAscending : run.service.operations.Ascending)
    (hOrderly : run.Orderly call) (hIssued : id ∈ run.issued)
    (h : (run.step call).service.operations.lookup id = some v') :
    ∃ v, run.service.operations.lookup id = some v ∧ v.status.Forward v'.status := by
  rcases DtmfOperationState.lookup_apply hAscending h with ⟨v, hLookup, hChange⟩ | ⟨hNew, -⟩
  · refine ⟨v, hLookup, ?_⟩
    rcases hChange with rfl | ⟨hOpen, hTarget⟩
    · exact .refl
    · exact DtmfOperationState.forward_of_target hLookup hOpen hOrderly.1 hTarget
  · have hReissued : run.reissues call = true := by
      rw [reissues, hNew, Option.any_some, decide_eq_true hIssued]
    rw [hOrderly.2] at hReissued
    simp only [Bool.false_eq_true] at hReissued

/-- Orderly calls move the status of an operation forward only. -/
theorem forward_of_runs (hReach : Reachable system run) (hRun : RunsWithin system Orderly run next)
    (h : run.service.operations.lookup id = some v)
    (h' : next.service.operations.lookup id = some v') : v.status.Forward v'.status := by
  have hForward : next.service.operations.Ascending ∧ id ∈ next.issued ∧
      ∀ v', next.service.operations.lookup id = some v' → v.status.Forward v'.status := by
    apply hRun.invariant
    · refine ⟨ascending_of_reachable hReach, issued_of_reachable hReach h, ?_⟩
      intro v' h'
      rw [h, Option.some.injEq] at h'
      rw [h']
      exact .refl
    · rintro before call _ ⟨hAscending, hIssued, hBefore⟩ hOrderly rfl
      refine ⟨DtmfOperationState.apply_ascending hAscending call,
        List.mem_append_right _ hIssued, ?_⟩
      intro v' h'
      obtain ⟨w, hWas, hStep⟩ := forward_of_step hAscending hOrderly hIssued h'
      exact (hBefore w hWas).trans hStep
  exact hForward.2.2 v' h'

/-- Up to `sequence` the ids are numbered from one on. -/
def Numbered (sequence : Nat) (issued : List DtmfOperationId) : Prop :=
  ∀ id ∈ issued, ∃ idMs number, number ≤ sequence ∧ id = operationIdOf idMs number

/-- Every id that was issued has a number up to the present one. -/
theorem numbered_of_reachable (h : Reachable system run) :
    run.service.operationSequence ≤ u64Max ∧
      Numbered run.service.operationSequence run.issued := by
  apply h.invariant
  · rintro _ rfl
    exact ⟨Nat.zero_le _, fun id hMem => (List.not_mem_nil hMem).elim⟩
  · rintro before call _ ⟨hBound, hNumbered⟩ rfl
    have hNext : before.service.operationSequence ≤ satSucc64 before.service.operationSequence :=
      Nat.le_min.mpr ⟨Nat.le_succ _, hBound⟩
    have hMax : satSucc64 before.service.operationSequence ≤ u64Max := Nat.min_le_right _ _
    have hOld {sequence : Nat} (hLe : before.service.operationSequence ≤ sequence) :
        Numbered sequence before.issued := by
      intro id hMem
      obtain ⟨idMs, number, hNumber, hId⟩ := hNumbered id hMem
      exact ⟨idMs, number, le_trans hNumber hLe, hId⟩
    cases call with
    | start spec clock =>
        refine Proc.Post.final (P := fun service => service.operationSequence ≤ u64Max ∧
          Numbered service.operationSequence
            ((before.service.issues (.start spec clock)).toList ++ before.issued))
          (DtmfOperationState.start_post.mono ?_ ?_)
        · intro view service hStarted
          rw [hStarted.operationSequence, DtmfOperationState.issues_of_started hStarted]
          refine ⟨hMax, ?_⟩
          intro id hMem
          rcases List.mem_cons.mp hMem with rfl | hMem
          · exact ⟨_, _, le_rfl, hStarted.operationId⟩
          · exact hOld hNext id hMem
        · rintro _ ⟨hRoom, sequence, _, hSequence, -, rfl⟩
          rw [DtmfOperationState.issues, hRoom]
          rcases hSequence with rfl | rfl
          · exact ⟨hBound, hNumbered⟩
          · exact ⟨hMax, hOld hNext⟩
    | cancel operationId clock =>
        refine Proc.Post.final (P := fun service => service.operationSequence ≤ u64Max ∧
          Numbered service.operationSequence before.issued)
          (DtmfOperationState.cancel_post.mono ?_ ?_)
        · intro view service hCancelled
          obtain ⟨_, _, -, -, rfl⟩ := hCancelled.sent
          exact ⟨hBound, hNumbered⟩
        · rintro _ ⟨sequence, _, hSequence, -, rfl⟩
          rcases hSequence with rfl | rfl
          · exact ⟨hBound, hNumbered⟩
          · exact ⟨hMax, hOld hNext⟩
    | _ => exact ⟨hBound, hNumbered⟩

/-- No id is given twice as long as the sequence has a next number. -/
theorem fresh_of_unsaturated (h : Reachable system run)
    (hRoom : run.service.operationSequence < u64Max) (call : DtmfOperationCall) :
    run.reissues call = false := by
  rw [Bool.eq_false_iff]
  intro hReissued
  obtain ⟨id, hIssues, hMem⟩ := Option.any_eq_true _ _ |>.mp hReissued
  rw [decide_eq_true_iff] at hMem
  obtain ⟨-, hNumbered⟩ := numbered_of_reachable h
  obtain ⟨idMs, number, hNumber, hId⟩ := hNumbered id hMem
  cases call with
  | start spec clock =>
      rw [DtmfOperationState.issues, Option.ite_none_right_eq_some] at hIssues
      have hSame := operationIdOf_inj ((Option.some.inj hIssues.2).trans hId)
      rw [satSucc64, Nat.min_eq_left hRoom] at hSame
      omega
  | _ => simp only [DtmfOperationState.issues, reduceCtorEq] at hIssues

/-- A mark that overwrites puts its operation back. -/
theorem backward_of_overwrites {s : DtmfOperationState} (h : s.overwrites call = true) :
    ∃ id v v', s.operations.lookup id = some v ∧ (s.apply call).operations.lookup id = some v' ∧
      v'.status.rank < v.status.rank := by
  cases call with
  | markAcquiring operationId now =>
      obtain ⟨v, hLookup, hStatus⟩ := (Option.any_eq_true _ _).mp h
      rw [Bool.or_eq_true, decide_eq_true_iff, decide_eq_true_iff] at hStatus
      refine ⟨operationId, v, _, hLookup, OrdMap.lookup_adjust_self hLookup, ?_⟩
      rcases hStatus with hStatus | hStatus <;>
        simp [hStatus, DtmfOperationStatus.isTerminal, DtmfOperationStatus.rank]
  | markReady operationId mediaGeneration now =>
      obtain ⟨v, hLookup, hStatus⟩ := (Option.any_eq_true _ _).mp h
      rw [decide_eq_true_iff] at hStatus
      refine ⟨operationId, v, _, hLookup, OrdMap.lookup_adjust_self hLookup, ?_⟩
      simp [hStatus, DtmfOperationStatus.isTerminal, DtmfOperationStatus.rank]
  | _ => simp only [DtmfOperationState.overwrites, Bool.false_eq_true] at h

/-- Under orderly calls the status of an operation only moves forward: what is over stays as it
ended, and what is being cancelled can only end. Every mark that overwrites breaks this, and no
id is given twice before the sequence is used up. -/
theorem lifecycle_forward (hReach : Reachable system run) :
    (∀ next, RunsWithin system Orderly run next →
      ∀ id v v', run.service.operations.lookup id = some v →
        next.service.operations.lookup id = some v' → v.status.Forward v'.status ∧
          (v.status.isTerminal = true → v'.status = v.status)) ∧
    (∀ id clock view service,
      DtmfOperationState.cancel id clock run.service = (.ok view, service) →
      ∀ next, RunsWithin system Orderly { run with service } next →
      ∀ v', next.service.operations.lookup id = some v' →
        v'.status = .cancelling ∨ v'.status.isTerminal = true) ∧
    (∀ call, DtmfOperationState.overwrites run.service call = true →
      ∃ id v v', run.service.operations.lookup id = some v ∧
        (run.service.apply call).operations.lookup id = some v' ∧
        v'.status.rank < v.status.rank) ∧
    (run.service.operationSequence < u64Max → ∀ call, run.reissues call = false) := by
  refine ⟨?_, ?_, fun _ => backward_of_overwrites, fresh_of_unsaturated hReach⟩
  · intro next hRun id v v' h h'
    have hForward := forward_of_runs hReach hRun h h'
    exact ⟨hForward, hForward.eq_of_isTerminal⟩
  · intro id clock view service hCancel next hRun v' h'
    have hCancelled : run.service.Cancelled id clock view service := by
      have hPost : Proc.Post (DtmfOperationState.cancel id) clock run.service
          (run.service.Cancelled id clock) _ := DtmfOperationState.cancel_post
      rw [Proc.Post, hCancel] at hPost
      exact hPost
    have hStep : system.next run (.cancel id clock) { run with service } := by
      show _ = step run (.cancel id clock)
      simp only [step, DtmfOperationState.apply, Proc.final, hCancel, DtmfOperationState.issues,
        Option.toList_none, List.nil_append]
    have hLookup : service.operations.lookup id = some view := by
      obtain ⟨operation, hOperation, -, -⟩ := hCancelled.operation
      obtain ⟨_, _, -, -, rfl⟩ := hCancelled.sent
      exact OrdMap.lookup_adjust_self hOperation
    have hNext : Reachable system { run with service } :=
      hReach.runs (.step (C := fun _ _ => True) .refl trivial hStep)
    have hForward := forward_of_runs hNext hRun hLookup h'
    rw [hCancelled.status] at hForward
    exact hForward.of_cancelling

/-- The run of a list of calls. -/
def runAll (calls : List DtmfOperationCall) (run : OperationRun) : OperationRun :=
  calls.foldl step run

theorem runs_runAll (calls : List DtmfOperationCall) (run : OperationRun) :
    Runs system run (runAll calls run) := by
  induction calls generalizing run with
  | nil => exact .refl
  | cons call rest ih => exact (RunsWithin.step .refl trivial rfl).trans (ih (run.step call))

theorem reachable_runAll (calls : List DtmfOperationCall) :
    Reachable system (runAll calls {}) :=
  ⟨{}, rfl, runs_runAll calls {}⟩

def exampleSpec : DtmfOperationSpec where
  callId := "call"
  source := .caller
  mode := .collect
  allowed := [.d0, .d1]
  minDigits := 1
  maxDigits := 1
  terminators := []
  firstDigitTimeoutMs := 1000
  interDigitTimeoutMs := 1000
  overallTimeoutMs := 2000

/-- An operation that is cancelled right after its start. -/
def cancelledEarly : OperationRun :=
  runAll [.attachRuntime, .start exampleSpec ⟨1, 1⟩, .receive 0, .cancel "dtmf-op-1-1" ⟨2, 2⟩] {}

/-- The adapter acquires the operation whose start it has received, although it has been cancelled
since. -/
theorem acquired_after_cancel :
    ¬ ∀ run next, Reachable system run → Runs system run next →
      ∀ id v v', run.service.operations.lookup id = some v →
        next.service.operations.lookup id = some v' → v.status.Forward v'.status := by
  intro hForward
  have hBack := hForward cancelledEarly (runAll [.markAcquiring "dtmf-op-1-1" 3] cancelledEarly)
    (reachable_runAll _) (runs_runAll _ _) "dtmf-op-1-1"
  obtain ⟨v, h, v', h', hStatus⟩ : ∃ v,
      cancelledEarly.service.operations.lookup "dtmf-op-1-1" = some v ∧ ∃ v',
      (runAll [.markAcquiring "dtmf-op-1-1" 3] cancelledEarly).service.operations.lookup
        "dtmf-op-1-1" = some v' ∧ v.status = .cancelling ∧ v'.status = .acquiring := by
    exact ⟨_, rfl, _, rfl, rfl, rfl⟩
  have hStep := hBack v v' h h'
  rw [hStatus.1, hStatus.2] at hStep
  exact absurd hStep (by decide)

theorem lifecycle_forward_cancelledEarly :
    ∃ v, (runAll [.complete "dtmf-op-1-1" ⟨"dtmf-op-1-1", .cancelled, [.d1], none⟩ 3]
        cancelledEarly).service.operations.lookup "dtmf-op-1-1" = some v ∧
      v.status = .cancelled ∧ DtmfOperationStatus.cancelling.Forward v.status := by
  refine ⟨_, rfl, rfl, ?_⟩
  have hRun : RunsWithin system Orderly cancelledEarly
      (runAll [.complete "dtmf-op-1-1" ⟨"dtmf-op-1-1", .cancelled, [.d1], none⟩ 3]
        cancelledEarly) :=
    .step .refl ⟨rfl, rfl⟩ rfl
  exact ((lifecycle_forward (reachable_runAll _)).1 _ hRun "dtmf-op-1-1" _ _ rfl rfl).1

/-- A call other than an attach leaves the newest generation as it is, and the binding unless
the runtime is found gone or detached. -/
theorem runtime_of_apply {s : DtmfOperationState} (hOther : call ≠ .attachRuntime) :
    (s.apply call).runtimeGeneration = s.runtimeGeneration ∧
      ((s.apply call).runtime = s.runtime ∨ (s.apply call).runtime = none) := by
  cases call with
  | attachRuntime => exact (hOther rfl).elim
  | detachRuntime generation now =>
      refine ⟨rfl, ?_⟩
      simp only [DtmfOperationState.apply, DtmfOperationState.detachRuntime]
      split
      · exact .inr rfl
      · exact .inl rfl
  | start spec clock =>
      refine Proc.Post.final (P := fun t => t.runtimeGeneration = s.runtimeGeneration ∧
        (t.runtime = s.runtime ∨ t.runtime = none)) (DtmfOperationState.start_post.mono ?_ ?_)
      · intro view t hStarted
        exact ⟨hStarted.runtimeGeneration, .inl hStarted.runtime⟩
      · rintro _ ⟨-, _, _, -, hRuntime, rfl⟩
        exact ⟨rfl, hRuntime⟩
  | cancel operationId clock =>
      refine Proc.Post.final (P := fun t => t.runtimeGeneration = s.runtimeGeneration ∧
        (t.runtime = s.runtime ∨ t.runtime = none)) (DtmfOperationState.cancel_post.mono ?_ ?_)
      · intro view t hCancelled
        obtain ⟨_, _, -, -, rfl⟩ := hCancelled.sent
        exact ⟨rfl, .inl rfl⟩
      · rintro _ ⟨_, _, -, hRuntime, rfl⟩
        exact ⟨rfl, hRuntime⟩
  | _ => exact ⟨rfl, .inl rfl⟩

/-- The runtime that is bound, if one is, is the one attached last. -/
def BoundLast (run : OperationRun) : Prop :=
  run.service.runtimeGeneration ≤ u64Max ∧
    ∀ runtime, run.service.runtime = some runtime →
      runtime.generation = run.service.runtimeGeneration

theorem boundLast_of_reachable (h : Reachable system run) : run.BoundLast := by
  apply h.invariant
  · rintro _ rfl
    exact ⟨Nat.zero_le _, nofun⟩
  · rintro before call _ ⟨hMax, hBefore⟩ rfl
    by_cases hAttach : call = .attachRuntime
    · subst hAttach
      refine ⟨Nat.min_le_right _ _, ?_⟩
      intro runtime hRuntime
      obtain rfl := Option.some.inj hRuntime
      rfl
    · obtain ⟨hGeneration, hRuntime⟩ := runtime_of_apply (s := before.service) hAttach
      refine ⟨hGeneration ▸ hMax, ?_⟩
      intro runtime hBound
      rw [step, hGeneration]
      rcases hRuntime with hSame | hGone
      · exact hBefore runtime (hSame ▸ hBound)
      · rw [step, hGone] at hBound
        cases hBound

/-- Generations only grow. -/
theorem generation_of_runs (hReach : Reachable system run) (hRun : Runs system run next) :
    run.service.runtimeGeneration ≤ next.service.runtimeGeneration := by
  have hGrown : next.service.runtimeGeneration ≤ u64Max ∧
      run.service.runtimeGeneration ≤ next.service.runtimeGeneration := by
    apply hRun.invariant
    · exact ⟨(boundLast_of_reachable hReach).1, le_rfl⟩
    · rintro before call _ ⟨hMax, hBefore⟩ - rfl
      by_cases hAttach : call = .attachRuntime
      · subst hAttach
        exact ⟨Nat.min_le_right _ _, le_trans hBefore (Nat.le_min.mpr ⟨Nat.le_succ _, hMax⟩)⟩
      · rw [step, (runtime_of_apply hAttach).1]
        exact ⟨hMax, hBefore⟩
  exact hGrown.2

/-- A start that returns a view has given its id away. -/
theorem step_of_start {spec : DtmfOperationSpec} {clock : OperationClock}
    {view : DtmfOperationView} {service : DtmfOperationState}
    (h : DtmfOperationState.start spec clock run.service = (.ok view, service)) :
    run.step (.start spec clock) = ⟨service, view.operationId :: run.issued⟩ := by
  have hPost : Proc.Post (DtmfOperationState.start spec) clock run.service
      (run.service.Started spec clock) _ := DtmfOperationState.start_post
  rw [Proc.Post, h] at hPost
  rw [step, DtmfOperationState.issues_of_started hPost, DtmfOperationState.apply, Proc.final, h]
  rfl

/-- A detach leaves an operation alone exactly if it is over or not kept any more. -/
theorem detachRuntime_keeps_iff {s : DtmfOperationState} {generation now : Nat} :
    (s.detachRuntime generation now).operations.lookup id = s.operations.lookup id ↔
      ∀ v, s.operations.lookup id = some v → v.status.isTerminal = true := by
  simp only [DtmfOperationState.detachRuntime, OrdMap.lookup_mapValues]
  cases hLookup : s.operations.lookup id with
  | none => exact ⟨fun _ v hNone => (by cases hNone), fun _ => rfl⟩
  | some v =>
      simp only [Option.map_some, Option.some.injEq, forall_eq']
      split
      · next hOver => exact ⟨fun _ => hOver, fun _ => rfl⟩
      · next hOpen =>
          refine ⟨?_, fun hOver => (hOpen hOver).elim⟩
          intro hSame
          rw [← hSame] at hOpen
          exact (hOpen rfl).elim

/-- The stale detach of a runtime that a newer one has followed. The newer runtime stays bound;
an operation started after it attached is left alone exactly if it is over by then. -/
theorem stale_detach (run next : OperationRun) (generation : Nat) (spec : DtmfOperationSpec)
    (clock : OperationClock) (view : DtmfOperationView) (service : DtmfOperationState) (now : Nat)
    (hReach : Reachable system run) (hNewer : generation < run.service.runtimeGeneration)
    (hStart : DtmfOperationState.start spec clock run.service = (.ok view, service))
    (hRun : Runs system ⟨service, view.operationId :: run.issued⟩ next) :
    (next.service.detachRuntime generation now).runtime = next.service.runtime ∧
      ((next.service.detachRuntime generation now).operations.lookup view.operationId =
          next.service.operations.lookup view.operationId ↔
        ∀ v, next.service.operations.lookup view.operationId = some v →
          v.status.isTerminal = true) := by
  refine ⟨?_, detachRuntime_keeps_iff⟩
  have hStarted : Runs system run ⟨service, view.operationId :: run.issued⟩ :=
    .step .refl trivial (step_of_start hStart).symm
  have hGrown := generation_of_runs hReach (hStarted.trans hRun)
  rw [DtmfOperationState.detachRuntime, if_neg]
  intro hStale
  obtain ⟨runtime, hRuntime, hGeneration⟩ := Option.map_eq_some_iff.mp hStale
  have hLast := (boundLast_of_reachable (hReach.runs (hStarted.trans hRun))).2 runtime hRuntime
  omega

/-- A reconnect: the second runtime has attached before the first one is detached. -/
def reconnected : OperationRun := runAll [.attachRuntime, .attachRuntime] {}

/-- The detach of the first runtime fails an operation that the second one has just started. -/
theorem failed_by_stale_detach :
    ¬ ∀ (run next : OperationRun) (generation : Nat) (spec : DtmfOperationSpec)
      (clock : OperationClock) (view : DtmfOperationView)
        (service : DtmfOperationState) (now : Nat),
      Reachable system run → generation < run.service.runtimeGeneration →
      DtmfOperationState.start spec clock run.service = (.ok view, service) →
      Runs system ⟨service, view.operationId :: run.issued⟩ next →
      (next.service.detachRuntime generation now).operations.lookup view.operationId =
        next.service.operations.lookup view.operationId := by
  intro hKept
  have hSame := hKept reconnected _ 1 exampleSpec ⟨1, 1⟩ _ _ 2 (reachable_runAll _) (by decide)
    rfl .refl
  exact absurd (congrArg (Option.map (·.status)) hSame) (by decide)

theorem stale_detach_reconnected :
    ∃ view next, Runs system reconnected next ∧
      next.service.operations.lookup "dtmf-op-1-1" = some view ∧ view.status = .cancelled ∧
      (next.service.detachRuntime 1 4).operations.lookup "dtmf-op-1-1" = some view ∧
      (next.service.detachRuntime 1 4).runtime = next.service.runtime := by
  have hRun := runs_runAll [.complete "dtmf-op-1-1" ⟨"dtmf-op-1-1", .cancelled, [.d1], none⟩ 3]
    (reconnected.step (.start exampleSpec ⟨1, 1⟩))
  have hDetach := stale_detach reconnected _ 1 exampleSpec ⟨1, 1⟩ _ _ 4 (reachable_runAll _)
    (by decide) rfl hRun
  refine ⟨_, _, (runs_runAll [.start exampleSpec ⟨1, 1⟩] reconnected).trans hRun, rfl, rfl, ?_,
    hDetach.1⟩
  refine hDetach.2.mpr ?_
  intro v hLookup
  obtain rfl := Option.some.inj hLookup
  rfl

end OperationRun

end VoipSwitch
