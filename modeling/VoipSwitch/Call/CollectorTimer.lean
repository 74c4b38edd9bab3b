import VoipSwitch.Call.Forwarding
import VoipSwitch.Call.Gathering

/-! The timer of the digit collectors. There is one for all of them, and whatever the coordinator
handles it stays armed for the first of their deadlines. Most handlers spare the timer as they spare
what was answered; those that answer an action or replay one are left. -/
namespace VoipSwitch

open Stateful Keyed Proc

section Least

variable {α : Type} {key : α → Nat} {items : List α} {item other : α}

theorem minByKey_eq_none_iff : minByKey key items = none ↔ items = [] := by
  cases items with
  | nil => exact ⟨fun _ => rfl, fun _ => rfl⟩
  | cons first rest =>
      rw [minByKey]
      constructor
      · intro hNone
        split at hNone
        · exact absurd hNone (by simp)
        · split at hNone
          · exact absurd hNone (by simp)
          · exact absurd hNone (by simp)
      · exact fun hNil => absurd hNil (List.cons_ne_nil first rest)

theorem minByKey_spec (h : minByKey key items = some item) :
    item ∈ items ∧ ∀ other ∈ items, key item ≤ key other := by
  induction items generalizing item with
  | nil => exact absurd h (by simp [minByKey])
  | cons first rest ih =>
      rw [minByKey] at h
      split at h
      · next hNone =>
          obtain rfl := Option.some.inj h
          rw [minByKey_eq_none_iff.mp hNone]
          exact ⟨List.mem_cons_self, fun other hMem => by rw [List.mem_singleton.mp hMem]⟩
      · next least hLeast =>
          obtain ⟨hMem, hAll⟩ := ih hLeast
          split at h
          · next hLess =>
              obtain rfl := Option.some.inj h
              refine ⟨List.mem_cons_of_mem _ hMem, fun other hOther => ?_⟩
              cases List.mem_cons.mp hOther with
              | inl hFirst => exact hFirst ▸ Nat.le_of_lt hLess
              | inr hRest => exact hAll other hRest
          · next hNotLess =>
              obtain rfl := Option.some.inj h
              refine ⟨List.mem_cons_self, fun other hOther => ?_⟩
              cases List.mem_cons.mp hOther with
              | inl hFirst => exact hFirst ▸ Nat.le_refl _
              | inr hRest => exact Nat.le_trans (Nat.not_lt.mp hNotLess) (hAll other hRest)

end Least

section Deadlines

variable {collector : DigitCollectorState} {collectors : Collectors}
  {kind : DigitCollectorDeadline} {owner : CollectorId} {time : Nat}

namespace DigitCollectorState

def deadlineOf (collector : DigitCollectorState) : DigitCollectorDeadline → Option Nat
  | .firstDigit => collector.firstDeadline
  | .interDigit => collector.interDeadline
  | .overall => collector.overallDeadline

theorem mem_deadlines_iff :
    (time, kind) ∈ [collector.firstDeadline.map (·, DigitCollectorDeadline.firstDigit),
        collector.interDeadline.map (·, .interDigit),
        collector.overallDeadline.map (·, .overall)].filterMap id ↔
      collector.deadlineOf kind = some time := by
  cases kind <;> simp [deadlineOf]

theorem nextDeadline_eq_none_iff :
    collector.nextDeadline = none ↔ ∀ kind, collector.deadlineOf kind = none := by
  rw [nextDeadline, minByKey_eq_none_iff, List.eq_nil_iff_forall_not_mem]
  constructor
  · intro hNone kind
    cases hDeadline : collector.deadlineOf kind with
    | none => rfl
    | some time => exact absurd (mem_deadlines_iff.mpr hDeadline) (hNone (time, kind))
  · intro hNone deadline hMem
    have hDeadline := mem_deadlines_iff.mp hMem
    rw [hNone] at hDeadline
    exact absurd hDeadline (by simp)

theorem nextDeadline_spec (h : collector.nextDeadline = some (time, kind)) :
    collector.deadlineOf kind = some time ∧
      ∀ kind' time', collector.deadlineOf kind' = some time' → time ≤ time' := by
  obtain ⟨hMem, hLeast⟩ := minByKey_spec h
  refine ⟨mem_deadlines_iff.mp hMem, fun kind' time' hDeadline => ?_⟩
  exact hLeast (time', kind') (mem_deadlines_iff.mpr hDeadline)

end DigitCollectorState

theorem nextDigitCollectorDeadline_eq_none_iff :
    nextDigitCollectorDeadline collectors = none ↔
      ∀ id collector, (id, collector) ∈ collectors → ∀ kind, collector.deadlineOf kind = none := by
  rw [nextDigitCollectorDeadline, minByKey_eq_none_iff, List.filterMap_eq_nil_iff]
  constructor
  · intro hNone id collector hMem
    have hCollector := hNone (id, collector) hMem
    rw [Option.map_eq_none_iff] at hCollector
    exact DigitCollectorState.nextDeadline_eq_none_iff.mp hCollector
  · rintro hNone ⟨id, collector⟩ hMem
    have hCollector := DigitCollectorState.nextDeadline_eq_none_iff.mpr (hNone id collector hMem)
    exact Option.map_eq_none_iff.mpr hCollector

/-- The first deadline belongs to one of the collectors, and none of them has an earlier one. -/
theorem nextDigitCollectorDeadline_spec
    (h : nextDigitCollectorDeadline collectors = some (time, owner, kind)) :
    (∃ collector, (owner, collector) ∈ collectors ∧ collector.deadlineOf kind = some time) ∧
      ∀ id' other kind' time', (id', other) ∈ collectors →
        other.deadlineOf kind' = some time' → time ≤ time' := by
  obtain ⟨hMem, hLeast⟩ := minByKey_spec h
  constructor
  · rw [List.mem_filterMap] at hMem
    obtain ⟨⟨id, collector⟩, hOwner, hNext⟩ := hMem
    rw [Option.map_eq_some_iff] at hNext
    obtain ⟨⟨at_, deadline⟩, hDeadline, hSame⟩ := hNext
    simp only [Prod.mk.injEq] at hSame
    obtain ⟨rfl, rfl, rfl⟩ := hSame
    exact ⟨collector, hOwner, (DigitCollectorState.nextDeadline_spec hDeadline).1⟩
  · intro id' other kind' time' hOther hDeadline
    cases hNext : other.nextDeadline with
    | none =>
        rw [DigitCollectorState.nextDeadline_eq_none_iff.mp hNext] at hDeadline
        exact absurd hDeadline (by simp)
    | some next =>
        have hFirst := (DigitCollectorState.nextDeadline_spec hNext).2 kind' time' hDeadline
        have hEntry := hLeast (next.1, id', next.2) (List.mem_filterMap.mpr
          ⟨(id', other), hOther, Option.map_eq_some_iff.mpr ⟨next, hNext, rfl⟩⟩)
        exact Nat.le_trans hEntry hFirst

end Deadlines

namespace Coordinator

section Answers

theorem acceptActionResult_keepsArmed (identity : ActionIdentity) :
    KeepsArmed (acceptActionResult identity) := by
  intro env s hArmed
  rw [Post, acceptActionResult_eq]
  by_cases hFresh : s.freshResult identity = true
  · rw [if_pos hFresh]
    exact hArmed
  · rw [if_neg hFresh]
    exact hArmed

theorem handleActionFailure_keepsArmed (failure : ActionDeliveryFailed) (peerFailure : Bool) :
    KeepsArmed (handleActionFailure failure peerFailure) := by
  have hApply (fresh : Bool) :
      KeepsArmed (when fresh (applyActionFailure failure peerFailure)) :=
    .when (applyActionFailure_spares failure peerFailure).keepsArmed
  apply KeepsArmed.ite
  · exact .bind (.pure _) hApply
  · exact .bind (acceptActionResult_keepsArmed _) hApply

theorem handleActionAck_keepsArmed (ack : CallActionAck) : KeepsArmed (handleActionAck ack) := by
  apply KeepsArmed.ite
  · exact .bind (acceptActionResult_keepsArmed _) fun _ =>
      .when (confirmAnswer_spares _).keepsArmed
  · exact handleActionFailure_keepsArmed _ _

theorem sendActionResult_keepsArmed (result : ActionResult) :
    KeepsArmed (sendActionResult result) := by
  apply KeepsArmed.withEnv
  intro env
  split
  · exact .pure _
  · split
    · exact .modify fun _ => rfl
    · exact .fail _

theorem handleAiAction_keepsArmed (request : ActionRequested) :
    KeepsArmed (handleAiAction request) := by
  apply KeepsArmed.bind
  · apply KeepsArmed.attempt
    intro env s hArmed
    apply post_performAiAction
    · exact fun _ => hArmed
    · exact fun _ _ => hArmed
    · exact fun _ => execute_spares.keepsArmed env (s.spending request) hArmed
  · exact fun _ => .when (sendActionResult_keepsArmed _)

end Answers

section Control

theorem process_keepsArmed {m : Handler Unit} (hm : KeepsArmed m) : KeepsArmed (process m) :=
  .bind (.attempt hm) fun _ => (completeProcessing_spares _).keepsArmed

theorem processStep_keepsArmed {m : Handler Unit} (hm : KeepsArmed m) :
    KeepsArmed (processStep m) :=
  .bind (process_keepsArmed hm) fun _ => (continueIf_spares _).keepsArmed

theorem dispatch_keepsArmed (source : ControlSource) (s : Coordinator) (message : ControlMessage) :
    KeepsArmed (dispatch source s message) := by
  cases message with
  | legEvent frame event =>
      apply KeepsArmed.ite
      · exact (handleCallerLegEvent_spares frame event).keepsArmed
      · exact (handlePeerLegEvent_spares frame event).keepsArmed
  | peerLegEvent frame event => exact (handlePeerLegEvent_spares frame event).keepsArmed
  | actionDeliveryFailed failure => exact handleActionFailure_keepsArmed failure _
  | peerActionFailed failure => exact handleActionFailure_keepsArmed failure true
  | callActionAck ack =>
      apply KeepsArmed.ite
      · exact (handleOwnedLegActionAck_spares ack).keepsArmed
      · exact handleActionAck_keepsArmed ack
  | mediaActionResult result => exact (handleMediaActionResult_spares result).keepsArmed
  | mediaDtmfObserved event | sipDtmfReceived event =>
      exact (handleSourceDigit_spares event).keepsArmed
  | peerDigitEvent event => exact (handlePeerDigit_spares event).keepsArmed
  | dtmfInfoSendResult result => exact (handleDtmfInfoSendResult_spares result).keepsArmed
  | attemptRegistrationResult result =>
      exact (handleAttemptRegistrationResult_spares result).keepsArmed
  | aiActionRequested request => exact handleAiAction_keepsArmed request
  | aiGatewayUnavailable => exact handleAiGatewayUnavailable_spares.keepsArmed
  | shutdown => exact beginShutdown_spares.keepsArmed
  | prepareCoordinatorHandoff _ | prepareCoordinatorTarget _ | callFinalized | forceCleanup =>
      exact .pure _

theorem handleControl_keepsArmed (source : ControlSource) (message : ControlMessage) :
    KeepsArmed (handleControl source message) := by
  apply KeepsArmed.withEnv
  intro env
  apply KeepsArmed.withState
  intro s
  split
  · exact .pure _
  · exact .bind (.modify fun _ => rfl) fun _ => .pure _
  · exact .pure _
  · exact .bind (finishNow_spares _).keepsArmed fun _ => .pure _
  · exact process_keepsArmed (dispatch_keepsArmed _ _ _)

theorem receive_keepsArmed (source : ControlSource) (message : ControlMessage) :
    KeepsArmed (receive source message) := by
  apply KeepsArmed.withEnv
  intro env
  apply KeepsArmed.withState
  intro s
  split
  · exact .ite (.modify fun _ => rfl) (.pure _)
  · exact .bind (handleControl_keepsArmed _ _) fun _ => (continueIf_spares _).keepsArmed

theorem handle_keepsArmed (input : Input) : KeepsArmed (handle input) := by
  cases input with
  | enter => exact enter_spares.keepsArmed
  | control source message => exact receive_keepsArmed _ _
  | mediaResult request result =>
      exact .bind (.modify fun _ => rfl) fun _ => receive_keepsArmed _ _
  | registrationResult request result =>
      exact .bind (.modify fun _ => rfl) fun _ => receive_keepsArmed _ _
  | timer kind =>
      apply KeepsArmed.withState
      intro s
      split
      · exact .pure _
      · exact processStep_keepsArmed (handleTimerExpiry_spares _ _).keepsArmed
  | collectorTimer =>
      apply KeepsArmed.withState
      intro s
      split
      · exact .pure _
      · exact processStep_keepsArmed (handleDigitCollectorTimeout_keepsArmed _ _ _)
  | event message => exact handleEventMessage_keepsArmed _
  | shutdownSignal => exact processStep_keepsArmed beginShutdown_spares.keepsArmed
  | mailboxClosed => exact leave_spares.keepsArmed
  | installHandoff target committed => exact (installOn_spares _ _).keepsArmed
  | rollbackHandoff => exact .modify fun _ => rfl

end Control

section Slot

variable {s : Coordinator} {dtmf : DtmfRuntime}

theorem create_armed {invitation : Invitation} (h : create invitation = .ok s) : s.Armed := by
  obtain ⟨aggregate, _, rfl⟩ := create_spec h
  rfl

theorem step_armed (h : s.Armed) (env : Env) (input : Input) : (step env input s).Armed := by
  have hKept := handle_keepsArmed input env s h
  exact hKept.final

theorem armed_of_reachable (h : Transition.Reachable system s) : s.Armed := by
  apply h.invariant
  · rintro s ⟨invitation, hCreate⟩
    exact create_armed hCreate
  · rintro s ⟨env, input⟩ t hArmed ⟨_, rfl⟩
    exact step_armed hArmed env input

end Slot

end Coordinator

/-- The slot of the timer is as the deadlines of the collectors ask for. -/
structure DtmfRuntime.TimerFollows (dtmf : DtmfRuntime) : Prop where
  isSet : dtmf.collectorTimer.isSome = true ↔
    ∃ id collector kind, (id, collector) ∈ dtmf.collectors ∧
      (collector.deadlineOf kind).isSome = true
  generation : ∀ slot, dtmf.collectorTimer = some slot →
    slot.generation = dtmf.collectorTimerGeneration
  names : ∀ slot, dtmf.collectorTimer = some slot → ∃ collector,
    (slot.collectorId, collector) ∈ dtmf.collectors ∧
      collector.deadlineOf slot.deadline = some slot.sleepUntil
  least : ∀ slot, dtmf.collectorTimer = some slot → ∀ id other kind time,
    (id, other) ∈ dtmf.collectors → other.deadlineOf kind = some time → slot.sleepUntil ≤ time

namespace DtmfRuntime.Armed

variable {dtmf : DtmfRuntime} {slot : DigitCollectorTimerSlot}

theorem eq_none_iff (h : dtmf.Armed) :
    dtmf.collectorTimer = none ↔ nextDigitCollectorDeadline dtmf.collectors = none := by
  rw [h, Option.map_eq_none_iff]

theorem of_slot (h : dtmf.Armed) (hSlot : dtmf.collectorTimer = some slot) :
    nextDigitCollectorDeadline dtmf.collectors =
        some (slot.sleepUntil, slot.collectorId, slot.deadline) ∧
      slot.generation = dtmf.collectorTimerGeneration := by
  rw [h, Option.map_eq_some_iff] at hSlot
  obtain ⟨next, hNext, rfl⟩ := hSlot
  exact ⟨hNext, rfl⟩

theorem isSome_iff (h : dtmf.Armed) :
    dtmf.collectorTimer.isSome = true ↔
      ∃ id collector kind, (id, collector) ∈ dtmf.collectors ∧
        (collector.deadlineOf kind).isSome = true := by
  constructor
  · intro hSet
    obtain ⟨slot, hSlot⟩ := Option.isSome_iff_exists.mp hSet
    have hNext := (h.of_slot hSlot).1
    obtain ⟨⟨collector, hMem, hDeadline⟩, _⟩ := nextDigitCollectorDeadline_spec hNext
    refine ⟨slot.collectorId, collector, slot.deadline, hMem, ?_⟩
    rw [hDeadline]
    rfl
  · rintro ⟨id, collector, kind, hMem, hDeadline⟩
    cases hTimer : dtmf.collectorTimer with
    | some slot => rfl
    | none =>
        have hNone := h.eq_none_iff.mp hTimer
        rw [nextDigitCollectorDeadline_eq_none_iff] at hNone
        rw [hNone id collector hMem kind] at hDeadline
        exact hDeadline

theorem timerFollows (h : dtmf.Armed) : dtmf.TimerFollows where
  isSet := h.isSome_iff
  generation _ hSlot := (h.of_slot hSlot).2
  names _ hSlot := (nextDigitCollectorDeadline_spec (h.of_slot hSlot).1).1
  least _ hSlot := (nextDigitCollectorDeadline_spec (h.of_slot hSlot).1).2

end DtmfRuntime.Armed

namespace Coordinator

section Timeouts

variable {s : Coordinator} {env : Env} {collectorId : CollectorId}
  {deadline : DigitCollectorDeadline} {generation : Nat}

/-- Nothing that was reported or is going to be reported of a collector differs in `t`. -/
def SameOutcomes (s t : Coordinator) : Prop :=
  t.dtmf.collectors = s.dtmf.collectors ∧ t.dtmf.replies = s.dtmf.replies

theorem post_scheduleDigitCollectorTimer {t : Coordinator} (h : SameOutcomes s t) :
    Post scheduleDigitCollectorTimer env t (fun _ => SameOutcomes s) fun _ => False := h

theorem finishDigitCollection_idle {code : DigitCollectionResultCode} {reason : Option String}
    {t : Coordinator} (hSame : SameOutcomes s t)
    (hIdle : ∀ collector, s.dtmf.collectors.lookup collectorId = some collector →
      collector.phase ≠ .active) :
    Post (finishDigitCollection collectorId code reason) env t (fun _ => SameOutcomes s)
      fun _ => False := by
  rw [finishDigitCollection, post_bind, post_get]
  split
  · exact hSame
  · next collector hCollector =>
      rw [hSame.1] at hCollector
      rw [if_pos (hIdle collector hCollector)]
      exact hSame

/-- A timeout counts only for the collector that its timer was set for. -/
theorem handleDigitCollectorTimeout_idle
    (h : generation ≠ s.dtmf.collectorTimerGeneration ∨
      ∀ collector, s.dtmf.collectors.lookup collectorId = some collector →
        collector.phase ≠ .active) :
    SameOutcomes s
      ((handleDigitCollectorTimeout generation collectorId deadline).final env s) := by
  apply Post.final_of_total
  rw [handleDigitCollectorTimeout, post_bind, post_get]
  split
  · exact ⟨rfl, rfl⟩
  · next hCurrent =>
      have hIdle := h.resolve_left hCurrent
      rw [post_bind, updateDtmf, post_modify, post_bind]
      have hSame : SameOutcomes s { s with dtmf := { s.dtmf with collectorTimer := none } } :=
        ⟨rfl, rfl⟩
      apply (finishDigitCollection_idle hSame hIdle).mono
      · exact fun _ t hFinished => post_scheduleDigitCollectorTimer hFinished
      · exact fun _ hFalse => hFalse

end Timeouts

/-- Between two messages, the timer of the collectors is set if one of them has a deadline, and
then for the first of all deadlines and with the generation that counts. A timeout of another
generation, and one for a collector that is being released or is gone, changes no outcome. -/
theorem collector_timer_follows_deadlines {s : Coordinator} (h : Transition.Reachable system s) :
    s.dtmf.TimerFollows ∧
      ∀ env generation collectorId deadline,
        (generation ≠ s.dtmf.collectorTimerGeneration ∨
          s.dtmf.collectors.lookup collectorId = none ∨
          ∃ collector, s.dtmf.collectors.lookup collectorId = some collector ∧
            collector.phase = .releasing) →
        SameOutcomes s
          ((handleDigitCollectorTimeout generation collectorId deadline).final env s) := by
  constructor
  · have hArmed : s.dtmf.Armed := armed_of_reachable h
    exact hArmed.timerFollows
  · intro env generation collectorId deadline hIdle
    apply handleDigitCollectorTimeout_idle
    rcases hIdle with hStale | hGone | ⟨collector, hCollector, hReleasing⟩
    · exact .inl hStale
    · right
      intro collector hCollector
      rw [hGone] at hCollector
      cases hCollector
    · right
      intro other hOther
      rw [hCollector] at hOther
      rw [← Option.some.inj hOther, hReleasing]
      exact DigitCollectorPhase.noConfusion

/-- The messages up to the first digit that an answered call is asked for. -/
def collectingSchedule : List (Env × Input) :=
  answeringSchedule ++
    [(takingEnv, callerAck .answerInboundInvite "answer-c" 1),
      (takingEnv, .event (.startDigitCollection Gathering.twoDigits)),
      (takingEnv, .mediaResult
        (.acquireDtmfCapability "acquire-dtmf-collector-c-pin" 1
          { leaseId := "dtmf-collector-c-pin", owner := "menu"
            sourceSessionId := "session-c-caller", mode := .collect, requestedGeneration := 1 })
        (.dtmfCapabilityAcquired "acquire-dtmf-collector-c-pin" 1 (.ok
          { leaseId := "dtmf-collector-c-pin", sourceSessionId := "session-c-caller"
            mediaGeneration := 1 })))]

theorem collector_timer_follows_deadlines_first_digit :
    ∃ s : Coordinator, s.dtmf.collectorTimer =
        some { generation := 1, collectorId := "pin", deadline := .firstDigit
               sleepUntil := 5000 } ∧ s.dtmf.TimerFollows := by
  obtain ⟨s, hRun, h⟩ := reachable_of_schedule (fun _ _ => true)
    (fun s => s.dtmf.collectorTimer =
      some { generation := 1, collectorId := "pin", deadline := .firstDigit, sleepUntil := 5000 })
    (callTo (.trunk "peer:1") []) collectingSchedule (by decide)
  exact ⟨s, of_decide_eq_true h, (collector_timer_follows_deadlines hRun.reachable).1⟩

end Coordinator

end VoipSwitch
