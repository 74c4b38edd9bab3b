import VoipSwitch.Call.Closing

/-! A call that ends is removed. Whoever ends the call arms the cleanup timer or starts
finalization; one request of the AI service does neither. -/
namespace VoipSwitch

open Stateful Keyed Proc

def AgentAction.isEndCall : AgentAction → Bool
  | .endCall _ => true
  | _ => false

namespace Coordinator

/-- The cleanup timer is armed and will not be taken for a stale one. -/
def CleanupArmed (s : Coordinator) : Prop :=
  ∃ slot, s.cleanupTimer = some slot ∧ slot.generation = s.call.cleanupTimerGeneration

/-- Until finalization starts, an armed cleanup timer is current, and it is armed if the
call ends. -/
def Guarded (s : Coordinator) : Prop :=
  s.finalizationStarted = false →
    (∀ slot, s.cleanupTimer = some slot → slot.generation = s.call.cleanupTimerGeneration) ∧
    (s.call.isTerminating = true → s.cleanupTimer.isSome = true)

section Guarded

variable {env : Env} {s t : Coordinator}

theorem Guarded.cleanupArmed (h : Guarded s) (hTerminating : s.call.isTerminating = true)
    (hLive : s.finalizationStarted = false) : s.CleanupArmed := by
  obtain ⟨slot, hSlot⟩ := Option.isSome_iff_exists.mp ((h hLive).2 hTerminating)
  exact ⟨slot, hSlot, (h hLive).1 slot hSlot⟩

/-- Guardedness only looks at finalization, the cleanup timer and the call's state. -/
theorem Guarded.congr (h : Guarded s) (hStarted : t.finalizationStarted = s.finalizationStarted)
    (hTimer : t.cleanupTimer = s.cleanupTimer)
    (hGeneration : t.call.cleanupTimerGeneration = s.call.cleanupTimerGeneration)
    (hState : t.call.isTerminating = true → s.call.isTerminating = true) : Guarded t := by
  intro hLive
  rw [hTimer, hGeneration]
  exact ⟨(h (hStarted ▸ hLive)).1, fun hTerminating =>
    (h (hStarted ▸ hLive)).2 (hState hTerminating)⟩

theorem Guarded.of_started (h : s.finalizationStarted = true) : Guarded s :=
  fun hLive => (Bool.false_ne_true (hLive.symm.trans h)).elim

theorem Guarded.of_live (hTimer : s.cleanupTimer = none) (hState : s.call.isTerminating = false) :
    Guarded s := by
  intro _
  rw [hTimer, hState]
  exact ⟨nofun, nofun⟩

theorem Guarded.managed (s t : Coordinator) (hManaged : Managed s t) (h : Guarded s) :
    Guarded t := by
  obtain ⟨_, _, _, _, _, _, _, _, _, _, _, _, _, rfl, _⟩ := hManaged
  exact h.congr rfl rfl rfl id

end Guarded

section Handlers

variable {env : Env} {s : Coordinator} {E : Coordinator → Prop}

theorem post_startCleanup_guarded :
    Post (startTimer .cleanup) env s (fun _ => Guarded) E := by
  rw [post_startCleanup]
  intro _
  refine ⟨fun slot hSlot => ?_, fun _ => rfl⟩
  obtain rfl := Option.some.inj hSlot
  rfl

theorem startCleanup_guards : Establishes Guarded env (startTimer .cleanup) :=
  fun _ => post_startCleanup_guarded

theorem beginFinishCall_guards : Establishes Guarded env beginFinishCall := fun _ =>
  post_beginFinishCall (fun h => .of_started h) fun _ _ _ => .of_started rfl

theorem failMediaNegotiation_guarded (calleeCommand : ActionKind) :
    Retains Guarded env (failMediaNegotiation calleeCommand) := by
  refine .withState fun s => .ite (.pure _) (Establishes.retains ?_)
  refine .after fun _ => .after fun _ => .after fun _ => .after fun _ => .after fun _ => ?_
  exact .after fun _ => .after fun _ => .after fun _ => .after fun _ => startCleanup_guards

theorem guarded_closing : Closing env Guarded where
  congr _ _ h hStarted hTimer hGeneration hState :=
    h.congr hStarted hTimer hGeneration fun hEnds => (hState hEnds).1
  live _ := .of_live
  startCleanup := startCleanup_guards.retains
  unanswered _ _ _ :=
    .after fun _ => .after fun _ => .after fun _ => .after fun _ => .after fun _ =>
      startCleanup_guards
  negotiation := failMediaNegotiation_guarded

theorem finishOrArmCleanup_guards : Establishes Guarded env (finishOrArmCleanup true) := by
  refine .after fun s => ?_
  split
  · exact beginFinishCall_guards
  · exact startCleanup_guards

theorem finishOrArmCleanup_guarded (startCleanupTimer : Bool) :
    Retains Guarded env (finishOrArmCleanup startCleanupTimer) :=
  .withState fun _ => .ite beginFinishCall_guards.retains
    (.ite startCleanup_guards.retains (.pure _))

theorem markLegTerminated_guarded (sessionId : Option SessionId) :
    Keeps env Guarded E (markLegTerminated sessionId) := by
  refine .withState fun s => .ite (.modify fun _ h => h.congr rfl rfl rfl id) ?_
  exact .ite (.modify fun _ h => h.congr rfl rfl rfl id) (.pure _)

theorem handleDisconnected_guarded (event : CallLegEvent) :
    Retains Guarded env (handleDisconnected event) := by
  intro s h
  rw [handleDisconnected, post_bind, post_get]
  simp only [post_ite]
  split
  · exact h
  split
  · exact guarded_closing.failAiTransfer_retains _ s h
  split
  · exact Keeps.bind (guarded_closing.retryAfterAttemptEnded_retains _) (fun _ => .pure _) s h
  cases hTerminating : s.call.isTerminating with
  | true =>
      simp only [post_bind, post_cancelDial, post_assignState, post_when, post_updateCall,
        Bool.not_true, Bool.false_eq_true, false_implies, not_false_eq_true, true_implies, true_and]
      refine (markLegTerminated_guarded _).post (h.congr rfl rfl rfl fun _ => hTerminating)
        fun _ t ht => ?_
      exact finishOrArmCleanup_guarded false t ht
  | false =>
      refine Establishes.after
        (fun _ => .after fun _ => .after fun _ => .after fun _ => .after fun _ =>
        .after fun _ => ?_) s
      exact finishOrArmCleanup_guards

theorem rejectAfterFailure_guarded (event : CallLegEvent) :
    Retains Guarded env (rejectAfterFailure event) := by
  intro s h
  rw [rejectAfterFailure, post_bind, post_get]
  cases hTerminating : s.call.isTerminating with
  | true =>
      simp only [post_bind, post_beginTerminating, post_when, post_updateCall, Bool.not_true,
        Bool.false_eq_true, false_implies, not_false_eq_true, true_implies, true_and]
      refine ⟨fun _ => ?_, fun _ => ?_⟩
      · exact finishOrArmCleanup_guarded false _ (h.congr rfl rfl rfl fun _ => hTerminating)
      · exact finishOrArmCleanup_guarded false _ (h.congr rfl rfl rfl fun _ => hTerminating)
  | false =>
      refine Establishes.after (fun _ => .after fun _ => .after fun _ => .after fun _ => ?_) s
      exact finishOrArmCleanup_guards

/-- A caller that gives up leaves a callee to wait for, unless that one is gone as well. -/
theorem post_cancelPeer {transferPending : Bool} (hCaller : s.call.callerTerminated = true) :
    Post (cancelPeer transferPending) env s
      (fun arms t => arms = false → t.call.callerTerminated = true ∧ t.call.calleeTerminated = true)
      fun _ => True := by
  simp only [cancelPeer, post_bind, post_beginTerminating, post_cancelRing, post_get, post_ite,
    post_pure]
  split
  · exact post_submitCallee (fun hIdle => by cases hIdle) trivial
  split
  · exact fun _ => ⟨hCaller, rfl⟩
  split
  · exact post_submitCallee (fun hIdle => by cases hIdle) trivial
  · exact post_submitCallee (fun hIdle => by cases hIdle) trivial

theorem handleCancelled_guarded : Retains Guarded env handleCancelled := by
  refine .bind guarded_closing.cancelDial fun _ => .bind
    (guarded_closing.retains_quiet bumpPromptGeneration_quiet) fun _ s h => ?_
  rw [post_bind, post_get]
  cases hTerminating : s.call.isTerminating with
  | true =>
      simp only [post_bind, post_modify, post_assignState, post_updateCall, Bool.not_true,
        Bool.false_eq_true, if_false, post_pure]
      exact finishOrArmCleanup_guarded false _ (h.congr rfl rfl rfl fun _ => hTerminating)
  | false =>
      simp only [post_bind, post_modify, post_assignState, post_updateCall, Bool.not_false, if_true]
      refine (post_cancelPeer rfl).mono (fun arms t hPeer => ?_) fun _ _ => trivial
      cases arms with
      | true => exact finishOrArmCleanup_guards t
      | false =>
          simp only [finishOrArmCleanup, post_bind, post_get, hPeer rfl, and_self, if_true]
          exact beginFinishCall_guards t

theorem timeoutCall_guards (kind : CallTimerKind) (status : Nat) (cause : HangupCause)
    (cancelActionId rejectActionId reason : String) :
    Establishes Guarded env (timeoutCall kind status cause cancelActionId rejectActionId reason) :=
  .after fun _ => .after fun _ => .after fun _ => .after fun _ => .after fun _ => .after fun _ =>
    startCleanup_guards

/-- A cleanup timer that fires on an ending call removes it. -/
theorem cleanupExpiry_guarded {slot : CallTimerSlot} (h : Guarded s)
    (hSlot : s.cleanupTimer = some slot) :
    Post (handleTimerExpiry .cleanup slot.generation) env s (fun _ => Guarded) fun _ => True := by
  simp only [handleTimerExpiry, handleCleanupTimer, post_bind, post_modify, post_get, post_ite]
  split
  · next hStale =>
      refine .of_started (Bool.of_not_eq_false fun hLive => ?_)
      exact hStale ((h hLive).1 slot hSlot).symm
  split
  · next hRetry =>
      exact guarded_closing.forceRetryAfterCleanup_establishes (Option.isSome_iff_ne_none.mp hRetry)
  split
  · next hLive => exact .of_live rfl (Bool.not_eq_true _ ▸ hLive)
  · exact Establishes.after (fun _ => .after fun _ => .after fun _ => .after fun _ =>
      beginFinishCall_guards) _

theorem terminateActionFailure_guards (kind : ActionKind) (peerFailure : Bool) :
    Establishes Guarded env (terminateActionFailure kind peerFailure) := by
  refine .after fun _ => .after fun _ => .after fun _ => .after fun _ => .after fun _ => ?_
  exact .after fun _ => .after fun _ => .after fun _ => startCleanup_guards

theorem guarded_closingHandlers : ClosingHandlers env Guarded where
  toClosing := guarded_closing
  disconnected := handleDisconnected_guarded
  rejected := rejectAfterFailure_guarded
  cancelled := handleCancelled_guarded
  failed := terminateActionFailure_guards
  timeout := timeoutCall_guards

theorem timer_guarded {kind : CallTimerKind} {slot : CallTimerSlot} (h : Guarded s)
    (hSlot : s.timerSlot kind = some slot) :
    Post (handleTimerExpiry kind slot.generation) env s (fun _ => Guarded) fun _ => True := by
  by_cases hKind : kind = .cleanup
  · subst hKind
    exact cleanupExpiry_guarded h hSlot
  · exact guarded_closingHandlers.handleTimerExpiry_retains hKind slot.generation s h

theorem endAiCall_guards (cause : HangupCause) (actionId : String)
    (body : List (String × Document.Json)) :
    Establishes Guarded env (endAiCall cause actionId body) :=
  .after fun _ => .after fun _ => .after fun _ => .after fun _ => .after fun _ => .after fun _ =>
    .after fun _ => startCleanup_guards

/-- An AI request ends the call, but the adapter refuses to hang the caller up. -/
def endCallRefused (env : Env) (s : Coordinator) (request : ActionRequested) : Bool :=
  (s.validateAiAction env request).isOk
    && !s.completedActions.contains (s!"ai:{request.operationId}", request.generation)
    && request.action.isEndCall
    && env.adapter (s.actionIdentity s.call.callerSessionId .hangupDialog
      s!"ai-end-call-{s.call.callId}") ≠ .sent

theorem performAiAction_guarded {request : ActionRequested} (h : Guarded s)
    (hAccepted : s.endCallRefused env request = false) :
    Post (performAiAction request) env s (fun _ => Guarded) Guarded := by
  rw [performAiAction, post_bind, post_read, post_bind, post_get]
  split
  · exact h
  · next hValid =>
      rw [post_ite]
      split
      · exact h
      · next hFresh =>
          have hDone : Guarded { s with
              completedActions := (s!"ai:{request.operationId}", request.generation) ::
                s.completedActions } := h.congr rfl rfl rfl id
          rw [post_bind, post_modify]
          split
          · next reason hAction =>
              have hSent : env.adapter (s.actionIdentity s.call.callerSessionId .hangupDialog
                  s!"ai-end-call-{s.call.callId}") = .sent := by
                simpa [endCallRefused, hValid, hFresh, hAction, Except.isOk, Except.toBool,
                  AgentAction.isEndCall] using hAccepted
              simp only [endAiCall, post_bind, post_beginTerminating, post_updateCall,
                post_assignState, post_markCalleeTerminated, post_cancelDial, post_cancelRing,
                submitCallerAction, post_get]
              rw [post_submitAction]
              refine ⟨fun _ => ?_, fun hRefused => (hRefused hSent).elim⟩
              exact post_startCleanup_guarded
          · exact guarded_closing.quiet (collectAiDigits_quiet request _ _) _ hDone
          · exact guarded_closing.transferToExtension_keeps request _ _ hDone
          all_goals exact hDone

theorem handleAiAction_guarded {request : ActionRequested} (h : Guarded s)
    (hAccepted : s.endCallRefused env request = false) :
    Post (handleAiAction request) env s (fun _ => Guarded) fun _ => True := by
  rw [handleAiAction, post_bind]
  refine post_attempt_of ((performAiAction_guarded h hAccepted).mono (fun outcome t ht => ?_)
    fun t ht error => ?_)
  all_goals
    rw [post_ite]
    split
    · exact guarded_closing.retains_quiet (sendActionResult_quiet _) t ht
    · exact ht

theorem handleAiGatewayUnavailable_guarded :
    Retains Guarded env handleAiGatewayUnavailable :=
  .withState fun _ => .ite (.pure _) (endAiCall_guards _ _ _).retains

theorem beginShutdown_guarded : Retains Guarded env beginShutdown := by
  refine .bind (.modify fun _ h => h.congr rfl rfl rfl id) fun _ => .withState fun s => ?_
  refine .ite (.pure _) (Establishes.retains ?_)
  refine .after fun _ => .after fun _ => .after fun _ => .after fun _ => .after fun _ => ?_
  exact .after fun _ => .after fun _ => startCleanup_guards

/-- Finalization guards whatever precedes it, and what follows never stops early. -/
theorem finishUnexplained_guards : Establishes Guarded env finishUnexplained :=
  .after fun _ => beginFinishCall_guards

theorem finishNow_guards (cause : HangupCause) : Establishes Guarded env (finishNow cause) :=
  .after fun _ => beginFinishCall_guards

theorem start_guarded : Keeps env Guarded (fun _ => False) start := by
  intro s h
  apply post_start (J := Guarded)
  · exact fun _ _ _ _ h => h.congr rfl rfl rfl id
  · exact fun t _ => beginFinishCall_total (beginFinishCall_guards _)
  · exact fun _ => h
  · exact fun _ => h.congr rfl rfl rfl id
  · exact fun _ h _ => h.congr rfl rfl rfl id
  · exact fun _ _ h _ => h.congr rfl rfl rfl id
  · exact fun t _ => finishNow_total (finishNow_guards _ t)
  · exact fun _ h => h
  · exact fun t ht _ => guarded_closing.startDial t ht

theorem guarded_settles : Settles env Guarded fun _ => True where
  quiet _ _ hQuiet h := by
    obtain ⟨_, _, _, _, _, _, rfl, _⟩ := hQuiet
    exact h.congr rfl rfl rfl id
  flags _ _ _ _ _ _ _ h := h.congr rfl rfl rfl id
  managed := Guarded.managed
  refused _ _ _ := trivial
  explained _ h _ := h.congr rfl rfl rfl id
  finish s _ _ _ := beginFinishCall_total (beginFinishCall_guards s)
  failed s _ := by
    rw [post_bind, post_beginTerminating]
    exact finishUnexplained_total (finishUnexplained_guards _)
  start := start_guarded

/-- The steps after which the call is still removed: no valid request to end the call meets
an adapter that refuses the hangup. -/
def endsCalls (s : Coordinator) (label : Env × Input) : Bool :=
  match s.stimulus label.1 label.2 with
  | some (.aiAction request) => !s.endCallRefused label.1 request
  | _ => true

theorem step_guarded {input : Input} (h : Guarded s) (hEnds : s.endsCalls (env, input) = true) :
    Guarded (step env input s) := by
  have hTaken : Guarded (s.taken env input) := by
    cases input <;> exact h.congr rfl rfl rfl id
  refine guarded_settles.step hTaken fun stimulus hStimulus => ?_
  cases stimulus with
  | callerEvent frame event =>
      exact guarded_closingHandlers.handleCallerLegEvent_retains frame event _ hTaken
  | calleeEvent frame event =>
      exact guarded_closingHandlers.handlePeerLegEvent_retains frame event _ hTaken
  | actionFailed failure peerFailure =>
      exact guarded_closingHandlers.handleActionFailure_retains failure peerFailure _ hTaken
  | actionAck ack => exact guarded_closingHandlers.handleActionAck_retains ack _ hTaken
  | ownedLegAck ack => exact guarded_closingHandlers.handleOwnedLegActionAck_retains ack _ hTaken
  | mediaResult result => exact guarded_closing.handleMediaActionResult_retains result _ hTaken
  | registrationResult result =>
      exact guarded_closing.handleAttemptRegistrationResult_retains result _ hTaken
  | aiAction request =>
      have hSame := taken_of_stimulus hStimulus rfl
      rw [hSame]
      refine handleAiAction_guarded h ?_
      simpa only [endsCalls, hStimulus, Bool.not_eq_true'] using hEnds
  | gatewayUnavailable => exact handleAiGatewayUnavailable_guarded _ hTaken
  | shutdown => exact beginShutdown_guarded _ hTaken
  | timer kind generation =>
      obtain ⟨rfl, slot, hSlot, rfl⟩ := stimulus_timer hStimulus
      exact timer_guarded h hSlot
  | removal cause => exact finishNow_guards cause _
  | abandoned => exact finishUnexplained_guards _

end Handlers

theorem create_guarded {invitation : Invitation} {s : Coordinator}
    (h : create invitation = .ok s) : Guarded s := by
  obtain ⟨aggregate, _, rfl⟩ := create_spec h
  exact .of_live rfl rfl

/-- A call that ends and is not being finalized has a current cleanup timer, as long as no
accepted request of the AI service to end the call meets a refusing adapter. -/
theorem cleanup_armed_while_terminating {s : Coordinator}
    (hRun : Transition.ReachableWithin system (fun s label => s.endsCalls label = true) s)
    (hTerminating : s.call.isTerminating = true) (hLive : s.finalizationStarted = false) :
    s.CleanupArmed := by
  have hGuarded : Guarded s := by
    refine hRun.invariant (fun s ⟨_, hCreate⟩ => create_guarded hCreate) fun s label t h
      hEnds hNext => ?_
    obtain ⟨_, rfl⟩ := hNext
    exact step_guarded h hEnds
  exact hGuarded.cleanupArmed hTerminating hLive

/-- A callee that is not reached in time: the dial timer ends the call. -/
theorem cleanup_armed_after_dial_timeout :
    ∃ s : Coordinator, s.call.isTerminating = true ∧ s.finalizationStarted = false ∧
      s.CleanupArmed := by
  obtain ⟨s, hRun, h⟩ := reachable_of_schedule endsCalls
    (fun s => s.call.isTerminating && !s.finalizationStarted) (callTo (.trunk "peer:1") [])
    [(takingEnv, .enter), (takingEnv, .timer .dial)] (by decide)
  simp only [Bool.and_eq_true, Bool.not_eq_true'] at h
  exact ⟨s, h.1, h.2, cleanup_armed_while_terminating hRun h.1 h.2⟩

/-- The request of the AI service to end the call. -/
def endCallRequest : ActionRequested where
  conversation := { jobId := "j", tenantId := "d", conversationId := "c", operationId := "o"
                    generation := 1 }
  operationId := "o"
  generation := 1
  deadlineAtMs := 5000
  action := .endCall "done"

/-- The adapter's queue is full when the AI service ends an answered call. -/
theorem cleanup_not_armed_after_refused_end_call :
    ¬ ∀ s : Coordinator, Transition.Reachable system s → s.call.isTerminating = true →
      s.finalizationStarted = false → s.CleanupArmed := by
  intro hArmed
  obtain ⟨s, hRun, h⟩ := reachable_of_schedule (fun _ _ => true)
    (fun s => s.call.isTerminating && !s.finalizationStarted && s.cleanupTimer.isNone)
    (callTo (.aiAgent "a") [])
    [(takingEnv, .enter),
      (takingEnv, sdpPrepared "prepare-ai-agent-answer-c" 1 .aiAgentAnswer "offer" none
        (.ok "answer")),
      (takingEnv, callerAck .answerInboundInvite "answer-c" 1),
      ({ takingEnv with adapter := fun _ => .full },
        .control .coordinator (.aiActionRequested endCallRequest))] (by decide)
  simp only [Bool.and_eq_true, Bool.not_eq_true', Option.isNone_iff_eq_none] at h
  obtain ⟨slot, hSlot, _⟩ := hArmed s hRun.reachable h.1.1 h.1.2
  simp only [h.2, reduceCtorEq] at hSlot

end Coordinator

end VoipSwitch
