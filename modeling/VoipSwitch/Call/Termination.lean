import VoipSwitch.Call.Verdict

/-! How a call ended is decided when it starts to end. What may still write another outcome over
the first one is the end of a retry that was waited for, and the late failure of a callee or a
transfer. -/
namespace VoipSwitch

open Stateful Keyed Proc

namespace Coordinator

section Upheld

variable {env : Env} {s origin : Coordinator}

/-- The call ends as it was decided in `origin`, and what its CDR got to know since then is that. -/
structure Upholds (origin s : Coordinator) : Prop where
  caused : origin.call.hangupCause.isSome = true
  terminating : s.call.isTerminating = true
  outcome : s.outcome = origin.outcome
  written : (s.finalizationStarted, s.finalSnapshot) =
      (origin.finalizationStarted, origin.finalSnapshot) ∨
    origin.finalizationStarted = false ∧ s.finalizationStarted = true ∧
      ∃ snapshot, s.finalSnapshot = some snapshot ∧
        snapshot.hangupCause = origin.call.hangupCauseStr ∧
        snapshot.lastStatus = origin.call.lastStatus

theorem Upholds.refl (hTerminating : s.call.isTerminating = true) (h : s.Explained) :
    Upholds s s where
  caused := h hTerminating
  terminating := hTerminating
  outcome := rfl
  written := .inl rfl

theorem Upholds.isSome (h : Upholds origin s) : s.call.hangupCause.isSome = true := by
  rw [show s.call.hangupCause = origin.call.hangupCause from congrArg Prod.fst h.outcome]
  exact h.caused

/-- `m` keeps what was decided in `origin`. -/
abbrev Respects {α : Type} (env : Env) (origin : Coordinator) (m : Handler α) : Prop :=
  Keeps env (Upholds origin) (Upholds origin) m

variable {α β : Type}

theorem Upholds.congr {t : Coordinator} (h : Upholds origin s) (hSame : t.verdict = s.verdict) :
    Upholds origin t := by
  simp only [verdict, Prod.mk.injEq] at hSame
  obtain ⟨hState, hOutcome, hStarted, hSnapshot⟩ := hSame
  constructor
  · exact h.caused
  · rw [CallRuntime.isTerminating, hState]
    exact h.terminating
  · rw [hOutcome]
    exact h.outcome
  · rw [hStarted, hSnapshot]
    exact h.written

theorem IsPlain.respects {m : Handler α} (hm : IsPlain m) : Respects env origin m :=
  fun s h => (hm env s).mono (fun _ _ ht => h.congr ht) fun _ ht => h.congr ht

theorem respects_modify {f : Coordinator → Coordinator} (h : ∀ s, (f s).verdict = s.verdict) :
    Respects env origin (Proc.modify f) := (IsPlain.modify h).respects

theorem getOrInsert_respects (cause : HangupCause) : Respects env origin
    (updateCall fun call => { call with hangupCause := getOrInsert call.hangupCause cause }) := by
  intro s h
  rw [post_updateCall]
  constructor
  · exact h.caused
  · exact h.terminating
  · show (getOrInsert s.call.hangupCause cause, s.call.lastStatus) = _
    rw [getOrInsert_of_isSome h.isSome]
    exact h.outcome
  · exact h.written

theorem assignTerminating_respects : Respects env origin (assignState .terminating) := by
  intro s h
  rw [post_assignState]
  exact { h with terminating := rfl }

theorem beginTerminating_respects (cause : HangupCause) :
    Respects env origin (beginTerminating cause) := by
  intro s h
  rw [post_beginTerminating]
  constructor
  · exact h.caused
  · exact beginTerminating_isTerminating s.call cause
  · show (getOrInsert s.call.hangupCause cause, s.call.lastStatus) = _
    rw [getOrInsert_of_isSome h.isSome]
    exact h.outcome
  · exact h.written

/-- The CDR gets what was decided. -/
theorem beginFinishCall_respects : Respects env origin beginFinishCall := by
  intro s h
  apply post_beginFinishCall
  · exact fun _ => h
  · rintro hOpen _ ⟨_, _, _, _, _, _, rfl, _⟩
    constructor
    · exact h.caused
    · exact h.terminating
    · exact h.outcome
    · right
      have hBefore : origin.finalizationStarted = false := by
        rcases h.written with hSame | ⟨hBefore, _⟩
        · exact (congrArg Prod.fst hSame).symm.trans hOpen
        · exact hBefore
      refine ⟨hBefore, rfl, _, rfl, ?_, congrArg Prod.snd h.outcome⟩
      show s.call.hangupCauseStr = _
      rw [CallRuntime.hangupCauseStr,
        show s.call.hangupCause = origin.call.hangupCause from congrArg Prod.fst h.outcome]
      rfl

theorem finishOrArmCleanup_respects (startCleanupTimer : Bool) :
    Respects env origin (finishOrArmCleanup startCleanupTimer) :=
  .withState fun _ => .ite beginFinishCall_respects (.ite (startTimer_plain _).respects (.pure _))

theorem finishUnexplained_respects : Respects env origin finishUnexplained :=
  .bind (getOrInsert_respects _) fun _ => beginFinishCall_respects

/-- What a procedure does not do in a call that ends. -/
theorem respects_ite_neg {c : Prop} [Decidable c] {m n : Handler α} (hc : ¬ c)
    (hn : Respects env origin n) : Respects env origin (if c then m else n) := by
  rw [if_neg hc]
  exact hn

theorem respects_when_neg {c : Prop} [Decidable c] {m : Handler Unit} (hc : ¬ c) :
    Respects env origin (when c m) := by
  intro s h
  rw [post_when]
  exact ⟨fun h => (hc h).elim, fun _ => h⟩

/-- A procedure that looks at the state of a call that ends. -/
theorem respects_withState {f : Coordinator → Handler α}
    (hf : ∀ s, s.call.isTerminating = true → Respects env origin (f s)) :
    Respects env origin (Proc.get >>= f) := fun s h => hf s h.terminating s h

theorem handleCancelled_respects : Respects env origin handleCancelled := by
  refine .bind (cancelTimer_plain _).respects fun _ => ?_
  refine .bind (IsPlain.of_quiet bumpPromptGeneration_quiet).respects fun _ => ?_
  refine respects_withState fun s hEnds => .bind (respects_modify fun _ => rfl) fun _ => ?_
  refine .bind (respects_modify fun _ => rfl) fun _ => ?_
  refine .bind assignTerminating_respects fun _ => .bind (getOrInsert_respects _) fun _ => ?_
  refine respects_ite_neg ?_ (.bind (.pure _) fun _ => finishOrArmCleanup_respects _)
  simp [hEnds]

theorem handleDisconnected_respects (event : CallLegEvent) :
    Respects env origin (handleDisconnected event) := by
  refine respects_withState fun s hEnds => .ite (.pure _) ?_
  refine respects_ite_neg (by simp [hEnds]) (respects_ite_neg (by simp [hEnds]) ?_)
  refine .bind (cancelTimer_plain _).respects fun _ => .bind assignTerminating_respects fun _ => ?_
  refine .bind (respects_when_neg (by simp [hEnds])) fun _ => ?_
  refine .bind (getOrInsert_respects _) fun _ => ?_
  refine .bind (markLegTerminated_plain _).respects fun _ => ?_
  exact .bind (respects_when_neg (by simp [hEnds])) fun _ => finishOrArmCleanup_respects _

theorem rejectAfterFailure_respects (event : CallLegEvent) :
    Respects env origin (rejectAfterFailure event) := by
  refine respects_withState fun s hEnds => .bind (respects_when_neg (by simp [hEnds])) fun _ => ?_
  refine .bind (beginTerminating_respects _) fun _ => ?_
  refine .bind (.when markCalleeTerminated_plain.respects) fun _ => ?_
  exact .bind (respects_when_neg (by simp [hEnds])) fun _ => finishOrArmCleanup_respects _

theorem handleFailed_respects (event : CallLegEvent) :
    Respects env origin (handleFailed event) := by
  refine .bind (cancelTimer_plain _).respects fun _ => respects_withState fun s hEnds => ?_
  refine respects_ite_neg (by simp [hEnds]) ?_
  rw [if_pos hEnds]
  exact rejectAfterFailure_respects event

theorem handleProvisional_respects (event : CallLegEvent) :
    Respects env origin (handleProvisional event) := by
  refine respects_withState fun s hEnds => ?_
  rw [if_pos (.inl hEnds)]
  exact .pure _

theorem forceRemoval_respects : Respects env origin forceRemoval := by
  refine .withState fun s => .bind (.when (submitCaller_plain _ _ _).respects) fun _ => ?_
  refine .bind (.when (submitCallee_plain _ _ _).respects) fun _ => ?_
  exact .bind (getOrInsert_respects _) fun _ => beginFinishCall_respects

/-- The adapter takes the hangup of an abandoned callee, after which the retry is given up. -/
def retryGivenUp (env : Env) (s : Coordinator) (actionId : String) : Bool :=
  s.retryAfterCleanup.isSome
    && env.adapter (s.actionIdentity s.call.calleeSessionId .hangupDialog actionId) = .sent

/-- The owner's leg reports an action of its own for the first time. -/
def freshOwnedAck (s : Coordinator) (ack : CallActionAck) : Bool :=
  ack.callId = s.call.callId && ack.sessionId = s.ownedSessionId
    && ack.generation = s.ownedActionGeneration
    && !s.ownedCompletedActions.contains (ack.actionId, ack.generation)

/-- What writes another outcome over the one of a call that ends: the end of a retry that was
still waited for, and the failure of a callee or a transfer that was still set up. -/
def overwrittenBy (env : Env) (s : Coordinator) : Stimulus → Bool
  | .calleeEvent frame event =>
    event.sessionId = some s.call.calleeSessionId && frame = .outboundAnswered
      && s.retryGivenUp env
        s!"retry-late-answer-hangup-{s.call.callId}-attempt-{s.currentAttemptSeq}"
  | .actionFailed failure peerFailure =>
    peerFailure && failure.identity.actionKind.isOriginate && s.pendingAiTransfer.isSome
  | .ownedLegAck ack =>
    s.freshOwnedAck ack && !ack.accepted && ack.actionKind.isOriginate
      && s.pendingAiTransfer.isSome
  | .registrationResult (.rejected attemptSeq sessionId _) =>
    s.pendingAttemptRegistration.any fun pending =>
      pending.attemptSeq = attemptSeq && pending.sessionId = sessionId
  | .timer .cleanup generation =>
    s.call.cleanupTimerGeneration = generation
      && s.retryGivenUp env
        s!"retry-cleanup-hangup-{s.call.callId}-attempt-{s.currentAttemptSeq}"
  | _ => false

/-- A call that ends already gets another outcome by this step. -/
def overwrites (s : Coordinator) (label : Env × Input) : Bool :=
  s.call.isTerminating && (s.stimulus label.1 label.2).any (s.overwrittenBy label.1)

/-- A late answer whose hangup is refused changes nothing else. -/
theorem retryAfterLateAnswer_respects (h : Upholds origin s)
    (hKept : s.retryGivenUp env
      s!"retry-late-answer-hangup-{s.call.callId}-attempt-{s.currentAttemptSeq}" = false) :
    Post retryAfterLateAnswer env s (fun _ => Upholds origin) (Upholds origin) := by
  rw [retryAfterLateAnswer, post_bind, post_get]
  split
  · exact h
  · next status hStatus =>
      rw [post_bind, post_modify, post_bind, post_cancelCleanup, post_bind, submitCalleeAction,
        post_bind, post_get, post_submitAction]
      constructor
      · intro hSent
        simp only [retryGivenUp, hStatus, Option.isSome_some, Bool.true_and,
          decide_eq_false_iff_not] at hKept
        exact (hKept hSent).elim
      · intro _
        exact { h with }

theorem forceRetryAfterCleanup_respects (h : Upholds origin s)
    (hKept : s.retryGivenUp env
      s!"retry-cleanup-hangup-{s.call.callId}-attempt-{s.currentAttemptSeq}" = false) :
    Post forceRetryAfterCleanup env s (fun _ => Upholds origin) (Upholds origin) := by
  rw [forceRetryAfterCleanup, post_bind, post_get]
  split
  · exact h
  · next status hStatus =>
      rw [post_bind, post_modify, post_bind, submitCalleeAction, post_bind, post_get,
        post_submitAction]
      constructor
      · intro hSent
        simp only [retryGivenUp, hStatus, Option.isSome_some, Bool.true_and,
          decide_eq_false_iff_not] at hKept
        exact (hKept hSent).elim
      · intro _
        exact { h with }

theorem respects_ite_pos {c : Prop} [Decidable c] {m n : Handler α} (hc : c)
    (hm : Respects env origin m) : Respects env origin (if c then m else n) := by
  rw [if_pos hc]
  exact hm

theorem handleAnswered_respects {event : CallLegEvent} (h : Upholds origin s)
    (hKept : s.retryGivenUp env
      s!"retry-late-answer-hangup-{s.call.callId}-attempt-{s.currentAttemptSeq}" = false) :
    Post (handleAnswered event) env s (fun _ => Upholds origin) (Upholds origin) := by
  have hCleared : Upholds origin { s with
      dialTimer := none
      call := { s.call with
        dialTimerGeneration := satSucc64 s.call.dialTimerGeneration } } := h.congr rfl
  rw [handleAnswered, post_bind, post_cancelDial]
  apply (retryAfterLateAnswer_respects hCleared hKept).bind
  intro retried t ht
  refine (Keeps.ite (.pure _) (respects_withState fun t hEnds => .ite (.pure _) ?_) :
    Respects env origin _) t ht
  exact respects_ite_pos hEnds hangupLateAnswer_plain.respects

theorem handlePeerLegEvent_respects {frame : LegFrame} {event : CallLegEvent}
    (h : Upholds origin s) (hKept : s.overwrittenBy env (.calleeEvent frame event) = false) :
    Post (handlePeerLegEvent frame event) env s (fun _ => Upholds origin) (Upholds origin) := by
  have hHeard : Upholds origin (s.heard frame event) := { h with }
  unfold handlePeerLegEvent
  rw [post_bind, post_get, post_bind, post_observe, post_ite]
  split
  · exact hHeard
  · next hSession =>
      rw [not_not] at hSession
      rw [post_ite]
      split
      · exact hHeard
      · rw [post_ite]
        split
        · next hDeferred => exact (hDeferred.2.2 h.terminating).elim
        · split
          · exact handleProvisional_respects event _ hHeard
          · have hRetry : s.retryGivenUp env
                s!"retry-late-answer-hangup-{s.call.callId}-attempt-{s.currentAttemptSeq}" =
                false := by
              simpa [overwrittenBy, hSession] using hKept
            exact handleAnswered_respects hHeard hRetry
          · exact handleFailed_respects event _ hHeard
          · exact handleDisconnected_respects event _ hHeard
          · exact hHeard

theorem handleCallerLegEvent_respects (frame : LegFrame) (event : CallLegEvent) :
    Respects env origin (handleCallerLegEvent frame event) := by
  refine .bind (fun s h => post_acceptLegEvent { h with }) fun _ => .ite (.pure _) ?_
  split
  · exact handleCancelled_respects
  · exact handleDisconnected_respects event
  · exact .pure _

theorem applyActionFailure_respects {failure : ActionDeliveryFailed} {peerFailure : Bool}
    (h : Upholds origin s)
    (hKept : (peerFailure && failure.identity.actionKind.isOriginate
      && s.pendingAiTransfer.isSome) = false) :
    Post (applyActionFailure failure peerFailure) env s (fun _ => Upholds origin)
      (Upholds origin) := by
  have hEnd : Respects env origin (do
      let s ← Proc.get
      if s.call.isTerminating then pure ()
      else terminateActionFailure failure.identity.actionKind peerFailure) :=
    respects_withState fun _ hEnds => respects_ite_pos hEnds (.pure _)
  have hRetry : Respects env origin retryAfterOriginateFailure :=
    .withEnv (respects_withState fun s hEnds => respects_ite_pos
      (by simp [hasRetryCandidate, hEnds]) (.pure _))
  simp only [Bool.and_eq_false_iff] at hKept
  rw [applyActionFailure, post_bind, post_get]
  refine (?_ : Respects env origin _) s h
  refine .ite (respects_modify fun _ => rfl) (respects_ite_neg ?_ ?_)
  · rintro ⟨hPeer, hOriginate, hTransfer⟩
    simp [hPeer, hOriginate, hTransfer] at hKept
  · refine .ite (.bind hRetry fun retried => ?_) (.bind (.pure _) fun retried => ?_)
    all_goals exact .ite (.pure _) hEnd

theorem handleActionFailure_respects {failure : ActionDeliveryFailed} {peerFailure : Bool}
    (h : Upholds origin s)
    (hKept : (peerFailure && failure.identity.actionKind.isOriginate
      && s.pendingAiTransfer.isSome) = false) :
    Post (handleActionFailure failure peerFailure) env s (fun _ => Upholds origin)
      (Upholds origin) := by
  rw [handleActionFailure]
  cases peerFailure with
  | true => exact applyActionFailure_respects h hKept
  | false =>
      have hAccepted : Respects env origin (acceptActionResult failure.identity) :=
        (IsPlain.of_quiet (acceptActionResult_quiet _)).respects
      apply (hAccepted s h).bind
      intro fresh t ht
      rw [post_ite]
      split
      · exact applyActionFailure_respects ht rfl
      · exact ht

theorem confirmAnswer_respects (actionId : String) :
    Respects env origin (confirmAnswer actionId) := by
  refine respects_withState fun s hEnds => ?_
  split
  · exact .pure _
  · refine .bind (respects_modify fun _ => rfl) fun _ => respects_ite_pos (.inr hEnds) ?_
    exact respects_modify fun _ => rfl

theorem handleActionAck_respects (ack : CallActionAck) :
    Respects env origin (handleActionAck ack) := by
  refine .ite (.bind ?_ fun fresh => .ite (confirmAnswer_respects _) (.pure _)) ?_
  · exact (IsPlain.of_quiet (acceptActionResult_quiet _)).respects
  · exact fun s h => handleActionFailure_respects h rfl

theorem handleOwnedLegActionAck_respects {ack : CallActionAck} (h : Upholds origin s)
    (hKept : s.overwrittenBy env (.ownedLegAck ack) = false) :
    Post (handleOwnedLegActionAck ack) env s (fun _ => Upholds origin) (Upholds origin) := by
  rw [handleOwnedLegActionAck, post_bind, post_get, post_ite]
  split
  · exact h
  · next hFresh =>
      simp only [not_or, not_not] at hFresh
      obtain ⟨hCall, hSession, hGeneration, hNew⟩ := hFresh
      rw [post_bind, post_modify, post_ite]
      have hSpent : Upholds origin { s with
          ownedCompletedActions := (ack.actionId, ack.generation) :: s.ownedCompletedActions } :=
        { h with }
      split
      · exact hSpent
      · next hRejected =>
          apply handleActionFailure_respects hSpent
          rw [hGeneration] at hNew
          rw [show ack.identity.actionKind = ack.actionKind from rfl]
          simpa [overwrittenBy, freshOwnedAck, hCall, hSession, hGeneration, hNew, hRejected]
            using hKept

theorem handleMediaActionResult_respects (result : MediaActionResult) :
    Respects env origin (handleMediaActionResult result) := by
  refine .withEnv (respects_withState fun s hEnds => ?_)
  split
  · exact respects_ite_pos (by simp [staleSdp, hEnds]) (.pure _)
  · refine .ite (.pure _) (.bind (.whenSome fun error => respects_modify fun _ => rfl) fun _ => ?_)
    exact (IsPlain.reshapes (activateCurrentBridge_reshapes _ _)).respects
  · exact .ite (.pure _) (IsPlain.of_quiet (handleDtmfCapabilityAcquired_quiet _ _)).respects
  · exact .ite (.pure _) (IsPlain.of_quiet (handleDtmfCapabilityReleased_quiet _ _)).respects

theorem handleAttemptRegistrationResult_respects {result : AttemptRegistrationResult}
    (h : Upholds origin s) (hKept : s.overwrittenBy env (.registrationResult result) = false) :
    Post (handleAttemptRegistrationResult result) env s (fun _ => Upholds origin)
      (Upholds origin) := by
  rw [handleAttemptRegistrationResult, post_bind, post_get]
  split
  · exact h
  · rw [post_bind, post_modify, post_ite, if_pos (.inr (.inr h.terminating))]
    exact { h with }
  · exact h
  · next hPending =>
      rw [post_ite, if_neg]
      · exact h
      · simpa [overwrittenBy, hPending] using hKept

theorem handleAiAction_respects (request : ActionRequested) :
    Respects env origin (handleAiAction request) := by
  refine .bind (.attempt ?_) fun result => .ite ?_ (.pure _)
  · refine .withEnv (respects_withState fun s hEnds => ?_)
    split
    · exact .fail (fun _ h => h) _
    · next hValid =>
        have hLive := (answered_of_valid hValid).2
        exact (Bool.false_ne_true (hLive.symm.trans hEnds)).elim
  · exact (IsPlain.of_quiet (sendActionResult_quiet _)).respects

theorem handleTimerExpiry_respects {kind : CallTimerKind} {generation : Nat}
    (h : Upholds origin s) (hKept : s.overwrittenBy env (.timer kind generation) = false) :
    Post (handleTimerExpiry kind generation) env s (fun _ => Upholds origin) (Upholds origin) := by
  cases kind with
  | dial =>
      refine (?_ : Respects env origin _) s h
      refine .bind (respects_modify fun _ => rfl) fun _ => respects_withState fun s hEnds => ?_
      exact respects_ite_pos (.inr hEnds) (.pure _)
  | ring =>
      refine (?_ : Respects env origin _) s h
      refine .bind (respects_modify fun _ => rfl) fun _ => respects_withState fun s hEnds => ?_
      exact respects_ite_pos (.inr hEnds) (.pure _)
  | cleanup =>
      have hFired : Upholds origin { s with cleanupTimer := none } := { h with }
      simp only [handleTimerExpiry, handleCleanupTimer, post_bind, post_modify, post_get, post_ite]
      split
      · exact hFired
      · next hCurrent =>
          rw [not_not] at hCurrent
          split
          · have hSame : s.retryGivenUp env
                s!"retry-cleanup-hangup-{s.call.callId}-attempt-{s.currentAttemptSeq}" = false := by
              simpa [overwrittenBy, hCurrent] using hKept
            exact forceRetryAfterCleanup_respects hFired hSame
          · split
            · exact hFired
            · exact forceRemoval_respects _ hFired

theorem respond_respects {stimulus : Stimulus} (h : Upholds origin s)
    (hKept : s.overwrittenBy env stimulus = false) :
    Post (respond stimulus) env s (fun _ => Upholds origin) (Upholds origin) := by
  cases stimulus with
  | callerEvent frame event => exact handleCallerLegEvent_respects frame event s h
  | calleeEvent frame event => exact handlePeerLegEvent_respects h hKept
  | actionFailed failure peerFailure => exact handleActionFailure_respects h hKept
  | actionAck ack => exact handleActionAck_respects ack s h
  | ownedLegAck ack => exact handleOwnedLegActionAck_respects h hKept
  | mediaResult result => exact handleMediaActionResult_respects result s h
  | registrationResult result => exact handleAttemptRegistrationResult_respects h hKept
  | aiAction request => exact handleAiAction_respects request s h
  | gatewayUnavailable =>
      refine (?_ : Respects env origin _) s h
      exact respects_withState fun s hEnds => respects_ite_pos (.inr hEnds) (.pure _)
  | shutdown =>
      refine (?_ : Respects env origin _) s h
      refine .bind (respects_modify fun _ => rfl) fun _ => respects_withState fun s hEnds => ?_
      exact respects_ite_pos hEnds (.pure _)
  | timer kind generation => exact handleTimerExpiry_respects h hKept
  | removal cause =>
      refine (?_ : Respects env origin _) s h
      exact .bind (beginTerminating_respects _) fun _ => beginFinishCall_respects
  | abandoned => exact finishUnexplained_respects s h

theorem respects_settles :
    Settles env (fun s => Upholds origin s ∧ s.Started)
      fun s => Upholds origin s ∧ s.Started := by
  apply settles_with_started
  · rintro s _ ⟨_, _, _, _, _, _, rfl, _⟩ h
    exact h.congr rfl
  · rintro s _ ⟨_, _, _, _, _, _, _, _, _, _, _, _, _, rfl, _⟩ h
    exact h.congr rfl
  · exact fun s h _ => h
  · intro s h _
    have hKept : Post _ env s (fun _ => Upholds origin) (Upholds origin) :=
      getOrInsert_respects .internalError s h
    rwa [post_updateCall] at hKept
  · exact fun s h _ _ => beginFinishCall_total (beginFinishCall_respects s h)
  · intro s h
    have hBegun : Post _ env s (fun _ => Upholds origin) (Upholds origin) :=
      beginTerminating_respects .internalError s h
    rw [post_beginTerminating] at hBegun
    rw [post_bind, post_beginTerminating]
    exact finishUnexplained_total (finishUnexplained_respects _ hBegun)

end Upheld

/-- A call that ends keeps its outcome, and its CDR gets it, as long as no step of the kinds that
overwrite it takes place. -/
theorem outcome_kept {s t : Coordinator} (h : Transition.Reachable system s)
    (hEnds : s.call.isTerminating = true)
    (hRun : Transition.RunsWithin system (fun s label => s.overwrites label = false) s t) :
    Upholds s t := by
  have hStarted : s.Started := by
    rcases started_or_new h with hStarted | ⟨invitation, hCreate⟩
    · exact hStarted
    · obtain ⟨aggregate, _, rfl⟩ := create_spec hCreate
      exact (Bool.false_ne_true hEnds).elim
  have hBoth : Upholds s t ∧ t.Started := by
    apply hRun.invariant ⟨.refl hEnds (explained_of_reachable h), hStarted⟩
    rintro u ⟨env, input⟩ v ⟨hUpheld, hEntered⟩ hKept ⟨_, rfl⟩
    have hTaken : Upholds s (u.taken env input) := by
      cases input <;> exact hUpheld.congr rfl
    apply respects_settles.step ⟨hTaken, hEntered.taken⟩
    intro stimulus hStimulus
    apply Post.and _ (respond_started stimulus _ hEntered.taken)
    apply respond_respects hTaken
    have hNone : u.overwrittenBy env stimulus = false := by
      simpa only [overwrites, hUpheld.terminating, hStimulus, Option.any_some, Bool.true_and]
        using hKept
    cases input <;> exact hNone
  exact hBoth.1

section Runs

/-- An event of the caller's leg. -/
def callerEvent (frame : LegFrame) (legEventSeq : Nat) : Input :=
  .control .coordinator (.legEvent frame
    { callId := some "c", sessionId := some "session-c-caller", adapterCallLegId := "leg"
      legEventSeq, statusCode := none, sdp := none, reason := none })

/-- The first callee is not reached, and the caller gives up before the next one is tried. -/
def givenUpSchedule : List (Env × Input) :=
  [(takingEnv, .enter), (takingEnv, .timer .dial),
    (takingEnv, callerEvent .inboundInviteCancelled 1)]

/-- The cleanup timer records the end of a retry over the caller's cancel. -/
theorem outcome_overwritten_by_cleanup :
    ¬ ∀ s env input, Transition.Reachable system s → s.call.isTerminating = true →
      s.admissible input → (step env input s).outcome = s.outcome := by
  intro hKept
  obtain ⟨s, hRun, h⟩ := reachable_of_schedule (fun _ _ => true)
    (fun s => s.call.isTerminating && decide (s.admissible (.timer .cleanup))
      && decide (s.outcome = (some .originatorCancel, some 408))
      && decide ((step takingEnv (.timer .cleanup) s).outcome = (some .noRoute, some 408)))
    (callTo (.trunk "peer:1") [.trunk "peer:2"]) givenUpSchedule (by decide)
  simp only [Bool.and_eq_true, decide_eq_true_eq] at h
  have hSame := hKept s takingEnv (.timer .cleanup) hRun.reachable h.1.1.1 h.1.1.2
  rw [h.2, h.1.2, Prod.mk.injEq] at hSame
  exact absurd hSame.1 (by decide)

/-- The caller gives up, and the call is removed with that cause. -/
theorem outcome_kept_after_cancel :
    ∃ s t : Coordinator, s.outcome = (some .originatorCancel, none) ∧ s.finalSnapshot = none ∧
      t.finalSnapshot.isSome = true ∧ Upholds s t := by
  obtain ⟨s, hRun, h⟩ := reachable_of_schedule (fun _ _ => true)
    (fun s => s.call.isTerminating && decide (s.admissible (.timer .cleanup))
      && !s.overwrites (takingEnv, .timer .cleanup)
      && decide (s.outcome = (some .originatorCancel, none)) && s.finalSnapshot.isNone
      && (step takingEnv (.timer .cleanup) s).finalSnapshot.isSome)
    (callTo (.trunk "peer:1") [])
    [(takingEnv, .enter), (takingEnv, callerEvent .inboundInviteCancelled 1)] (by decide)
  simp only [Bool.and_eq_true, decide_eq_true_eq, Bool.not_eq_true',
    Option.isNone_iff_eq_none] at h
  obtain ⟨⟨⟨⟨⟨hEnds, hAllowed⟩, hKept⟩, hOutcome⟩, hUnsaid⟩, hSaid⟩ := h
  exact ⟨s, _, hOutcome, hUnsaid, hSaid,
    outcome_kept hRun.reachable hEnds (.step .refl hKept ⟨hAllowed, rfl⟩)⟩

end Runs


end Coordinator

end VoipSwitch
