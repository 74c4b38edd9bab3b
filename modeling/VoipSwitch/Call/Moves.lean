import VoipSwitch.Call.Ending

/-! What remains to be shown of a property that survives the end of a call: the steps that
move the hunt or an answer on. Each handler has a rule here whose hypotheses are about those
steps alone. -/
namespace VoipSwitch

open Stateful Keyed Proc

namespace Coordinator

/-- The call's state is assigned. -/
def assigned (s : Coordinator) (state : CallState) : Coordinator :=
  { s with
    call := { s.call with state }
    journal := .stateAssigned s.call.state state :: s.journal }

/-- The media worker takes a request. -/
def queued (s : Coordinator) (action : MediaAction) : Coordinator :=
  { s with mediaQueue := s.mediaQueue ++ [action] }

/-- The call after an answer, with whatever became of its legs and its bridge. -/
def connected (s : Coordinator) (aggregate : CallAggregate) (caller : Session)
    (bridge : Option BridgeId) : Coordinator :=
  { s with
    call := { s.call with
      state := .connected, aggregate := aggregate, caller := caller, currentBridgeId := bridge }
    journal := .stateAssigned s.call.state .connected :: s.journal }

/-- An event of a callee is written down. -/
def heard (s : Coordinator) (frame : LegFrame) (event : CallLegEvent) : Coordinator :=
  { s with journal := .calleeEvent frame event s.call.calleeSessionId :: s.journal }

/-- The result of a caller action has not been spent yet. -/
def freshResult (s : Coordinator) (identity : ActionIdentity) : Bool :=
  identity.callId = s.call.callId && identity.sessionId = s.call.callerSessionId
    && identity.generation = s.actionGeneration
    && !s.completedActions.contains (identity.actionId, identity.generation)

/-- The adapter acknowledges another answer than the one that is pending. -/
def foreignAnswer (s : Coordinator) (ack : CallActionAck) : Bool :=
  ack.accepted && ack.actionKind = .answerInboundInvite && s.freshResult ack.identity
    && !s.call.isTerminating && s.pendingAnswer.any (·.actionId ≠ ack.actionId)

theorem post_acceptActionResult {env : Env} {s : Coordinator} {identity : ActionIdentity}
    {Q : Bool → Coordinator → Prop} {E : Coordinator → Prop}
    (hSpent : s.freshResult identity = false → Q false s)
    (hFresh : s.freshResult identity = true →
      ∀ completed, Q true { s with completedActions := completed }) :
    Post (acceptActionResult identity) env s Q E := by
  rw [acceptActionResult, post_bind, post_get, post_ite]
  split
  · next hOther =>
      apply hSpent
      rw [← Bool.not_eq_true]
      simp only [freshResult, Bool.and_eq_true, decide_eq_true_eq]
      tauto
  · next hSame =>
      rw [not_or, not_or, not_not, not_not, not_not] at hSame
      rw [post_ite]
      split
      · next hKnown =>
          apply hSpent
          simp [freshResult, hKnown]
      · next hNew =>
          apply hFresh
          rw [hSame.2.2] at hNew
          simp [freshResult, hSame, hNew]

/-- What becomes of the legs shows only in the attempts and in the caller's session. -/
theorem core_reshaped {s : Coordinator} {aggregate : CallAggregate} {caller : Session}
    (bridge : Option BridgeId) (hId : aggregate.id = s.call.aggregate.id) :
    Coordinator.core { s with call := { s.call with
      aggregate := aggregate, caller := caller, currentBridgeId := bridge } } =
      { s.core with caller := caller, calleeAttempts := aggregate.calleeAttempts } := by
  calc
    _ = { s.core with
      caller := caller, callId := aggregate.id, calleeAttempts := aggregate.calleeAttempts } := rfl
    _ = _ := by
      rw [hId]
      rfl

/-- The call after the registrar took its next callee session. -/
def adopted (s : Coordinator) (pending : PendingAttemptRegistration) (aggregate : CallAggregate) :
    Coordinator :=
  { s with
    currentAttemptSeq := pending.attemptSeq
    journal := .attemptRegistered pending.attemptSeq pending.sessionId
      pending.candidate.outboundTarget :: s.journal
    call := { s.call with
      aggregate := aggregate
      currentAttemptId := attemptIdOf pending.attemptSeq
      currentCalleeSessionId := pending.sessionId
      caller := { s.call.caller with peer := some pending.sessionId }
      calleeTarget := pending.candidate.outboundTarget.stableRef
      outboundTrunkRef := pending.candidate.outboundTrunkRef
      outboundTrunkName := pending.candidate.outboundTrunkName
      recordingRequested := pending.candidate.recordingRequested
      aiPolicy := pending.candidate.aiPolicy
      recordingStartError := none
      lastStatus := none
      hangupCause := none
      calleeTerminated := false
      lateAnswerCleanupSent := false } }

/-- AI actions concern answered calls that do not end yet. -/
theorem answered_of_valid {env : Env} {s : Coordinator} {request : ActionRequested} {u : Unit}
    (h : s.validateAiAction env request = .ok u) :
    s.call.isAnswered = true ∧ s.call.isTerminating = false := by
  rw [validateAiAction] at h
  split at h
  · cases h
  · simp only [ite_not] at h
    repeat (split at h <;> try simp only [reduceCtorEq] at h)
    simp_all

section Dispatch

variable {env : Env} {s : Coordinator} {P E : Coordinator → Prop}
  (hEnding : ∀ s t, Ending s t → P s → P t) (hStop : ∀ s, P s → E s)

include hEnding in
theorem IsEnding.keeps_both {α : Type} {m : Handler α} (hm : IsEnding m) : Keeps env P P m := by
  intro s h
  exact (hm env s).mono (fun _ t ht => hEnding s t ht h) fun t ht => hEnding s t ht h

include hEnding hStop

theorem IsEnding.keeps {α : Type} {m : Handler α} (hm : IsEnding m) : Keeps env P E m :=
  (hm.keeps_both hEnding).mono hStop

theorem waitForRetryCleanup_keeps {status : Nat}
    (hWait : ∀ s, P s → s.hasRetryCandidate env status = true →
      P { s with retryAfterCleanup := some status }) :
    Keeps env P E (waitForRetryCleanup status) := by
  intro s h
  rw [waitForRetryCleanup, post_bind, post_read, post_bind, post_get, post_ite]
  split
  · exact h
  · next hCandidate =>
      rw [not_not] at hCandidate
      rw [post_bind, post_cancelDial, post_bind, post_cancelRing, post_bind, post_modify]
      have hRest : IsEnding (do
          submitCalleeAction .cancelOutbound
            s!"retry-cancel-{s.call.callId}-attempt-{s.currentAttemptSeq}"
            [("reason", .str "sequential_hunt_retry")]
          startTimer .cleanup
          pure true) :=
        .bind (submitCallee_ending _ _ _) fun _ => .bind (startTimer_ending _) fun _ => .pure _
      apply hRest.keeps hEnding hStop
      have hCleared := hEnding s { s with
        dialTimer := none, ringTimer := none
        call := { s.call with
          dialTimerGeneration := satSucc64 s.call.dialTimerGeneration
          ringTimerGeneration := satSucc64 s.call.ringTimerGeneration
          lastStatus := some status } } (.minor rfl) h
      exact hWait _ hCleared hCandidate

omit hEnding hStop in
/-- The offer of a new callee session is asked for at the end of some steps. -/
theorem post_prepareCalleeOffer {actionId : String} {attemptSeq : Nat}
    {routeTarget : Option String} {t : Coordinator} (ht : Ending s t)
    (hOffered : ∀ u, Ending s u → E u ∧ P { u with mediaQueue := u.mediaQueue ++
      [.prepareSdp actionId u.mediaGeneration (.calleeAttemptOffer attemptSeq) u.callerOffer
        routeTarget] }) :
    Post (prepareCalleeOffer actionId attemptSeq routeTarget) env t (fun _ => P) E := by
  rw [prepareCalleeOffer, post_bind, post_bumpMediaGeneration, post_bind, post_get]
  have hBumped := hOffered _ (ht.trans _ _ _ (.bump t))
  exact post_submitMedia hBumped.2 hBumped.1

omit hEnding hStop in
/-- The attempt is given up and the offer of the next one is asked for. -/
theorem beginNextAttempt_post {status : Nat} (h : P s)
    (hFailed : ∀ rest, E { s with remainingCandidates := rest })
    (hOffered : ∀ candidate rest aggregate, s.remainingCandidates = candidate :: rest →
      s.call.isTerminating = false → s.call.aggregate.Evolved aggregate →
      (∀ attempt, aggregate.calleeAttempts.lookup s.call.currentAttemptId = some attempt →
        attempt.state = .failed) → aggregate.bridges = s.call.aggregate.bridges →
      ∀ actionId t, Ending { s with
        remainingCandidates := rest
        pendingAttemptCandidate := some { attemptSeq := satSucc16 s.currentAttemptSeq, candidate }
        call := { s.call with aggregate := aggregate } } t →
      E t ∧ P { t with mediaQueue := t.mediaQueue ++
        [.prepareSdp actionId t.mediaGeneration
          (.calleeAttemptOffer (satSucc16 s.currentAttemptSeq)) t.callerOffer
          candidate.calleeRouteTarget] }) :
    Post (beginNextAttempt status) env s (fun _ => P) E := by
  rw [beginNextAttempt, post_bind, post_read, post_bind, post_get, post_ite]
  split
  · exact h
  · next hRunning =>
      rw [not_or, Bool.not_eq_true, Bool.not_eq_true] at hRunning
      rw [post_ite]
      split
      · exact h
      · split
        · exact h
        · next candidate rest hCandidates =>
            rw [post_bind, post_modify, post_bind]
            apply post_updateCurrentAttempt
            · intro aggregate hEvolved hState hBridges
              rw [post_bind, post_cancelDial, post_bind, post_cancelRing, post_bind,
                post_cancelCleanup, post_bind, post_modify, post_bind]
              apply post_prepareCalleeOffer (P := P) _
                (hOffered candidate rest aggregate hCandidates hRunning.2 hEvolved
                  hState hBridges _)
              exact .minor rfl
            · exact hFailed rest

/-- A retry is due: it was waited for, or the attempt may be followed by another one. -/
def RetryDue (env : Env) (P : Coordinator → Prop) (s : Coordinator) : Prop :=
  s.retryAfterCleanup = none ∧
    ((∃ status, P { s with retryAfterCleanup := some status }) ∨
      ∃ status, s.hasRetryCandidate env status = true)

section Retry

variable (hBegin : ∀ s status, P s → RetryDue env P s →
  Post (beginNextAttempt status) env s (fun _ => P) E)
include hBegin

/-- What is left of a retry that was waited for, after its own preparations. -/
theorem post_awaited {status : Nat} {preparations : Handler Unit}
    {Q : Bool → Coordinator → Prop} (hPreparations : IsEnding preparations) (h : P s)
    (hRetry : s.retryAfterCleanup = some status) (hQ : ∀ t, P t → Q true t) :
    Post (preparations >>= fun _ => do
        nextAttemptOrTerminate status
        pure true) env { s with retryAfterCleanup := none } Q E := by
  have hBefore : P { s with retryAfterCleanup := none } := hEnding s _ (.dropRetry s) h
  have hAwaited : P { { s with retryAfterCleanup := none } with
      retryAfterCleanup := some status } := by
    rw [← hRetry]
    exact h
  apply ((hPreparations env _).mono _ _).bind
  rotate_left
  · exact fun _ t => P t ∧ RetryDue env P t
  · intro _ t hPrepared
    have hNone : t.retryAfterCleanup = none := by
      rcases hPrepared.retry with hSame | hNone
      · exact hSame
      · exact hNone
    exact ⟨hEnding _ t hPrepared hBefore,
      hNone, .inl ⟨status, hEnding _ _ (hPrepared.withRetry (some status)) hAwaited⟩⟩
  · intro t hPrepared
    exact hStop t (hEnding _ t hPrepared hBefore)
  · intro _ t ⟨hP, hDue⟩
    rw [nextAttemptOrTerminate, post_bind, post_bind]
    apply (hBegin t status hP hDue).mono
    · intro started u hNext
      rw [post_ite]
      split
      · exact hQ u hNext
      · apply ((terminateExhaustedRetry_ending status).keeps hEnding hStop u hNext).mono
        · exact fun _ v hEnded => hQ v hEnded
        · exact fun _ hStopped => hStopped
    · exact fun _ hStopped => hStopped

theorem retryAfterAttemptEnded_keeps {status : Nat} :
    Keeps env P E (retryAfterAttemptEnded status) := by
  intro s h
  rw [retryAfterAttemptEnded, post_bind, post_read, post_bind, post_get]
  split
  · next retryStatus hRetry =>
      have hAwaited : Post _ env _ (fun _ => P) E := post_awaited hEnding hStop hBegin
        (.bind (cancelTimer_ending .cleanup) fun _ => markCalleeTerminated_ending) h hRetry
        fun _ ht => ht
      simp only [post_bind] at hAwaited ⊢
      exact hAwaited
  · next hRetry =>
      rw [post_ite]
      split
      · exact h
      · next hCandidate =>
          rw [not_not] at hCandidate
          rw [post_bind, post_markCalleeTerminated]
          apply hBegin
          · exact hEnding s _ (.minor rfl) h
          · exact ⟨hRetry, .inr ⟨status, hCandidate⟩⟩

omit hStop in
theorem retryAfterOriginateFailure_keeps : Keeps env P E retryAfterOriginateFailure := by
  intro s h
  rw [retryAfterOriginateFailure, post_bind, post_read, post_bind, post_get, post_ite]
  split
  · exact h
  · next hCandidate =>
      rw [not_not] at hCandidate
      have hRetry : s.retryAfterCleanup = none := by
        simp only [hasRetryCandidate, Bool.and_eq_true, Option.isNone_iff_eq_none] at hCandidate
        exact hCandidate.1.1.1.2
      rw [post_bind, post_markCalleeTerminated]
      apply hBegin
      · exact hEnding s _ (.minor rfl) h
      · exact ⟨hRetry, .inr ⟨503, hCandidate⟩⟩

theorem post_retryAfterLateAnswer {Q : Bool → Coordinator → Prop} (h : P s)
    (hRetry : s.retryAfterCleanup.isSome = true) (hQ : ∀ t, P t → Q true t) :
    Post retryAfterLateAnswer env s Q E := by
  rw [retryAfterLateAnswer, post_bind, post_get]
  split
  · next hNone =>
      rw [hNone, Option.isSome_none] at hRetry
      exact (Bool.false_ne_true hRetry).elim
  · next status hStatus =>
      have hAwaited : Post _ env _ Q E := post_awaited hEnding hStop hBegin
        (.bind (cancelTimer_ending .cleanup) fun _ => .bind
          (submitCallee_ending .hangupDialog
            s!"retry-late-answer-hangup-{s.call.callId}-attempt-{s.currentAttemptSeq}" [])
          fun _ => markCalleeTerminated_ending) h hStatus hQ
      simp only [post_bind] at hAwaited ⊢
      exact hAwaited

theorem forceRetryAfterCleanup_keeps : Keeps env P E forceRetryAfterCleanup := by
  intro s h
  rw [forceRetryAfterCleanup, post_bind, post_get]
  split
  · exact h
  · next status hStatus =>
      have hAwaited : Post _ env _ (fun _ => P) E := post_awaited hEnding hStop hBegin
        (.bind (submitCallee_ending .hangupDialog
            s!"retry-cleanup-hangup-{s.call.callId}-attempt-{s.currentAttemptSeq}" [])
          fun _ => markCalleeTerminated_ending) h hStatus fun _ ht => ht
      simp only [post_bind] at hAwaited ⊢
      exact hAwaited

end Retry

theorem handleDisconnected_keeps {event : CallLegEvent}
    (hEnded : ∀ status, Keeps env P E (retryAfterAttemptEnded status)) :
    Keeps env P E (handleDisconnected event) := by
  apply Keeps.withState
  intro s
  apply Keeps.ite
  · exact .pure _
  apply Keeps.ite
  · exact (failAiTransfer_ending _).keeps hEnding hStop
  apply Keeps.ite
  · exact .bind (hEnded _) fun _ => .pure _
  · apply IsEnding.keeps hEnding hStop
    refine .bind (cancelTimer_ending _) fun _ => .bind assignTerminating_ending fun _ => ?_
    refine .bind (.when (.updateCall (fun _ => rfl) (fun _ => rfl) fun _ => rfl)) fun _ => ?_
    refine .bind (.updateCall (fun _ => rfl) (fun _ => rfl) fun _ => rfl) fun _ => ?_
    refine .bind (markLegTerminated_ending _) fun _ => ?_
    exact .bind (.when (disconnectPeer_ending _)) fun _ => finishOrArmCleanup_ending _

theorem handleFailed_keeps {event : CallLegEvent}
    (hEnded : ∀ status, Keeps env P E (retryAfterAttemptEnded status)) :
    Keeps env P E (handleFailed event) := by
  apply Keeps.bind ((cancelTimer_ending _).keeps hEnding hStop)
  intro _
  apply Keeps.withState
  intro s
  apply Keeps.ite
  · exact (failAiTransfer_ending _).keeps hEnding hStop
  apply Keeps.ite
  · exact (rejectAfterFailure_ending event).keeps hEnding hStop
  · apply Keeps.bind (hEnded _)
    intro retried
    exact .ite (.pure _) ((rejectAfterFailure_ending event).keeps hEnding hStop)

/-- An answer is prepared when nothing is left to retry and none was given before. -/
theorem handleAnswered_keeps {event : CallLegEvent}
    (hLate : ∀ s, P s → s.retryAfterCleanup.isSome = true →
      Post retryAfterLateAnswer env s (fun retried t => retried = true ∧ P t) E)
    (hPrepare : ∀ s answer, P s → s.retryAfterCleanup = none →
      (s.pendingAiTransfer.isSome = true ∨ s.call.isAnswered = false) → s.pendingAnswer = none →
      s.call.isTerminating = false →
      Post (prepareAnswer answer s.pendingAiTransfer.isSome) env s (fun _ => P) E) :
    Keeps env P E (handleAnswered event) := by
  apply Keeps.bind ((cancelTimer_ending _).keeps hEnding hStop)
  intro _ s h
  rw [post_bind]
  cases hRetry : s.retryAfterCleanup with
  | some status =>
      have hSome : s.retryAfterCleanup.isSome = true := by rw [hRetry, Option.isSome_some]
      apply (hLate s h hSome).mono _ fun _ ht => ht
      rintro _ t ⟨rfl, ht⟩
      exact ht
  | none =>
      simp only [retryAfterLateAnswer, post_bind, post_get, hRetry, post_pure, Bool.false_eq_true,
        if_false, post_ite]
      split
      · exact h
      · next hFirst =>
          simp only [Bool.or_eq_true, Bool.and_eq_true, Bool.not_eq_true', not_or, not_and,
            Bool.not_eq_true, Option.isSome_eq_false_iff, Option.isNone_iff_eq_none] at hFirst
          split
          · exact hangupLateAnswer_ending.keeps hEnding hStop s h
          · next hLive =>
              rw [Bool.not_eq_true] at hLive
              split
              · exact (failMediaNegotiation_ending _).keeps hEnding hStop s h
              · next answer _ =>
                  rw [post_ite]
                  split
                  · exact (failMediaNegotiation_ending _).keeps hEnding hStop s h
                  · apply hPrepare s answer h hRetry _ hFirst.2 hLive
                    cases hTransfer : s.pendingAiTransfer with
                    | none => exact .inr (hFirst.1 hTransfer)
                    | some transfer => exact .inl rfl

/-- Ringing is passed on before the call is answered, through the media worker if need be. -/
theorem handleProvisional_keeps {event : CallLegEvent}
    (hRinging : ∀ s, P s → s.call.isTerminating = false → s.pendingAnswer = none →
      s.answerInProgress = false → s.call.isAnswered = false → P (s.assigned .establishing))
    (hEarly : ∀ s actionId statusCode startRingTimer sdp, P s →
      P (s.queued (.prepareSdp actionId s.mediaGeneration (.provisional statusCode startRingTimer)
        sdp none))) : Keeps env P E (handleProvisional event) := by
  intro s h
  rw [handleProvisional, post_bind, post_get, post_ite]
  split
  · exact h
  · next hGuards =>
      simp only [not_or, not_and, Bool.not_eq_true, Option.isSome_eq_false_iff,
        Option.isNone_iff_eq_none] at hGuards
      obtain ⟨hLive, hPending, hIdle, hAnswered⟩ := hGuards
      rw [post_ite]
      split
      · exact h
      · rw [post_bind, post_cancelDial, post_ite]
        split
        · apply IsEnding.keeps hEnding hStop
          · exact .bind (.updateCall (fun _ => rfl) (fun _ => rfl) fun _ => rfl) fun _ =>
              .when (startTimer_ending _)
          · exact hEnding s _ (.minor rfl) h
        · next hTransfer =>
            have hUnanswered : s.call.isAnswered = false := by
              rw [← Bool.not_eq_true]
              intro hTrue
              exact hTransfer (Option.isSome_iff_ne_none.mpr (hAnswered hTrue))
            have hAssigned : P (assigned { s with
                dialTimer := none
                call := { s.call with
                  dialTimerGeneration := satSucc64 s.call.dialTimerGeneration
                  lastStatus := some (event.statusCode.getD 180) } } .establishing) :=
              hRinging _ (hEnding s _ (.minor rfl) h) hLive hPending hIdle hUnanswered
            rw [relayProvisional, post_bind, post_updateCall, post_bind, post_assignState,
              post_bind, post_get, post_bind]
            apply ((startTimer_ending .ring).keeps hEnding hStop).when.post hAssigned
            intro _ u hu
            split
            · next sdp _ =>
                rw [post_ite]
                split
                · exact (failMediaNegotiation_ending _).keeps hEnding hStop u hu
                · rw [post_bind, post_bumpMediaGeneration, post_bind, post_get]
                  have hBumped := hEnding u _ (.bump u) hu
                  apply post_submitMedia
                  · exact hEarly _ _ _ _ _ hBumped
                  · exact hStop _ hBumped
            · apply IsEnding.keeps hEnding hStop _ u hu
              exact .withState fun _ => submitCaller_ending _ _ _

omit hEnding hStop in
/-- First step of an answer. -/
theorem post_prepareAnswer {answer : SdpBody} {transferAnswer : Bool}
    (hPrepared : ∀ actionId, P (queued { s with
        mediaGeneration := satSucc64 s.mediaGeneration, answerInProgress := true }
      (.prepareSdp actionId (satSucc64 s.mediaGeneration)
        (if transferAnswer then .transferAnswer else .answer (env.payloadTypes answer)) answer
        none)))
    (hRefused : E { s with
      mediaGeneration := satSucc64 s.mediaGeneration, answerInProgress := true }) :
    Post (prepareAnswer answer transferAnswer) env s (fun _ => P) E := by
  rw [prepareAnswer, post_bind, post_read, post_bind, post_bumpMediaGeneration, post_bind,
    post_modify, post_bind, post_get]
  exact post_submitMedia (hPrepared _) hRefused

omit hEnding in
/-- Second step of an answer. -/
theorem post_completeAnswer {callerAnswer : SdpBody} {payloadTypes : List Nat} (h : P s)
    (hAnswering : ∀ t actionId, Ending s t → t.call = s.call → P { t.assigned .answering with
      pendingAnswer := some { actionId, payloadTypes } }) :
    Post (completeAnswer callerAnswer payloadTypes) env s (fun _ => P) E := by
  rw [completeAnswer, post_bind, post_get, post_bind]
  apply post_submitCaller
  · rw [post_bind, post_assignState, post_modify]
    exact hAnswering _ _ (.submit _) rfl
  · exact hStop s h

omit hEnding hStop in
/-- The media of an answered call is started at the end of some steps. -/
theorem post_startAnswerMedia {actionId : String} {recording : Option RecordingSpec}
    {allowFastPath : Bool} {t : Coordinator} {Q : Unit → Coordinator → Prop} (ht : Ending s t)
    (hWired : Wired t.mediaGeneration t.call)
    (hQ : ∀ u actionId recording callId fast, Ending s u → Wired u.mediaGeneration u.call →
      Q () (u.queued (.startAnswerMedia actionId u.mediaGeneration recording callId fast)))
    (hE : ∀ u, Ending s u → E u) :
    Post (startAnswerMedia actionId recording allowFastPath) env t Q E := by
  rw [startAnswerMedia, post_bind, post_get]
  exact post_submitMedia (hQ t _ _ _ _ ht hWired) (hE t ht)

omit hEnding hStop in
theorem post_startMedia {answeredAtMs : Nat} {payloadTypes : List Nat} {t : Coordinator}
    {Q : Unit → Coordinator → Prop} (ht : Ending s t) (hWired : Wired t.mediaGeneration t.call)
    (hQ : ∀ u actionId recording callId fast, Ending s u → Wired u.mediaGeneration u.call →
      Q () (u.queued (.startAnswerMedia actionId u.mediaGeneration recording callId fast)))
    (hE : ∀ u, Ending s u → E u) : Post (startMedia answeredAtMs payloadTypes) env t Q E := by
  rw [startMedia, post_bind, post_read, post_bind, post_get]
  exact post_startAnswerMedia ht hWired hQ hE

omit hEnding hStop in
/-- Third step of an answer: the media goes over a bridge of its own generation, and the
callee's disconnect that was put off is handled now. -/
theorem post_connectAnswer {pending : PendingAnswer}
    (hBroken : ∀ aggregate caller bridge, s.call.aggregate.Evolved aggregate →
      caller.id = s.call.caller.id → ∀ t, Ending (s.connected aggregate caller bridge) t → E t)
    (hConnected : ∀ aggregate caller bridge, s.call.aggregate.Evolved aggregate →
      caller.id = s.call.caller.id → caller.answeredAtMs.isSome = true →
      ∀ t actionId recording callId fast, Ending (s.connected aggregate caller bridge) t →
      Wired t.mediaGeneration t.call →
      P { t.queued (.startAnswerMedia actionId t.mediaGeneration recording callId fast) with
        answerInProgress := false, deferredCalleeDisconnect := none })
    (hDisconnected : ∀ event, s.deferredCalleeDisconnect = some event →
      Keeps env P E (handleDisconnected event)) :
    Post (connectAnswer pending) env s (fun _ => P) E := by
  rw [connectAnswer, post_bind, post_read, post_bind, post_assignState, post_bind, post_get,
    post_bind]
  apply post_markAnswered
  · intro aggregate caller bridge hEvolved hId hAnswered hWired
    rw [post_bind, post_updateCall, post_bind, post_cancelRing, post_bind]
    apply post_startMedia (s := s.connected aggregate caller bridge)
    · exact .minor rfl
    · exact hWired
    · intro u actionId recording callId fast hu hWired
      have hDone := hConnected aggregate caller bridge hEvolved hId hAnswered u actionId recording
        callId fast hu hWired
      have hDeferred : u.deferredCalleeDisconnect = s.deferredCalleeDisconnect :=
        congrArg Core.deferredCalleeDisconnect hu.core
      rw [post_bind, post_modify, post_bind, post_get]
      apply post_whenSome
      · intro hNone
        have hSame : u.deferredCalleeDisconnect = none := hNone
        rw [← hSame] at hDone
        exact hDone
      · intro event hEvent
        rw [post_bind, post_modify]
        exact hDisconnected event (hDeferred.symm.trans hEvent) _ hDone
    · exact hBroken aggregate caller bridge hEvolved hId
  · intro aggregate caller bridge hEvolved hId
    exact hBroken aggregate caller bridge hEvolved hId _ (.minor rfl)

/-- A transfer that succeeded is reported and forgotten. -/
theorem post_reportConnected {transfer : Option PendingAiTransfer} {u : Coordinator}
    (hu : u.pendingAiTransfer = transfer ∨ u.pendingAiTransfer = none)
    (h : P { u with pendingAiTransfer := none }) :
    Post (whenSome transfer fun transfer => do
      Proc.modify fun s => { s with pendingAiTransfer := none }
      reportTransfer transfer true "TRANSFER_CONNECTED" transfer.number) env u (fun _ => P) E := by
  apply post_whenSome
  · intro hNone
    have hSame : u.pendingAiTransfer = none := by
      rcases hu with hKept | hDropped
      · exact hKept.trans hNone
      · exact hDropped
    rw [← hSame] at h
    exact h
  · intro transfer _
    rw [post_bind, post_modify]
    exact (IsEnding.of_quiet (reportTransfer_quiet _ _ _ _)).keeps hEnding hStop _ h

/-- The callee of a transfer takes the place of the AI agent. -/
theorem post_connectTransfer
    (hBroken : ∀ aggregate caller bridge, s.call.aggregate.Evolved aggregate →
      caller.id = s.call.caller.id → ∀ t, Ending { s.connected aggregate caller bridge with
        answerInProgress := false } t → E t)
    (hConnected : ∀ aggregate caller bridge, s.call.aggregate.Evolved aggregate →
      caller.id = s.call.caller.id → caller.answeredAtMs = s.call.caller.answeredAtMs →
      ∀ t actionId recording callId fast,
      Ending { s.connected aggregate caller bridge with answerInProgress := false } t →
      Wired t.mediaGeneration t.call →
      P { t.queued (.startAnswerMedia actionId t.mediaGeneration recording callId fast) with
        pendingAiTransfer := none }) :
    Post connectTransfer env s (fun _ => P) E := by
  -- What is left once the call is marked as connected, from any state that says so.
  have hRest : ∀ t : Coordinator, t.call.aggregate = s.call.aggregate →
      t.call.caller = s.call.caller → t.pendingAiTransfer = s.pendingAiTransfer →
      (∀ aggregate caller bridge,
        Ending { s.connected aggregate caller bridge with answerInProgress := false }
          { t with call := { t.call with
            aggregate := aggregate, caller := caller, currentBridgeId := bridge } }) →
      ∀ actionId, Post (do
        onCall (CallRuntime.markTransferAnswered env.unixTimestampMs t.mediaGeneration)
        startAnswerMedia actionId none false
        whenSome t.pendingAiTransfer fun transfer => do
          Proc.modify fun s => { s with pendingAiTransfer := none }
          reportTransfer transfer true "TRANSFER_CONNECTED" transfer.number) env t
        (fun _ => P) E := by
    intro t hAggregate hCaller hTransfer hReached actionId
    rw [post_bind, onCall, post_focus]
    apply ((markTransferAnswered_reshapes _ _ () t.call).and
      (markTransferAnswered_wired _ _ t.call)).mono
    · rintro _ _ ⟨⟨aggregate, caller, bridge, rfl, hEvolved, hId, hAnswered⟩, hWired⟩
      rw [hAggregate] at hEvolved
      rw [hCaller] at hId hAnswered
      rw [post_bind]
      apply post_startAnswerMedia (hReached aggregate caller bridge) hWired
      · intro u actionId recording callId fast hu hWired
        apply post_reportConnected hEnding hStop
        · rw [hTransfer]
          exact hu.transfer
        · exact hConnected aggregate caller bridge hEvolved hId hAnswered u actionId recording
            callId fast hu hWired
      · exact hBroken aggregate caller bridge hEvolved hId
    · rintro _ ⟨⟨aggregate, caller, bridge, rfl, hEvolved, hId, _⟩, _⟩
      rw [hAggregate] at hEvolved
      rw [hCaller] at hId
      exact hBroken aggregate caller bridge hEvolved hId _ (hReached aggregate caller bridge)
  rw [connectTransfer, post_bind, post_read, post_bind, post_modify, post_bind,
    post_bumpPromptGeneration, post_bind, post_assignState, post_bind, post_updateCall, post_bind,
    post_get]
  apply hRest
  · rfl
  · rfl
  · rfl
  · intro aggregate caller bridge
    exact .minor rfl

omit hEnding hStop in
theorem post_confirmAnswer {actionId : String} (h : s.pendingAnswer = none → P s)
    (hDropped : ∀ pending, s.pendingAnswer = some pending →
      pending.actionId ≠ actionId ∨ s.call.isTerminating = true →
      P { s with pendingAnswer := none, answerInProgress := false })
    (hConfirmed : ∀ pending, s.pendingAnswer = some pending → pending.actionId = actionId →
      s.call.isTerminating = false →
      Post (connectAnswer pending) env { s with pendingAnswer := none } (fun _ => P) E) :
    Post (confirmAnswer actionId) env s (fun _ => P) E := by
  rw [confirmAnswer, post_bind, post_get]
  split
  · next hNone => exact h hNone
  · next pending hPending =>
      rw [post_bind, post_modify, post_ite]
      split
      · next hOther => exact hDropped pending hPending hOther
      · next hSame =>
          rw [not_or, not_not, Bool.not_eq_true] at hSame
          exact hConfirmed pending hPending hSame.1 hSame.2

/-- An event of the caller's leg is remembered before it is handled. -/
theorem handleCallerLegEvent_keeps {frame : LegFrame} {event : CallLegEvent}
    (hJudged : ∀ s, P s → P { s with legEventDeduper := (s.judged event).2 })
    (hDisconnected : Keeps env P E (handleDisconnected event)) :
    Keeps env P E (handleCallerLegEvent frame event) := by
  apply Keeps.bind
  · exact fun s h => post_acceptLegEvent (hJudged s h)
  intro accepted
  apply Keeps.ite
  · exact .pure _
  · split
    · exact handleCancelled_ending.keeps hEnding hStop
    · exact hDisconnected
    · exact .pure _

omit hEnding hStop in
/-- Events of the current callee are handled; a disconnect waits for the end of an answer. -/
theorem post_handlePeerLegEvent {frame : LegFrame} {event : CallLegEvent}
    (h : P (s.heard frame event))
    (hDeferred : event.sessionId = some s.call.calleeSessionId → frame = .dialogDisconnected →
      s.answerInProgress = true → s.call.isTerminating = false →
      P { s.heard frame event with deferredCalleeDisconnect := some event })
    (hProvisional : event.sessionId = some s.call.calleeSessionId →
      frame = .outboundProvisional → s.retryAfterCleanup = none →
      Post (handleProvisional event) env (s.heard frame event) (fun _ => P) E)
    (hAnswered : event.sessionId = some s.call.calleeSessionId → frame = .outboundAnswered →
      Post (handleAnswered event) env (s.heard frame event) (fun _ => P) E)
    (hFailed : event.sessionId = some s.call.calleeSessionId → frame = .outboundFailed →
      Post (handleFailed event) env (s.heard frame event) (fun _ => P) E)
    (hDisconnected : event.sessionId = some s.call.calleeSessionId →
      frame = .dialogDisconnected →
      (s.answerInProgress = true → s.call.isTerminating = true) →
      Post (handleDisconnected event) env (s.heard frame event) (fun _ => P) E) :
    Post (handlePeerLegEvent frame event) env s (fun _ => P) E := by
  unfold handlePeerLegEvent
  rw [post_bind, post_get, post_bind, post_observe]
  by_cases hSession : event.sessionId = some s.call.calleeSessionId
  · rw [if_neg (not_not.mpr hSession)]
    by_cases hLate : frame = .outboundProvisional ∧ s.retryAfterCleanup.isSome = true
    · rw [if_pos hLate]
      exact h
    · rw [if_neg hLate]
      by_cases hWaits : frame = .dialogDisconnected ∧ s.answerInProgress = true ∧
          ¬ s.call.isTerminating = true
      · rw [if_pos hWaits]
        exact hDeferred hSession hWaits.1 hWaits.2.1 (by simpa using hWaits.2.2)
      · rw [if_neg hWaits]
        cases frame with
        | outboundProvisional =>
            apply hProvisional hSession rfl
            simpa using hLate
        | outboundAnswered => exact hAnswered hSession rfl
        | outboundFailed => exact hFailed hSession rfl
        | dialogDisconnected =>
            apply hDisconnected hSession rfl
            simpa using hWaits
        | inboundInviteOffered => exact h
        | inboundInviteCancelled => exact h
  · rw [if_pos hSession]
    exact h

/-- A failed action ends the call, unless it was the dialling of a callee that may be
followed by the next one. -/
theorem applyActionFailure_keeps {failure : ActionDeliveryFailed} {peerFailure : Bool}
    (hOriginate : peerFailure = true → failure.identity.actionKind.isOriginate = true →
      Keeps env P E retryAfterOriginateFailure) :
    Keeps env P E (applyActionFailure failure peerFailure) := by
  have hEnd : Keeps env P E (do
      let s ← Proc.get
      if s.call.isTerminating then pure ()
      else terminateActionFailure failure.identity.actionKind peerFailure) := by
    apply Keeps.withState
    intro s
    exact .ite (.pure _) ((terminateActionFailure_ending _ _).keeps hEnding hStop)
  apply Keeps.withState
  intro s
  apply Keeps.ite
  · exact (IsEnding.of_quiet (updateDtmf_quiet _)).keeps hEnding hStop
  apply Keeps.ite
  · exact (failAiTransfer_ending _).keeps hEnding hStop
  split
  · next hPeer =>
      rw [Bool.and_eq_true] at hPeer
      exact .bind (hOriginate hPeer.1 hPeer.2) fun retried => .ite (.pure _) hEnd
  · exact .bind (.pure _) fun retried => .ite (.pure _) hEnd

theorem handleActionFailure_keeps {failure : ActionDeliveryFailed} {peerFailure : Bool}
    (hOriginate : peerFailure = true → failure.identity.actionKind.isOriginate = true →
      Keeps env P E retryAfterOriginateFailure) :
    Keeps env P E (handleActionFailure failure peerFailure) := by
  have hApply := applyActionFailure_keeps hEnding hStop hOriginate
  rw [handleActionFailure]
  apply Keeps.ite
  · apply Keeps.bind (.pure _)
    intro fresh
    exact .ite hApply (.pure _)
  · apply Keeps.bind ((IsEnding.of_quiet (acceptActionResult_quiet _)).keeps hEnding hStop)
    intro fresh
    exact .ite hApply (.pure _)

/-- An accepted acknowledgement matters once, and only to the answer of the caller. -/
theorem post_handleActionAck {ack : CallActionAck} (h : P s)
    (hConfirm : ack.accepted = true → ack.actionKind = .answerInboundInvite →
      s.freshResult ack.identity = true → ∀ completed, Post (confirmAnswer ack.actionId) env
        { s with completedActions := completed } (fun _ => P) E) :
    Post (handleActionAck ack) env s (fun _ => P) E := by
  rw [handleActionAck]
  split
  · next hAccepted =>
      rw [post_bind]
      apply post_acceptActionResult
      · intro _
        rw [post_ite, if_neg (by simp)]
        exact h
      · intro hFresh completed
        rw [post_ite]
        split
        · next hAnswer => exact hConfirm hAccepted hAnswer.2 hFresh completed
        · exact hEnding s _ (.minor rfl) h
  · apply handleActionFailure_keeps hEnding hStop _ s h
    exact fun hPeer => (Bool.false_ne_true hPeer).elim

theorem handleOwnedLegActionAck_keeps {ack : CallActionAck}
    (hOriginate : ack.actionKind.isOriginate = true → Keeps env P E retryAfterOriginateFailure) :
    Keeps env P E (handleOwnedLegActionAck ack) := by
  apply Keeps.withState
  intro s
  apply Keeps.ite
  · exact .pure _
  · refine .bind (.modify fun t h => hEnding t _ (.minor rfl) h) fun _ => ?_
    apply Keeps.ite
    · exact .pure _
    · apply handleActionFailure_keeps hEnding hStop
      exact fun _ hKind => hOriginate hKind

theorem handleTimerExpiry_keeps {kind : CallTimerKind} {generation : Nat}
    (hWait : kind ≠ .cleanup → ∀ status, Keeps env P E (waitForRetryCleanup status))
    (hForced : kind = .cleanup → Keeps env P E forceRetryAfterCleanup) :
    Keeps env P E (handleTimerExpiry kind generation) := by
  cases kind with
  | dial =>
      refine .bind (.modify fun t h => hEnding t _ (.minor rfl) h) fun _ => ?_
      apply Keeps.withState
      intro s
      apply Keeps.ite
      · exact .pure _
      apply Keeps.ite
      · exact (timeoutAiTransfer_ending _ _ _).keeps hEnding hStop
      apply Keeps.ite
      · exact .pure _
      · apply Keeps.bind (hWait (by simp) _)
        intro waiting
        exact .ite (.pure _) ((timeoutCall_ending _ _ _ _ _ _).keeps hEnding hStop)
  | ring =>
      refine .bind (.modify fun t h => hEnding t _ (.minor rfl) h) fun _ => ?_
      apply Keeps.withState
      intro s
      apply Keeps.ite
      · exact .pure _
      apply Keeps.ite
      · exact (timeoutAiTransfer_ending _ _ _).keeps hEnding hStop
      apply Keeps.ite
      · exact .pure _
      · apply Keeps.bind (hWait (by simp) _)
        intro waiting
        exact .ite (.pure _) ((timeoutCall_ending _ _ _ _ _ _).keeps hEnding hStop)
  | cleanup =>
      refine .bind (.modify fun t h => hEnding t _ (.minor rfl) h) fun _ => ?_
      apply Keeps.withState
      intro s
      apply Keeps.ite
      · exact .pure _
      apply Keeps.ite
      · exact .bind (hForced rfl) fun _ => .pure _
      · exact .ite (.pure _) (forceRemoval_ending.keeps hEnding hStop)

/-- The results of the media worker: what is prepared for the current generation of a live
call, and a bridge that becomes active. -/
theorem post_handleMediaActionResult {result : MediaActionResult} (h : P s)
    (hOffer : ∀ actionId generation attemptSeq outcome,
      result = .sdpPrepared actionId generation (.calleeAttemptOffer attemptSeq) outcome →
      s.staleSdp generation (.calleeAttemptOffer attemptSeq) = false →
      Post (handleAttemptOfferPrepared attemptSeq outcome) env s (fun _ => P) E)
    (hAnswer : ∀ actionId generation purpose prepared payloadTypes,
      result = .sdpPrepared actionId generation purpose (.ok prepared) →
      purpose = .answer payloadTypes ∨ purpose = .aiAgentAnswer →
      s.staleSdp generation purpose = false → ∀ payloadTypes,
      Post (completeAnswer prepared payloadTypes) env s (fun _ => P) E)
    (hTransfer : ∀ actionId generation prepared,
      result = .sdpPrepared actionId generation .transferAnswer (.ok prepared) →
      s.staleSdp generation .transferAnswer = false →
      Post connectTransfer env s (fun _ => P) E)
    (hActivated : ∀ generation,
      Keeps env P E (onCall (CallRuntime.activateCurrentBridge generation env.unixTimestampMs))) :
    Post (handleMediaActionResult result) env s (fun _ => P) E := by
  rw [handleMediaActionResult, post_bind, post_read, post_bind, post_get]
  split
  · next actionId generation purpose outcome =>
      rw [post_ite]
      split
      · exact h
      · next hFresh =>
          rw [Bool.not_eq_true] at hFresh
          cases purpose with
          | calleeAttemptOffer attemptSeq =>
              have hHandled := hOffer actionId generation attemptSeq outcome rfl hFresh
              cases outcome with
              | error error => exact hHandled
              | ok prepared => exact hHandled
          | provisional statusCode startRingTimer =>
              cases outcome with
              | error error => exact (failMediaNegotiation_ending _).keeps hEnding hStop s h
              | ok prepared =>
                  apply IsEnding.keeps hEnding hStop _ s h
                  exact .withState fun _ => .bind (.withState fun _ => submitCaller_ending _ _ _)
                    fun _ => .when (startTimer_ending _)
          | answer payloadTypes =>
              cases outcome with
              | error error => exact (failMediaNegotiation_ending _).keeps hEnding hStop s h
              | ok prepared =>
                  exact hAnswer actionId generation _ prepared payloadTypes rfl (.inl rfl) hFresh _
          | aiAgentAnswer =>
              cases outcome with
              | error error => exact (failMediaNegotiation_ending _).keeps hEnding hStop s h
              | ok prepared =>
                  exact hAnswer actionId generation _ prepared [] rfl (.inr rfl) hFresh _
          | transferAnswer =>
              cases outcome with
              | error error => exact (failMediaNegotiation_ending _).keeps hEnding hStop s h
              | ok prepared => exact hTransfer actionId generation prepared rfl hFresh
  · rw [post_ite]
    split
    · exact h
    · refine Keeps.bind (.whenSome fun error => ?_) (fun _ => hActivated _) s h
      exact .modify fun t h => hEnding t _ (.minor rfl) h
  · rw [post_ite]
    split
    · exact h
    · exact (IsEnding.of_quiet (handleDtmfCapabilityAcquired_quiet _ _)).keeps hEnding hStop s h
  · rw [post_ite]
    split
    · exact h
    · exact (IsEnding.of_quiet (handleDtmfCapabilityReleased_quiet _ _)).keeps hEnding hStop s h

omit hEnding hStop in
/-- A call that cannot go on with its hunt is terminated. -/
theorem terminateUnanswered_ends {status : Nat} {cause : HangupCause} {actionId : String} :
    Post (terminateUnanswered status cause actionId) env s
      (fun _ t => Ending s t ∧ t.call.isTerminating = true) (Ending s) := by
  have hState : Post (terminateUnanswered status cause actionId) env s
      (fun _ t => t.call.isTerminating = true) fun _ => True := by
    rw [terminateUnanswered, post_bind, post_beginTerminating, post_bind, post_assignState,
      post_bind, post_updateCall, post_bind, post_get, post_bind]
    exact post_submitCaller rfl trivial
  exact ((terminateUnanswered_ending status cause actionId env s).and hState).mono
    (fun _ _ ht => ht) fun _ ht => ht.1

omit hEnding hStop in
/-- A new callee session that cannot be set up ends the call, or only the transfer. -/
theorem failAttemptSetup_ends {reason : String} :
    Post (failAttemptSetup reason) env s
      (fun _ t => Ending s t ∧ (s.pendingAiTransfer = none → t.call.isTerminating = true))
      (Ending s) := by
  rw [failAttemptSetup, post_bind, post_get, post_ite]
  split
  · next hTransfer =>
      apply (failAiTransfer_ending reason env s).mono
      · intro _ t ht
        refine ⟨ht, fun hNone => ?_⟩
        rw [hNone, Option.isSome_none] at hTransfer
        exact (Bool.false_ne_true hTransfer).elim
      · exact fun _ ht => ht
  · rw [terminateRetrySetup, post_bind, post_get]
    exact terminateUnanswered_ends.mono (fun _ t ht => ⟨ht.1, fun _ => ht.2⟩) fun _ ht => ht

omit hEnding hStop in
/-- The offer of the next callee session was prepared, or could not be. -/
theorem post_handleAttemptOfferPrepared {attemptSeq : Nat} {outcome : Except String SdpBody}
    (hNone : s.pendingAttemptCandidate = none → P s)
    (hStale : ∀ pending, s.pendingAttemptCandidate = some pending →
      pending.attemptSeq ≠ attemptSeq ∨ s.call.isTerminating = true →
      P { s with pendingAttemptCandidate := none })
    (hFailed : ∀ pending reason, s.pendingAttemptCandidate = some pending →
      Post (failAttemptSetup reason) env { s with pendingAttemptCandidate := none }
        (fun _ => P) E)
    (hRequest : ∀ pending offer, s.pendingAttemptCandidate = some pending →
      pending.attemptSeq = attemptSeq → s.call.isTerminating = false →
      Post (requestRegistration pending offer) env { s with pendingAttemptCandidate := none }
        (fun _ => P) E) :
    Post (handleAttemptOfferPrepared attemptSeq outcome) env s (fun _ => P) E := by
  rw [handleAttemptOfferPrepared, post_bind, post_get]
  split
  · next hCandidate => exact hNone hCandidate
  · next pending hCandidate =>
      rw [post_bind, post_modify, post_ite]
      split
      · next hOld => exact hStale pending hCandidate hOld
      · next hCurrent =>
          rw [not_or, not_not, Bool.not_eq_true] at hCurrent
          split
          · exact hFailed pending _ hCandidate
          · exact hRequest pending _ hCandidate hCurrent.1 hCurrent.2

omit hEnding hStop in
/-- A new callee session is handed to the registrar. -/
theorem post_requestRegistration {pending : PendingAttemptCandidate} {calleeOffer : SdpBody}
    (hStopped : ∀ generation, E { s with actionGeneration := generation })
    (hRequested : ∀ generation session coordinator coordinatorGeneration,
      P { s with
        actionGeneration := generation
        pendingAttemptRegistration := some
          { attemptSeq := pending.attemptSeq, candidate := pending.candidate
            sessionId := calleeSessionIdOf s.call.callId pending.attemptSeq, calleeOffer }
        attemptQueue := s.attemptQueue ++
          [{ callId := s.call.callId
             coordinatorSessionId := coordinator
             coordinatorGeneration := coordinatorGeneration
             previousSessionId := s.call.calleeSessionId
             attemptSeq := pending.attemptSeq
             sessionId := calleeSessionIdOf s.call.callId pending.attemptSeq
             session
             actionGeneration := generation }] })
    (hRefused : ∀ generation reason, Post (failAttemptSetup reason) env
      { s with actionGeneration := generation, pendingAttemptRegistration := none }
        (fun _ => P) E) :
    Post (requestRegistration pending calleeOffer) env s (fun _ => P) E := by
  rw [requestRegistration, post_bind, post_read, post_bind, post_get, post_bind, post_modify,
    post_bind]
  cases s.call.makeCalleeSession (calleeSessionIdOf s.call.callId pending.attemptSeq)
      pending.attemptSeq pending.candidate.outboundTarget env.unixTimestampMs with
  | error error => exact hStopped _
  | ok session =>
      rw [CallRuntime.ofExcept, post_pure, post_bind, post_modify]
      split
      · exact hRequested _ _ _ _
      · rw [post_bind, post_modify]
        exact hRefused _ _
      · rw [post_bind, post_modify]
        exact hRefused _ _

omit hEnding hStop in
/-- The registrar answered. -/
theorem post_handleAttemptRegistrationResult {result : AttemptRegistrationResult} (h : P s)
    (hStale : ∀ pending, s.pendingAttemptRegistration = some pending →
      (∃ attemptSeq sessionId, result = .registered attemptSeq sessionId ∧
        (pending.attemptSeq ≠ attemptSeq ∨ pending.sessionId ≠ sessionId)) ∨
        s.call.isTerminating = true →
      P { s with pendingAttemptRegistration := none })
    (hAdopt : ∀ pending, s.pendingAttemptRegistration = some pending →
      s.call.isTerminating = false →
      result = .registered pending.attemptSeq pending.sessionId →
      Post (adoptAttempt pending pending.sessionId) env
        { s with pendingAttemptRegistration := none } (fun _ => P) E)
    (hRejected : ∀ pending reason, s.pendingAttemptRegistration = some pending →
      (∃ cause, result = .rejected pending.attemptSeq pending.sessionId cause) →
      Post (failAttemptSetup reason) env { s with pendingAttemptRegistration := none }
        (fun _ => P) E) :
    Post (handleAttemptRegistrationResult result) env s (fun _ => P) E := by
  rw [handleAttemptRegistrationResult, post_bind, post_get]
  split
  · exact h
  · next attemptSeq sessionId pending hPending =>
      rw [post_bind, post_modify, post_ite]
      split
      · next hOld =>
          apply hStale pending hPending
          rcases hOld with hSeq | hSession | hTerminating
          · exact .inl ⟨attemptSeq, sessionId, rfl, .inl hSeq⟩
          · exact .inl ⟨attemptSeq, sessionId, rfl, .inr hSession⟩
          · exact .inr hTerminating
      · next hCurrent =>
          rw [not_or, not_or, not_not, not_not, Bool.not_eq_true] at hCurrent
          obtain ⟨rfl, rfl, hLive⟩ := hCurrent
          exact hAdopt pending hPending hLive rfl
  · exact h
  · next attemptSeq sessionId cause pending hPending =>
      rw [post_ite]
      split
      · next hSame =>
          obtain ⟨rfl, rfl⟩ := hSame
          rw [post_bind, post_modify]
          exact hRejected pending _ hPending ⟨cause, rfl⟩
      · exact h

/-- The new callee session becomes the current one and is dialled. -/
theorem post_adoptAttempt {pending : PendingAttemptRegistration}
    (hFailed : ∀ aggregate, s.call.aggregate.Evolved aggregate →
      E { s with call := { s.call with aggregate := aggregate } })
    (hAdopted : ∀ aggregate calleeTarget,
      pending.candidate.outboundTarget.calleeTarget = .ok calleeTarget →
      s.call.aggregate.Entered aggregate (attemptIdOf pending.attemptSeq) pending.sessionId
        calleeTarget → P (s.adopted pending aggregate)) :
    Post (adoptAttempt pending pending.sessionId) env s (fun _ => P) E := by
  have hDial : IsEnding (do
      submitOriginate pending.candidate pending.calleeOffer
      startTimer .dial) :=
    .bind (submitOriginate_ending _ _) fun _ => startTimer_ending _
  rw [adoptAttempt, post_bind, post_read, post_bind]
  apply post_registerAttempt
  · intro aggregate calleeTarget hTarget hEntered
    rw [post_bind, post_observe, post_bind, post_modify, post_bind, post_updateCall]
    exact hDial.keeps hEnding hStop _ (hAdopted aggregate calleeTarget hTarget hEntered)
  · exact hFailed

omit hStop in
/-- A transfer of an answered call to another callee. -/
theorem transferToExtension_keeps {request : ActionRequested} {number : String} (h : P s)
    (hAnswered : s.call.isAnswered = true) (hLive : s.call.isTerminating = false)
    (hTransfer : ∀ s transfer, P s → s.call.isAnswered = true → s.call.isTerminating = false →
      P { s with pendingAiTransfer := some transfer })
    (hCandidate : ∀ s candidate, P s → s.pendingAiTransfer.isSome = true →
      s.pendingAttemptCandidate = none → s.pendingAttemptRegistration = none →
      s.call.isTerminating = false → P { s with
        pendingAttemptCandidate := some
          { attemptSeq := satSucc16 s.currentAttemptSeq, candidate } })
    (hOffer : ∀ s actionId attemptSeq routeTarget, P s → P (s.queued (.prepareSdp actionId
      s.mediaGeneration (.calleeAttemptOffer attemptSeq) s.callerOffer routeTarget))) :
    Post (transferToExtension request number) env s (fun _ => P) P := by
  have hAttempt : ∀ candidate, Keeps env P P (beginAiTransferAttempt candidate) := by
    intro candidate s h
    rw [beginAiTransferAttempt, post_bind, post_read, post_bind, post_get, post_ite]
    split
    · exact h
    · next hRunning =>
        rw [not_or, Bool.not_eq_true, Bool.not_eq_true] at hRunning
        rw [post_ite]
        split
        · exact h
        · next hFree =>
            simp only [not_or, Bool.not_eq_true, Option.isSome_eq_false_iff,
              Option.isNone_iff_eq_none, ← Option.isSome_iff_ne_none] at hFree
            rw [post_bind, post_cancelDial, post_bind, post_cancelRing, post_bind,
              post_cancelCleanup, post_bind, post_modify]
            have hPending : P { s with
                pendingAttemptCandidate := some
                  { attemptSeq := satSucc16 s.currentAttemptSeq, candidate } } :=
              hCandidate s candidate h hFree.2.2 hFree.1 hFree.2.1 hRunning.2
            apply post_prepareCalleeOffer (s := { s with
              pendingAttemptCandidate := some
                { attemptSeq := satSucc16 s.currentAttemptSeq, candidate } })
            · exact .minor rfl
            · intro u hu
              have hReached := hEnding _ u hu hPending
              exact ⟨hReached, hOffer u _ _ _ hReached⟩
  have hRest : ∀ candidate language, Keeps env P P (do
      bumpPromptGeneration
      observe (.prompt true language)
      let started ← Proc.attempt (beginAiTransferAttempt candidate)
      Proc.whenSome (failureText started) fun reason =>
        failAiTransfer s!"attempt_start_failed:{reason}"
      pure { success := true, code := "DEFERRED" } : Handler AiOutcome) := by
    intro candidate language
    apply Keeps.bind ((IsEnding.of_quiet bumpPromptGeneration_quiet).keeps_both hEnding)
    intro _
    apply Keeps.bind ((IsEnding.of_quiet (observe_quiet rfl)).keeps_both hEnding)
    intro _
    apply Keeps.bind (.attempt (hAttempt candidate))
    intro started
    apply Keeps.bind (.whenSome fun reason => (failAiTransfer_ending _).keeps_both hEnding)
    intro _
    exact .pure _
  rw [transferToExtension, post_bind, post_read, post_bind, post_get, post_ite]
  split
  · exact h
  · split
    · exact Keeps.bind
        ((IsEnding.of_quiet (startTransferFailurePrompt_quiet _ _)).keeps_both hEnding)
        (fun _ => .pure _) s h
    · rw [post_bind, post_modify]
      exact hRest _ _ _ (hTransfer s _ h hAnswered hLive)

omit hStop in
theorem performAiAction_keeps {request : ActionRequested}
    (hTransfer : ∀ number s, request.action = .transferToExtension number → P s →
      s.call.isAnswered = true → s.call.isTerminating = false →
      Post (transferToExtension request number) env s (fun _ => P) P) :
    Keeps env P P (performAiAction request) := by
  intro s h
  rw [performAiAction, post_bind, post_read, post_bind, post_get]
  split
  · exact h
  · next hValid =>
      rw [post_ite]
      split
      · exact h
      · rw [post_bind, post_modify]
        have hSpent := hEnding s { s with
          completedActions := (s!"ai:{request.operationId}", request.generation) ::
            s.completedActions } (.minor rfl) h
        split
        · exact Keeps.bind ((endAiCall_ending _ _ _).keeps_both hEnding) (fun _ => .pure _) _ hSpent
        · exact (IsEnding.of_quiet (collectAiDigits_quiet _ _ _)).keeps_both hEnding _ hSpent
        · next number hAction =>
            obtain ⟨hAnswered, hLive⟩ := answered_of_valid hValid
            exact hTransfer number _ hAction hSpent hAnswered hLive
        · exact hSpent
        · exact hSpent

theorem handleAiAction_keeps {request : ActionRequested}
    (hTransfer : ∀ number s, request.action = .transferToExtension number → P s →
      s.call.isAnswered = true → s.call.isTerminating = false →
      Post (transferToExtension request number) env s (fun _ => P) P) :
    Keeps env P E (handleAiAction request) := by
  apply Keeps.bind (.attempt (performAiAction_keeps hEnding hTransfer))
  intro result
  apply Keeps.ite
  · exact (IsEnding.of_quiet (sendActionResult_quiet _)).keeps hEnding hStop
  · exact .pure _

end Dispatch

end Coordinator

end VoipSwitch
