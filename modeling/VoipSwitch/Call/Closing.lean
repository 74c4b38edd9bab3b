import VoipSwitch.Call.Step

/-! What holds of a call that goes on, and is established by each of the ways to end it, holds
after every handler. The ways to end a call are looked at one by one; what leads there is the same
for every such property. -/
namespace VoipSwitch

open Stateful Keyed Proc

namespace Coordinator

section Rules

variable {P : Coordinator → Prop} {env : Env} {α β : Type}

/-- What a property of how a call ends looks at. -/
def closing (s : Coordinator) : CallState × Bool × Bool × Option CallTimerSlot × Nat :=
  (s.call.state, s.call.hangupCause.isSome, s.finalizationStarted, s.cleanupTimer,
    s.call.cleanupTimerGeneration)

/-- `m` keeps `P`, unless it stops early. -/
abbrev Retains (P : Coordinator → Prop) (env : Env) (m : Handler α) : Prop :=
  Keeps env P (fun _ => True) m

/-- Every normal end of `m` has `P`, wherever it started. -/
def Establishes (P : Coordinator → Prop) (env : Env) (m : Handler α) : Prop :=
  ∀ s, Post m env s (fun _ => P) fun _ => True

theorem Establishes.retains {m : Handler α} (hm : Establishes P env m) : Retains P env m :=
  fun s _ => hm s

theorem Establishes.result {m : Handler α} (hm : Establishes P env m) (b : β) :
    Establishes P env (m >>= fun _ => pure b) :=
  fun s => (hm s).bind fun _ _ h => h

theorem Establishes.after {m : Handler β} {f : β → Handler α}
    (hf : ∀ b, Establishes P env (f b)) : Establishes P env (m >>= f) := fun _ =>
  Post.last fun b t => hf b t

/-- A property of how a call ends: it is kept as long as the call goes on, and holds once the
cleanup timer is started or an attempt or a negotiation is given up. -/
structure Closing (env : Env) (P : Coordinator → Prop) : Prop where
  congr : ∀ s t, P s → t.finalizationStarted = s.finalizationStarted →
    t.cleanupTimer = s.cleanupTimer →
    t.call.cleanupTimerGeneration = s.call.cleanupTimerGeneration →
    (t.call.isTerminating = true → s.call.isTerminating = true ∧
      (s.call.hangupCause.isSome = true → t.call.hangupCause.isSome = true)) → P t
  live : ∀ s, s.cleanupTimer = none → s.call.isTerminating = false → P s
  startCleanup : Retains P env (startTimer .cleanup)
  unanswered : ∀ status cause actionId,
    Establishes P env (terminateUnanswered status cause actionId)
  negotiation : ∀ calleeCommand, Retains P env (failMediaNegotiation calleeCommand)

/-- The other ways to end a call keep the property or establish it as well. -/
structure ClosingHandlers (env : Env) (P : Coordinator → Prop) : Prop extends Closing env P where
  disconnected : ∀ event, Retains P env (handleDisconnected event)
  rejected : ∀ event, Retains P env (rejectAfterFailure event)
  cancelled : Retains P env handleCancelled
  failed : ∀ kind peerFailure, Establishes P env (terminateActionFailure kind peerFailure)
  timeout : ∀ kind status cause cancelActionId rejectActionId reason,
    Establishes P env (timeoutCall kind status cause cancelActionId rejectActionId reason)

end Rules

namespace Closing

variable {env : Env} {P E : Coordinator → Prop} {s t : Coordinator}

section Leaves

variable {α : Type} (hP : Closing env P)
include hP

theorem same (h : P s) (hSame : t.closing = s.closing) : P t := by
  simp only [closing, Prod.mk.injEq] at hSame
  obtain ⟨hState, hCause, hStarted, hTimer, hGeneration⟩ := hSame
  apply hP.congr s t h hStarted hTimer hGeneration
  rw [CallRuntime.isTerminating, CallRuntime.isTerminating, hState, hCause]
  exact fun hEnds => ⟨hEnds, id⟩

theorem modify {f : Coordinator → Coordinator} (h : ∀ s, (f s).closing = s.closing) :
    Keeps env P E (Proc.modify f : Handler Unit) := Keeps.modify fun s hs => hP.same hs (h s)

theorem quiet {m : Handler α} (hm : IsQuiet always m) : Keeps env P P m := by
  have hSame : ∀ s t, Quiet s t → t.closing = s.closing := by
    rintro s _ ⟨_, _, _, _, _, _, rfl, _⟩
    rfl
  exact fun s h => hm.post (fun _ t ht => hP.same h (hSame s t ht))
    fun _ t ht => hP.same h (hSame s t ht)

theorem retains_quiet {m : Handler α} (hm : IsQuiet always m) : Retains P env m :=
  (hP.quiet hm).mono fun _ _ => trivial

theorem reshapes {m : CallRuntime.Op α} (hm : Reshapes m) : Retains P env (onCall m) := by
  refine fun s h => post_reshapes hm (fun _ call hCall => ?_) fun _ _ => trivial
  obtain ⟨_, _, _, rfl, _⟩ := hCall
  exact hP.same h rfl

theorem cancelDial : Keeps env P E (cancelTimer .dial) := fun _ h => hP.same h rfl

theorem cancelRing : Keeps env P E (cancelTimer .ring) := fun _ h => hP.same h rfl

theorem startDial : Keeps env P E (startTimer .dial) := fun _ h => hP.same h rfl

theorem startRing : Keeps env P E (startTimer .ring) := fun _ h => hP.same h rfl

theorem submitCaller (kind : ActionKind) (actionId : String)
    (body : List (String × Document.Json)) :
    Retains P env (submitCallerAction kind actionId body) :=
  fun _ h => post_submitCaller (hP.same h rfl) trivial

theorem submitCallee (kind : ActionKind) (actionId : String)
    (body : List (String × Document.Json)) :
    Retains P env (submitCalleeAction kind actionId body) :=
  fun _ h => post_submitCallee (hP.same h rfl) trivial

theorem submitMedia (action : MediaAction) :
    Retains P env (Coordinator.submitMedia action) :=
  fun _ h => post_submitMedia (hP.same h rfl) trivial

/-- The state of a call that goes on. -/
theorem assign {state : CallState} (hState : state.isTerminatingOrCompleted = false) :
    Keeps env P E (assignState state) := fun s h =>
  hP.congr s _ h rfl rfl rfl fun hEnds => (Bool.false_ne_true (hState.symm.trans hEnds)).elim

end Leaves

section Attempts

variable (hP : Closing env P)
include hP

theorem failAiTransfer_keeps (reason : String) : Keeps env P P (failAiTransfer reason) := by
  refine .withEnv (.bind hP.cancelDial fun _ => .bind hP.cancelRing fun _ => ?_)
  refine .bind (hP.quiet bumpPromptGeneration_quiet) fun _ => .withState fun s => ?_
  refine .bind (hP.modify fun _ => rfl) fun _ => .bind (hP.quiet (observe_quiet rfl)) fun _ => ?_
  refine .bind (.whenSome fun transfer => hP.quiet (reportTransfer_quiet transfer _ _ _))
    fun _ => ?_
  exact hP.modify fun _ => rfl

theorem failAiTransfer_retains (reason : String) : Retains P env (failAiTransfer reason) :=
  (hP.failAiTransfer_keeps reason).mono fun _ _ => trivial

theorem beginAiTransferAttempt_keeps (candidate : OutboundCandidate) :
    Keeps env P P (beginAiTransferAttempt candidate) := by
  intro s h
  simp only [beginAiTransferAttempt, prepareCalleeOffer, post_bind, post_read, post_get, post_ite,
    post_cancelDial, post_cancelRing, post_cancelCleanup, post_modify, post_bumpMediaGeneration]
  split
  · exact h
  · next hOpen =>
      split
      · exact h
      · have hLive : s.call.isTerminating = false := by
          simpa only [not_or, Bool.not_eq_true] using (not_or.mp hOpen).2
        exact post_submitMedia (hP.live _ rfl hLive) (hP.live _ rfl hLive)

theorem waitForRetryCleanup_retains (statusCode : Nat) :
    Retains P env (waitForRetryCleanup statusCode) := by
  refine .withEnv (.withState fun s => .ite (.pure _) ?_)
  refine .bind hP.cancelDial fun _ => .bind hP.cancelRing fun _ => ?_
  refine .bind (hP.modify fun _ => rfl) fun _ => .bind (hP.submitCallee _ _ _) fun _ => ?_
  exact .bind hP.startCleanup fun _ => .pure _

theorem waitForRetryCleanup_else {m : Handler Unit} {status : Nat}
    (hm : Establishes P env m) : Retains P env (do
      let waiting ← waitForRetryCleanup status
      if waiting then pure () else m) :=
  .bind (hP.waitForRetryCleanup_retains status) fun _ => .ite (.pure _) hm.retains

/-- The next attempt is only prepared for a live call, whose cleanup timer it disarms. -/
theorem post_beginNextAttempt {previousStatus : Nat} :
    Post (beginNextAttempt previousStatus) env s
      (fun started t => (started = true → P t) ∧ (started = false → t = s)) fun _ => True := by
  simp only [beginNextAttempt, prepareCalleeOffer, post_bind, post_read, post_get, post_ite]
  split
  · exact ⟨fun hStarted => (by cases hStarted), fun _ => rfl⟩
  · next hOpen =>
      split
      · exact ⟨fun hStarted => (by cases hStarted), fun _ => rfl⟩
      · split
        · exact ⟨fun hStarted => (by cases hStarted), fun _ => rfl⟩
        · have hLive : s.call.isTerminating = false := by
            simpa only [not_or, Bool.not_eq_true] using (not_or.mp hOpen).2
          simp only [post_bind, post_modify, post_cancelDial, post_cancelRing, post_cancelCleanup,
            post_bumpMediaGeneration, post_get]
          refine post_reshapes (updateCurrentAttempt_reshapes _ _) (fun _ call h => ?_)
            fun _ _ => trivial
          obtain ⟨_, _, _, rfl, _⟩ := h
          exact post_submitMedia ⟨fun _ => hP.live _ rfl hLive, fun hIdle => by cases hIdle⟩ trivial

theorem beginNextAttempt_retains (previousStatus : Nat) :
    Retains P env (beginNextAttempt previousStatus) := by
  refine fun s h => hP.post_beginNextAttempt.mono (fun started t ht => ?_) fun _ _ => trivial
  cases started with
  | true => exact ht.1 rfl
  | false => exact ht.2 rfl ▸ h

theorem nextAttemptOrTerminate_establishes (statusCode : Nat) :
    Establishes P env (nextAttemptOrTerminate statusCode) := by
  intro s
  refine Post.bind hP.post_beginNextAttempt fun started t h => ?_
  rw [post_ite]
  split
  · next hStarted => exact h.1 hStarted
  · exact Establishes.after (fun _ => hP.unanswered _ _ _) t

theorem retryAfterOriginateFailure_retains : Retains P env retryAfterOriginateFailure :=
  .withEnv (.withState fun _ => .ite (.pure _) (.bind (hP.modify fun _ => rfl) fun _ =>
    hP.beginNextAttempt_retains _))

theorem retryAfterAttemptEnded_retains (statusCode : Nat) :
    Retains P env (retryAfterAttemptEnded statusCode) := by
  refine .withEnv (.withState fun s => ?_)
  split
  · refine Establishes.retains (.after fun _ => .after fun _ => .after fun _ => ?_)
    exact (hP.nextAttemptOrTerminate_establishes _).result true
  · exact .ite (.pure _) (.bind (hP.modify fun _ => rfl) fun _ => hP.beginNextAttempt_retains _)

theorem retryAfterLateAnswer_retains : Retains P env retryAfterLateAnswer := by
  refine .withState fun s => ?_
  split
  · exact .pure _
  · refine Establishes.retains (.after fun _ => .after fun _ => .after fun _ => .after fun _ => ?_)
    exact (hP.nextAttemptOrTerminate_establishes _).result true

theorem forceRetryAfterCleanup_establishes (hRetry : s.retryAfterCleanup ≠ none) :
    Post forceRetryAfterCleanup env s (fun _ => P) fun _ => True := by
  rw [forceRetryAfterCleanup, post_bind, post_get]
  split
  · next hNone => exact (hRetry hNone).elim
  · refine Establishes.after (fun _ => .after fun _ => .after fun _ => ?_) s
    exact (hP.nextAttemptOrTerminate_establishes _).result true

theorem failAttemptSetup_retains (reason : String) : Retains P env (failAttemptSetup reason) :=
  .withState fun _ => .ite (hP.failAiTransfer_retains reason)
    (Establishes.after fun _ => hP.unanswered _ _ _).retains

theorem requestRegistration_retains (pending : PendingAttemptCandidate) (calleeOffer : SdpBody) :
    Retains P env (requestRegistration pending calleeOffer) := by
  refine .withEnv (.withState fun s => .bind (hP.modify fun _ => rfl) fun _ => ?_)
  refine .bind ?_ fun session => .bind (hP.modify fun _ => rfl) fun _ => ?_
  · cases s.call.makeCalleeSession (calleeSessionIdOf s.call.callId pending.attemptSeq)
        pending.attemptSeq pending.candidate.outboundTarget env.unixTimestampMs with
    | ok session => exact .pure session
    | error e => exact .fail (fun _ _ => trivial) e
  · split
    · exact hP.modify fun _ => rfl
    all_goals exact .bind (hP.modify fun _ => rfl) fun _ => hP.failAttemptSetup_retains _

theorem handleAttemptOfferPrepared_retains (attemptSeq : Nat) (result : Except String SdpBody) :
    Retains P env (handleAttemptOfferPrepared attemptSeq result) := by
  refine .withState fun s => ?_
  split
  · exact .pure _
  · refine .bind (hP.modify fun _ => rfl) fun _ => .ite (.pure _) ?_
    split
    · exact hP.failAttemptSetup_retains _
    · exact hP.requestRegistration_retains _ _

theorem submitOriginate_retains (candidate : OutboundCandidate) (calleeOffer : SdpBody) :
    Retains P env (submitOriginate candidate calleeOffer) := by
  refine .withState fun s => ?_
  split
  · exact hP.submitCallee _ _ _
  · exact hP.submitCallee _ _ _
  · exact .pure _

/-- A new attempt is adopted by a live call only: it forgets the causes of the others. -/
theorem adoptAttempt_retains {pending : PendingAttemptRegistration} {sessionId : SessionId}
    (h : P s) (hLive : s.call.isTerminating = false) :
    Post (adoptAttempt pending sessionId) env s (fun _ => P) fun _ => True := by
  rw [adoptAttempt, post_bind, post_read, post_bind]
  apply post_registerAttempt
  · intro _ _ _ _
    simp only [post_bind, post_observe, post_modify, post_updateCall]
    apply (hP.submitOriginate_retains _ _).post
    · exact hP.congr s _ h rfl rfl rfl fun hEnds =>
        (Bool.false_ne_true (hLive.symm.trans hEnds)).elim
    · exact fun _ t ht => hP.startDial t ht
  · exact fun _ _ => trivial

theorem handleAttemptRegistrationResult_retains (result : AttemptRegistrationResult) :
    Retains P env (handleAttemptRegistrationResult result) := by
  intro s h
  rw [handleAttemptRegistrationResult, post_bind, post_get]
  split
  · exact h
  · have hTaken : P { s with pendingAttemptRegistration := none } := hP.same h rfl
    rw [post_bind, post_modify, post_ite]
    split
    · exact hTaken
    · next hOpen =>
        rw [not_or, not_or, Bool.not_eq_true] at hOpen
        exact hP.adoptAttempt_retains hTaken hOpen.2.2
  · exact h
  · rw [post_ite]
    split
    · rw [post_bind, post_modify]
      exact hP.failAttemptSetup_retains _ _ (hP.same h rfl)
    · exact h

end Attempts

section Answers

variable (hP : Closing env P)
include hP

theorem handleProvisional_retains (event : CallLegEvent) :
    Retains P env (handleProvisional event) := by
  refine .withState fun s => .ite (.pure _) (.ite (.pure _) ?_)
  refine .bind hP.cancelDial fun _ => .ite ?_ ?_
  · exact .bind (hP.modify fun _ => rfl) fun _ => .when hP.startRing
  · refine .bind (hP.modify fun _ => rfl) fun _ => .bind (hP.assign rfl) fun _ => ?_
    refine .withState fun s => .bind (.when hP.startRing) fun _ => ?_
    split
    · refine .ite (hP.negotiation _) (.bind (hP.modify fun _ => rfl) fun _ => ?_)
      exact .withState fun _ => hP.submitMedia _
    · exact .withState fun _ => hP.submitCaller _ _ _

theorem handleAnswered_retains (event : CallLegEvent) : Retains P env (handleAnswered event) := by
  refine .bind hP.cancelDial fun _ => .bind hP.retryAfterLateAnswer_retains fun _ => ?_
  refine .ite (.pure _) (.withState fun s => .ite (.pure _) (.ite ?_ ?_))
  · refine .withState fun s => .ite (.pure _) (.bind ?_ fun _ => hP.submitCallee _ _ _)
    exact hP.modify fun _ => rfl
  · split
    · exact hP.negotiation _
    · refine .ite (hP.negotiation _) (.withEnv (.bind (hP.modify fun _ => rfl) fun _ => ?_))
      refine .bind (hP.modify fun _ => rfl) fun _ => .withState fun s => ?_
      exact hP.submitMedia _

theorem completeAnswer_retains (callerAnswer : SdpBody) (payloadTypes : List Nat) :
    Retains P env (completeAnswer callerAnswer payloadTypes) := by
  refine .withState fun s => .bind (hP.submitCaller _ _ _) fun _ => ?_
  exact .bind (hP.assign rfl) fun _ => hP.modify fun _ => rfl

theorem connectTransfer_retains : Retains P env connectTransfer := by
  refine .withEnv
    (.bind (hP.modify fun _ => rfl) fun _ => .bind (hP.modify fun _ => rfl) fun _ => ?_)
  refine .bind (hP.assign rfl) fun _ => .bind (hP.modify fun _ => rfl) fun _ =>
    .withState fun s => ?_
  refine .bind (hP.reshapes (markTransferAnswered_reshapes _ _)) fun _ => ?_
  refine .bind (.withState fun _ => hP.submitMedia _) fun _ => .whenSome fun transfer => ?_
  exact .bind (hP.modify fun _ => rfl) fun _ => hP.retains_quiet (reportTransfer_quiet _ _ _ _)

theorem handleMediaActionResult_retains (result : MediaActionResult) :
    Retains P env (handleMediaActionResult result) := by
  refine .withEnv (.withState fun s => ?_)
  split
  · next purpose outcome =>
      refine .ite (.pure _) ?_
      split
      · cases purpose with
        | calleeAttemptOffer attemptSeq =>
            rw [handleSdpFailed]
            exact hP.handleAttemptOfferPrepared_retains _ _
        | _ => exact hP.negotiation _
      · cases purpose with
        | provisional statusCode startRingTimer =>
            refine .withState fun _ => .bind (.withState fun _ => hP.submitCaller _ _ _) fun _ => ?_
            exact .when hP.startRing
        | answer payloadTypes => exact hP.completeAnswer_retains _ _
        | aiAgentAnswer => exact hP.completeAnswer_retains _ _
        | transferAnswer => exact hP.connectTransfer_retains
        | calleeAttemptOffer attemptSeq =>
            rw [handleSdpPrepared]
            exact hP.handleAttemptOfferPrepared_retains _ _
  · refine .ite (.pure _) (.bind (.whenSome fun _ => hP.modify fun _ => rfl) fun _ => ?_)
    exact hP.reshapes (activateCurrentBridge_reshapes _ _)
  · exact .ite (.pure _) (hP.retains_quiet (handleDtmfCapabilityAcquired_quiet _ _))
  · exact .ite (.pure _) (hP.retains_quiet (handleDtmfCapabilityReleased_quiet _ _))

theorem transferToExtension_keeps (request : ActionRequested) (number : String) :
    Keeps env P P (transferToExtension request number) := by
  refine .withEnv (.withState fun s => .ite (.pure _) ?_)
  split
  · exact .bind (hP.quiet (startTransferFailurePrompt_quiet _ _)) fun _ => .pure _
  · refine .bind (hP.modify fun _ => rfl) fun _ => ?_
    refine .bind (hP.quiet bumpPromptGeneration_quiet) fun _ => ?_
    refine .bind (hP.quiet (observe_quiet rfl)) fun _ => ?_
    refine .bind (.attempt (hP.beginAiTransferAttempt_keeps _)) fun _ => ?_
    exact .bind (.whenSome fun _ => hP.failAiTransfer_keeps _) fun _ => .pure _

theorem timeoutAiTransfer_retains {kind : CallTimerKind} (actionId reason : String)
    (hKind : Retains P env (cancelTimer kind)) :
    Retains P env (timeoutAiTransfer kind actionId reason) :=
  .bind hKind fun _ => .bind (hP.submitCallee _ _ _) fun _ => hP.failAiTransfer_retains reason

end Answers

end Closing

namespace ClosingHandlers

variable {env : Env} {P : Coordinator → Prop} (hP : ClosingHandlers env P)
include hP

theorem connectAnswer_retains (pending : PendingAnswer) :
    Retains P env (connectAnswer pending) := by
  refine .withEnv (.bind (hP.assign rfl) fun _ => .withState fun s => ?_)
  refine .bind (fun s h => post_markAnswered (fun _ _ _ _ _ _ _ => hP.same h rfl)
    fun _ _ _ _ _ => trivial) fun _ => ?_
  refine .bind (hP.modify fun _ => rfl) fun _ => .bind hP.cancelRing fun _ => .bind ?_ fun _ => ?_
  · exact .withEnv (.withState fun _ => .withState fun _ => hP.submitMedia _)
  refine .bind (hP.modify fun _ => rfl) fun _ => .withState fun s => .whenSome fun event => ?_
  exact .bind (hP.modify fun _ => rfl) fun _ => hP.disconnected event

theorem confirmAnswer_retains (actionId : String) : Retains P env (confirmAnswer actionId) := by
  refine .withState fun s => ?_
  split
  · exact .pure _
  · refine .bind (hP.modify fun _ => rfl) fun _ => .ite (hP.modify fun _ => rfl) ?_
    exact hP.connectAnswer_retains _

theorem handleFailed_retains (event : CallLegEvent) : Retains P env (handleFailed event) := by
  refine .bind hP.cancelDial fun _ => .withState fun s => .ite (hP.failAiTransfer_retains _) ?_
  refine .ite (hP.rejected event) (.bind (hP.retryAfterAttemptEnded_retains _) fun _ => ?_)
  exact .ite (.pure _) (hP.rejected event)

theorem handleCallerLegEvent_retains (frame : LegFrame) (event : CallLegEvent) :
    Retains P env (handleCallerLegEvent frame event) := by
  have hJudged : Retains P env (acceptLegEvent event) :=
    fun _ h => post_acceptLegEvent (hP.same h rfl)
  refine .bind hJudged fun _ => .ite (.pure _) ?_
  split
  · exact hP.cancelled
  · exact hP.disconnected event
  · exact .pure _

theorem handlePeerLegEvent_retains (frame : LegFrame) (event : CallLegEvent) :
    Retains P env (handlePeerLegEvent frame event) := by
  refine .withState fun s => .bind (hP.modify fun _ => rfl) fun _ => ?_
  refine .ite (.pure _) (.ite (.pure _) (.ite (hP.modify fun _ => rfl) ?_))
  split
  · exact hP.handleProvisional_retains event
  · exact hP.handleAnswered_retains event
  · exact hP.handleFailed_retains event
  · exact hP.disconnected event
  · exact .pure _

theorem applyActionFailure_retains (failure : ActionDeliveryFailed) (peerFailure : Bool) :
    Retains P env (applyActionFailure failure peerFailure) := by
  have hEnd : Retains P env (do
      let s ← Proc.get
      if s.call.isTerminating then pure ()
      else terminateActionFailure failure.identity.actionKind peerFailure) :=
    .withState fun _ => .ite (.pure _) (hP.failed _ _).retains
  refine .withState fun s => .ite (hP.modify fun _ => rfl) (.ite (hP.failAiTransfer_retains _) ?_)
  refine .ite (.bind hP.retryAfterOriginateFailure_retains fun retried => ?_)
    (.bind (.pure _) fun retried => ?_)
  all_goals exact .ite (.pure _) hEnd

theorem handleActionFailure_retains (failure : ActionDeliveryFailed) (peerFailure : Bool) :
    Retains P env (handleActionFailure failure peerFailure) := by
  have hApply : Retains P env (applyActionFailure failure peerFailure) :=
    hP.applyActionFailure_retains failure peerFailure
  rw [handleActionFailure]
  refine .ite (.bind (.pure _) fun fresh => .ite hApply (.pure _)) (.bind ?_ fun fresh => ?_)
  · exact hP.retains_quiet (acceptActionResult_quiet _)
  · exact .ite hApply (.pure _)

theorem handleActionAck_retains (ack : CallActionAck) : Retains P env (handleActionAck ack) := by
  rw [handleActionAck]
  refine .ite (.bind (hP.retains_quiet (acceptActionResult_quiet _)) fun fresh => ?_) ?_
  · exact .ite (hP.confirmAnswer_retains _) (.pure _)
  · exact hP.handleActionFailure_retains _ _

theorem handleOwnedLegActionAck_retains (ack : CallActionAck) :
    Retains P env (handleOwnedLegActionAck ack) :=
  .withState fun _ => .ite (.pure _) (.bind (hP.modify fun _ => rfl) fun _ =>
    .ite (.pure _) (hP.handleActionFailure_retains _ _))

/-- A timer of an attempt. -/
theorem handleTimerExpiry_retains {kind : CallTimerKind} (hKind : kind ≠ .cleanup)
    (generation : Nat) : Retains P env (handleTimerExpiry kind generation) := by
  cases kind with
  | dial =>
      refine .bind (hP.modify fun _ => rfl) fun _ => .withState fun s => .ite (.pure _) (.ite ?_ ?_)
      · exact hP.timeoutAiTransfer_retains _ _ hP.cancelDial
      · exact .ite (.pure _) (hP.waitForRetryCleanup_else (hP.timeout _ _ _ _ _ _))
  | ring =>
      refine .bind (hP.modify fun _ => rfl) fun _ => .withState fun s => .ite (.pure _) (.ite ?_ ?_)
      · exact hP.timeoutAiTransfer_retains _ _ hP.cancelRing
      · exact .ite (.pure _) (hP.waitForRetryCleanup_else (hP.timeout _ _ _ _ _ _))
  | cleanup => exact (hKind rfl).elim

end ClosingHandlers

end Coordinator

end VoipSwitch
