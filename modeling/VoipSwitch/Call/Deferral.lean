import VoipSwitch.Call.Conformance

/-! A callee that disconnects while its answer is passed on: the event is put off until the answer
is over. It waits only as long as there is such an answer, or the call ends. -/
namespace VoipSwitch

open Stateful Keyed Proc

namespace Coordinator

/-- A disconnect that was put off waits for an answer, or for the end of the call. -/
def Deferring (s : Coordinator) : Prop :=
  s.deferredCalleeDisconnect.isSome = true →
    s.answerInProgress = true ∨ s.call.isTerminating = true

/-- An answer is over, but the disconnect that waited for it is not looked at: the callee of a
transfer is connected, or another answer than the pending one is acknowledged. -/
def forgetsDisconnect (s : Coordinator) : Stimulus → Bool
  | .actionAck ack => s.foreignAnswer ack
  | .mediaResult (.sdpPrepared _ generation .transferAnswer (.ok _)) =>
    !s.staleSdp generation .transferAnswer
  | _ => false

def losesDisconnect (s : Coordinator) (label : Env × Input) : Bool :=
  s.deferredCalleeDisconnect.isSome && (s.stimulus label.1 label.2).any s.forgetsDisconnect

/-- The adapter acknowledges the answer that is pending. -/
def ownAnswer (s : Coordinator) (ack : CallActionAck) : Bool :=
  ack.accepted && ack.actionKind = .answerInboundInvite && s.freshResult ack.identity
    && !s.call.isTerminating && s.pendingAnswer.any (·.actionId = ack.actionId)

section Waiting

variable {env : Env} {s t : Coordinator}

theorem Deferring.of_none (h : s.deferredCalleeDisconnect = none) : s.Deferring := by
  intro hSome
  rw [h, Option.isSome_none] at hSome
  exact (Bool.false_ne_true hSome).elim

theorem Deferring.of_terminating (h : s.call.isTerminating = true) : s.Deferring :=
  fun _ => .inr h

/-- Nothing waits once the answer of a live call is over. -/
theorem Deferring.none (h : s.Deferring) (hLive : s.call.isTerminating = false)
    (hOver : s.answerInProgress = false) : s.deferredCalleeDisconnect = none := by
  rw [← Option.not_isSome_iff_eq_none]
  intro hSome
  rcases h hSome with hAnswering | hEnds
  · exact Bool.false_ne_true (hOver.symm.trans hAnswering)
  · exact Bool.false_ne_true (hLive.symm.trans hEnds)

/-- The call goes on answering in another state. -/
theorem Deferring.answering (h : s.Deferring) (hLive : s.call.isTerminating = false)
    (hDeferred : t.deferredCalleeDisconnect = s.deferredCalleeDisconnect)
    (hAnswering : t.answerInProgress = s.answerInProgress) : t.Deferring := by
  intro hSome
  rw [hDeferred] at hSome
  rw [hAnswering]
  rcases h hSome with hTrue | hEnds
  · exact .inl hTrue
  · exact (Bool.false_ne_true (hLive.symm.trans hEnds)).elim

theorem Deferring.ending (s t : Coordinator) (hEnding : Ending s t) (h : s.Deferring) :
    t.Deferring := by
  intro hSome
  have hDeferred : t.deferredCalleeDisconnect = s.deferredCalleeDisconnect :=
    congrArg Core.deferredCalleeDisconnect hEnding.core
  rw [hDeferred] at hSome
  rcases h hSome with hAnswering | hEnds
  · rcases hEnding.answering with hSame | ⟨_, hEnds⟩
    · exact .inl (hSame.trans hAnswering)
    · exact .inr hEnds
  · exact .inr (hEnding.terminating hEnds)

theorem Deferring.managed (s t : Coordinator) (hManaged : Managed s t) (h : s.Deferring) :
    t.Deferring := by
  obtain ⟨_, _, _, _, _, _, _, _, _, _, _, _, _, rfl, _⟩ := hManaged
  exact h

/-- What an early stop leaves does not matter: the call is ended for it. -/
abbrev Anything (_ : Coordinator) : Prop := True

theorem Deferring.stop (s : Coordinator) (_ : s.Deferring) : Anything s := trivial

theorem beginNextAttempt_deferring (s : Coordinator) (status : Nat) (h : s.Deferring) :
    Post (beginNextAttempt status) env s (fun _ => Deferring) Anything := by
  apply beginNextAttempt_post h
  · exact fun _ => trivial
  · intro candidate rest aggregate _ _ _ _ _ actionId t hReached
    exact ⟨trivial, Deferring.ending _ t hReached h⟩

theorem failAttemptSetup_deferring {reason : String} (h : s.Deferring) :
    Post (failAttemptSetup reason) env s (fun _ => Deferring) Anything :=
  (failAttemptSetup_ending reason).keeps Deferring.ending Deferring.stop s h

theorem retryAfterAttemptEnded_deferring (status : Nat) :
    Keeps env Deferring Anything (retryAfterAttemptEnded status) :=
  retryAfterAttemptEnded_keeps Deferring.ending Deferring.stop
    fun s status h _ => beginNextAttempt_deferring s status h

theorem handleDisconnected_deferring (event : CallLegEvent) :
    Keeps env Deferring Anything (handleDisconnected event) :=
  handleDisconnected_keeps Deferring.ending Deferring.stop retryAfterAttemptEnded_deferring

theorem handlePeerLegEvent_deferring (frame : LegFrame) (event : CallLegEvent) :
    Keeps env Deferring Anything (handlePeerLegEvent frame event) := by
  intro s h
  have hHeard : (s.heard frame event).Deferring := h
  apply post_handlePeerLegEvent hHeard
  · exact fun _ _ hAnswering _ _ => .inl hAnswering
  · intro _ _ _
    apply handleProvisional_keeps Deferring.ending Deferring.stop _ _ _ hHeard
    · exact fun s h hLive _ hIdle _ => .of_none (h.none hLive hIdle)
    · exact fun _ _ _ _ _ h => h
  · intro _ _
    apply handleAnswered_keeps Deferring.ending Deferring.stop _ _ _ hHeard
    · intro s h hRetry
      exact post_retryAfterLateAnswer Deferring.ending Deferring.stop
        (fun s status h _ => beginNextAttempt_deferring s status h) h hRetry fun t ht => ⟨rfl, ht⟩
    · intro s answer h _ _ _ _
      exact post_prepareAnswer (fun _ _ => .inl rfl) trivial
  · intro _ _
    exact handleFailed_keeps Deferring.ending Deferring.stop retryAfterAttemptEnded_deferring _
      hHeard
  · exact fun _ _ _ => handleDisconnected_deferring event _ hHeard

theorem connectAnswer_deferring (pending : PendingAnswer) :
    Post (connectAnswer pending) env s (fun _ => Deferring) Anything := by
  apply post_connectAnswer
  · exact fun _ _ _ _ _ _ _ => trivial
  · exact fun _ _ _ _ _ _ _ _ _ _ _ _ _ => .of_none rfl
  · exact fun event _ => handleDisconnected_deferring event

theorem handleActionAck_deferring {ack : CallActionAck} (h : s.Deferring)
    (hKept : s.deferredCalleeDisconnect.isSome = true → s.foreignAnswer ack = false) :
    Post (handleActionAck ack) env s (fun _ => Deferring) Anything := by
  apply post_handleActionAck Deferring.ending Deferring.stop h
  intro hAccepted hKind hFresh completed
  apply post_confirmAnswer
  · exact fun _ => h
  · intro pending hPending hOther
    cases hLive : s.call.isTerminating with
    | true => exact .of_terminating hLive
    | false =>
        apply Deferring.of_none
        rw [← Option.not_isSome_iff_eq_none]
        intro hSome
        have hOwn := hKept hSome
        have hPending : s.pendingAnswer = some pending := hPending
        simp only [foreignAnswer, hAccepted, hKind, hFresh, hLive, hPending, decide_true,
          Bool.not_false, Bool.true_and, Option.any_some, decide_eq_false_iff_not, not_not] at hOwn
        rcases hOther with hDiffers | hEnds
        · exact hDiffers hOwn
        · exact Bool.false_ne_true (hLive.symm.trans hEnds)
  · exact fun pending _ _ _ => connectAnswer_deferring pending

theorem handleMediaActionResult_deferring {result : MediaActionResult} (h : s.Deferring)
    (hKept : s.deferredCalleeDisconnect.isSome = true →
      s.forgetsDisconnect (.mediaResult result) = false) :
    Post (handleMediaActionResult result) env s (fun _ => Deferring) Anything := by
  apply post_handleMediaActionResult Deferring.ending Deferring.stop h
  · intro _ _ attemptSeq outcome _ _
    apply post_handleAttemptOfferPrepared
    · exact fun _ => h
    · exact fun _ _ _ => h
    · exact fun _ _ _ => failAttemptSetup_deferring h
    · intro _ _ _ _ _
      apply post_requestRegistration
      · exact fun _ => trivial
      · exact fun _ _ _ _ => h
      · exact fun _ _ => failAttemptSetup_deferring h
  · intro _ generation purpose _ _ _ _ hFresh _
    apply post_completeAnswer Deferring.stop h
    intro t _ hReached hSame
    have hLive : t.call.isTerminating = false := by
      rw [hSame]
      simp only [staleSdp, Bool.or_eq_false_iff] at hFresh
      exact hFresh.1.2
    exact (Deferring.ending s t hReached h).answering hLive rfl rfl
  · intro actionId generation prepared hResult hFresh
    have hNone : s.deferredCalleeDisconnect = none := by
      rw [← Option.not_isSome_iff_eq_none]
      intro hSome
      have hOther := hKept hSome
      rw [hResult] at hOther
      simp only [forgetsDisconnect, hFresh, Bool.not_false, Bool.true_eq_false] at hOther
    apply post_connectTransfer Deferring.ending Deferring.stop
    · exact fun _ _ _ _ _ _ _ => trivial
    · intro _ _ _ _ _ _ t _ _ _ _ hReached _
      apply Deferring.of_none
      exact (congrArg Core.deferredCalleeDisconnect hReached.core).trans hNone
  · intro generation s h
    apply post_reshapes (activateCurrentBridge_reshapes _ _)
    · rintro _ _ ⟨_, _, _, rfl, _⟩
      exact h
    · exact fun _ _ => trivial

theorem respond_deferring {stimulus : Stimulus} (h : s.Deferring)
    (hKept : s.deferredCalleeDisconnect.isSome = true → s.forgetsDisconnect stimulus = false) :
    Post (respond stimulus) env s (fun _ => Deferring) Anything := by
  have hBegin : ∀ s status, Deferring s → RetryDue env Deferring s →
      Post (beginNextAttempt status) env s (fun _ => Deferring) Anything :=
    fun s status h _ => beginNextAttempt_deferring s status h
  have hOriginate : Keeps env Deferring Anything retryAfterOriginateFailure :=
    retryAfterOriginateFailure_keeps Deferring.ending hBegin
  cases stimulus with
  | callerEvent frame event =>
      exact handleCallerLegEvent_keeps Deferring.ending Deferring.stop (fun _ h => h)
        (handleDisconnected_deferring event) s h
  | calleeEvent frame event => exact handlePeerLegEvent_deferring frame event s h
  | actionFailed failure peerFailure =>
      exact handleActionFailure_keeps Deferring.ending Deferring.stop (fun _ _ => hOriginate) s h
  | actionAck ack => exact handleActionAck_deferring h hKept
  | ownedLegAck ack =>
      exact handleOwnedLegActionAck_keeps Deferring.ending Deferring.stop (fun _ => hOriginate) s h
  | mediaResult result => exact handleMediaActionResult_deferring h hKept
  | registrationResult result =>
      apply post_handleAttemptRegistrationResult h
      · exact fun _ _ _ => h
      · intro pending _ hLive _
        apply post_adoptAttempt Deferring.ending Deferring.stop
        · exact fun _ _ => trivial
        · exact fun _ _ _ _ => Deferring.answering (t := s.adopted pending _) h hLive rfl rfl
      · exact fun _ _ _ _ => failAttemptSetup_deferring h
  | aiAction request =>
      apply handleAiAction_keeps Deferring.ending Deferring.stop _ s h
      intro number s _ h hAnswered hLive
      apply transferToExtension_keeps Deferring.ending h hAnswered hLive
      · exact fun _ _ h _ _ => h
      · exact fun _ _ h _ _ _ _ => h
      · exact fun _ _ _ _ h => h
  | gatewayUnavailable =>
      exact handleAiGatewayUnavailable_ending.keeps Deferring.ending Deferring.stop s h
  | shutdown => exact beginShutdown_ending.keeps Deferring.ending Deferring.stop s h
  | timer kind generation =>
      apply handleTimerExpiry_keeps Deferring.ending Deferring.stop _ _ s h
      · intro _ status
        exact waitForRetryCleanup_keeps Deferring.ending Deferring.stop fun _ h _ => h
      · exact fun _ => forceRetryAfterCleanup_keeps Deferring.ending Deferring.stop hBegin
  | removal cause => exact (finishNow_ending cause).keeps Deferring.ending Deferring.stop s h
  | abandoned => exact finishUnexplained_ending.keeps Deferring.ending Deferring.stop s h

theorem deferring_of_reachable
    (hRun : Transition.ReachableWithin system (fun s label => s.losesDisconnect label = false) s) :
    s.Deferring := by
  have hFailed : ∀ env s, Anything s →
      Post (beginTerminating .internalError >>= fun _ => finishUnexplained) env s
        (fun _ => Deferring) fun _ => False := by
    intro env
    exact failed_of_ending Deferring.ending (fun _ _ _ h => h) fun _ _ hEnds =>
      .of_terminating hEnds
  apply invariant_of_handlers Deferring.ending Deferring.managed Deferring.stop hFailed hRun
  · rintro s ⟨invitation, hCreate⟩
    obtain ⟨aggregate, _, rfl⟩ := create_spec hCreate
    exact .of_none rfl
  · intro s env _ h
    apply post_start_of_ending Deferring.ending Deferring.ending
    · exact fun _ _ h _ => h
    · exact fun _ h => h
    · exact fun _ => h
    · exact fun _ => h
  · exact fun _ _ h => h
  · exact fun _ _ h => h
  · intro s env input stimulus h hTaken _ hKept hStimulus
    apply respond_deferring hTaken
    intro hSome
    have hDeferred : s.deferredCalleeDisconnect.isSome = true := by
      cases input <;> exact hSome
    have hNot : s.forgetsDisconnect stimulus = false := by
      simpa only [losesDisconnect, hDeferred, hStimulus, Option.any_some, Bool.true_and] using hKept
    cases input <;> exact hNot

/-- What a handler makes of a state is what it returned from there. -/
theorem post_self {α : Type} (m : Handler α) :
    Post m env s (fun a t => m env s = (.ok a, t)) fun _ => True := by
  rw [Post]
  rcases h : m env s with ⟨result, t⟩
  cases result with
  | ok a => rfl
  | error _ => trivial

/-- The rest of an answer is the disconnect that was put off. -/
theorem connectAnswer_disconnects {pending : PendingAnswer} {event : CallLegEvent}
    (hDeferred : s.deferredCalleeDisconnect = some event) :
    Post (connectAnswer pending) env s (fun _ t => ∃ u, u.deferredCalleeDisconnect = none ∧
      u.answerInProgress = false ∧ handleDisconnected event env u = (.ok (), t)) Anything := by
  rw [connectAnswer, post_bind, post_read, post_bind, post_assignState, post_bind, post_get,
    post_bind]
  apply post_markAnswered
  · intro _ _ _ _ _ _ _
    rw [post_bind, post_updateCall, post_bind, post_cancelRing, post_bind, startMedia, post_bind,
      post_read, post_bind, post_get, startAnswerMedia, post_bind, post_get]
    apply post_submitMedia
    · rw [post_bind, post_modify, post_bind, post_get]
      apply post_whenSome
      · intro hNone
        simp only [hDeferred, reduceCtorEq] at hNone
      · intro other hOther
        simp only [hDeferred, Option.some.injEq] at hOther
        subst hOther
        rw [post_bind, post_modify]
        apply (post_self _).mono
        · intro _ t ht
          refine ⟨_, ?_, ?_, ht⟩
          · rfl
          · rfl
        · exact fun _ _ => trivial
    · trivial
  · exact fun _ _ _ _ _ => trivial

theorem handleActionAck_disconnects {ack : CallActionAck} {event : CallLegEvent}
    (hDeferred : s.deferredCalleeDisconnect = some event) (hOwn : s.ownAnswer ack = true) :
    Post (handleActionAck ack) env s (fun _ t => ∃ u, u.deferredCalleeDisconnect = none ∧
      u.answerInProgress = false ∧ handleDisconnected event env u = (.ok (), t)) Anything := by
  simp only [ownAnswer, Bool.and_eq_true, decide_eq_true_eq, Bool.not_eq_true'] at hOwn
  obtain ⟨⟨⟨⟨hAccepted, hKind⟩, hFresh⟩, hLive⟩, hPending⟩ := hOwn
  obtain ⟨pending, hPending, hSame⟩ := (Option.any_eq_true ..).mp hPending
  rw [decide_eq_true_eq] at hSame
  rw [handleActionAck, if_pos hAccepted, post_bind]
  apply post_acceptActionResult
  · intro hSpent
    exact (Bool.false_ne_true (hSpent.symm.trans hFresh)).elim
  · intro _ completed
    rw [post_ite, if_pos ⟨rfl, hKind⟩, confirmAnswer, post_bind, post_get, hPending]
    simp only
    rw [post_bind, post_modify, post_ite, if_neg]
    · exact connectAnswer_disconnects hDeferred
    · rintro (hOther | hEnds)
      · exact hOther hSame
      · exact Bool.false_ne_true (hLive.symm.trans hEnds)

end Waiting

/-- A disconnect that was put off waits only while an answer is in progress or the call ends, and
the acknowledgement of this answer hands it on. -/
theorem disconnect_deferred {s : Coordinator}
    (hRun : Transition.ReachableWithin system (fun s label => s.losesDisconnect label = false) s) :
    s.Deferring ∧ ∀ env ack event, s.deferredCalleeDisconnect = some event →
      s.ownAnswer ack = true → ∀ t, handleActionAck ack env s = (.ok (), t) →
      ∃ u, u.deferredCalleeDisconnect = none ∧ u.answerInProgress = false ∧
        handleDisconnected event env u = (.ok (), t) := by
  refine ⟨deferring_of_reachable hRun, fun env ack event hDeferred hOwn t hReturned => ?_⟩
  have hPost : Post (handleActionAck ack) env s _ Anything :=
    handleActionAck_disconnects hDeferred hOwn
  rw [Post, hReturned] at hPost
  exact hPost

/-- The callee hung up while the caller's answer was under way. -/
theorem disconnect_deferred_waits :
    ∃ s : Coordinator, s.deferredCalleeDisconnect.isSome = true ∧ s.Deferring := by
  obtain ⟨s, hRun, h⟩ := reachable_of_schedule (fun s label => !s.losesDisconnect label)
    (·.deferredCalleeDisconnect.isSome) (callTo (.trunk "peer:1") [])
    (answeringSchedule ++ [(takingEnv, calleeEvent .dialogDisconnected 2 none none)]) (by decide)
  simp only [Bool.not_eq_true'] at hRun
  exact ⟨s, h, (disconnect_deferred hRun).1⟩

end Coordinator

end VoipSwitch
