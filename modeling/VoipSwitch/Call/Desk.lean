import VoipSwitch.Call.Invariant

/-! An actor's place in its call. Whatever a coordinator is told, it stays where it is and
remembers the leg events that it saw, unless it is told of an event of the caller's leg or is
installed on another leg. -/
namespace VoipSwitch

open Stateful Keyed Proc

namespace Coordinator

/-- The actor has this place in its call, and the legs of the call are in order. -/
def Seated (d : Desk) (s : Coordinator) : Prop := s.desk = d ∧ s.call.aggregate.LegsFiled

section Handlers

variable {env : Env} {s : Coordinator} {d : Desk}

theorem Seated.ending (s t : Coordinator) (hEnding : Ending s t) (h : s.Seated d) : t.Seated d :=
  ⟨hEnding.desk.trans h.1, hEnding.legs h.2⟩

theorem Seated.stop (s : Coordinator) (h : s.Seated d) : s.Seated d := h

/-- A new aggregate of the same call with the same owner. -/
theorem Seated.with (h : s.Seated d) {t : Coordinator} (hId : t.call.callId = s.call.callId)
    (hOwner : t.call.aggregate.owner = s.call.aggregate.owner)
    (hLegs : s.call.aggregate.LegsFiled → t.call.aggregate.LegsFiled)
    (hCaller : t.call.caller.id = s.call.caller.id)
    (hRest : t.ownedSessionId = s.ownedSessionId ∧ t.legEventDeduper = s.legEventDeduper) :
    t.Seated d := by
  refine ⟨?_, hLegs h.2⟩
  rw [← h.1, desk, desk, hId, hOwner, hRest.1, hRest.2, CallRuntime.callerSessionId,
    CallRuntime.callerSessionId, hCaller]

theorem Seated.evolved (h : s.Seated d) {aggregate : CallAggregate} {t : Coordinator}
    (hEvolved : s.call.aggregate.Evolved aggregate) (hAggregate : t.call.aggregate = aggregate)
    (hCaller : t.call.caller.id = s.call.caller.id)
    (hRest : t.ownedSessionId = s.ownedSessionId ∧ t.legEventDeduper = s.legEventDeduper) :
    t.Seated d := by
  subst hAggregate
  exact h.with hEvolved.id hEvolved.owner hEvolved.legs hCaller hRest

theorem beginNextAttempt_seated (s : Coordinator) (status : Nat) (h : s.Seated d) :
    Post (beginNextAttempt status) env s (fun _ => Seated d) (Seated d) := by
  apply beginNextAttempt_post h
  · exact fun _ => h
  · intro candidate rest aggregate _ _ hEvolved _ _ actionId t hReached
    have hLater := Seated.ending _ t hReached (h.evolved hEvolved rfl rfl ⟨rfl, rfl⟩)
    exact ⟨hLater, hLater⟩

theorem failAttemptSetup_seated {reason : String} (h : s.Seated d) :
    Post (failAttemptSetup reason) env s (fun _ => Seated d) (Seated d) :=
  (failAttemptSetup_ending reason).keeps_both Seated.ending s h

theorem handleDisconnected_seated (event : CallLegEvent) :
    Keeps env (Seated d) (Seated d) (handleDisconnected event) := by
  apply handleDisconnected_keeps Seated.ending Seated.stop
  intro status
  exact retryAfterAttemptEnded_keeps Seated.ending Seated.stop
    fun s status h _ => beginNextAttempt_seated s status h

theorem connectAnswer_seated {pending : PendingAnswer} (h : s.Seated d) :
    Post (connectAnswer pending) env s (fun _ => Seated d) (Seated d) := by
  have hConnected : ∀ {aggregate caller bridge}, s.call.aggregate.Evolved aggregate →
      caller.id = s.call.caller.id → (s.connected aggregate caller bridge).Seated d :=
    fun hEvolved hId => h.evolved hEvolved rfl hId ⟨rfl, rfl⟩
  apply post_connectAnswer
  · intro aggregate caller bridge hEvolved hId t hReached
    exact Seated.ending _ t hReached (hConnected hEvolved hId)
  · intro aggregate caller bridge hEvolved hId _ t actionId recording callId fast hReached _
    exact Seated.ending _ t hReached (hConnected hEvolved hId)
  · exact fun event _ => handleDisconnected_seated event

theorem handlePeerLegEvent_seated (frame : LegFrame) (event : CallLegEvent) :
    Keeps env (Seated d) (Seated d) (handlePeerLegEvent frame event) := by
  have hBegin : ∀ s status, s.Seated d → RetryDue env (Seated d) s →
      Post (beginNextAttempt status) env s (fun _ => Seated d) (Seated d) :=
    fun s status h _ => beginNextAttempt_seated s status h
  intro s h
  have hHeard : (s.heard frame event).Seated d := h
  apply post_handlePeerLegEvent hHeard
  · exact fun _ _ _ _ => h
  · intro _ _ _
    apply handleProvisional_keeps Seated.ending Seated.stop _ _ _ hHeard
    · exact fun _ h _ _ _ _ => h
    · exact fun _ _ _ _ _ h => h
  · intro _ _
    apply handleAnswered_keeps Seated.ending Seated.stop _ _ _ hHeard
    · intro s h hRetry
      exact post_retryAfterLateAnswer Seated.ending Seated.stop hBegin h hRetry
        fun t ht => ⟨rfl, ht⟩
    · intro s answer h _ _ _ _
      exact post_prepareAnswer (fun _ => h) h
  · intro _ _
    apply handleFailed_keeps Seated.ending Seated.stop _ _ hHeard
    intro status
    exact retryAfterAttemptEnded_keeps Seated.ending Seated.stop hBegin
  · exact fun _ _ _ => handleDisconnected_seated event _ hHeard

theorem handleMediaActionResult_seated (result : MediaActionResult) :
    Keeps env (Seated d) (Seated d) (handleMediaActionResult result) := by
  intro s h
  apply post_handleMediaActionResult Seated.ending Seated.stop h
  · intro _ _ attemptSeq outcome _ _
    apply post_handleAttemptOfferPrepared
    · exact fun _ => h
    · exact fun _ _ _ => h
    · exact fun _ _ _ => failAttemptSetup_seated h
    · intro _ _ _ _ _
      apply post_requestRegistration
      · exact fun _ => h
      · exact fun _ _ _ _ => h
      · exact fun _ _ => failAttemptSetup_seated h
  · intro _ _ _ _ _ _ _ _ _
    apply post_completeAnswer Seated.stop h
    exact fun t _ hReached _ => Seated.ending s t hReached h
  · intro _ _ _ _ _
    apply post_connectTransfer Seated.ending Seated.stop
    · intro aggregate caller bridge hEvolved hId t hReached
      exact Seated.ending _ t hReached (h.evolved hEvolved rfl hId ⟨rfl, rfl⟩)
    · intro aggregate caller bridge hEvolved hId _ t _ _ _ _ hReached _
      exact Seated.ending _ t hReached (h.evolved hEvolved rfl hId ⟨rfl, rfl⟩)
  · intro generation s h
    apply post_reshapes (activateCurrentBridge_reshapes _ _)
    · rintro _ _ ⟨aggregate, caller, bridge, rfl, hEvolved, hId, _⟩
      exact h.evolved hEvolved rfl hId ⟨rfl, rfl⟩
    · rintro _ ⟨aggregate, caller, bridge, rfl, hEvolved, hId, _⟩
      exact h.evolved hEvolved rfl hId ⟨rfl, rfl⟩

/-- What the deduplication does to an actor's place. -/
def deskAfter (s : Coordinator) : Option Stimulus → Desk
  | some (.callerEvent _ event) => { s.desk with legEventDeduper := (s.judged event).2 }
  | _ => s.desk

theorem handleCallerLegEvent_seated (hLegs : s.call.aggregate.LegsFiled) (frame : LegFrame)
    (event : CallLegEvent) :
    Post (handleCallerLegEvent frame event) env s
      (fun _ => Seated { s.desk with legEventDeduper := (s.judged event).2 })
      (Seated { s.desk with legEventDeduper := (s.judged event).2 }) := by
  unfold handleCallerLegEvent
  rw [post_bind]
  apply post_acceptLegEvent
  have hJudged : Seated { s.desk with legEventDeduper := (s.judged event).2 }
      { s with legEventDeduper := (s.judged event).2 } := ⟨rfl, hLegs⟩
  rw [post_ite]
  split
  · exact hJudged
  · split
    · exact handleCancelled_ending.keeps_both Seated.ending _ hJudged
    · exact handleDisconnected_seated event _ hJudged
    · exact hJudged

/-- Every handler leaves the actor in its place. -/
theorem respond_seated (stimulus : Stimulus) (hLegs : s.call.aggregate.LegsFiled) :
    Post (respond stimulus) env s (fun _ => Seated (s.deskAfter (some stimulus)))
      (Seated (s.deskAfter (some stimulus))) := by
  have hBegin : ∀ t status, t.Seated s.desk → RetryDue env (Seated s.desk) t →
      Post (beginNextAttempt status) env t (fun _ => Seated s.desk) (Seated s.desk) :=
    fun t status h _ => beginNextAttempt_seated t status h
  have hOriginate : Keeps env (Seated s.desk) (Seated s.desk) retryAfterOriginateFailure :=
    retryAfterOriginateFailure_keeps Seated.ending hBegin
  have h : s.Seated s.desk := ⟨rfl, hLegs⟩
  cases stimulus with
  | callerEvent frame event => exact handleCallerLegEvent_seated hLegs frame event
  | calleeEvent frame event => exact handlePeerLegEvent_seated frame event s h
  | actionFailed failure peerFailure =>
      exact handleActionFailure_keeps Seated.ending Seated.stop (fun _ _ => hOriginate) s h
  | actionAck ack =>
      apply post_handleActionAck Seated.ending Seated.stop h
      intro _ _ _ completed
      apply post_confirmAnswer
      · exact fun _ => h
      · exact fun _ _ _ => h
      · exact fun _ _ _ _ => connectAnswer_seated h
  | ownedLegAck ack =>
      exact handleOwnedLegActionAck_keeps Seated.ending Seated.stop (fun _ => hOriginate) s h
  | mediaResult result => exact handleMediaActionResult_seated result s h
  | registrationResult result =>
      apply post_handleAttemptRegistrationResult h
      · exact fun _ _ _ => h
      · intro _ _ _ _
        apply post_adoptAttempt Seated.ending Seated.stop
        · exact fun aggregate hEvolved => h.evolved hEvolved rfl rfl ⟨rfl, rfl⟩
        · intro aggregate target _ hEntered
          exact h.with hEntered.id hEntered.owner hEntered.legs rfl ⟨rfl, rfl⟩
      · exact fun _ _ _ _ => failAttemptSetup_seated h
  | aiAction request =>
      apply handleAiAction_keeps Seated.ending Seated.stop _ s h
      intro number t _ h hAnswered hLive
      apply transferToExtension_keeps Seated.ending h hAnswered hLive
      · exact fun _ _ h _ _ => h
      · exact fun _ _ h _ _ _ _ => h
      · exact fun _ _ _ _ h => h
  | gatewayUnavailable =>
      exact handleAiGatewayUnavailable_ending.keeps Seated.ending Seated.stop s h
  | shutdown => exact beginShutdown_ending.keeps Seated.ending Seated.stop s h
  | timer kind generation =>
      apply handleTimerExpiry_keeps Seated.ending Seated.stop _ _ s h
      · intro _ status
        exact waitForRetryCleanup_keeps Seated.ending Seated.stop fun _ h _ => h
      · exact fun _ => forceRetryAfterCleanup_keeps Seated.ending Seated.stop hBegin
  | removal cause => exact (finishNow_ending cause).keeps Seated.ending Seated.stop s h
  | abandoned => exact finishUnexplained_ending.keeps Seated.ending Seated.stop s h

theorem seated_looping : Looping env (Seated d) (Seated d) := by
  apply looping_of_ending Seated.ending _ Seated.stop
  · exact failed_of_ending Seated.ending Seated.ending fun _ h _ => h
  · intro s h
    apply post_start_of_ending (J := Seated d) Seated.ending Seated.ending
    · exact fun _ _ h _ => h
    · exact fun _ h => h
    · exact fun _ => h
    · exact fun _ => h
  · exact fun _ _ _ _ _ _ _ h => h

/-- A leg event of the caller comes through the mailbox of the leg itself. -/
theorem callerEvent_of_stimulus {input : Input} {frame : LegFrame} {event : CallLegEvent}
    (h : s.stimulus env input = some (.callerEvent frame event)) :
    s.finalizationStarted = false ∧ s.ownedSessionId = s.call.callerSessionId ∧
      ∃ source, input = .control source (.legEvent frame event) := by
  cases input with
  | control source message =>
      rw [stimulus] at h
      split at h
      · cases h
      · next hLive =>
          rw [Bool.not_eq_true] at hLive
          cases message with
          | legEvent frame' event' =>
              rw [controlStimulus] at h
              split at h
              · next hOwned =>
                  injection Option.some.inj h with hFrame hEvent
                  rw [hFrame, hEvent]
                  exact ⟨hLive, hOwned, source, rfl⟩
              · simp only [reduceCtorEq, Option.some.injEq] at h
          | callActionAck ack =>
              rw [controlStimulus] at h
              split at h <;> simp only [reduceCtorEq, Option.some.injEq] at h
          | _ => simp only [controlStimulus, reduceCtorEq, Option.some.injEq] at h
  | timer kind =>
      rw [stimulus] at h
      cases hSlot : s.timerSlot kind <;>
        simp only [hSlot, Option.map_none, Option.map_some, reduceCtorEq, Option.some.injEq] at h
  | enter | mediaResult _ _ | registrationResult _ _ | mailboxClosed =>
      rw [stimulus] at h
      split at h <;> simp only [reduceCtorEq, Option.some.injEq] at h
  | _ => simp only [stimulus, reduceCtorEq, Option.some.injEq] at h

theorem callerEvent_seated {source : ControlSource} {frame : LegFrame} {event : CallLegEvent}
    (hLegs : s.call.aggregate.LegsFiled) (hLive : s.finalizationStarted = false)
    (hOwned : s.ownedSessionId = s.call.callerSessionId) :
    (step env (.control source (.legEvent frame event)) s).Seated
      { s.desk with legEventDeduper := (s.judged event).2 } := by
  have hDispatch : dispatch source s (.legEvent frame event) = handleCallerLegEvent frame event :=
    if_pos hOwned
  have hHandled : Post (handleCallerLegEvent frame event) env s _ _ :=
    handleCallerLegEvent_seated hLegs frame event
  have hProcess := seated_looping.post_process hHandled
  have hLoop : Post (handleControl source (.legEvent frame event) >>= continueIf) env s
      (fun _ => Seated { s.desk with legEventDeduper := (s.judged event).2 })
      fun _ => False := by
    simp only [handleControl, post_bind, post_read, post_get, hLive, hDispatch]
    apply hProcess.mono
    · intro goesOn t ht
      exact seated_looping.post_continueIf ht.1 fun hLeaves => .inl (ht.2 hLeaves)
    · exact fun _ h => h
  apply Post.final
  apply Post.mono (E := fun _ => False)
  · show Post (receive source (.legEvent frame event)) env s
      (fun _ => Seated { s.desk with legEventDeduper := (s.judged event).2 }) _
    simp only [receive, post_bind, post_read, post_get]
    simp only [post_bind] at hLoop
    exact hLoop
  · exact fun _ _ h => h
  · exact fun _ h => h.elim

/-- One input leaves a coordinator in its place, unless it moves it to another leg. -/
theorem step_seated {input : Input}
    (h : ∀ target committed, input ≠ .installHandoff target committed)
    (hLegs : s.call.aggregate.LegsFiled) :
    (step env input s).Seated (s.deskAfter (s.stimulus env input)) := by
  have hTaken : (s.taken env input).Seated s.desk := by
    cases input <;> exact ⟨rfl, hLegs⟩
  have hSeated : (∀ frame event, s.stimulus env input ≠ some (.callerEvent frame event)) →
      (step env input s).Seated s.desk := by
    intro hOther
    apply seated_looping.step hTaken
    · intro target committed hInput
      exact (h target committed hInput).elim
    · intro stimulus hStimulus
      have hRespond : Post (respond stimulus) env (s.taken env input) _ _ :=
        respond_seated stimulus hTaken.2
      cases stimulus with
      | callerEvent frame event => exact (hOther frame event hStimulus).elim
      | _ =>
          simp only [deskAfter, hTaken.1] at hRespond
          exact hRespond
  cases hStimulus : s.stimulus env input with
  | none =>
      apply hSeated
      intro frame event hSome
      simp only [hStimulus, reduceCtorEq] at hSome
  | some stimulus =>
      cases stimulus with
      | callerEvent frame event =>
          obtain ⟨hLive, hOwned, source, rfl⟩ := callerEvent_of_stimulus hStimulus
          exact callerEvent_seated hLegs hLive hOwned
      | _ =>
          apply hSeated
          intro frame event hSome
          simp only [hStimulus, reduceCtorEq, Option.some.injEq] at hSome

/-- A new call is owned by its caller's session, for the first generation. -/
theorem create_seated {invitation : Invitation} (h : create invitation = .ok s) :
    s.Seated
      { callId := invitation.callId
        callerSessionId := invitation.callerSessionId
        ownedSessionId := invitation.callerSessionId
        owner := (invitation.callerSessionId, 1)
        legEventDeduper := {} } := by
  obtain ⟨aggregate, ⟨hId, hOwner, hLegs, _⟩, rfl⟩ := create_spec h
  refine ⟨?_, hLegs⟩
  have hCallId : (invitation.runtime aggregate).callId = invitation.callId := hId
  have hOwned : (invitation.runtime aggregate).aggregate.owner = (invitation.callerSessionId, 1) :=
    hOwner
  rw [desk, hCallId, hOwned]
  rfl

end Handlers

end Coordinator

end VoipSwitch
