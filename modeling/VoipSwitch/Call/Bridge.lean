import VoipSwitch.Call.Conformance

/-! The bridge that the media of a call goes over. A request to start the media of an answer
carries the media generation of the bridge that was planned for it, and whatever releases that
bridge or plans another one makes the request stale, or ends the call. -/
namespace VoipSwitch

open Stateful Keyed Proc

/-- The media generation that the media of an answer is asked for. -/
def MediaAction.startsAt? : MediaAction → Option Nat
  | .startAnswerMedia _ generation _ _ _ => some generation
  | _ => none

theorem MediaAction.startsAt?_of_isDtmf {action : MediaAction} (h : action.isDtmf = true) :
    action.startsAt? = none := by
  cases action with
  | startAnswerMedia _ _ _ _ _ => exact (Bool.false_ne_true h).elim
  | _ => rfl

namespace Coordinator

theorem Wired.congr {call next : CallRuntime} {generation : Nat} (h : Wired generation call)
    (hCurrent : next.currentBridgeId = call.currentBridgeId)
    (hBridges : next.aggregate.bridges = call.aggregate.bridges) : Wired generation next := by
  rw [Wired, hCurrent, hBridges]
  exact h

/-- Media that is to be started is of a generation that the call has reached. -/
structure Timely (s : Coordinator) : Prop where
  fits : s.mediaGeneration ≤ u64Max
  reached : ∀ request ∈ s.mediaQueue, ∀ generation, request.startsAt? = some generation →
    generation ≤ s.mediaGeneration

/-- For the media that is to be started now there is a bridge. -/
structure Covered (s : Coordinator) : Prop extends s.Timely where
  wired : ∀ request ∈ s.mediaQueue, request.startsAt? = some s.mediaGeneration →
    s.mediaGeneration < u64Max → Wired s.mediaGeneration s.call

/-- Once a call is being finalized no media is started any more. -/
def Bridged (s : Coordinator) : Prop := s.finalizationStarted = false → s.Covered

section Handlers

variable {env : Env} {s t : Coordinator}

theorem Timely.congr (h : s.Timely)
    (hQueue : ∀ request ∈ t.mediaQueue, request ∈ s.mediaQueue ∨ request.startsAt? = none)
    (hGeneration : s.mediaGeneration ≤ t.mediaGeneration) (hFits : t.mediaGeneration ≤ u64Max) :
    t.Timely := by
  refine ⟨hFits, fun request hMem generation hStarts => ?_⟩
  rcases hQueue request hMem with hBefore | hOther
  · exact (h.reached request hBefore generation hStarts).trans hGeneration
  · simp only [hOther, reduceCtorEq] at hStarts

/-- Steps towards the end of a call start no media. -/
theorem queue_of_ending (hEnding : Ending s t) :
    ∀ request ∈ t.mediaQueue, request ∈ s.mediaQueue ∨ request.startsAt? = none := by
  obtain ⟨added, hQueue, hDtmf⟩ := hEnding.queue
  intro request hMem
  rw [hQueue] at hMem
  rcases List.mem_append.mp hMem with hOld | hAdded
  · exact .inl hOld
  · exact .inr (MediaAction.startsAt?_of_isDtmf (hDtmf request hAdded))

theorem timely_of_ending (hEnding : Ending s t) (h : s.Timely) : t.Timely := by
  obtain ⟨bumps, hBumps⟩ := hEnding.generation
  obtain ⟨hFits, hMoved⟩ := satSucc64_iterate h.fits bumps
  rw [← hBumps] at hFits hMoved
  exact h.congr (queue_of_ending hEnding) (by omega) hFits

theorem Bridged.stop (s : Coordinator) (_ : s.Bridged) : True := trivial

/-- Nothing but the queue, the generation and the bridges matters. -/
theorem Covered.congr (h : s.Covered)
    (hQueue : ∀ request ∈ t.mediaQueue, request ∈ s.mediaQueue ∨ request.startsAt? = none)
    (hGeneration : t.mediaGeneration = s.mediaGeneration) (hWiring : t.wiring = s.wiring) :
    t.Covered := by
  obtain ⟨hCurrent, hBridges⟩ := Prod.mk.inj hWiring
  have hTimely := h.toTimely.congr hQueue hGeneration.ge (hGeneration.symm ▸ h.fits)
  refine ⟨hTimely, fun request hMem hStarts hBelow => ?_⟩
  rw [hGeneration] at hStarts hBelow ⊢
  rcases hQueue request hMem with hBefore | hOther
  · exact (h.wired request hBefore hStarts hBelow).congr hCurrent hBridges
  · simp only [hOther, reduceCtorEq] at hStarts

theorem Bridged.congr (h : s.Bridged) (hFinal : t.finalizationStarted = s.finalizationStarted)
    (hQueue : ∀ request ∈ t.mediaQueue, request ∈ s.mediaQueue ∨ request.startsAt? = none)
    (hGeneration : t.mediaGeneration = s.mediaGeneration) (hWiring : t.wiring = s.wiring) :
    t.Bridged := fun hOpen => (h (hFinal.symm.trans hOpen)).congr hQueue hGeneration hWiring

/-- Fields that media is not started from. -/
theorem Bridged.same (h : s.Bridged) (hFinal : t.finalizationStarted = s.finalizationStarted)
    (hQueue : t.mediaQueue = s.mediaQueue) (hGeneration : t.mediaGeneration = s.mediaGeneration)
    (hWiring : t.wiring = s.wiring) : t.Bridged :=
  h.congr hFinal (fun _ hMem => .inl (hQueue ▸ hMem)) hGeneration hWiring

/-- A request that starts no media. -/
theorem Bridged.queue (h : s.Bridged) {action : MediaAction} (hOther : action.startsAt? = none) :
    (s.queued action).Bridged := by
  refine h.congr rfl (fun request hMem => ?_) rfl rfl
  rcases List.mem_append.mp hMem with hBefore | hAdded
  · exact .inl hBefore
  · rw [List.mem_singleton.mp hAdded]
    exact .inr hOther

theorem Bridged.ending (s t : Coordinator) (hEnding : Ending s t) (h : s.Bridged) : t.Bridged := by
  intro hOpen
  obtain ⟨hBefore, hWiring⟩ := hEnding.wiring hOpen
  have hCovered := h hBefore
  obtain ⟨bumps, hBumps⟩ := hEnding.generation
  have hMoved := (satSucc64_iterate hCovered.fits bumps).2
  rw [← hBumps] at hMoved
  rcases hMoved with hSame | hMore
  · exact hCovered.congr (queue_of_ending hEnding) hSame hWiring
  · -- The requests of an earlier generation are stale.
    refine ⟨timely_of_ending hEnding hCovered.toTimely, fun request hMem hStarts _ => ?_⟩
    rcases queue_of_ending hEnding request hMem with hOld | hOther
    · exact absurd hMore (not_lt.mpr (hCovered.reached request hOld _ hStarts))
    · simp only [hOther, reduceCtorEq] at hStarts

theorem Bridged.bump (h : s.Bridged) :
    Bridged { s with mediaGeneration := satSucc64 s.mediaGeneration } :=
  Bridged.ending s _ (.bump s) h

theorem Bridged.managed (s t : Coordinator) (hManaged : Managed s t) (h : s.Bridged) :
    t.Bridged := by
  obtain ⟨_, _, _, _, _, _, _, _, _, _, _, _, _, rfl, _⟩ := hManaged
  exact h.same rfl rfl rfl rfl

theorem Bridged.erase (h : s.Bridged) (request : MediaAction) :
    Bridged { s with mediaQueue := s.mediaQueue.erase request } :=
  h.congr rfl (fun _ hMem => .inl (List.mem_of_mem_erase hMem)) rfl rfl

/-- Media is started over the bridge of its own generation. -/
theorem Timely.start (h : s.Timely) {actionId callId : String} {recording : Option RecordingSpec}
    {fast : Bool} (hWired : Wired s.mediaGeneration s.call) :
    (s.queued (.startAnswerMedia actionId s.mediaGeneration recording callId fast)).Covered := by
  refine ⟨⟨h.fits, fun request hMem generation hStarts => ?_⟩, fun _ _ _ _ => hWired⟩
  rcases List.mem_append.mp hMem with hBefore | hAdded
  · exact h.reached request hBefore generation hStarts
  · rw [List.mem_singleton.mp hAdded, MediaAction.startsAt?, Option.some.injEq] at hStarts
    exact hStarts.ge

theorem beginNextAttempt_bridged (s : Coordinator) (status : Nat) (h : s.Bridged) :
    Post (beginNextAttempt status) env s (fun _ => Bridged) fun _ => True := by
  apply beginNextAttempt_post h
  · exact fun _ => trivial
  · intro candidate rest aggregate _ _ _ _ hBridges actionId t hReached
    have hGivenUp : Bridged { s with
        remainingCandidates := rest
        pendingAttemptCandidate := some { attemptSeq := satSucc16 s.currentAttemptSeq, candidate }
        call := { s.call with aggregate := aggregate } } :=
      h.same rfl rfl rfl (Prod.ext rfl hBridges)
    exact ⟨trivial, (Bridged.ending _ t hReached hGivenUp).queue rfl⟩

theorem failAttemptSetup_bridged {reason : String} (h : s.Bridged) :
    Post (failAttemptSetup reason) env s (fun _ => Bridged) fun _ => True :=
  (failAttemptSetup_ending reason).keeps Bridged.ending Bridged.stop s h

theorem handleDisconnected_bridged (event : CallLegEvent) :
    Keeps env Bridged (fun _ => True) (handleDisconnected event) := by
  apply handleDisconnected_keeps Bridged.ending Bridged.stop
  intro status
  exact retryAfterAttemptEnded_keeps Bridged.ending Bridged.stop
    fun s status h _ => beginNextAttempt_bridged s status h

/-- An answer starts the media over the bridge that it plans. -/
theorem bridged_of_connected {u : Coordinator} (hReached : Ending u t)
    (hWired : Wired t.mediaGeneration t.call) (h : s.Bridged)
    (hFinal : u.finalizationStarted = s.finalizationStarted) (hQueue : u.mediaQueue = s.mediaQueue)
    (hGeneration : u.mediaGeneration = s.mediaGeneration) {actionId callId : String}
    {recording : Option RecordingSpec} {fast : Bool} :
    (t.queued (.startAnswerMedia actionId t.mediaGeneration recording callId fast)).Bridged := by
  intro hOpen
  have hCovered := h (hFinal.symm.trans (hReached.wiring hOpen).1)
  have hTimely : u.Timely := hCovered.toTimely.congr (fun _ hMem => .inl (hQueue ▸ hMem))
    hGeneration.ge (hGeneration.symm ▸ hCovered.fits)
  exact (timely_of_ending hReached hTimely).start hWired

theorem connectAnswer_bridged {pending : PendingAnswer} (h : s.Bridged) :
    Post (connectAnswer pending) env s (fun _ => Bridged) fun _ => True := by
  apply post_connectAnswer
  · exact fun _ _ _ _ _ _ _ => trivial
  · intro aggregate caller bridge _ _ _ t actionId recording callId fast hReached hWired
    exact (bridged_of_connected hReached hWired h rfl rfl rfl).same rfl rfl rfl rfl
  · exact fun event _ => handleDisconnected_bridged event

theorem handlePeerLegEvent_bridged (frame : LegFrame) (event : CallLegEvent) :
    Keeps env Bridged (fun _ => True) (handlePeerLegEvent frame event) := by
  have hBegin : ∀ s status, s.Bridged → RetryDue env Bridged s →
      Post (beginNextAttempt status) env s (fun _ => Bridged) fun _ => True :=
    fun s status h _ => beginNextAttempt_bridged s status h
  intro s h
  have hHeard : (s.heard frame event).Bridged := h.same rfl rfl rfl rfl
  apply post_handlePeerLegEvent hHeard
  · exact fun _ _ _ _ => hHeard.same rfl rfl rfl rfl
  · intro _ _ _
    apply handleProvisional_keeps Bridged.ending Bridged.stop _ _ _ hHeard
    · exact fun _ h _ _ _ _ => h.same rfl rfl rfl rfl
    · exact fun _ _ _ _ _ h => h.queue rfl
  · intro _ _
    apply handleAnswered_keeps Bridged.ending Bridged.stop _ _ _ hHeard
    · intro s h hRetry
      exact post_retryAfterLateAnswer Bridged.ending Bridged.stop hBegin h hRetry
        fun t ht => ⟨rfl, ht⟩
    · intro s answer h _ _ _ _
      apply post_prepareAnswer
      · intro actionId
        have hAnswering : Bridged { s with
            mediaGeneration := satSucc64 s.mediaGeneration, answerInProgress := true } :=
          h.bump.same rfl rfl rfl rfl
        exact hAnswering.queue rfl
      · exact trivial
  · intro _ _
    apply handleFailed_keeps Bridged.ending Bridged.stop _ _ hHeard
    intro status
    exact retryAfterAttemptEnded_keeps Bridged.ending Bridged.stop hBegin
  · exact fun _ _ _ => handleDisconnected_bridged event _ hHeard

theorem handleMediaActionResult_bridged (result : MediaActionResult) :
    Keeps env Bridged (fun _ => True) (handleMediaActionResult result) := by
  intro s h
  apply post_handleMediaActionResult Bridged.ending Bridged.stop h
  · intro _ _ attemptSeq outcome _ _
    apply post_handleAttemptOfferPrepared
    · exact fun _ => h
    · exact fun _ _ _ => h.same rfl rfl rfl rfl
    · exact fun _ _ _ => failAttemptSetup_bridged (h.same rfl rfl rfl rfl)
    · intro _ _ _ _ _
      apply post_requestRegistration
      · exact fun _ => trivial
      · exact fun _ _ _ _ => h.same rfl rfl rfl rfl
      · exact fun _ _ => failAttemptSetup_bridged (h.same rfl rfl rfl rfl)
  · intro _ _ _ _ _ _ _ _ _
    apply post_completeAnswer Bridged.stop h
    exact fun t _ hReached _ => (Bridged.ending s t hReached h).same rfl rfl rfl rfl
  · intro _ _ _ _ _
    apply post_connectTransfer Bridged.ending Bridged.stop
    · exact fun _ _ _ _ _ _ _ => trivial
    · intro aggregate caller bridge _ _ _ t actionId recording callId fast hReached hWired
      exact (bridged_of_connected hReached hWired h rfl rfl rfl).same rfl rfl rfl rfl
  · intro generation s h
    rw [onCall, post_focus]
    by_cases hWired : Wired s.mediaGeneration s.call
    · apply (activateCurrentBridge_wired hWired).mono
      · intro _ call hKept hOpen
        have hCovered := h hOpen
        exact ⟨⟨hCovered.fits, hCovered.reached⟩, fun _ _ _ _ => hKept⟩
      · exact fun _ _ => trivial
    · -- Without a bridge no media is to be started.
      apply (activateCurrentBridge_reshapes _ _ () s.call).mono
      · intro _ call _ hOpen
        have hCovered := h hOpen
        exact ⟨⟨hCovered.fits, hCovered.reached⟩, fun request hMem hStarts hBelow =>
          absurd (hCovered.wired request hMem hStarts hBelow) hWired⟩
      · exact fun _ _ => trivial

theorem respond_bridged (stimulus : Stimulus) :
    Keeps env Bridged (fun _ => True) (respond stimulus) := by
  have hBegin : ∀ s status, s.Bridged → RetryDue env Bridged s →
      Post (beginNextAttempt status) env s (fun _ => Bridged) fun _ => True :=
    fun s status h _ => beginNextAttempt_bridged s status h
  have hOriginate : Keeps env Bridged (fun _ => True) retryAfterOriginateFailure :=
    retryAfterOriginateFailure_keeps Bridged.ending hBegin
  cases stimulus with
  | callerEvent frame event =>
      exact handleCallerLegEvent_keeps Bridged.ending Bridged.stop
        (fun _ h => h.same rfl rfl rfl rfl) (handleDisconnected_bridged event)
  | calleeEvent frame event => exact handlePeerLegEvent_bridged frame event
  | actionFailed failure peerFailure =>
      exact handleActionFailure_keeps Bridged.ending Bridged.stop fun _ _ => hOriginate
  | actionAck ack =>
      intro s h
      apply post_handleActionAck Bridged.ending Bridged.stop h
      intro _ _ _ completed
      apply post_confirmAnswer
      · exact fun _ => h.same rfl rfl rfl rfl
      · exact fun _ _ _ => h.same rfl rfl rfl rfl
      · exact fun _ _ _ _ => connectAnswer_bridged (h.same rfl rfl rfl rfl)
  | ownedLegAck ack =>
      exact handleOwnedLegActionAck_keeps Bridged.ending Bridged.stop fun _ => hOriginate
  | mediaResult result => exact handleMediaActionResult_bridged result
  | registrationResult result =>
      intro s h
      apply post_handleAttemptRegistrationResult h
      · exact fun _ _ _ => h.same rfl rfl rfl rfl
      · intro pending _ _ _
        apply post_adoptAttempt Bridged.ending Bridged.stop
        · exact fun _ _ => trivial
        · exact fun aggregate _ _ hEntered => h.same rfl rfl rfl (Prod.ext rfl hEntered.bridges)
      · exact fun _ _ _ _ => failAttemptSetup_bridged (h.same rfl rfl rfl rfl)
  | aiAction request =>
      apply handleAiAction_keeps Bridged.ending Bridged.stop
      intro number s _ h hAnswered hLive
      apply transferToExtension_keeps Bridged.ending h hAnswered hLive
      · exact fun _ _ h _ _ => h.same rfl rfl rfl rfl
      · exact fun _ _ h _ _ _ _ => h.same rfl rfl rfl rfl
      · exact fun _ _ _ _ h => h.queue rfl
  | gatewayUnavailable => exact handleAiGatewayUnavailable_ending.keeps Bridged.ending Bridged.stop
  | shutdown => exact beginShutdown_ending.keeps Bridged.ending Bridged.stop
  | timer kind generation =>
      apply handleTimerExpiry_keeps Bridged.ending Bridged.stop
      · intro _ status
        exact waitForRetryCleanup_keeps Bridged.ending Bridged.stop
          fun _ h _ => h.same rfl rfl rfl rfl
      · exact fun _ => forceRetryAfterCleanup_keeps Bridged.ending Bridged.stop hBegin
  | removal cause => exact (finishNow_ending cause).keeps Bridged.ending Bridged.stop
  | abandoned => exact finishUnexplained_ending.keeps Bridged.ending Bridged.stop

theorem start_bridged (h : s.Bridged) : Post start env s (fun _ => Bridged) fun _ => False := by
  apply post_start_of_ending (J := Bridged) Bridged.ending Bridged.ending
  · exact fun _ _ h _ => h.bump.queue rfl
  · exact fun _ h => h
  · exact fun _ => h
  · exact fun _ => h.same rfl rfl rfl rfl

/-- A call that ends for an error is finalized. -/
theorem failed_bridged (s : Coordinator) :
    Post (beginTerminating .internalError >>= fun _ => finishUnexplained) env s
      (fun _ => Bridged) fun _ => False := by
  rw [post_bind, post_beginTerminating, finishUnexplained, post_bind, post_updateCall]
  apply beginFinishCall_total (E := fun _ => True)
  apply post_beginFinishCall
  · intro hStarted hOpen
    rw [hStarted] at hOpen
    exact Bool.noConfusion hOpen
  · exact fun _ _ _ hOpen => Bool.noConfusion hOpen

theorem create_bridged (h : system.init s) : s.Bridged := by
  obtain ⟨invitation, hCreate⟩ := h
  obtain ⟨aggregate, _, rfl⟩ := create_spec hCreate
  intro _
  refine ⟨⟨Nat.zero_le _, ?_⟩, ?_⟩
  · exact fun _ hMem => (List.not_mem_nil hMem).elim
  · exact fun _ hMem => (List.not_mem_nil hMem).elim

theorem bridged_of_reachable (h : Transition.Reachable system s) : s.Bridged := by
  apply invariant_of_handlers Bridged.ending Bridged.managed Bridged.stop
    (fun _ s _ => failed_bridged s) h
  · exact fun s hInit => create_bridged hInit
  · exact fun s env _ h => start_bridged (h.same rfl rfl rfl rfl)
  · exact fun s request h => h.erase request
  · exact fun s request h => h.same rfl rfl rfl rfl
  · exact fun s env input stimulus _ hTaken _ _ _ => respond_bridged stimulus _ hTaken

/-- Started media of the current generation becomes the active bridge. -/
theorem handleMediaActionResult_started_returns (actionId : String)
    (recordingError : Option String) (hWired : Wired s.mediaGeneration s.call) :
    Post (handleMediaActionResult (.answerMediaStarted actionId s.mediaGeneration recordingError))
      env s (fun _ t => Wired s.mediaGeneration t.call) fun _ => False := by
  have hActivated : ∀ t : Coordinator, Wired s.mediaGeneration t.call →
      Post (onCall (CallRuntime.activateCurrentBridge s.mediaGeneration env.unixTimestampMs)) env t
        (fun _ u => Wired s.mediaGeneration u.call) fun _ => False := by
    intro t hCall
    rw [onCall, post_focus]
    exact (activateCurrentBridge_wired hCall).mono (fun _ _ h => h) fun _ h => h rfl
  rw [handleMediaActionResult, post_bind, post_read, post_bind, post_get]
  simp only [ne_eq, not_true_eq_false, if_false, post_bind]
  apply post_whenSome
  · exact fun _ => hActivated s hWired
  · intro error _
    rw [post_updateCall]
    apply hActivated
    exact hWired.congr rfl rfl

end Handlers

/-- The media of an answer that was asked for in this call, was started and is of the current
generation finds its bridge, which becomes active without an error. -/
theorem started_media_finds_bridge {s : Coordinator} (hRun : Transition.Reachable system s)
    (hOpen : s.finalizationStarted = false) (env : Env) {request : MediaAction}
    {actionId : String} {generation : Nat} {recordingError : Option String}
    (hAllowed : s.admissible
      (.mediaResult request (.answerMediaStarted actionId generation recordingError)))
    (hCurrent : generation = s.mediaGeneration) (hBelow : s.mediaGeneration < u64Max) :
    (∃ bridgeId bridge, s.call.currentBridgeId = some bridgeId ∧
      s.call.aggregate.bridges.lookup bridgeId = some bridge ∧
      bridge.mediaGeneration = generation ∧ bridge.state ≠ .released) ∧
    (∀ activeAtMs, ∃ call,
      CallRuntime.activateCurrentBridge generation activeAtMs () s.call = (.ok (), call)) ∧
    ∃ t, respond (.mediaResult (.answerMediaStarted actionId generation recordingError)) env
      { s with mediaQueue := s.mediaQueue.erase request } = (.ok (), t) := by
  subst hCurrent
  obtain ⟨_, hRequest, hAnswers⟩ := hAllowed
  have hStarts : request.startsAt? = some s.mediaGeneration := by
    cases request with
    | startAnswerMedia _ generation recording _ _ =>
        simp only [MediaAction.answeredBy, Bool.and_eq_true, decide_eq_true_eq] at hAnswers
        rw [MediaAction.startsAt?, ← hAnswers.1.2]
    | _ => exact (Bool.false_ne_true hAnswers).elim
  have hWired := (bridged_of_reachable hRun hOpen).wired request hRequest hStarts hBelow
  refine ⟨hWired, fun activeAtMs => ?_, ?_⟩
  · have hActivated : Post (CallRuntime.activateCurrentBridge s.mediaGeneration activeAtMs) ()
        s.call (fun _ _ => True) fun _ => False :=
      (activateCurrentBridge_wired hWired).mono (fun _ _ _ => trivial) fun _ h => h rfl
    obtain ⟨_, call, hReturns, _⟩ := hActivated.returns
    exact ⟨call, hReturns⟩
  · have hHandled : Post (respond (.mediaResult
          (.answerMediaStarted actionId s.mediaGeneration recordingError))) env
        { s with mediaQueue := s.mediaQueue.erase request }
        (fun _ t => Wired s.mediaGeneration t.call) fun _ => False :=
      handleMediaActionResult_started_returns
        (s := { s with mediaQueue := s.mediaQueue.erase request }) actionId recordingError hWired
    obtain ⟨_, t, hReturns, _⟩ := hHandled.returns
    exact ⟨t, hReturns⟩

/-- The media worker has started the media that the answered call asked for. -/
def answerMediaStarted : Input :=
  .mediaResult (.startAnswerMedia "start-answer-media-c" 1 none "c" true)
    (.answerMediaStarted "start-answer-media-c" 1 none)

/-- The bridge of the first answer is the one between the caller and the first callee. -/
theorem started_media_finds_bridge_answered :
    ∃ s : Coordinator, s.admissible answerMediaStarted ∧ ∃ bridgeId bridge,
      s.call.currentBridgeId = some bridgeId ∧
      s.call.aggregate.bridges.lookup bridgeId = some bridge ∧ bridge.state ≠ .released := by
  obtain ⟨s, hRun, h⟩ := reachable_of_schedule (fun _ _ => true)
    (fun s => s.finalizationStarted = false ∧ s.admissible answerMediaStarted ∧
      s.mediaGeneration = 1)
    (callTo (.trunk "peer:1") [])
    (answeringSchedule ++ [(takingEnv, callerAck .answerInboundInvite "answer-c" 1)]) (by decide)
  obtain ⟨hOpen, hAllowed, hGeneration⟩ := of_decide_eq_true h
  obtain ⟨⟨bridgeId, bridge, hCurrent, hBridge, _, hState⟩, _⟩ :=
    started_media_finds_bridge hRun.reachable hOpen takingEnv hAllowed hGeneration.symm
      (by rw [hGeneration]; decide)
  exact ⟨s, hAllowed, bridgeId, bridge, hCurrent, hBridge, hState⟩

end Coordinator

end VoipSwitch
