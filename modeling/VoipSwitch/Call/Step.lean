import VoipSwitch.Call.Effect

/-! From handlers to whole transitions. An invariant of the coordinator needs to be checked
on the handler of each message only; what surrounds the handlers (settling a result,
entering and leaving the loop, handing the actor over) is dealt with here once. -/
namespace VoipSwitch

open Stateful Keyed Proc

namespace Coordinator

variable {env : Env} {s : Coordinator} {K E : Coordinator → Prop}

/-- The state in which finalization leaves the call, apart from its digit state. -/
def finished (env : Env) (s : Coordinator) : Coordinator :=
  let call := { s.call with
    dialTimerGeneration := satSucc64 s.call.dialTimerGeneration
    ringTimerGeneration := satSucc64 s.call.ringTimerGeneration
    cleanupTimerGeneration := satSucc64 s.call.cleanupTimerGeneration }
  let call := call.releaseTopology env.unixTimestampMs
  { s with
    finalizationStarted := true
    dialTimer := none
    ringTimer := none
    cleanupTimer := none
    mediaGeneration := satSucc64 s.mediaGeneration
    call := { call with media := false }
    finalSnapshot := some (.ofCall call) }

/-- Finalization happens once: it does nothing later, and it never fails. -/
theorem post_beginFinishCall {Q : Unit → Coordinator → Prop}
    (hAgain : s.finalizationStarted = true → Q () s)
    (hFirst : s.finalizationStarted = false →
      ∀ t, Quiet { s with finalizationStarted := true } t → Q () (t.finished env)) :
    Post beginFinishCall env s Q E := by
  simp only [beginFinishCall, post_bind, post_read, post_get, post_ite]
  split
  · next h => exact hAgain h
  · next h =>
      rw [Bool.not_eq_true] at h
      rw [post_modify]
      refine (abortDigitCollection_quiet _).post_of_silent fun _ t hQuiet => ?_
      have hStarted : t.finalizationStarted = true := by
        obtain ⟨_, _, _, _, _, _, rfl, _⟩ := hQuiet
        rfl
      have hFinished := hFirst h t hQuiet
      simp only [finished, ← hStarted] at hFinished
      exact hFinished

theorem beginFinishCall_total {Q : Unit → Coordinator → Prop}
    (h : Post beginFinishCall env s Q E) : Post beginFinishCall env s Q fun _ => False := by
  have hTotal : Post beginFinishCall env s (fun _ _ => True) fun _ => False :=
    post_beginFinishCall (fun _ => trivial) fun _ _ _ => trivial
  exact hTotal.resolve h

/-- What the actor's loop asks of the coordinator, apart from its digits. -/
inductive Stimulus where
  | callerEvent (frame : LegFrame) (event : CallLegEvent)
  | calleeEvent (frame : LegFrame) (event : CallLegEvent)
  | actionFailed (failure : ActionDeliveryFailed) (peerFailure : Bool)
  | actionAck (ack : CallActionAck)
  | ownedLegAck (ack : CallActionAck)
  | mediaResult (result : MediaActionResult)
  | registrationResult (result : AttemptRegistrationResult)
  | aiAction (request : ActionRequested)
  | gatewayUnavailable
  | shutdown
  | timer (kind : CallTimerKind) (generation : Nat)
  /-- The call is removed by force. -/
  | removal (cause : HangupCause)
  /-- The mailboxes of the actor are gone. -/
  | abandoned

def respond : Stimulus → Handler Unit
  | .callerEvent frame event => handleCallerLegEvent frame event
  | .calleeEvent frame event => handlePeerLegEvent frame event
  | .actionFailed failure peerFailure => handleActionFailure failure peerFailure
  | .actionAck ack => handleActionAck ack
  | .ownedLegAck ack => handleOwnedLegActionAck ack
  | .mediaResult result => handleMediaActionResult result
  | .registrationResult result => handleAttemptRegistrationResult result
  | .aiAction request => handleAiAction request
  | .gatewayUnavailable => handleAiGatewayUnavailable
  | .shutdown => beginShutdown
  | .timer kind generation => handleTimerExpiry kind generation
  | .removal cause => finishNow cause
  | .abandoned => finishUnexplained

/-- What a control message asks for while the call is not being finalized. -/
def controlStimulus (env : Env) (s : Coordinator) (source : ControlSource) :
    ControlMessage → Option Stimulus
  | .legEvent frame event =>
    if s.ownedSessionId = s.call.callerSessionId then some (.callerEvent frame event)
    else some (.calleeEvent frame event)
  | .peerLegEvent frame event => some (.calleeEvent frame event)
  | .actionDeliveryFailed failure => some (.actionFailed failure (s.fromOwnedCallee source))
  | .peerActionFailed failure => some (.actionFailed failure true)
  | .callActionAck ack =>
    if s.fromOwnedCallee source then some (.ownedLegAck ack) else some (.actionAck ack)
  | .mediaActionResult result => some (.mediaResult result)
  | .attemptRegistrationResult result => some (.registrationResult result)
  | .aiActionRequested request => some (.aiAction request)
  | .aiGatewayUnavailable => some .gatewayUnavailable
  | .shutdown => some .shutdown
  | .forceCleanup => some (.removal (if env.shuttingDown then .systemShutdown else .internalError))
  | .mediaDtmfObserved _ | .sipDtmfReceived _ | .peerDigitEvent _ | .dtmfInfoSendResult _
  | .prepareCoordinatorHandoff _ | .prepareCoordinatorTarget _ | .callFinalized => none

/-- What an input asks for, if it concerns more than the digits of the call. -/
def stimulus (env : Env) (s : Coordinator) : Input → Option Stimulus
  | .enter => if env.shuttingDown then some .shutdown else none
  | .control source message =>
    if s.finalizationStarted then none else s.controlStimulus env source message
  | .mediaResult _ result => if s.finalizationStarted then none else some (.mediaResult result)
  | .registrationResult _ result =>
    if s.finalizationStarted then none else some (.registrationResult result)
  | .timer kind => (s.timerSlot kind).map fun slot => .timer kind slot.generation
  | .shutdownSignal => some .shutdown
  | .mailboxClosed => if s.finalized then none else some .abandoned
  | .collectorTimer | .event _ | .installHandoff _ _ | .rollbackHandoff => none

/-- The state once an input was taken from the queue it came through. -/
def taken (env : Env) (s : Coordinator) : Input → Coordinator
  | .enter => { s with running := true, actorStarted := s.actorStarted || env.shuttingDown }
  | .mediaResult request _ => { s with mediaQueue := s.mediaQueue.erase request }
  | .registrationResult request _ => { s with attemptQueue := s.attemptQueue.erase request }
  | .mailboxClosed => { s with running := false, stopped := true }
  | _ => s

/-- The stimuli that do not come with an entry of a queue. -/
def Stimulus.isPlain : Stimulus → Bool
  | .mediaResult _ | .registrationResult _ | .shutdown | .abandoned => false
  | _ => true

theorem taken_of_stimulus {input : Input} {stimulus : Stimulus}
    (h : s.stimulus env input = some stimulus) (hPlain : stimulus.isPlain = true) :
    s.taken env input = s := by
  cases input with
  | enter | mediaResult _ _ | registrationResult _ _ | mailboxClosed =>
      simp only [Coordinator.stimulus] at h
      split at h
      all_goals
        first
        | simp only [reduceCtorEq] at h
        | (obtain rfl := Option.some.inj h
           simp only [Stimulus.isPlain, Bool.false_eq_true] at hPlain)
  | _ => rfl

theorem stimulus_timer {input : Input} {kind : CallTimerKind} {generation : Nat}
    (h : s.stimulus env input = some (.timer kind generation)) :
    input = .timer kind ∧ ∃ slot, s.timerSlot kind = some slot ∧ generation = slot.generation := by
  cases input with
  | timer armed =>
      simp only [stimulus, Option.map_eq_some_iff, Stimulus.timer.injEq] at h
      obtain ⟨slot, hSlot, rfl, rfl⟩ := h
      exact ⟨rfl, slot, hSlot, rfl⟩
  | control source message =>
      cases message <;> simp [stimulus, controlStimulus] at h <;> split at h <;> simp at h
  | _ => simp [stimulus] at h

/-- A result of the media worker answers a request that was in its queue. -/
theorem stimulus_mediaResult {input : Input} {result : MediaActionResult}
    (h : s.stimulus env input = some (.mediaResult result)) (hAllowed : s.admissible input) :
    ∃ request, input = .mediaResult request result ∧ request ∈ s.mediaQueue ∧
      request.answeredBy result = true := by
  cases input with
  | mediaResult request answer =>
      simp only [stimulus, Option.ite_none_left_eq_some, Option.some.injEq,
        Stimulus.mediaResult.injEq] at h
      obtain ⟨_, rfl⟩ := h
      exact ⟨request, rfl, hAllowed.2⟩
  | control source message =>
      cases message with
      | mediaActionResult _ => exact (Bool.false_ne_true hAllowed.2).elim
      | _ => simp [stimulus, controlStimulus] at h <;> split at h <;> simp at h
  | _ => simp [stimulus] at h

/-- A result of the registrar answers a registration that was in its queue. -/
theorem stimulus_registrationResult {input : Input} {result : AttemptRegistrationResult}
    (h : s.stimulus env input = some (.registrationResult result)) (hAllowed : s.admissible input) :
    ∃ request, input = .registrationResult request result ∧ request ∈ s.attemptQueue ∧
      request.answeredBy result = true := by
  cases input with
  | registrationResult request answer =>
      simp only [stimulus, Option.ite_none_left_eq_some, Option.some.injEq,
        Stimulus.registrationResult.injEq] at h
      obtain ⟨_, rfl⟩ := h
      exact ⟨request, rfl, hAllowed.2⟩
  | control source message =>
      cases message with
      | attemptRegistrationResult _ => exact (Bool.false_ne_true hAllowed.2).elim
      | _ => simp [stimulus, controlStimulus] at h <;> split at h <;> simp at h
  | _ => simp [stimulus] at h

/-- `t` differs from `s` only in what manages the actor: its loop, its owner and the legs'
own bookkeeping. -/
def Managed (s t : Coordinator) : Prop :=
  ∃ running stopped handedOver finalized actorStarted initialActions owned deduper source
      generation completed coordinator coordinatorGeneration,
    t = { s with
      running := running, stopped := stopped, handedOver := handedOver
      finalized := finalized, actorStarted := actorStarted, initialActions := initialActions
      ownedSessionId := owned, legEventDeduper := deduper, dtmf := { s.dtmf with source := source }
      ownedActionGeneration := generation, ownedCompletedActions := completed
      call := { s.call with
        aggregate := { s.call.aggregate with
          coordinator := coordinator, coordinatorGeneration := coordinatorGeneration } } } ∧
    (s.actorStarted = true → actorStarted = true) ∧
    (initialActions = s.initialActions ∨ initialActions = [])

theorem Managed.flags (running stopped finalized actorStarted : Bool)
    (handedOver : Option CoordinatorHandoffToken)
    (hStarted : s.actorStarted = true → actorStarted = true) :
    Managed s { s with
      running := running, stopped := stopped, finalized := finalized
      actorStarted := actorStarted, handedOver := handedOver } :=
  ⟨running, stopped, handedOver, finalized, actorStarted, s.initialActions, s.ownedSessionId,
    s.legEventDeduper, s.dtmf.source, s.ownedActionGeneration, s.ownedCompletedActions,
    s.call.aggregate.coordinator, s.call.aggregate.coordinatorGeneration, rfl, hStarted, .inl rfl⟩

theorem dispatch_eq_respond {source : ControlSource} {message : ControlMessage}
    {stimulus : Stimulus} (hAsked : s.controlStimulus env source message = some stimulus)
    (hNotForced : message ≠ .forceCleanup) : dispatch source s message = respond stimulus := by
  cases message with
  | forceCleanup => exact (hNotForced rfl).elim
  | legEvent frame event | callActionAck ack =>
      simp only [controlStimulus] at hAsked
      simp only [dispatch]
      split at hAsked
      all_goals
        obtain rfl := Option.some.inj hAsked
        simp only [*, if_true, respond]
        try rfl
  | mediaDtmfObserved _ | sipDtmfReceived _ | peerDigitEvent _ | dtmfInfoSendResult _
  | prepareCoordinatorHandoff _ | prepareCoordinatorTarget _ | callFinalized =>
      simp only [controlStimulus, reduceCtorEq] at hAsked
  | _ =>
      obtain rfl := Option.some.inj hAsked
      rfl

/-- What is not asked of the coordinator concerns digits at most. -/
theorem dispatch_quiet {source : ControlSource} {message : ControlMessage}
    (hAsked : s.controlStimulus env source message = none) :
    IsQuiet refuses (dispatch source s message) := by
  cases message with
  | mediaDtmfObserved event | sipDtmfReceived event => exact handleSourceDigit_quiet event
  | peerDigitEvent event => exact handlePeerDigit_quiet event
  | dtmfInfoSendResult result => exact handleDtmfInfoSendResult_quiet result
  | prepareCoordinatorHandoff _ | prepareCoordinatorTarget _ | callFinalized => exact .pure _
  | legEvent frame event | callActionAck ack =>
      simp only [controlStimulus] at hAsked
      split at hAsked <;> simp only [reduceCtorEq] at hAsked
  | _ => simp only [controlStimulus, reduceCtorEq] at hAsked

theorem finishNow_total {cause : HangupCause} {Q : Unit → Coordinator → Prop}
    (h : Post (finishNow cause) env s Q E) : Post (finishNow cause) env s Q fun _ => False := by
  rw [finishNow, post_bind, post_beginTerminating] at h ⊢
  exact beginFinishCall_total h

theorem finishUnexplained_total {Q : Unit → Coordinator → Prop}
    (h : Post finishUnexplained env s Q E) : Post finishUnexplained env s Q fun _ => False := by
  rw [finishUnexplained, post_bind, post_updateCall] at h ⊢
  exact beginFinishCall_total h

theorem finishNow_starts {cause : HangupCause} :
    Post (finishNow cause) env s (fun _ t => t.finalizationStarted = true) E := by
  rw [finishNow, post_bind, post_beginTerminating]
  exact post_beginFinishCall (fun hStarted => hStarted) fun _ _ _ => rfl

section Start

variable {J : Coordinator → Prop}
  (hSubmit : ∀ t sessionId action, action ∈ s.initialActions → J t →
    J { t with journal := .submitted (t.submission sessionId action.actionKind action.actionId
      action.body) :: t.journal })
  (hRefused : ∀ t, J t → Post (do
    beginTerminating .internalError
    updateCall fun call => { call with hangupCause := some .internalError }
    beginFinishCall) env t (fun _ => J) fun _ => False)

include hSubmit hRefused in
theorem post_submitInitialActions (actions : List InitialCallAction)
    (hActions : ∀ action ∈ actions, action ∈ s.initialActions) {t : Coordinator} (hJ : J t) :
    Post (submitInitialActions actions) env t (fun _ => J) fun _ => False := by
  induction actions generalizing t with
  | nil => exact hJ
  | cons action rest ih =>
      rw [submitInitialActions, post_bind]
      refine post_attempt_of ?_
      have hSent := hSubmit t (if action.callee then t.call.calleeSessionId
        else t.call.callerSessionId) action (hActions action (.head _)) hJ
      have hRest := ih (fun action hMem => hActions action (.tail _ hMem)) hSent
      split
      · next hCallee =>
          simp only [hCallee, if_true] at hRest
          exact post_submitCallee hRest fun _ => hRefused t hJ
      · next hCaller =>
          simp only [hCaller] at hRest
          exact post_submitCaller hRest fun _ => hRefused t hJ

include hSubmit hRefused in
/-- Setting a call up. `J` holds until the answer of an AI agent is asked for, and `K` from
then on. -/
theorem post_start (hAgain : s.actorStarted = true → K s)
    (hStarted : s.actorStarted = false → J { s with actorStarted := true, initialActions := [] })
    (hBump : ∀ t, J t → t.finalizationStarted = false →
      J { t with mediaGeneration := satSucc64 t.mediaGeneration })
    (hPrepare : ∀ t actionId, J t → t.finalizationStarted = false →
      K { t with
        mediaGeneration := satSucc64 t.mediaGeneration
        mediaQueue := t.mediaQueue ++ [.prepareSdp actionId (satSucc64 t.mediaGeneration)
          .aiAgentAnswer t.callerOffer none] })
    (hNow : ∀ t, J t → Post (finishNow .internalError) env t (fun _ => K) fun _ => False)
    (hNone : ∀ t, J t → K t)
    (hDial : ∀ t, K t → t.finalizationStarted = false →
      Post (startTimer .dial) env t (fun _ => K) fun _ => False) :
    Post start env s (fun _ => K) fun _ => False := by
  rw [start, post_bind, post_get, post_ite]
  split
  · next h => exact hAgain h
  · next h =>
      rw [Bool.not_eq_true] at h
      rw [post_bind, post_modify]
      refine (post_submitInitialActions hSubmit hRefused _ (fun _ h => h) (hStarted h)).bind
        fun _ t hJ => ?_
      have hAgent : Post prepareAiAgentAnswer env t (fun _ => K) fun _ => False := by
        simp only [prepareAiAgentAnswer, post_bind, post_get, post_ite]
        split
        · next hLive =>
            rw [Bool.not_eq_true] at hLive
            rw [post_bumpMediaGeneration]
            refine post_attempt_of (post_submitMedia ?_ fun error => ?_)
            · exact hPrepare t _ hJ hLive.1
            · exact hNow _ (hBump t hJ hLive.1)
        · exact hNone t hJ
      refine hAgent.bind fun _ t hK => ?_
      rw [post_bind, post_get, post_ite]
      split
      · exact hK
      · next hLive => exact hDial t hK (Bool.not_eq_true _ ▸ hLive)

end Start

/-- The properties `K` between messages and `E` after an early stop that survive the loop
around the handlers. -/
structure Looping (env : Env) (K E : Coordinator → Prop) : Prop where
  quiet : ∀ s t, Quiet s t → K s → K t
  /-- The loop's own bookkeeping. -/
  flags : ∀ (s : Coordinator) (running stopped finalized actorStarted : Bool)
    (handedOver : Option CoordinatorHandoffToken),
    (s.actorStarted = true → actorStarted = true) → K s → K { s with
      running := running, stopped := stopped, finalized := finalized
      actorStarted := actorStarted, handedOver := handedOver }
  /-- A digit could not be passed on. -/
  refused : ∀ s, K s → refuses env → E s
  /-- A call that is left by its loop has a cause. -/
  explained : ∀ s, K s → s.finalizationStarted = true →
    K { s with call := { s.call with
      hangupCause := getOrInsert s.call.hangupCause .internalError } }
  finish : ∀ s, K s → s.call.callerTerminated = true → s.call.calleeTerminated = true →
    Post beginFinishCall env s (fun _ => K) fun _ => False
  failed : ∀ s, E s → Post (beginTerminating .internalError >>= fun _ => finishUnexplained) env s
    (fun _ => K) fun _ => False
  start : ∀ s, K s → Post start env s (fun _ => K) fun _ => False

/-- Properties that survive the installation on another leg as well. -/
structure Settles (env : Env) (K E : Coordinator → Prop) : Prop extends Looping env K E where
  managed : ∀ s t, Managed s t → K s → K t

namespace Looping

variable (hLoop : Looping env K E)
include hLoop

theorem post_process {m : Handler Unit} (hm : Post m env s (fun _ => K) E) :
    Post (process m) env s (fun goesOn t => K t ∧ (goesOn = false → t.finalized = true))
      fun _ => False := by
  rw [process, post_bind]
  refine post_attempt_of (hm.mono (fun _ t hK => ?_) fun t hE error => ?_)
  · simp only [completeProcessing, post_bind, post_get, post_ite]
    split
    · next hFinalized => exact ⟨hK, fun _ => hFinalized⟩
    · split
      · next hBoth =>
          exact (hLoop.finish t hK hBoth.1 hBoth.2).mono
            (fun _ _ h => ⟨h, fun hEnds => by cases hEnds⟩)
            fun _ h => h
      · exact ⟨hK, fun hEnds => by cases hEnds⟩
  · simp only [completeProcessing]
    have hFailed := hLoop.failed t hE
    simp only [post_bind] at hFailed ⊢
    exact hFailed.mono (fun _ _ h =>
      h.mono (fun _ _ h => ⟨h, fun hEnds => by cases hEnds⟩) fun _ h => h) fun _ h => h

/-- A loop that is left after the finalizer reported has nothing more to do. -/
theorem post_continueIf {goesOn : Bool} (hK : K s)
    (hDone : goesOn = false → s.finalized = true ∨ s.finalizationStarted = true) :
    Post (continueIf goesOn) env s (fun _ => K) fun _ => False := by
  rw [continueIf, post_ite]
  split
  · exact hK
  · next hLeaves =>
      rw [Bool.not_eq_true] at hLeaves
      have hStopped := hLoop.flags _ false true s.finalized s.actorStarted s.handedOver id hK
      simp only [leave, post_bind, post_get, post_modify, post_ite]
      split
      · exact hStopped
      · next hRunning =>
          have hStarted := (hDone hLeaves).resolve_left hRunning
          simp only [finishUnexplained, post_bind, post_updateCall]
          refine post_beginFinishCall (fun _ => ?_) fun hNot => ?_
          · exact hLoop.explained _ hStopped hStarted
          · exact (Bool.false_ne_true (hNot.symm.trans hStarted)).elim

theorem post_processStep {m : Handler Unit} (hm : Post m env s (fun _ => K) E) :
    Post (processStep m) env s (fun _ => K) fun _ => False := by
  rw [processStep]
  exact (hLoop.post_process hm).bind fun _ _ h =>
    hLoop.post_continueIf h.1 fun hLeaves => .inl (h.2 hLeaves)

theorem post_handleControl {source : ControlSource} {message : ControlMessage} (hK : K s)
    (hRespond : ∀ stimulus, s.stimulus env (.control source message) = some stimulus →
      Post (respond stimulus) env s (fun _ => K) E) :
    Post (handleControl source message) env s
      (fun goesOn t => K t ∧ (goesOn = false → t.finalized = true ∨ t.finalizationStarted = true))
      fun _ => False := by
  simp only [handleControl, post_bind, post_read, post_get]
  split
  · next hStarted => exact ⟨hK, fun _ => .inr hStarted⟩
  · exact ⟨hLoop.flags _ s.running s.stopped true s.actorStarted s.handedOver id hK,
      fun _ => .inl rfl⟩
  · exact ⟨hK, fun hEnds => by cases hEnds⟩
  · next _ _ hLive =>
      have hNow := hRespond (.removal _) (by simp only [stimulus, hLive, controlStimulus]; rfl)
      have hBoth := (finishNow_total hNow).and (finishNow_starts (E := E))
      exact (hBoth.mono (fun _ _ h => h) fun _ h => h.1).bind fun _ _ h => ⟨h.1, fun _ => .inr h.2⟩
  · next message _ _ hLive _ hNotForced =>
      refine (hLoop.post_process ?_).mono (fun _ _ h => ⟨h.1, fun hEnds => .inl (h.2 hEnds)⟩)
        fun _ h => h
      cases hAsked : s.controlStimulus env source message with
      | none =>
          exact (dispatch_quiet hAsked).post (fun _ t hQuiet => hLoop.quiet s t hQuiet hK)
            fun hRefuses t hQuiet => hLoop.refused t (hLoop.quiet s t hQuiet hK) hRefuses
      | some stimulus =>
          rw [dispatch_eq_respond hAsked hNotForced]
          exact hRespond _ (by simp [Coordinator.stimulus, hLive, hAsked])

/-- A message of a control mailbox keeps `K` if the handler it asks for does. -/
theorem post_receive {source : ControlSource} {message : ControlMessage} (hK : K s)
    (hRespond : ∀ stimulus, s.stimulus env (.control source message) = some stimulus →
      Post (respond stimulus) env s (fun _ => K) E) :
    Post (receive source message) env s (fun _ => K) fun _ => False := by
  have hHandled : Post (handleControl source message >>= continueIf) env s (fun _ => K)
      fun _ => False :=
    (hLoop.post_handleControl hK hRespond).bind fun _ _ h => hLoop.post_continueIf h.1 h.2
  simp only [receive, post_bind, post_read, post_get]
  split
  · rw [post_ite]
    split
    · exact hLoop.flags _ false s.stopped s.finalized s.actorStarted _ id hK
    · exact hK
  · exact hHandled

theorem post_enter (hK : K (s.taken env .enter))
    (hRespond : ∀ stimulus, s.stimulus env .enter = some stimulus →
      Post (respond stimulus) env (s.taken env .enter) (fun _ => K) E) :
    Post enter env s (fun _ => K) fun _ => False := by
  simp only [enter, post_bind, post_read, post_modify, post_when]
  simp only [taken] at hK hRespond
  refine ⟨fun hShuttingDown => ?_, fun hOpen => ?_⟩
  · simp only [hShuttingDown, Bool.or_true] at hRespond
    simp only [enterShuttingDown, post_bind, post_modify]
    have hShutdown := hRespond .shutdown (by simp only [stimulus, hShuttingDown, if_true])
    exact (hLoop.post_process hShutdown).mono (fun _ t h => hLoop.start t h.1) fun _ h => h
  · simp only [hOpen, Bool.or_false] at hK
    exact hLoop.start _ hK

/-- One transition keeps `K` if the handler that the input asks for does. -/
theorem step {input : Input} (hK : K (s.taken env input))
    (hInstall : ∀ target committed, input = .installHandoff target committed →
      Post (installOn target committed) env s (fun _ => K) fun _ => False)
    (hRespond : ∀ stimulus, s.stimulus env input = some stimulus →
      Post (respond stimulus) env (s.taken env input) (fun _ => K) E) :
    K (Coordinator.step env input s) := by
  refine Post.final
    (Post.mono (Q := fun _ => K) (E := fun _ => False) ?_ (fun _ _ h => h) (fun _ h => h.elim))
  cases input with
  | enter => exact hLoop.post_enter hK hRespond
  | control source message => exact hLoop.post_receive hK hRespond
  | mediaResult request result =>
      rw [handle, post_bind, post_modify]
      exact hLoop.post_receive hK hRespond
  | registrationResult request result =>
      rw [handle, post_bind, post_modify]
      exact hLoop.post_receive hK hRespond
  | timer kind =>
      simp only [handle, post_bind, post_get]
      cases hSlot : s.timerSlot kind with
      | none => exact hK
      | some slot =>
          exact hLoop.post_processStep (hRespond (.timer kind slot.generation)
            (by simp only [stimulus, hSlot, Option.map_some]))
  | collectorTimer =>
      simp only [handle, post_bind, post_get]
      split
      · exact hK
      · exact hLoop.post_processStep ((handleDigitCollectorTimeout_quiet _ _ _).post_of_silent
          fun _ t hQuiet => hLoop.quiet s t hQuiet hK)
  | event message =>
      exact (handleEventMessage_quiet message).post_of_silent
        fun _ t hQuiet => hLoop.quiet s t hQuiet hK
  | shutdownSignal => exact hLoop.post_processStep (hRespond .shutdown rfl)
  | mailboxClosed =>
      simp only [handle, leave, post_bind, post_get, post_modify, post_ite]
      split
      · exact hK
      · next hRunning =>
          exact finishUnexplained_total
            (hRespond .abandoned (by simp only [stimulus, hRunning]; rfl))
  | installHandoff target committed => exact hInstall target committed rfl
  | rollbackHandoff =>
      exact hLoop.flags _ s.running s.stopped s.finalized s.actorStarted none id hK

end Looping

namespace Settles

variable (hSettles : Settles env K E)
include hSettles

theorem post_installOn {target : CalleeActorView} {committed : CoordinatorIdentity} (hK : K s) :
    Post (installOn target committed) env s (fun _ => K) fun _ => False := by
  simp only [installOn, post_bind, post_get]
  split
  · exact hK
  · next token _ =>
      have hTaken :=
        hSettles.toLooping.flags _ s.running s.stopped s.finalized s.actorStarted none id hK
      simp only [post_bind, post_modify, post_ite]
      split
      · exact hTaken
      · refine post_attempt_of ?_
        simp only [onCall, CallRuntime.onAggregate, post_focus]
        refine CallAggregate.handoffCoordinator_post.mono (fun generation aggregate h => ?_)
          fun aggregate h error => ?_
        · obtain ⟨coordinator, coordinatorGeneration, rfl⟩ := h
          rw [post_ite, post_modify]
          split
          · exact hSettles.managed s _ ⟨s.running, s.stopped, none, s.finalized, s.actorStarted,
              s.initialActions, target.session.id, target.legEventDeduper, target.dtmfSource,
              target.actionGeneration, target.completedActions, coordinator,
              coordinatorGeneration, rfl, id, .inl rfl⟩ hK
          · exact hSettles.managed s _ ⟨s.running, s.stopped, none, s.finalized, s.actorStarted,
              s.initialActions, s.ownedSessionId, s.legEventDeduper, s.dtmf.source,
              s.ownedActionGeneration, s.ownedCompletedActions, coordinator,
              coordinatorGeneration, rfl, id, .inl rfl⟩ hK
        · subst h
          exact hTaken

/-- One transition keeps `K` if the handler that the input asks for does. -/
theorem step {input : Input} (hK : K (s.taken env input))
    (hRespond : ∀ stimulus, s.stimulus env input = some stimulus →
      Post (respond stimulus) env (s.taken env input) (fun _ => K) E) :
    K (Coordinator.step env input s) := by
  apply hSettles.toLooping.step hK _ hRespond
  rintro target committed rfl
  exact hSettles.post_installOn hK

end Settles

/-- The runtime that an invitation describes, with some aggregate. -/
def Invitation.runtime (invitation : Invitation) (aggregate : CallAggregate) : CallRuntime :=
  .base invitation.callId invitation.callerSessionId (calleeSessionIdOf invitation.callId 1)
    invitation.callerAdapterLegId invitation.config invitation.startedAtMs aggregate

/-- The only attempt of a new call is that of its first candidate. -/
def Invitation.FirstAttempt (invitation : Invitation) (aggregate : CallAggregate) : Prop :=
  aggregate.id = invitation.callId ∧ aggregate.owner = (invitation.callerSessionId, 1) ∧
    aggregate.LegsFiled ∧
      ∃ target, invitation.config.first.outboundTarget.calleeTarget = .ok target ∧
      ∀ id, aggregate.calleeAttempts.lookup id =
        if attemptIdOf 1 = id then
          some { attemptId := attemptIdOf 1, sessionId := calleeSessionIdOf invitation.callId 1
                 target, state := .dialing, failureCause := none }
        else none

theorem new_spec {invitation : Invitation} {call : CallRuntime}
    (h : CallRuntime.new invitation.callId invitation.callerSessionId
      (calleeSessionIdOf invitation.callId 1) invitation.callerAdapterLegId invitation.config
      invitation.startedAtMs = .ok call) :
    ∃ aggregate, call = invitation.runtime aggregate ∧ invitation.FirstAttempt aggregate := by
  simp only [CallRuntime.new] at h
  split at h
  · cases h
  · cases h
  · next callee aggregate hCallee hAggregate =>
      have hEmpty : aggregate.calleeAttempts = [] ∧ aggregate.id = invitation.callId ∧
          aggregate.owner = (invitation.callerSessionId, 1) ∧ aggregate.LegsFiled := by
        simp only [CallAggregate.new, CallRuntime.callerSession, ne_eq, not_true_eq_false,
          if_false, Except.ok.injEq] at hAggregate
        rw [← hAggregate]
        refine ⟨rfl, rfl, rfl, OrdMap.Ascending.nil.insert _ _, ?_⟩
        intro id leg hLookup
        rw [OrdMap.lookup_insert, OrdMap.lookup_nil] at hLookup
        split at hLookup
        · next hSame =>
            rw [← hSame, ← Option.some.inj hLookup]
            rfl
        · cases hLookup
      have hId : callee.id = calleeSessionIdOf invitation.callId 1 := by
        simp only [CallRuntime.calleeSession] at hCallee
        split at hCallee
        · cases hCallee
        · rw [← Except.ok.inj hCallee]
      have hEntered : Post (CallRuntime.enterAttempt callee (attemptIdOf 1)
          invitation.config.first.outboundTarget) () (invitation.runtime aggregate)
          (fun _ next => ∃ aggregate, next = invitation.runtime aggregate ∧
            invitation.FirstAttempt aggregate) fun _ => True := by
        refine post_enterAttempt (fun next target hTarget hNext => ?_) fun _ _ => trivial
        refine ⟨next, rfl, hNext.id.trans hEmpty.2.1, hNext.owner.trans hEmpty.2.2.1,
          hNext.legs hEmpty.2.2.2, target, hTarget, fun id => ?_⟩
        rw [hNext.lookup, hId]
        show (if attemptIdOf 1 = id then _ else aggregate.calleeAttempts.lookup id) = _
        rw [hEmpty.1, OrdMap.lookup_nil]
      rw [Post] at hEntered
      split at h
      · next hRun =>
          obtain rfl := Except.ok.inj h
          rw [Invitation.runtime, hRun] at hEntered
          exact hEntered
      · cases h

/-- A new call holds what its invitation brought and nothing else. -/
theorem create_spec {invitation : Invitation} (h : create invitation = .ok s) :
    ∃ aggregate, invitation.FirstAttempt aggregate ∧ s =
      { call := invitation.runtime aggregate
        initialActions := initialActionsFor invitation.config invitation.callId
          invitation.callerSessionId invitation.callerAdapterLegId invitation.calleeOffer
        remainingCandidates := invitation.config.candidates.tail
        callerOffer := invitation.sdpOffer
        routeDeadline := invitation.createdAt + invitation.config.timeouts.routeBudget
        ownedSessionId := invitation.callerSessionId } := by
  rw [create] at h
  split at h
  · cases h
  · next call hCall =>
      obtain rfl := Except.ok.inj h
      obtain ⟨aggregate, rfl, hFirst⟩ := new_spec hCall
      exact ⟨aggregate, hFirst, rfl⟩

section Runs

instance decidableAdmissible (s : Coordinator) (input : Input) : Decidable (s.admissible input) :=
  match input with
  | .enter | .control _ _ | .mediaResult _ _ | .registrationResult _ _ | .timer _
  | .collectorTimer => inferInstanceAs (Decidable (_ ∧ _))
  | .event _ | .shutdownSignal | .mailboxClosed | .installHandoff _ _ | .rollbackHandoff =>
    inferInstanceAs (Decidable (_ = true))

/-- The state that a schedule leads a new call to, if every step of it meets `C`. -/
def schedule (C : Coordinator → Env × Input → Bool) (invitation : Invitation)
    (labels : List (Env × Input)) : Option Coordinator :=
  match create invitation with
  | .error _ => none
  | .ok s => Transition.follow (fun s label => s.admissible label.2 && C s label)
    (fun s label => step label.1 label.2 s) labels s

theorem reachable_of_schedule (C : Coordinator → Env × Input → Bool) (P : Coordinator → Bool)
    (invitation : Invitation) (labels : List (Env × Input))
    (h : (schedule C invitation labels).any P = true) :
    ∃ s, Transition.ReachableWithin system (fun s label => C s label = true) s ∧ P s = true := by
  rw [Option.any_eq_true] at h
  obtain ⟨t, hRun, hP⟩ := h
  rw [schedule] at hRun
  split at hRun
  · cases hRun
  · next s hCreate =>
      refine ⟨t, ⟨s, ⟨invitation, hCreate⟩, ?_⟩, hP⟩
      refine Transition.follow_runsWithin (fun s label hAllowed => ?_) hRun
      simp only [Bool.and_eq_true, decide_eq_true_eq] at hAllowed
      exact ⟨hAllowed.2, hAllowed.1, rfl⟩

/-- An environment that takes every request. -/
def takingEnv : Env where
  unixTimestampMs := 1000
  instant _ := 0
  shuttingDown := false
  adapter _ := .sent
  media _ := .sent
  registrar := .sent
  eventMailbox := .sent
  aiJobs := none
  payloadTypes _ := [0]
  domain := none
  registrations := []
  registrationsReady := false
  handoffAwaited := false

/-- A call to the given candidates. -/
def callTo (first : OutboundTarget) (others : List OutboundTarget) : Invitation where
  config :=
    { domainId := "d"
      numbers := { originalCaller := "100", originalCallee := "200", signalingCaller := "100"
                   signalingCallee := "200" }
      inbound := {}
      outbound := {}
      candidates := (first :: others).map fun target => { outboundTarget := target }
      candidates_ne_nil := by simp
      timeouts := {}
      recordingDir := "rec" }
  callId := "c"
  callerAdapterLegId := "leg"
  sdpOffer := "offer"
  calleeOffer := "callee-offer"
  startedAtMs := 1000
  createdAt := 0

/-- The media worker prepared the SDP it was asked for. -/
def sdpPrepared (actionId : String) (generation : Nat) (purpose : PrepareSdpPurpose)
    (sdp : SdpBody) (routeTarget : Option String) (outcome : Except String SdpBody) : Input :=
  .mediaResult (.prepareSdp actionId generation purpose sdp routeTarget)
    (.sdpPrepared actionId generation purpose outcome)

/-- The adapter took an action of the caller's leg. -/
def callerAck (kind : ActionKind) (actionId : String) (generation : Nat) : Input :=
  .control .coordinator (.callActionAck
    { callId := "c", sessionId := "session-c-caller", actionKind := kind, actionId, generation
      status := .accepted, result := .null })

/-- An event of the first callee. -/
def calleeEvent (frame : LegFrame) (legEventSeq : Nat) (statusCode : Option Nat)
    (sdp : Option SdpBody) : Input :=
  .control .coordinator (.peerLegEvent frame
    { callId := some "c", sessionId := some "session-c-callee-attempt-1"
      adapterCallLegId := "leg-1", legEventSeq, statusCode, sdp, reason := none })

end Runs

end Coordinator

end VoipSwitch
