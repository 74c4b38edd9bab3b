import VoipSwitch.Call.Moves
import VoipSwitch.Call.Spent

/-! From the rules of the handlers to the states that a call can reach. A call that was not
entered yet is as it was created, so the handlers may count on a call whose actor has started. -/
namespace VoipSwitch

open Stateful Keyed Proc

namespace Coordinator

/-- Setting a call up. `J` holds until the answer of an AI agent is asked for. -/
theorem post_start_of_ending {env : Env} {s : Coordinator} {J P : Coordinator → Prop}
    (hEnding : ∀ s t, Ending s t → P s → P t) (hSetup : ∀ s t, Ending s t → J s → J t)
    (hPrepare : ∀ s actionId, J s → s.finalizationStarted = false →
      P { s with
        mediaGeneration := satSucc64 s.mediaGeneration
        mediaQueue := s.mediaQueue ++ [.prepareSdp actionId (satSucc64 s.mediaGeneration)
          .aiAgentAnswer s.callerOffer none] })
    (hNone : ∀ s, J s → P s) (hAgain : s.actorStarted = true → P s)
    (hStarted : s.actorStarted = false →
      J { s with actorStarted := true, initialActions := [] }) :
    Post start env s (fun _ => P) fun _ => False := by
  apply post_start (J := J) _ _ hAgain hStarted
  · exact fun t ht _ => hSetup t _ (.bump t) ht
  · exact hPrepare
  · intro t ht
    exact finishNow_total ((finishNow_ending _).keeps_both hEnding t (hNone t ht))
  · exact hNone
  · intro t ht _
    rw [post_startDial]
    exact hEnding t _ (.minor rfl) ht
  · exact fun t _ _ _ ht => hSetup t _ (.submit _) ht
  · intro t ht
    have hEnd : IsEnding (do
        beginTerminating .internalError
        updateCall fun call => { call with hangupCause := some .internalError }
        beginFinishCall) :=
      .bind (beginTerminating_ending _) fun _ =>
        .bind (.updateCall (fun _ => rfl) (fun _ => rfl) fun _ => rfl) fun _ =>
          beginFinishCall_ending
    have hKept : Post _ env t (fun _ => J) J := hEnd.keeps_both hSetup t ht
    rw [post_bind, post_beginTerminating, post_bind, post_updateCall] at hKept ⊢
    exact beginFinishCall_total hKept

/-- What is left of `P` after an early stop is enough for a call that ends, and so `P` holds
again once the call has been ended for the error. -/
theorem failed_of_ending {env : Env} {P E : Coordinator → Prop}
    (hEnding : ∀ s t, Ending s t → P s → P t) (hStopped : ∀ s t, Ending s t → E s → E t)
    (hEnded : ∀ s, E s → s.call.isTerminating = true → P s) (s : Coordinator) (h : E s) :
    Post (beginTerminating .internalError >>= fun _ => finishUnexplained) env s (fun _ => P)
      fun _ => False := by
  have hEnd := (beginTerminating_ending .internalError env s).mono
    (fun _ t ht => hStopped s t ht h) fun t ht => hStopped s t ht h
  have hP := hEnded _ hEnd (beginTerminating_isTerminating s.call .internalError)
  rw [post_bind, post_beginTerminating]
  exact finishUnexplained_total (finishUnexplained_ending.keeps_both hEnding _ hP)

/-- A property `P` that survives the end of a call is only at stake when the answer of an AI
agent is asked for. `E` is what is left of `P` after an early stop; a call that is ended for
the error has `P` again. -/
theorem looping_of_ending {env : Env} {P E : Coordinator → Prop}
    (hEnding : ∀ s t, Ending s t → P s → P t)
    (hFlags : ∀ (s : Coordinator) (running stopped finalized actorStarted : Bool)
      (handedOver : Option CoordinatorHandoffToken),
      (s.actorStarted = true → actorStarted = true) → P s → P { s with
        running := running, stopped := stopped, finalized := finalized
        actorStarted := actorStarted, handedOver := handedOver })
    (hStop : ∀ s, P s → E s)
    (hFailed : ∀ s, E s → Post (beginTerminating .internalError >>= fun _ => finishUnexplained)
      env s (fun _ => P) fun _ => False)
    (hStart : ∀ s, P s → Post start env s (fun _ => P) fun _ => False) : Looping env P E where
  quiet s t hQuiet := hEnding s t (.of_quiet hQuiet)
  flags := hFlags
  refused s h _ := hStop s h
  explained s h _ := hEnding s _ (.minor rfl) h
  finish s h _ _ := beginFinishCall_total (beginFinishCall_ending.keeps_both hEnding s h)
  failed := hFailed
  start := hStart

theorem settles_of_ending {env : Env} {P E : Coordinator → Prop}
    (hEnding : ∀ s t, Ending s t → P s → P t) (hManaged : ∀ s t, Managed s t → P s → P t)
    (hStop : ∀ s, P s → E s)
    (hFailed : ∀ s, E s → Post (beginTerminating .internalError >>= fun _ => finishUnexplained)
      env s (fun _ => P) fun _ => False)
    (hStart : ∀ s, P s → Post start env s (fun _ => P) fun _ => False) : Settles env P E where
  toLooping := by
    apply looping_of_ending hEnding _ hStop hFailed hStart
    intro s running stopped finalized actorStarted handedOver hStarted
    exact hManaged s _ (.flags running stopped finalized actorStarted handedOver hStarted)
  managed := hManaged

section Started

variable {env : Env} {s : Coordinator} {P : Coordinator → Prop}

/-- The actor has been entered. -/
def Started (s : Coordinator) : Prop := s.actorStarted = true

theorem Started.ending (s t : Coordinator) (hEnding : Ending s t) (h : s.Started) : t.Started :=
  (congrArg Core.actorStarted hEnding.core).trans h

theorem Started.stop (s : Coordinator) (h : s.Started) : s.Started := h

theorem Started.managed (s t : Coordinator) (hManaged : Managed s t) (h : s.Started) :
    t.Started := by
  obtain ⟨_, _, _, _, _, _, _, _, _, _, _, _, _, rfl, hStarted, _⟩ := hManaged
  exact hStarted h

theorem Started.taken {input : Input} (h : s.Started) : (s.taken env input).Started := by
  cases input with
  | enter =>
      show (s.actorStarted || env.shuttingDown) = true
      rw [show s.actorStarted = true from h, Bool.true_or]
  | _ => exact h

/-- Most handlers spare the start of the actor as they spare what was answered. -/
theorem respond_started (stimulus : Stimulus) : Keeps env Started Started (respond stimulus) := by
  cases stimulus with
  | callerEvent frame event => exact (handleCallerLegEvent_spares frame event).keepsStarted env
  | calleeEvent frame event => exact (handlePeerLegEvent_spares frame event).keepsStarted env
  | actionFailed failure peerFailure =>
      apply handleActionFailure_keeps Started.ending Started.stop
      exact fun _ _ => retryAfterOriginateFailure_spares.keepsStarted env
  | actionAck ack =>
      intro s h
      apply post_handleActionAck Started.ending Started.stop h
      exact fun _ _ _ completed => (confirmAnswer_spares _).keepsStarted env _ h
  | ownedLegAck ack => exact (handleOwnedLegActionAck_spares ack).keepsStarted env
  | mediaResult result => exact (handleMediaActionResult_spares result).keepsStarted env
  | registrationResult result =>
      exact (handleAttemptRegistrationResult_spares result).keepsStarted env
  | aiAction request =>
      apply handleAiAction_keeps Started.ending Started.stop
      exact fun number s _ h _ _ => (transferToExtension_spares request number).keepsStarted env s h
  | gatewayUnavailable => exact handleAiGatewayUnavailable_spares.keepsStarted env
  | shutdown => exact beginShutdown_spares.keepsStarted env
  | timer kind generation => exact (handleTimerExpiry_spares kind generation).keepsStarted env
  | removal cause => exact (finishNow_spares cause).keepsStarted env
  | abandoned => exact finishUnexplained_spares.keepsStarted env

theorem start_started (s : Coordinator) : Post start env s (fun _ => Started) fun _ => False := by
  apply post_start_of_ending (J := Started) Started.ending Started.ending
  · exact fun _ _ h _ => h
  · exact fun _ h => h
  · exact fun h => h
  · exact fun _ => rfl

theorem started_settles : Settles env Started Started := by
  apply settles_of_ending Started.ending Started.managed Started.stop
  · exact failed_of_ending Started.ending Started.ending fun _ h _ => h
  · exact fun s _ => start_started s

theorem enter_started (s : Coordinator) : (step env .enter s).Started := by
  apply Post.final
  apply Post.mono (E := fun _ => False)
  · show Post enter env s (fun _ => Started) _
    rw [enter, post_bind, post_read, post_bind, post_modify, post_bind, post_when]
    constructor
    · intro _
      rw [enterShuttingDown, post_bind, post_modify, post_bind]
      have hShutdown : Post (respond .shutdown) env
          { s with running := true, actorStarted := true } (fun _ => Started) Started :=
        respond_started .shutdown _ rfl
      apply (started_settles.toLooping.post_process hShutdown).mono
      · exact fun _ t _ => start_started t
      · exact fun _ h => h
    · exact fun _ => start_started _
  · exact fun _ _ h => h
  · exact fun _ h => h.elim

/-- Nothing but its start can happen to a new call. -/
theorem enter_of_new {input : Input} (h : system.init s) (hAllowed : s.admissible input) :
    input = .enter := by
  obtain ⟨invitation, hCreate⟩ := h
  obtain ⟨_, _, rfl⟩ := create_spec hCreate
  cases input with
  | enter => rfl
  | event _ | shutdownSignal | mailboxClosed | installHandoff _ _ | rollbackHandoff =>
      exact (Bool.false_ne_true hAllowed).elim
  | _ => exact (Bool.false_ne_true hAllowed.1).elim

/-- A call that was not entered is as it was created. -/
theorem started_or_new (h : Transition.Reachable system s) : s.Started ∨ system.init s := by
  apply h.invariant
  · exact fun _ hInit => .inr hInit
  · rintro s ⟨env, input⟩ t hBefore ⟨hAllowed, rfl⟩
    left
    rcases hBefore with hStarted | hNew
    · have hTaken : (s.taken env input).Started := hStarted.taken
      exact started_settles.step hTaken fun stimulus _ => respond_started stimulus _ hTaken
    · obtain rfl := enter_of_new hNew hAllowed
      exact enter_started s

end Started

section Settled

variable {env : Env} {s : Coordinator} {P E : Coordinator → Prop}

/-- A call whose actor has started is not set up again, so `P` has to survive the rest of the
loop only. -/
theorem settles_with_started (hQuiet : ∀ s t, Quiet s t → P s → P t)
    (hManaged : ∀ s t, Managed s t → P s → P t) (hRefused : ∀ s, P s → refuses env → E s)
    (hExplained : ∀ s, P s → s.finalizationStarted = true →
      P { s with call := { s.call with
        hangupCause := getOrInsert s.call.hangupCause .internalError } })
    (hFinish : ∀ s, P s → s.call.callerTerminated = true → s.call.calleeTerminated = true →
      Post beginFinishCall env s (fun _ => P) fun _ => False)
    (hFailed : ∀ s, E s → Post (beginTerminating .internalError >>= fun _ => finishUnexplained)
      env s (fun _ => P) fun _ => False) :
    Settles env (fun s => P s ∧ s.Started) fun s => E s ∧ s.Started where
  quiet s t hReached h := ⟨hQuiet s t hReached h.1, Started.ending s t (.of_quiet hReached) h.2⟩
  flags s running stopped finalized actorStarted handedOver hStarted h :=
    ⟨hManaged s _ (.flags running stopped finalized actorStarted handedOver hStarted) h.1,
      hStarted h.2⟩
  refused s h hRefuses := ⟨hRefused s h.1 hRefuses, h.2⟩
  explained s h hFinal := ⟨hExplained s h.1 hFinal, h.2⟩
  finish s h hCaller hCallee := by
    have hStarted : Post beginFinishCall env s (fun _ => Started) Started :=
      beginFinishCall_ending.keeps_both Started.ending s h.2
    exact ((hFinish s h.1 hCaller hCallee).and hStarted).mono (fun _ _ ht => ht) fun _ ht => ht.1
  failed s h := by
    have hStarted : Post _ env s (fun _ => Started) fun _ => False :=
      failed_of_ending Started.ending Started.ending (fun _ hStarted _ => hStarted) s h.2
    exact ((hFailed s h.1).and hStarted).mono (fun _ _ ht => ht) fun _ ht => ht.1
  start s h := by
    have hStarted : s.actorStarted = true := h.2
    rw [start, post_bind, post_get, post_ite, if_pos hStarted]
    exact h
  managed s t hReached h := ⟨hManaged s t hReached h.1, Started.managed s t hReached h.2⟩

/-- What an input leaves once it was taken from its queue. -/
theorem taken_of_managed {input : Input} (hManaged : ∀ s t, Managed s t → P s → P t)
    (hMedia : ∀ s request, P s → P { s with mediaQueue := s.mediaQueue.erase request })
    (hRegistered : ∀ s request, P s → P { s with attemptQueue := s.attemptQueue.erase request })
    (h : P s) : P (s.taken env input) := by
  cases input with
  | enter => exact hManaged s _ (.flags true s.stopped s.finalized _ s.handedOver
      fun hTrue => by rw [hTrue, Bool.true_or]) h
  | mailboxClosed => exact hManaged s _ (.flags false true s.finalized s.actorStarted
      s.handedOver id) h
  | mediaResult request _ => exact hMedia s request h
  | registrationResult request _ => exact hRegistered s request h
  | _ => exact h

variable (hSettles : Settles env (fun s => P s ∧ s.Started) fun s => E s ∧ s.Started)
include hSettles

/-- The first transition of a call. -/
theorem enter_of_settles
    (hStart : Post start env { s with running := true } (fun _ => P) fun _ => False)
    (hShutdown : Post beginShutdown env { s with running := true, actorStarted := true }
      (fun _ => P) E) : P (step env .enter s) := by
  apply Post.final
  apply Post.mono (E := fun _ => False)
  · show Post enter env s (fun _ => P) _
    rw [enter, post_bind, post_read, post_bind, post_modify, post_bind, post_when]
    constructor
    · intro _
      rw [enterShuttingDown, post_bind, post_modify, post_bind]
      have hBoth := hShutdown.and (respond_started .shutdown _ rfl)
      apply (hSettles.toLooping.post_process hBoth).mono
      · intro _ t ht
        exact (hSettles.start t ht.1).mono (fun _ _ hu => hu.1) fun _ hu => hu
      · exact fun _ h => h
    · exact fun _ => hStart
  · exact fun _ _ h => h
  · exact fun _ h => h.elim

/-- A later transition. -/
theorem step_of_settles {input : Input} (hTaken : P (s.taken env input)) (hStarted : s.Started)
    (hRespond : ∀ stimulus, s.stimulus env input = some stimulus →
      Post (respond stimulus) env (s.taken env input) (fun _ => P) E) :
    P (step env input s) := by
  have hEntered : (s.taken env input).Started := hStarted.taken
  apply (hSettles.step ⟨hTaken, hEntered⟩ _).1
  intro stimulus hStimulus
  exact (hRespond stimulus hStimulus).and (respond_started stimulus _ hEntered)

omit hSettles in
/-- A property of the states that a call reaches: after its first transition, the actor has
started. -/
theorem invariant_of_steps {C : Coordinator → Env × Input → Prop}
    (hRun : Transition.ReachableWithin system C s) (hInit : ∀ s, system.init s → P s)
    (hEnter : ∀ s env, system.init s → P s → P (step env .enter s))
    (hStep : ∀ s env input, P s → s.Started → s.admissible input → C s (env, input) →
      P (step env input s)) : P s := by
  have hBoth : Transition.Reachable system s ∧ P s := by
    apply hRun.invariant
    · exact fun s h => ⟨⟨s, h, .refl⟩, hInit s h⟩
    · rintro s ⟨env, input⟩ t ⟨hReachable, h⟩ hC hNext
      have hStepped : Transition.Runs system s t := .step .refl trivial hNext
      refine ⟨hReachable.runs hStepped, ?_⟩
      obtain ⟨hAllowed, rfl⟩ := hNext
      rcases started_or_new hReachable with hStarted | hNew
      · exact hStep s env input h hStarted hAllowed hC
      · obtain rfl := enter_of_new hNew hAllowed
        exact hEnter s env hNew h
  exact hBoth.2

end Settled

section Reach

variable {env : Env} {s : Coordinator} {P E : Coordinator → Prop}
  (hEnding : ∀ s t, Ending s t → P s → P t) (hManaged : ∀ s t, Managed s t → P s → P t)
  (hStop : ∀ s, P s → E s)
  (hFailed : ∀ env s, E s → Post (beginTerminating .internalError >>= fun _ => finishUnexplained)
    env s (fun _ => P) fun _ => False)
include hEnding hManaged hStop hFailed

theorem settles_of_started :
    Settles env (fun s => P s ∧ s.Started) fun s => E s ∧ s.Started := by
  apply settles_with_started
  · exact fun s t hQuiet => hEnding s t (.of_quiet hQuiet)
  · exact hManaged
  · exact fun s h _ => hStop s h
  · exact fun s h _ => hEnding s _ (.minor rfl) h
  · exact fun s h _ _ => beginFinishCall_total (beginFinishCall_ending.keeps_both hEnding s h)
  · exact hFailed env

/-- The first transition of a call. -/
theorem enter_of_start (h : P s)
    (hStart : Post start env { s with running := true } (fun _ => P) fun _ => False) :
    P (step env .enter s) := by
  apply enter_of_settles (settles_of_started hEnding hManaged hStop hFailed) hStart
  apply beginShutdown_ending.keeps hEnding hStop
  exact hManaged s _ (.flags true s.stopped s.finalized true s.handedOver fun _ => rfl) h

theorem step_of_started {input : Input} (hTaken : P (s.taken env input)) (hStarted : s.Started)
    (hRespond : ∀ stimulus, s.stimulus env input = some stimulus →
      Post (respond stimulus) env (s.taken env input) (fun _ => P) E) :
    P (step env input s) :=
  step_of_settles (settles_of_started hEnding hManaged hStop hFailed) hTaken hStarted hRespond

/-- An invariant needs to be checked on the handlers only, and on what sets a call up. -/
theorem invariant_of_handlers {C : Coordinator → Env × Input → Prop}
    (hRun : Transition.ReachableWithin system C s) (hInit : ∀ s, system.init s → P s)
    (hStart : ∀ s env, system.init s → P s →
      Post start env { s with running := true } (fun _ => P) fun _ => False)
    (hMedia : ∀ s request, P s → P { s with mediaQueue := s.mediaQueue.erase request })
    (hRegistered : ∀ s request, P s → P { s with attemptQueue := s.attemptQueue.erase request })
    (hRespond : ∀ s env input stimulus, P s → P (s.taken env input) → s.admissible input →
      C s (env, input) → s.stimulus env input = some stimulus →
      Post (respond stimulus) env (s.taken env input) (fun _ => P) E) : P s := by
  apply invariant_of_steps hRun hInit
  · exact fun s env hNew h => enter_of_start hEnding hManaged hStop hFailed h (hStart s env hNew h)
  · intro s env input h hStarted hAllowed hC
    have hTaken : P (s.taken env input) := taken_of_managed hManaged hMedia hRegistered h
    exact step_of_started hEnding hManaged hStop hFailed hTaken hStarted
      fun stimulus hStimulus => hRespond s env input stimulus h hTaken hAllowed hC hStimulus

end Reach

end Coordinator

end VoipSwitch
