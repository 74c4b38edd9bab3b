import VoipSwitch.Call.Control

/-! Symbolic execution of the coordinator's primitives, and the handlers that leave the call
itself alone: digits, deduplication and the reports to the AI service. -/
namespace VoipSwitch

open Stateful Keyed Proc

/-- Requests of the media worker that concern digits only. -/
def MediaAction.isDtmf : MediaAction → Bool
  | .acquireDtmfCapability _ _ _ | .releaseDtmfCapability _ _ _ => true
  | _ => false

/-- Entries that say nothing about the legs or the state of the call. -/
def Entry.isIdle : Entry → Bool
  | .submitted action => action.identity.actionKind = .sendDtmfInfo
  | .aiResult _ | .digitsRequested _ | .prompt _ _ => true
  | _ => false

namespace Coordinator

section Primitives

variable {env : Env} {s : Coordinator} {Q : Unit → Coordinator → Prop} {E : Coordinator → Prop}

@[simp] theorem post_updateCall {f : CallRuntime → CallRuntime} :
    Post (updateCall f) env s Q E ↔ Q () { s with call := f s.call } := Iff.rfl

@[simp] theorem post_observe {entry : Entry} :
    Post (observe entry) env s Q E ↔ Q () { s with journal := entry :: s.journal } := Iff.rfl

@[simp] theorem post_assignState {state : CallState} :
    Post (assignState state) env s Q E ↔
      Q () { s with
        call := { s.call with state }
        journal := .stateAssigned s.call.state state :: s.journal } := Iff.rfl

@[simp] theorem post_beginTerminating {cause : HangupCause} :
    Post (beginTerminating cause) env s Q E ↔
      Q () { s with
        call := s.call.beginTerminating cause
        journal := .stateAssigned s.call.state (s.call.beginTerminating cause).state ::
          s.journal } := Iff.rfl

@[simp] theorem post_bumpMediaGeneration :
    Post bumpMediaGeneration env s Q E ↔
      Q () { s with mediaGeneration := satSucc64 s.mediaGeneration } := Iff.rfl

@[simp] theorem post_bumpPromptGeneration :
    Post bumpPromptGeneration env s Q E ↔
      Q () { s with promptGeneration := (s.promptGeneration + 1) % 2 ^ 64 } := Iff.rfl

@[simp] theorem post_markCalleeTerminated :
    Post markCalleeTerminated env s Q E ↔
      Q () { s with call := { s.call with calleeTerminated := true } } := Iff.rfl

@[simp] theorem post_updateDtmf {f : DtmfRuntime → DtmfRuntime} :
    Post (updateDtmf f) env s Q E ↔ Q () { s with dtmf := f s.dtmf } := Iff.rfl

@[simp] theorem post_cancelDial :
    Post (cancelTimer .dial) env s Q E ↔
      Q () { s with
        call := { s.call with dialTimerGeneration := satSucc64 s.call.dialTimerGeneration }
        dialTimer := none } := Iff.rfl

@[simp] theorem post_cancelRing :
    Post (cancelTimer .ring) env s Q E ↔
      Q () { s with
        call := { s.call with ringTimerGeneration := satSucc64 s.call.ringTimerGeneration }
        ringTimer := none } := Iff.rfl

@[simp] theorem post_cancelCleanup :
    Post (cancelTimer .cleanup) env s Q E ↔
      Q () { s with
        call := { s.call with cleanupTimerGeneration := satSucc64 s.call.cleanupTimerGeneration }
        cleanupTimer := none } := Iff.rfl

/-- The slot that arms a timer of this kind now. -/
def armedSlot (env : Env) (s : Coordinator) : CallTimerKind → CallTimerSlot
  | .dial =>
    { generation := satSucc64 s.call.dialTimerGeneration
      deadline := env.instant .startTimer + min s.call.configSnapshot.timeouts.dial
        (s.routeBudgetRemaining (env.instant .startTimer)) }
  | .ring =>
    { generation := satSucc64 s.call.ringTimerGeneration
      deadline := env.instant .startTimer + min s.call.configSnapshot.timeouts.ring
        (s.routeBudgetRemaining (env.instant .startTimer)) }
  | .cleanup =>
    { generation := satSucc64 s.call.cleanupTimerGeneration
      deadline := env.instant .startTimer + s.call.configSnapshot.timeouts.cleanup }

@[simp] theorem post_startDial :
    Post (startTimer .dial) env s Q E ↔
      Q () { s with
        call := { s.call with dialTimerGeneration := satSucc64 s.call.dialTimerGeneration }
        dialTimer := some (s.armedSlot env .dial) } := Iff.rfl

@[simp] theorem post_startRing :
    Post (startTimer .ring) env s Q E ↔
      Q () { s with
        call := { s.call with ringTimerGeneration := satSucc64 s.call.ringTimerGeneration }
        ringTimer := some (s.armedSlot env .ring) } := Iff.rfl

@[simp] theorem post_startCleanup :
    Post (startTimer .cleanup) env s Q E ↔
      Q () { s with
        call := { s.call with cleanupTimerGeneration := satSucc64 s.call.cleanupTimerGeneration }
        cleanupTimer := some (s.armedSlot env .cleanup) } := Iff.rfl

/-- The action that a submission from state `s` puts into the adapter's queue. -/
def submission (s : Coordinator) (sessionId : SessionId) (kind : ActionKind) (actionId : String)
    (body : List (String × Document.Json)) : SubmittedAction where
  identity := s.actionIdentity sessionId kind actionId
  domainId := s.call.domainId
  body := insertIdentity body (s.actionIdentity sessionId kind actionId)

/-- A submission either reaches the adapter's queue or fails and changes nothing. -/
theorem post_submitAction {sessionId : SessionId} {kind : ActionKind} {actionId : String}
    {body : List (String × Document.Json)} :
    Post (submitAction sessionId kind actionId body) env s Q E ↔
      (env.adapter (s.actionIdentity sessionId kind actionId) = .sent →
        Q () { s with
          journal := .submitted (s.submission sessionId kind actionId body) :: s.journal }) ∧
      (env.adapter (s.actionIdentity sessionId kind actionId) ≠ .sent → E s) := by
  simp only [submitAction, post_bind, post_read, post_get, submission]
  cases env.adapter (s.actionIdentity sessionId kind actionId) <;> simp [SendOutcome.refusal]

theorem post_submitCaller {kind : ActionKind} {actionId : String}
    {body : List (String × Document.Json)}
    (hSent : Q () { s with
      journal := .submitted (s.submission s.call.callerSessionId kind actionId body) ::
        s.journal })
    (hRefused : E s) : Post (submitCallerAction kind actionId body) env s Q E := by
  rw [submitCallerAction, post_bind, post_get, post_submitAction]
  exact ⟨fun _ => hSent, fun _ => hRefused⟩

theorem post_submitCallee {kind : ActionKind} {actionId : String}
    {body : List (String × Document.Json)}
    (hSent : Q () { s with
      journal := .submitted (s.submission s.call.calleeSessionId kind actionId body) ::
        s.journal })
    (hRefused : E s) : Post (submitCalleeAction kind actionId body) env s Q E := by
  rw [submitCalleeAction, post_bind, post_get, post_submitAction]
  exact ⟨fun _ => hSent, fun _ => hRefused⟩

theorem post_offerMedia {action : MediaAction} {Q : Option String → Coordinator → Prop}
    (hSent : Q none { s with mediaQueue := s.mediaQueue ++ [action] })
    (hRefused : ∀ reason, Q (some reason) s) : Post (offerMedia action) env s Q E := by
  simp only [offerMedia, post_bind, post_read]
  split
  · exact hSent
  · exact hRefused _

theorem post_submitMedia {action : MediaAction}
    (hSent : Q () { s with mediaQueue := s.mediaQueue ++ [action] }) (hRefused : E s) :
    Post (submitMedia action) env s Q E := by
  rw [submitMedia, post_bind]
  exact post_offerMedia hSent fun _ => hRefused

end Primitives

section Topology

/-- `next` differs from `call` in its aggregate, its bridge and the caller's session only, and
its attempts are the same. -/
def Reshaped (call next : CallRuntime) : Prop :=
  ∃ aggregate caller bridge,
    next = { call with aggregate := aggregate, caller := caller, currentBridgeId := bridge } ∧
    call.aggregate.Evolved aggregate ∧
    caller.id = call.caller.id ∧ caller.answeredAtMs = call.caller.answeredAtMs

theorem Reshaped.refl (call : CallRuntime) : Reshaped call call :=
  ⟨call.aggregate, call.caller, call.currentBridgeId, rfl, .refl _, rfl, rfl⟩

theorem Reshaped.trans (call next last : CallRuntime) (first : Reshaped call next)
    (second : Reshaped next last) : Reshaped call last := by
  obtain ⟨_, _, _, rfl, hEvolved, hId, hAnswered⟩ := first
  obtain ⟨aggregate, caller, bridge, rfl, hEvolved', hId', hAnswered'⟩ := second
  exact ⟨aggregate, caller, bridge, rfl, .trans _ _ _ hEvolved hEvolved', hId'.trans hId,
    hAnswered'.trans hAnswered⟩

/-- An operation that reshapes the call, whether or not it succeeds. -/
abbrev Reshapes {α : Type} (m : CallRuntime.Op α) : Prop := Within Reshaped (fun _ => Reshaped) m

variable {α β : Type} {env : Env} {s : Coordinator} {E : Coordinator → Prop}

theorem Reshapes.bind {m : CallRuntime.Op β} {f : β → CallRuntime.Op α} (hm : Reshapes m)
    (hf : ∀ b, Reshapes (f b)) : Reshapes (m >>= f) :=
  Within.bind Reshaped.trans (fun _ => Reshaped.trans) hm hf

theorem Reshapes.withCall {f : CallRuntime → CallRuntime.Op α} (hf : ∀ call, Reshapes (f call)) :
    Reshapes (Proc.get >>= f) := .bind (Within.get Reshaped.refl) hf

theorem onAggregate_reshapes {m : CallAggregate.Op α} (hm : CallAggregate.Evolving m) :
    Reshapes (CallRuntime.onAggregate m) := by
  intro _ call
  rw [CallRuntime.onAggregate, post_focus]
  exact (hm () call.aggregate).mono
    (fun _ aggregate h => ⟨aggregate, call.caller, call.currentBridgeId, rfl, h, rfl, rfl⟩)
    fun aggregate h => ⟨aggregate, call.caller, call.currentBridgeId, rfl, h, rfl, rfl⟩

theorem updateCurrentAttempt_reshapes (state : CalleeAttemptState) (cause : Option HangupCause) :
    Reshapes (CallRuntime.updateCurrentAttempt state cause) :=
  .withCall fun _ => onAggregate_reshapes (CallAggregate.updateAttemptState_evolving _ _ _)

theorem activateCurrentBridge_reshapes (mediaGeneration activeAtMs : Nat) :
    Reshapes (CallRuntime.activateCurrentBridge mediaGeneration activeAtMs) := by
  refine .withCall fun call => ?_
  split
  · exact Within.fail (fun _ => Reshaped.refl) _
  · exact onAggregate_reshapes (CallAggregate.activateBridge_evolving _ _ _)

/-- The media of the call goes over a bridge of this generation that is not released. -/
def Wired (generation : Nat) (call : CallRuntime) : Prop :=
  ∃ bridgeId bridge, call.currentBridgeId = some bridgeId ∧
    call.aggregate.bridges.lookup bridgeId = some bridge ∧ bridge.mediaGeneration = generation ∧
    bridge.state ≠ .released

/-- A planned bridge is the current one. -/
theorem planBridge_wired (mediaGeneration answeredAtMs : Nat) (call : CallRuntime) :
    Post (CallRuntime.planBridge mediaGeneration answeredAtMs) () call
      (fun _ => Wired mediaGeneration) fun _ => True := by
  rw [CallRuntime.planBridge, post_bind, post_get]
  apply Post.last
  intro _ _
  apply Post.last
  intro _ marked
  simp only [CallRuntime.onAggregate, post_bind, post_focus, post_modify]
  apply CallAggregate.addBridge_post.mono
  · rintro _ aggregate ⟨bridge, hLookup, hGeneration, hState⟩
    refine ⟨_, bridge, rfl, hLookup, hGeneration, ?_⟩
    rw [hState]
    exact BridgeState.noConfusion
  · exact fun _ _ => trivial

theorem planBridge_reshapes (mediaGeneration answeredAtMs : Nat) :
    Reshapes (CallRuntime.planBridge mediaGeneration answeredAtMs) := by
  refine .withCall fun call => ?_
  refine .bind (onAggregate_reshapes (CallAggregate.withLeg_evolving _ fun _ => rfl)) fun _ => ?_
  refine .bind (onAggregate_reshapes (CallAggregate.withLeg_evolving _ fun _ => rfl)) fun _ => ?_
  refine .bind (onAggregate_reshapes (CallAggregate.addBridge_evolving _ _ _ _ _)) fun _ => ?_
  exact Within.modify fun call => ⟨call.aggregate, call.caller, _, rfl, .refl _, rfl, rfl⟩

theorem markTransferAnswered_reshapes (answeredAtMs mediaGeneration : Nat) :
    Reshapes (CallRuntime.markTransferAnswered answeredAtMs mediaGeneration) := by
  refine .withCall fun call => ?_
  refine .bind (Within.whenSome Reshaped.refl fun _ =>
    onAggregate_reshapes (CallAggregate.withLeg_evolving _ fun _ => rfl)) fun _ => ?_
  refine .bind (updateCurrentAttempt_reshapes _ _) fun _ => .withCall fun call => ?_
  refine .bind (onAggregate_reshapes (CallAggregate.replaceWinner_evolving _ _)) fun _ => ?_
  refine .bind (Within.modify fun call => ?_) fun _ => planBridge_reshapes _ _
  exact ⟨_, _, call.currentBridgeId, rfl, ⟨.refl _, rfl, rfl, fun h => h.of_legs rfl⟩,
    rfl, rfl⟩

theorem post_reshapes {m : CallRuntime.Op α} {Q : α → Coordinator → Prop} (hm : Reshapes m)
    (hQ : ∀ a call, Reshaped s.call call → Q a { s with call := call })
    (hE : ∀ call, Reshaped s.call call → E { s with call := call }) :
    Post (onCall m) env s Q E := by
  rw [onCall, post_focus]
  exact (hm () s.call).mono hQ hE

/-- The current attempt is in its new state, or nothing has changed. -/
theorem post_updateCurrentAttempt {state : CalleeAttemptState} {cause : Option HangupCause}
    {Q : Unit → Coordinator → Prop}
    (hQ : ∀ aggregate, s.call.aggregate.Evolved aggregate →
      (∀ attempt, aggregate.calleeAttempts.lookup s.call.currentAttemptId = some attempt →
        attempt.state = state) → aggregate.bridges = s.call.aggregate.bridges →
      Q () { s with call := { s.call with aggregate := aggregate } })
    (hE : E s) : Post (onCall (CallRuntime.updateCurrentAttempt state cause)) env s Q E := by
  rw [onCall, post_focus, CallRuntime.updateCurrentAttempt, post_bind, post_get,
    CallRuntime.onAggregate, post_focus]
  apply CallAggregate.updateAttemptState_post.mono
  · intro _ aggregate h
    exact hQ aggregate h.1 h.2.1 h.2.2
  · rintro _ rfl
    exact hE

theorem markAnswered_wired (answeredAtMs mediaGeneration : Nat) (call : CallRuntime) :
    Post (CallRuntime.markAnswered answeredAtMs mediaGeneration) () call
      (fun _ => Wired mediaGeneration) fun _ => True := by
  rw [CallRuntime.markAnswered]
  apply Post.last
  intro _ _
  apply Post.last
  intro _ _
  apply Post.last
  exact fun _ => planBridge_wired _ _

theorem markTransferAnswered_wired (answeredAtMs mediaGeneration : Nat) (call : CallRuntime) :
    Post (CallRuntime.markTransferAnswered answeredAtMs mediaGeneration) () call
      (fun _ => Wired mediaGeneration) fun _ => True := by
  rw [CallRuntime.markTransferAnswered]
  apply Post.last
  intro _ _
  apply Post.last
  intro _ _
  apply Post.last
  intro _ _
  apply Post.last
  intro _ _
  apply Post.last
  intro _ _
  apply Post.last
  exact fun _ => planBridge_wired _ _

/-- A bridge stays in place when it becomes active. -/
theorem activateCurrentBridge_wired {generation mediaGeneration activeAtMs : Nat}
    {call : CallRuntime} (h : Wired generation call) :
    Post (CallRuntime.activateCurrentBridge mediaGeneration activeAtMs) () call
      (fun _ => Wired generation) fun _ => mediaGeneration ≠ generation := by
  obtain ⟨bridgeId, bridge, hCurrent, hBridge, hGeneration, hState⟩ := h
  rw [CallRuntime.activateCurrentBridge, post_bind, post_get, hCurrent]
  simp only [CallRuntime.onAggregate, post_focus]
  by_cases hSame : mediaGeneration = generation
  · apply (CallAggregate.activateBridge_post hBridge (hGeneration.trans hSame.symm) hState).mono
    · rintro _ aggregate ⟨active, hActive, hActiveGeneration, hActiveState⟩
      refine ⟨bridgeId, active, hCurrent, hActive, hActiveGeneration.trans hSame, ?_⟩
      rw [hActiveState]
      exact BridgeState.noConfusion
    · exact fun _ h => h.elim
  · rw [CallAggregate.activateBridge, post_bind, post_get]
    simp only [hBridge, post_ite]
    rw [if_pos fun hEqual => hSame (hEqual.symm.trans hGeneration)]
    exact hSame

/-- Like a reshaped call, but the caller's session may have been marked as answered. -/
def Marked (call next : CallRuntime) : Prop :=
  ∃ aggregate caller bridge,
    next = { call with aggregate := aggregate, caller := caller, currentBridgeId := bridge } ∧
    call.aggregate.Evolved aggregate ∧ caller.id = call.caller.id

theorem Reshaped.marked {call next : CallRuntime} (h : Reshaped call next) : Marked call next := by
  obtain ⟨aggregate, caller, bridge, hNext, hEvolved, hId, _⟩ := h
  exact ⟨aggregate, caller, bridge, hNext, hEvolved, hId⟩

/-- Answering marks the caller's session as answered; an answer that fails may have done so
already. -/
theorem markAnswered_marked (answeredAtMs mediaGeneration : Nat) (call : CallRuntime) :
    Post (CallRuntime.markAnswered answeredAtMs mediaGeneration) () call
      (fun _ next => Marked call next ∧ next.caller.answeredAtMs.isSome = true) (Marked call) := by
  have hSelect : Reshapes (CallRuntime.selectCurrentAttempt answeredAtMs) :=
    .withCall fun _ => .bind (onAggregate_reshapes (CallAggregate.selectWinner_evolving _ _))
      fun _ => Within.pure Reshaped.refl _
  rw [CallRuntime.markAnswered]
  apply Post.bind (M := fun _ => Reshaped call)
  · exact (updateCurrentAttempt_reshapes _ _ () call).mono (fun _ _ h => h) fun _ h => h.marked
  intro _ next h
  apply Post.bind (M := fun _ => Reshaped call)
  · apply (hSelect () next).mono
    · exact fun _ _ h' => .trans _ _ _ h h'
    · exact fun _ h' => (Reshaped.trans _ _ _ h h').marked
  rintro _ _ ⟨aggregate, caller, bridge, rfl, hEvolved, hId, _⟩
  rw [post_bind, post_modify]
  have hPlanned : ∀ last, Reshaped { call with
        aggregate := aggregate
        caller := { caller.markAnswered answeredAtMs with state := .bridged }
        currentBridgeId := bridge } last →
      Marked call last ∧ last.caller.answeredAtMs.isSome = true := by
    rintro _ ⟨_, _, _, rfl, hEvolved', hLastId, hLastAnswered⟩
    refine ⟨⟨_, _, _, rfl, .trans _ _ _ hEvolved hEvolved', hLastId.trans hId⟩, ?_⟩
    rw [hLastAnswered]
    simp only [Session.markAnswered]
    cases caller.answeredAtMs <;> rfl
  exact (planBridge_reshapes _ _ () _).mono (fun _ => hPlanned) fun last h => (hPlanned last h).1

theorem post_markAnswered {answeredAtMs mediaGeneration : Nat} {Q : Unit → Coordinator → Prop}
    (hQ : ∀ aggregate caller bridge, s.call.aggregate.Evolved aggregate →
      caller.id = s.call.caller.id → caller.answeredAtMs.isSome = true →
      Wired mediaGeneration { s.call with
        aggregate := aggregate, caller := caller, currentBridgeId := bridge } →
      Q () { s with call := { s.call with
        aggregate := aggregate, caller := caller, currentBridgeId := bridge } })
    (hE : ∀ aggregate caller bridge, s.call.aggregate.Evolved aggregate →
      caller.id = s.call.caller.id →
      E { s with call := { s.call with
        aggregate := aggregate, caller := caller, currentBridgeId := bridge } }) :
    Post (onCall (CallRuntime.markAnswered answeredAtMs mediaGeneration)) env s Q E := by
  rw [onCall, post_focus]
  apply ((markAnswered_marked _ _ _).and (markAnswered_wired _ _ _)).mono
  · rintro _ _ ⟨⟨⟨aggregate, caller, bridge, rfl, hEvolved, hId⟩, hAnswered⟩, hWired⟩
    exact hQ aggregate caller bridge hEvolved hId hAnswered hWired
  · rintro _ ⟨⟨aggregate, caller, bridge, rfl, hEvolved, hId⟩, _⟩
    exact hE aggregate caller bridge hEvolved hId

/-- A leg and its attempt are entered together, or the attempts stay as they were. -/
theorem post_enterAttempt {callee : Session} {attemptId : CalleeAttemptId}
    {target : OutboundTarget} {call : CallRuntime} {Q : Unit → CallRuntime → Prop}
    {E : CallRuntime → Prop}
    (hQ : ∀ aggregate calleeTarget, target.calleeTarget = .ok calleeTarget →
      call.aggregate.Entered aggregate attemptId callee.id calleeTarget →
      Q () { call with aggregate := aggregate })
    (hE : ∀ aggregate, call.aggregate.Evolved aggregate → E { call with aggregate := aggregate }) :
    Post (CallRuntime.enterAttempt callee attemptId target) () call Q E := by
  simp only [CallRuntime.enterAttempt, CallRuntime.onAggregate, post_bind, post_focus]
  refine CallAggregate.addLeg_post.mono (fun _ joined hJoined => ?_) fun _ h => h ▸ hE _ (.refl _)
  obtain ⟨hJoined, hBridges⟩ := hJoined
  have hStays : call.aggregate.Evolved joined := hJoined.evolved
  cases hTarget : target.calleeTarget with
  | error e => exact hE joined hStays
  | ok calleeTarget =>
      simp only [CallRuntime.ofExcept, post_pure]
      refine CallAggregate.addCalleeAttempt_post.mono (fun _ planned hPlanned => ?_)
        fun _ h => h ▸ hE joined hStays
      rw [hJoined.attempts] at hPlanned
      refine (CallAggregate.dialPlanned_post hPlanned.1 hPlanned.2.1
        (hPlanned.2.2.1.trans hJoined.id) (hPlanned.2.2.2.1.trans hJoined.owner)
        (fun h => (hJoined.legs h).of_legs hPlanned.2.2.2.2.1)
        (hPlanned.2.2.2.2.2.trans hBridges)).mono (fun _ dialled hDialled => ?_) fun _ h => h.elim
      exact hQ dialled calleeTarget hTarget hDialled

/-- A registered attempt becomes the current one; a failed registration leaves the attempts
alone. -/
theorem post_registerAttempt {attemptSeq createdAtMs : Nat} {sessionId : SessionId}
    {target : OutboundTarget} {Q : Unit → Coordinator → Prop}
    (hQ : ∀ aggregate calleeTarget, target.calleeTarget = .ok calleeTarget →
      s.call.aggregate.Entered aggregate (attemptIdOf attemptSeq) sessionId calleeTarget →
      Q () { s with call := { s.call with
        aggregate := aggregate
        currentAttemptId := attemptIdOf attemptSeq
        currentCalleeSessionId := sessionId
        caller := { s.call.caller with peer := some sessionId } } })
    (hE : ∀ aggregate, s.call.aggregate.Evolved aggregate →
      E { s with call := { s.call with aggregate := aggregate } }) :
    Post (onCall (CallRuntime.registerAttempt attemptSeq sessionId target createdAtMs)) env s
      Q E := by
  simp only [onCall, post_focus, CallRuntime.registerAttempt, post_bind, post_get]
  cases hCallee : s.call.makeCalleeSession sessionId attemptSeq target createdAtMs with
  | error e => exact hE s.call.aggregate (.refl _)
  | ok callee =>
      have hId : callee.id = sessionId := by
        simp only [CallRuntime.makeCalleeSession, CallRuntime.calleeSession] at hCallee
        split at hCallee
        · cases hCallee
        · rw [← Except.ok.inj hCallee]
      simp only [CallRuntime.ofExcept, post_pure, post_modify]
      refine post_enterAttempt (fun aggregate calleeTarget hTarget hEntered => ?_) hE
      exact hQ aggregate calleeTarget hTarget (hId ▸ hEntered)

end Topology

/-- `s'` differs from `s` at most in its digit state, in what it has reported or taken note
of as done, and in digit requests to the media worker. -/
def Quiet (s s' : Coordinator) : Prop :=
  ∃ dtmf queue entries completed owned prompt,
    s' = { s with
      dtmf := dtmf
      mediaQueue := s.mediaQueue ++ queue
      journal := entries ++ s.journal
      completedActions := completed
      ownedCompletedActions := owned
      promptGeneration := prompt } ∧
    (∀ action ∈ queue, action.isDtmf = true) ∧ ∀ entry ∈ entries, entry.isIdle = true

theorem Quiet.refl (s : Coordinator) : Quiet s s :=
  ⟨s.dtmf, [], [], s.completedActions, s.ownedCompletedActions, s.promptGeneration,
    by simp, by simp, by simp⟩

theorem Quiet.trans (s t u : Coordinator) (first : Quiet s t) (second : Quiet t u) :
    Quiet s u := by
  obtain ⟨_, queue, entries, _, _, _, rfl, hQueue, hEntries⟩ := first
  obtain ⟨dtmf, queue', entries', completed, owned, prompt, rfl, hQueue', hEntries'⟩ := second
  refine ⟨dtmf, queue ++ queue', entries' ++ entries, completed, owned, prompt,
    by simp, ?_, ?_⟩
  · intro action hMem
    rcases List.mem_append.mp hMem with h | h
    · exact hQueue action h
    · exact hQueue' action h
  · intro entry hMem
    rcases List.mem_append.mp hMem with h | h
    · exact hEntries' entry h
    · exact hEntries entry h

/-- `m` leaves the call alone, and it stops early only in environments that `mayFail`
admits. -/
abbrev IsQuiet {α : Type} (mayFail : Env → Prop) (m : Handler α) : Prop :=
  Within Quiet (fun env s t => mayFail env ∧ Quiet s t) m

/-- The adapter's queue refuses an action. -/
def refuses (env : Env) : Prop := ∃ identity, env.adapter identity ≠ .sent

def never (_ : Env) : Prop := False

def always (_ : Env) : Prop := True

namespace IsQuiet

variable {α β : Type} {mayFail : Env → Prop}

theorem pure (a : α) : IsQuiet mayFail (pure a : Handler α) := Within.pure Quiet.refl a

theorem fail (e : Error) : IsQuiet always (fail e : Handler α) :=
  Within.fail (fun _ s => ⟨trivial, Quiet.refl s⟩) e

theorem bind {m : Handler β} {f : β → Handler α} (hm : IsQuiet mayFail m)
    (hf : ∀ b, IsQuiet mayFail (f b)) : IsQuiet mayFail (m >>= f) :=
  Within.bind Quiet.trans (fun _ s t u first second =>
    ⟨second.1, Quiet.trans s t u first second.2⟩) hm hf

/-- A handler that looks at the state first. -/
theorem withState {f : Coordinator → Handler α} (hf : ∀ s, IsQuiet mayFail (f s)) :
    IsQuiet mayFail (Proc.get >>= f) := bind (Within.get Quiet.refl) hf

theorem withEnv {f : Env → Handler α} (hf : ∀ env, IsQuiet mayFail (f env)) :
    IsQuiet mayFail (Proc.read >>= f) := bind (Within.read Quiet.refl) hf

theorem ite {c : Prop} [Decidable c] {m n : Handler α} (hm : IsQuiet mayFail m)
    (hn : IsQuiet mayFail n) : IsQuiet mayFail (if c then m else n) := Within.ite hm hn

theorem when {c : Prop} [Decidable c] {m : Handler Unit} (hm : IsQuiet mayFail m) :
    IsQuiet mayFail (when c m) := Within.when Quiet.refl hm

theorem whenSome {value : Option β} {f : β → Handler Unit} (hf : ∀ b, IsQuiet mayFail (f b)) :
    IsQuiet mayFail (whenSome value f) := Within.whenSome Quiet.refl hf

theorem forM {f : β → Handler PUnit} (hf : ∀ b, IsQuiet mayFail (f b)) (xs : List β) :
    IsQuiet mayFail (xs.forM f) :=
  Within.forM Quiet.refl Quiet.trans (fun _ s t u first second =>
    ⟨second.1, Quiet.trans s t u first second.2⟩) hf xs

/-- What a quiet handler keeps, for any property that does not look at what it changes. -/
theorem post {m : Handler α} (hm : IsQuiet mayFail m) {env : Env} {s : Coordinator}
    {Q : α → Coordinator → Prop} {E : Coordinator → Prop} (hQ : ∀ a t, Quiet s t → Q a t)
    (hE : mayFail env → ∀ t, Quiet s t → E t) : Post m env s Q E :=
  (hm env s).mono (fun a t h => hQ a t h) fun t h => hE h.1 t h.2

theorem post_of_silent {m : Handler α} (hm : IsQuiet never m) {env : Env} {s : Coordinator}
    {Q : α → Coordinator → Prop} {E : Coordinator → Prop} (hQ : ∀ a t, Quiet s t → Q a t) :
    Post m env s Q E := hm.post hQ fun h => h.elim

end IsQuiet

section QuietHandlers

variable {mayFail : Env → Prop}

theorem updateDtmf_quiet (f : DtmfRuntime → DtmfRuntime) : IsQuiet mayFail (updateDtmf f) :=
  Within.modify fun s =>
    ⟨f s.dtmf, [], [], s.completedActions, s.ownedCompletedActions, s.promptGeneration,
      by simp, by simp, by simp⟩

theorem updateCollectors_quiet (f : Collectors → Collectors) :
    IsQuiet mayFail (updateCollectors f) :=
  updateDtmf_quiet _

theorem sendReply_quiet (reply : CollectorReply) : IsQuiet mayFail (sendReply reply) :=
  updateDtmf_quiet _

theorem scheduleDigitCollectorTimer_quiet : IsQuiet mayFail scheduleDigitCollectorTimer :=
  updateDtmf_quiet _

theorem bumpPromptGeneration_quiet : IsQuiet mayFail bumpPromptGeneration :=
  Within.modify fun s =>
    ⟨s.dtmf, [], [], s.completedActions, s.ownedCompletedActions, _,
      by simp; rfl, by simp, by simp⟩

theorem Quiet.observe {entry : Entry} (hIdle : entry.isIdle = true) (s : Coordinator) :
    Quiet s { s with journal := entry :: s.journal } :=
  ⟨s.dtmf, [], [entry], s.completedActions, s.ownedCompletedActions, s.promptGeneration,
    by simp, by simp, by simpa using hIdle⟩

theorem observe_quiet {entry : Entry} (hIdle : entry.isIdle = true) :
    IsQuiet mayFail (observe entry) := Within.modify (Quiet.observe hIdle)

theorem offerMedia_quiet {action : MediaAction} (hDtmf : action.isDtmf = true) :
    IsQuiet mayFail (offerMedia action) := by
  intro env s
  refine post_offerMedia ?_ fun _ => Quiet.refl s
  exact ⟨s.dtmf, [action], [], s.completedActions, s.ownedCompletedActions, s.promptGeneration,
    by simp, by simpa using hDtmf, by simp⟩

theorem abortCollector_quiet (reason : String) (collector : DigitCollectorState) :
    IsQuiet mayFail (abortCollector reason collector) := by
  refine .bind (.when (sendReply_quiet _)) fun _ => ?_
  refine .withState fun s => .bind (offerMedia_quiet rfl) fun _ => ?_
  exact .when (sendReply_quiet _)

theorem abortDigitCollection_quiet (reason : String) :
    IsQuiet mayFail (abortDigitCollection reason) := by
  refine .bind (updateDtmf_quiet _) fun _ => .withState fun s => ?_
  exact .bind (updateCollectors_quiet _) fun _ => .forM (abortCollector_quiet reason) _

theorem failDigitCollectionStart_quiet (collectorId : CollectorId) (error : String) :
    IsQuiet mayFail (failDigitCollectionStart collectorId error) := by
  refine .withState fun s => ?_
  split
  · exact .pure _
  · refine .bind (updateCollectors_quiet _) fun _ => ?_
    refine .bind (.when (sendReply_quiet _)) fun _ => ?_
    exact .bind (.when (sendReply_quiet _)) fun _ => scheduleDigitCollectorTimer_quiet

theorem handleDtmfCapabilityReleased_quiet (actionId : String) (result : Except String Nat) :
    IsQuiet mayFail (handleDtmfCapabilityReleased actionId result) := by
  refine .withState fun s => ?_
  split
  · exact .pure _
  · refine .bind (updateCollectors_quiet _) fun _ => ?_
    exact .bind (.when (sendReply_quiet _)) fun _ => scheduleDigitCollectorTimer_quiet

theorem finishDigitCollection_quiet (collectorId : CollectorId)
    (code : DigitCollectionResultCode) (reason : Option String) :
    IsQuiet mayFail (finishDigitCollection collectorId code reason) := by
  refine .withState fun s => ?_
  split
  · exact .pure _
  · refine .ite (.pure _) ?_
    refine .bind (updateCollectors_quiet _) fun _ => .bind (offerMedia_quiet rfl) fun refusal => ?_
    exact .bind (.whenSome fun _ => handleDtmfCapabilityReleased_quiet _ _)
      fun _ => scheduleDigitCollectorTimer_quiet

theorem startDigitCollection_quiet (spec : DigitCollectionSpec) :
    IsQuiet mayFail (startDigitCollection spec) := by
  refine .withState fun s => ?_
  split
  · exact .bind (sendReply_quiet _) fun _ => sendReply_quiet _
  · refine .bind (updateCollectors_quiet _) fun _ => .bind (offerMedia_quiet rfl) fun refusal => ?_
    exact .whenSome fun _ => failDigitCollectionStart_quiet _ _

theorem cancelDigitCollection_quiet (collectorId : CollectorId) :
    IsQuiet mayFail (cancelDigitCollection collectorId) := by
  refine .withState fun s => ?_
  split
  · exact .pure _
  · split
    · refine .bind (updateCollectors_quiet _) fun _ => ?_
      exact .bind (.when (sendReply_quiet _)) fun _ => .pure _
    · exact .bind (finishDigitCollection_quiet _ _ _) fun _ => .pure _
    · exact .pure _

theorem handleDtmfCapabilityAcquired_quiet (actionId : String)
    (result : Except String DtmfCapabilityReady) :
    IsQuiet mayFail (handleDtmfCapabilityAcquired actionId result) := by
  refine .withEnv fun env => .withState fun s => ?_
  split
  · exact .pure _
  · split
    · exact failDigitCollectionStart_quiet _ _
    · refine .ite (failDigitCollectionStart_quiet _ _) ?_
      refine .bind (.when (sendReply_quiet _)) fun _ => .ite ?_ ?_
      · exact .bind (updateCollectors_quiet _) fun _ => finishDigitCollection_quiet _ _ _
      · exact .bind (updateCollectors_quiet _) fun _ => scheduleDigitCollectorTimer_quiet

theorem collectDigit_quiet (event : DigitEvent) : IsQuiet mayFail (collectDigit event) := by
  refine .withEnv fun env => .withState fun s => .bind (updateCollectors_quiet _) fun _ => ?_
  refine .bind (.forM (fun _ => finishDigitCollection_quiet _ _ _) _) fun _ => ?_
  exact .bind scheduleDigitCollectorTimer_quiet fun _ => .pure _

theorem handleDigitCollectorTimeout_quiet (generation : Nat) (collectorId : CollectorId)
    (deadline : DigitCollectorDeadline) :
    IsQuiet mayFail (handleDigitCollectorTimeout generation collectorId deadline) := by
  refine .withState fun s => .ite (.pure _) ?_
  refine .bind (updateDtmf_quiet _) fun _ => .bind (finishDigitCollection_quiet _ _ _) fun _ => ?_
  exact scheduleDigitCollectorTimer_quiet

theorem handleEventMessage_quiet (message : EventMessage) :
    IsQuiet mayFail (handleEventMessage message) := by
  cases message with
  | querySessionSummary => exact .pure _
  | startDigitCollection spec => exact startDigitCollection_quiet spec
  | cancelDigitCollection collectorId =>
      exact .bind (cancelDigitCollection_quiet collectorId) fun _ => .pure _

theorem relayDigit_quiet (event : DigitEvent) (peerSessionId : SessionId) :
    IsQuiet refuses (relayDigit event peerSessionId) := by
  refine .withState fun s => ?_
  split
  · intro env t
    rw [submitCallerAction, post_bind, post_get, post_submitAction]
    refine ⟨fun _ => ?_, fun hRefused => ⟨⟨_, hRefused⟩, Quiet.refl t⟩⟩
    exact Quiet.observe (by simp [Entry.isIdle, submission, actionIdentity]) t
  · exact .pure _

theorem routeDigit_quiet (event : DigitEvent) : IsQuiet refuses (routeDigit event) := by
  refine .bind (collectDigit_quiet event) fun consumed => .ite (updateDtmf_quiet _) ?_
  refine .withState fun s => .bind (updateDtmf_quiet _) fun _ => ?_
  split
  · exact .ite (relayDigit_quiet _ _) (.pure _)
  · exact .pure _

theorem handleSourceDigit_quiet (event : DigitEvent) :
    IsQuiet refuses (handleSourceDigit event) := by
  refine .withState fun s => .ite (.pure _) ?_
  exact .bind (updateDtmf_quiet _) fun _ => .ite (routeDigit_quiet event) (.pure _)

theorem handlePeerDigit_quiet (event : DigitEvent) : IsQuiet refuses (handlePeerDigit event) :=
  .withState fun _ => .ite (.pure _) (routeDigit_quiet event)

theorem handleDtmfInfoSendResult_quiet (result : DtmfInfoSendResult) :
    IsQuiet mayFail (handleDtmfInfoSendResult result) :=
  .withState fun _ => .ite (.pure _) (updateDtmf_quiet _)

theorem sendActionResult_quiet (result : ActionResult) :
    IsQuiet always (sendActionResult result) := by
  refine .withEnv fun env => ?_
  split
  · exact .pure _
  · split
    · exact observe_quiet rfl
    · exact .fail _

theorem collectAiDigits_quiet (request : ActionRequested) (maxDigits timeoutMs : Nat) :
    IsQuiet always (collectAiDigits request maxDigits timeoutMs) := by
  refine .withEnv fun env => .withState fun s => .ite (.fail _) ?_
  split
  · exact .fail _
  · exact .bind (observe_quiet rfl) fun _ => .pure _

theorem startTransferFailurePrompt_quiet (request : ActionRequested) (reason : String) :
    IsQuiet always (startTransferFailurePrompt request reason) := by
  refine .withEnv fun env => .bind bumpPromptGeneration_quiet fun _ => .withState fun s => ?_
  exact .bind (observe_quiet rfl) fun _ => sendActionResult_quiet _

theorem reportTransfer_quiet (transfer : PendingAiTransfer) (success : Bool)
    (code message : String) : IsQuiet always (reportTransfer transfer success code message) := by
  refine .withEnv fun env => ?_
  split
  · exact .pure _
  · split
    · exact .fail _
    · exact sendActionResult_quiet _

theorem acceptActionResult_quiet (identity : ActionIdentity) :
    IsQuiet mayFail (acceptActionResult identity) := by
  refine .withState fun s => .ite (.pure _) (.ite (.pure _) (.bind (Within.modify fun t => ?_)
    fun _ => .pure _))
  exact ⟨t.dtmf, [], [], _, t.ownedCompletedActions, t.promptGeneration,
    by simp; rfl, by simp, by simp⟩

end QuietHandlers

/-- What the deduplication makes of a leg event: whether it is new, and what is remembered. -/
def judged (s : Coordinator) (event : CallLegEvent) : Bool × LegEventDeduper :=
  if event.callId.any (· ≠ s.call.callId) then (false, s.legEventDeduper)
  else s.legEventDeduper.accept event.adapterCallLegId event.legEventSeq

theorem post_acceptLegEvent {env : Env} {s : Coordinator} {event : CallLegEvent}
    {Q : Bool → Coordinator → Prop} {E : Coordinator → Prop}
    (h : Q (s.judged event).1 { s with legEventDeduper := (s.judged event).2 }) :
    Post (acceptLegEvent event) env s Q E := by
  rw [acceptLegEvent, post_bind, post_get, post_ite]
  rw [judged] at h
  split
  · next hForeign =>
      rw [if_pos hForeign] at h
      exact h
  · next hOwn =>
      rw [if_neg hOwn] at h
      exact h

end Coordinator

end VoipSwitch
