import VoipSwitch.Call.Step

/-! Handlers that only end a call, or the part of it that a transfer added. They neither move
the hunt to another candidate nor an answer to its next step, so whatever concerns those two
survives them. -/
namespace VoipSwitch

open Stateful Keyed Proc

/-- What the end of a call leaves as it was. -/
structure Core where
  actorStarted : Bool
  initialActions : List InitialCallAction
  pendingAnswer : Option PendingAnswer
  deferredCalleeDisconnect : Option CallLegEvent
  remainingCandidates : List OutboundCandidate
  currentAttemptSeq : Nat
  pendingAttemptCandidate : Option PendingAttemptCandidate
  pendingAttemptRegistration : Option PendingAttemptRegistration
  attemptQueue : List AttemptRegistration
  configSnapshot : CallConfigSnapshot
  caller : Session
  currentAttemptId : CalleeAttemptId
  calleeSessionId : SessionId
  callId : CallId
  calleeAttempts : OrdMap CalleeAttemptId CalleeAttempt

/-- Entries that the end of a call in this state may add to its journal. -/
def Entry.ends (state : CallState) : Entry → Prop
  | .stateAssigned source target => source = target ∨ (source = state ∧ target = .terminating)
  | .attemptRegistered _ _ _ | .calleeEvent _ _ _ => False
  | _ => True

/-- The assignments among these entries, the newest first, lead from one state to the other. -/
def Leads (source : CallState) : CallState → List Entry → Prop
  | target, [] => target = source
  | target, .stateAssigned from' to' :: rest => to' = target ∧ Leads source from' rest
  | target, _ :: rest => Leads source target rest

theorem Leads.append {source middle target : CallState} {earlier later : List Entry}
    (h : Leads source middle earlier) (hLater : Leads middle target later) :
    Leads source target (later ++ earlier) := by
  induction later generalizing target with
  | nil =>
      obtain rfl := hLater
      exact h
  | cons entry rest ih =>
      cases entry with
      | stateAssigned _ _ => exact ⟨hLater.1, ih hLater.2⟩
      | _ => exact ih hLater

theorem Leads.of_idle {state : CallState} {entries : List Entry}
    (h : ∀ entry ∈ entries, entry.isIdle = true) : Leads state state entries := by
  induction entries with
  | nil => rfl
  | cons entry rest ih =>
      have hRest := ih fun other hMem => h other (.tail _ hMem)
      have hIdle := h entry (.head _)
      cases entry with
      | stateAssigned _ _ => exact (Bool.false_ne_true hIdle).elim
      | _ => exact hRest

/-- An actor's place in the call: the session whose mailbox it reads, the owner that the
aggregate names, and the leg events that were seen. -/
structure Desk where
  callId : CallId
  callerSessionId : SessionId
  ownedSessionId : SessionId
  owner : SessionId × Nat
  legEventDeduper : LegEventDeduper

namespace Coordinator

def desk (s : Coordinator) : Desk where
  callId := s.call.callId
  callerSessionId := s.call.callerSessionId
  ownedSessionId := s.ownedSessionId
  owner := s.call.aggregate.owner
  legEventDeduper := s.legEventDeduper

def core (s : Coordinator) : Core where
  actorStarted := s.actorStarted
  initialActions := s.initialActions
  pendingAnswer := s.pendingAnswer
  deferredCalleeDisconnect := s.deferredCalleeDisconnect
  remainingCandidates := s.remainingCandidates
  currentAttemptSeq := s.currentAttemptSeq
  pendingAttemptCandidate := s.pendingAttemptCandidate
  pendingAttemptRegistration := s.pendingAttemptRegistration
  attemptQueue := s.attemptQueue
  configSnapshot := s.call.configSnapshot
  caller := s.call.caller
  currentAttemptId := s.call.currentAttemptId
  calleeSessionId := s.call.calleeSessionId
  callId := s.call.callId
  calleeAttempts := s.call.aggregate.calleeAttempts

/-- The bridges of the call, and the one that its media goes over. -/
def wiring (s : Coordinator) : Option BridgeId × OrdMap BridgeId BridgeEdge :=
  (s.call.currentBridgeId, s.call.aggregate.bridges)

/-- `t` arises from `s` by steps towards the end of the call. -/
structure Ending (s t : Coordinator) : Prop where
  core : t.core = s.core
  desk : t.desk = s.desk
  legs : s.call.aggregate.LegsFiled → t.call.aggregate.LegsFiled
  /-- Bridges are released by the finalization only. -/
  wiring : t.finalizationStarted = false → s.finalizationStarted = false ∧ t.wiring = s.wiring
  state : t.call.state = s.call.state ∨ t.call.state = .terminating
  retry : t.retryAfterCleanup = s.retryAfterCleanup ∨ t.retryAfterCleanup = none
  transfer : t.pendingAiTransfer = s.pendingAiTransfer ∨ t.pendingAiTransfer = none
  /-- An answer is given up only together with the call. -/
  answering : t.answerInProgress = s.answerInProgress ∨
    t.answerInProgress = false ∧ t.call.isTerminating = true
  queue : ∃ added, t.mediaQueue = s.mediaQueue ++ added ∧ ∀ action ∈ added, action.isDtmf = true
  generation : ∃ bumps, t.mediaGeneration = satSucc64^[bumps] s.mediaGeneration
  journal : ∃ added, t.journal = added ++ s.journal ∧ (∀ entry ∈ added, entry.ends s.call.state) ∧
    Leads s.call.state t.call.state added

/-- The fields that `Ending` looks at. -/
def watched (s : Coordinator) : Core × (Desk × OrdMap SessionId CallLeg) ×
    (Bool × Option BridgeId × OrdMap BridgeId BridgeEdge) × CallState × Option Nat ×
    Option PendingAiTransfer × Bool × List MediaAction × Nat × List Entry :=
  (s.core, (s.desk, s.call.aggregate.legs), (s.finalizationStarted, s.wiring), s.call.state,
    s.retryAfterCleanup, s.pendingAiTransfer, s.answerInProgress, s.mediaQueue, s.mediaGeneration,
    s.journal)

namespace Ending

variable {s t u : Coordinator}

theorem refl (s : Coordinator) : Ending s s where
  core := rfl
  desk := rfl
  legs := id
  wiring h := ⟨h, rfl⟩
  state := .inl rfl
  retry := .inl rfl
  transfer := .inl rfl
  answering := .inl rfl
  queue := ⟨[], (List.append_nil _).symm, fun _ h => nomatch h⟩
  generation := ⟨0, rfl⟩
  journal := ⟨[], rfl, fun _ h => (List.not_mem_nil h).elim, rfl⟩

/-- Nothing but the watched fields matters. -/
theorem congr {t' : Coordinator} (h : Ending s t) (hSame : t'.watched = t.watched) :
    Ending s t' := by
  simp only [watched, Prod.mk.injEq] at hSame
  obtain ⟨hCore, ⟨hDesk, hLegs⟩, ⟨hFinal, hWiring⟩, hState, hRetry, hTransfer, hAnswering, hQueue,
    hGeneration, hJournal⟩ := hSame
  constructor
  · rw [hCore]
    exact h.core
  · rw [hDesk]
    exact h.desk
  · exact fun hFiled => (h.legs hFiled).of_legs hLegs
  · rw [hFinal, hWiring]
    exact h.wiring
  · rw [hState]
    exact h.state
  · rw [hRetry]
    exact h.retry
  · rw [hTransfer]
    exact h.transfer
  · rw [hAnswering, CallRuntime.isTerminating, hState]
    exact h.answering
  · rw [hQueue]
    exact h.queue
  · rw [hGeneration]
    exact h.generation
  · rw [hJournal, hState]
    exact h.journal

/-- An update of fields that are not watched. -/
theorem minor (hSame : t.watched = s.watched) : Ending s t := (refl s).congr hSame

theorem dropTransfer (s : Coordinator) : Ending s { s with pendingAiTransfer := none } :=
  { refl s with transfer := .inr rfl }

theorem dropRetry (s : Coordinator) : Ending s { s with retryAfterCleanup := none } :=
  { refl s with retry := .inr rfl }

theorem dropAnswer (h : s.call.isTerminating = true) :
    Ending s { s with answerInProgress := false } :=
  { refl s with answering := .inr ⟨rfl, h⟩ }

theorem bump (s : Coordinator) :
    Ending s { s with mediaGeneration := satSucc64 s.mediaGeneration } :=
  { refl s with generation := ⟨1, rfl⟩ }

theorem record (entry : Entry) (hEnds : entry.ends s.call.state)
    (hLeads : Leads s.call.state s.call.state [entry]) :
    Ending s { s with journal := entry :: s.journal } :=
  { refl s with
    journal := ⟨[entry], rfl, fun _ hMem => by rwa [List.mem_singleton.mp hMem], hLeads⟩ }

theorem submit (action : SubmittedAction) :
    Ending s { s with journal := .submitted action :: s.journal } := record _ trivial rfl

/-- The call's state is assigned on its way to the end. -/
theorem assign {state : CallState}
    (hEnds : (Entry.stateAssigned s.call.state state).ends s.call.state)
    (hState : state = s.call.state ∨ state = .terminating) :
    Ending s { s with
      call := { s.call with state := state }
      journal := .stateAssigned s.call.state state :: s.journal } :=
  { refl s with
    state := hState
    answering := .inl rfl
    journal := ⟨[.stateAssigned s.call.state state], rfl,
      fun _ hMem => by rwa [List.mem_singleton.mp hMem], rfl, rfl⟩ }

theorem terminating (h : Ending s t) (hEnds : s.call.isTerminating = true) :
    t.call.isTerminating = true := by
  rw [CallRuntime.isTerminating]
  rcases h.state with hSame | hTerminating
  · rw [hSame]
    exact hEnds
  · rw [hTerminating]
    rfl

/-- Entries after a first part of the end are entries of the whole end. -/
theorem ends_trans {state next : CallState} {entry : Entry}
    (hNext : next = state ∨ next = .terminating) (h : entry.ends next) : entry.ends state := by
  cases entry with
  | stateAssigned source target =>
      rcases h with hSame | ⟨hSource, hTarget⟩
      · exact .inl hSame
      · rcases hNext with hState | hTerminating
        · exact .inr ⟨hSource.trans hState, hTarget⟩
        · exact .inl (by rw [hSource, hTarget, hTerminating])
  | _ => exact h

theorem or_none_trans {α : Type} {a b c d : α} (first : b = a ∨ b = d) (second : c = b ∨ c = d) :
    c = a ∨ c = d := by
  rcases second with rfl | h
  · exact first
  · exact .inr h

theorem trans (s t u : Coordinator) (first : Ending s t) (second : Ending t u) : Ending s u where
  core := second.core.trans first.core
  desk := second.desk.trans first.desk
  legs h := second.legs (first.legs h)
  wiring h := by
    obtain ⟨hMiddle, hSecond⟩ := second.wiring h
    obtain ⟨hFirst, hSame⟩ := first.wiring hMiddle
    exact ⟨hFirst, hSecond.trans hSame⟩
  state := or_none_trans first.state second.state
  retry := or_none_trans first.retry second.retry
  transfer := or_none_trans first.transfer second.transfer
  answering := by
    rcases second.answering with hSame | hDropped
    · rcases first.answering with hKept | ⟨hDropped, hEnds⟩
      · exact .inl (hSame.trans hKept)
      · exact .inr ⟨hSame.trans hDropped, second.terminating hEnds⟩
    · exact .inr hDropped
  queue := by
    obtain ⟨added, hQueue, hDtmf⟩ := first.queue
    obtain ⟨added', hQueue', hDtmf'⟩ := second.queue
    refine ⟨added ++ added', by rw [hQueue', hQueue, List.append_assoc], fun action hMem => ?_⟩
    rcases List.mem_append.mp hMem with h | h
    · exact hDtmf action h
    · exact hDtmf' action h
  generation := by
    obtain ⟨bumps, hBumps⟩ := first.generation
    obtain ⟨bumps', hBumps'⟩ := second.generation
    exact ⟨bumps' + bumps, by rw [hBumps', hBumps, Function.iterate_add_apply]⟩
  journal := by
    obtain ⟨added, hJournal, hEnds, hLeads⟩ := first.journal
    obtain ⟨added', hJournal', hEnds', hLeads'⟩ := second.journal
    refine ⟨added' ++ added, by rw [hJournal', hJournal, List.append_assoc], fun entry hMem => ?_,
      hLeads.append hLeads'⟩
    rcases List.mem_append.mp hMem with h | h
    · exact ends_trans first.state (hEnds' entry h)
    · exact hEnds entry h

/-- The steps do not depend on the retry that is waited for. -/
theorem withRetry (retry : Option Nat) (h : Ending s t) :
    Ending { s with retryAfterCleanup := retry } { t with retryAfterCleanup := retry } :=
  { core := h.core, desk := h.desk, legs := h.legs, wiring := h.wiring, state := h.state
    retry := .inl rfl, transfer := h.transfer
    answering := h.answering, queue := h.queue, generation := h.generation, journal := h.journal }

theorem of_quiet (hQuiet : Quiet s t) : Ending s t := by
  obtain ⟨_, queue, entries, _, _, _, rfl, hQueue, hEntries⟩ := hQuiet
  refine ⟨rfl, rfl, id, fun h => ⟨h, rfl⟩, .inl rfl, .inl rfl, .inl rfl, .inl rfl,
    ⟨queue, rfl, hQueue⟩, ⟨0, rfl⟩,
    ⟨entries, rfl, fun entry hMem => ?_, .of_idle hEntries⟩⟩
  have hIdle := hEntries entry hMem
  cases entry with
  | stateAssigned _ _ | attemptRegistered _ _ _ | calleeEvent _ _ _ =>
      simp only [Entry.isIdle, Bool.false_eq_true] at hIdle
  | _ => trivial

end Ending

/-- `m` only ends the call, whether or not it stops early. -/
abbrev IsEnding {α : Type} (m : Handler α) : Prop := Within Ending (fun _ => Ending) m

namespace IsEnding

variable {α β : Type}

theorem pure (a : α) : IsEnding (pure a : Handler α) := Within.pure Ending.refl a

theorem bind {m : Handler β} {f : β → Handler α} (hm : IsEnding m) (hf : ∀ b, IsEnding (f b)) :
    IsEnding (m >>= f) := Within.bind Ending.trans (fun _ => Ending.trans) hm hf

theorem withState {f : Coordinator → Handler α} (hf : ∀ s, IsEnding (f s)) :
    IsEnding (Proc.get >>= f) := bind (Within.get Ending.refl) hf

theorem withEnv {f : Env → Handler α} (hf : ∀ env, IsEnding (f env)) :
    IsEnding (Proc.read >>= f) := bind (Within.read Ending.refl) hf

theorem ite {c : Prop} [Decidable c] {m n : Handler α} (hm : IsEnding m) (hn : IsEnding n) :
    IsEnding (if c then m else n) := Within.ite hm hn

theorem when {c : Prop} [Decidable c] {m : Handler Unit} (hm : IsEnding m) :
    IsEnding (when c m) := Within.when Ending.refl hm

theorem whenSome {value : Option β} {f : β → Handler Unit} (hf : ∀ b, IsEnding (f b)) :
    IsEnding (whenSome value f) := Within.whenSome Ending.refl hf

theorem of_quiet {m : Handler α} (hm : IsQuiet always m) : IsEnding m := by
  intro env s
  exact hm.post (fun _ t hQuiet => .of_quiet hQuiet) fun _ t hQuiet => .of_quiet hQuiet

theorem updateCall {f : CallRuntime → CallRuntime}
    (hCore : ∀ s : Coordinator, Coordinator.core { s with call := f s.call } = s.core)
    (hDesk : ∀ s : Coordinator, (Coordinator.desk { s with call := f s.call },
      (f s.call).aggregate.legs, Coordinator.wiring { s with call := f s.call })
      = (s.desk, s.call.aggregate.legs, s.wiring))
    (hState : ∀ call, (f call).state = call.state) :
    IsEnding (updateCall f) :=
  Within.modify fun s => by
    obtain ⟨hDesk, hLegs, hWiring⟩ : _ ∧ _ ∧ _ := by
      simpa only [Prod.mk.injEq] using hDesk s
    exact .minor (by rw [watched, watched, hCore s, hDesk, hLegs, hWiring, hState s.call])

end IsEnding

section Primitives

theorem cancelTimer_ending (kind : CallTimerKind) : IsEnding (cancelTimer kind) := by
  intro env s
  cases kind <;> exact Ending.minor rfl

theorem startTimer_ending (kind : CallTimerKind) : IsEnding (startTimer kind) := by
  intro env s
  cases kind <;> exact Ending.minor rfl

theorem bumpMediaGeneration_ending : IsEnding bumpMediaGeneration := fun _ s => .bump s

theorem submitAction_ending (sessionId : SessionId) (kind : ActionKind) (actionId : String)
    (body : List (String × Document.Json)) :
    IsEnding (submitAction sessionId kind actionId body) := by
  intro env s
  rw [post_submitAction]
  exact ⟨fun _ => .submit _, fun _ => .refl s⟩

theorem submitCaller_ending (kind : ActionKind) (actionId : String)
    (body : List (String × Document.Json)) : IsEnding (submitCallerAction kind actionId body) :=
  .withState fun _ => submitAction_ending _ _ _ _

theorem submitCallee_ending (kind : ActionKind) (actionId : String)
    (body : List (String × Document.Json)) : IsEnding (submitCalleeAction kind actionId body) :=
  .withState fun _ => submitAction_ending _ _ _ _

theorem assignTerminating_ending : IsEnding (assignState .terminating) :=
  fun _ _ => .assign (Or.inr ⟨rfl, rfl⟩) (.inr rfl)

theorem beginTerminating_isTerminating (call : CallRuntime) (cause : HangupCause) :
    (call.beginTerminating cause).isTerminating = true := by
  rw [CallRuntime.isTerminating, CallRuntime.beginTerminating]
  cases hEnded : call.state.isTerminatingOrCompleted with
  | true => exact hEnded
  | false => rfl

theorem beginTerminating_ending (cause : HangupCause) : IsEnding (beginTerminating cause) := by
  apply Within.modify
  intro s
  cases hEnded : s.call.state.isTerminatingOrCompleted with
  | true =>
      have hState : (s.call.beginTerminating cause).state = s.call.state := by
        rw [CallRuntime.beginTerminating, hEnded]
        rfl
      exact (Ending.assign (Or.inl hState.symm) (.inl hState)).congr rfl
  | false =>
      have hState : (s.call.beginTerminating cause).state = .terminating := by
        rw [CallRuntime.beginTerminating, hEnded]
        rfl
      exact (Ending.assign (Or.inr ⟨rfl, hState⟩) (.inr hState)).congr rfl

theorem markCalleeTerminated_ending : IsEnding markCalleeTerminated :=
  .updateCall (fun _ => rfl) (fun _ => rfl) fun _ => rfl

end Primitives

section Handlers

theorem leaveLeg_keeps (leftAtMs : Nat) (aggregate : CallAggregate) (sessionId : SessionId) :
    aggregate.Kept (CallRuntime.leaveLeg leftAtMs aggregate sessionId) := by
  have hPost : Post (CallAggregate.markLegLeft sessionId leftAtMs) () aggregate
      (fun _ => aggregate.Kept) aggregate.Kept := by
    apply CallAggregate.withLeg_keeps
    exact fun _ => rfl
  exact hPost.final

theorem leaveLegs_keeps (leftAtMs : Nat) (sessions : List SessionId) (aggregate : CallAggregate) :
    aggregate.Kept (sessions.foldl (CallRuntime.leaveLeg leftAtMs) aggregate) := by
  induction sessions generalizing aggregate with
  | nil => exact ⟨rfl, rfl, rfl, id⟩
  | cons sessionId rest ih =>
      have hRest := ih (CallRuntime.leaveLeg leftAtMs aggregate sessionId)
      have hFirst := leaveLeg_keeps leftAtMs aggregate sessionId
      exact hFirst.trans hRest

/-- Releasing the topology ends legs and bridges; the attempts stay as they are. -/
theorem releaseTopology_keeps (releasedAtMs : Nat) (call : CallRuntime) :
    call.aggregate.Kept (call.releaseTopology releasedAtMs).aggregate := by
  have hOthers := leaveLegs_keeps releasedAtMs
    ((CallRuntime.leaveLeg releasedAtMs (call.aggregate.releaseAllBridges releasedAtMs)
      call.caller.id).calleeAttempts.values.map (·.sessionId))
    (CallRuntime.leaveLeg releasedAtMs (call.aggregate.releaseAllBridges releasedAtMs)
      call.caller.id)
  have hCaller := leaveLeg_keeps releasedAtMs (call.aggregate.releaseAllBridges releasedAtMs)
    call.caller.id
  have hReleased : call.aggregate.Kept (call.aggregate.releaseAllBridges releasedAtMs) :=
    ⟨rfl, rfl, rfl, fun h => h.of_legs rfl⟩
  exact (hReleased.trans hCaller).trans hOthers

/-- What the end of a call leaves of its aggregate. -/
theorem finished_aggregate (env : Env) (s : Coordinator) :
    s.call.aggregate.Kept (s.finished env).call.aggregate :=
  releaseTopology_keeps env.unixTimestampMs { s.call with
    dialTimerGeneration := satSucc64 s.call.dialTimerGeneration
    ringTimerGeneration := satSucc64 s.call.ringTimerGeneration
    cleanupTimerGeneration := satSucc64 s.call.cleanupTimerGeneration }

theorem finished_desk (env : Env) (s : Coordinator) : (s.finished env).desk = s.desk := by
  have hKeeps := finished_aggregate env s
  calc
    (s.finished env).desk = { s.desk with
        callId := (s.finished env).call.callId
        owner := (s.finished env).call.aggregate.owner } := rfl
    _ = { s.desk with callId := s.call.callId, owner := s.call.aggregate.owner } := by
      rw [show (s.finished env).call.callId = s.call.callId from hKeeps.id, hKeeps.owner]
    _ = s.desk := rfl

theorem finished_core (env : Env) (s : Coordinator) : (s.finished env).core = s.core := by
  have hKeeps := finished_aggregate env s
  calc
    (s.finished env).core = { s.core with
        callId := (s.finished env).call.callId
        calleeAttempts := (s.finished env).call.aggregate.calleeAttempts } := rfl
    _ = { s.core with
        callId := s.call.callId
        calleeAttempts := s.call.aggregate.calleeAttempts } := by
      rw [show (s.finished env).call.callId = s.call.callId from hKeeps.id, hKeeps.attempts]
    _ = s.core := rfl

theorem finished_ending (env : Env) (s : Coordinator) : Ending s (s.finished env) where
  core := finished_core env s
  desk := finished_desk env s
  legs := (finished_aggregate env s).legs
  wiring hOpen := by cases hOpen
  state := .inl rfl
  retry := .inl rfl
  transfer := .inl rfl
  answering := .inl rfl
  queue := ⟨[], (List.append_nil _).symm, fun _ h => nomatch h⟩
  generation := ⟨1, rfl⟩
  journal := ⟨[], rfl, fun _ h => (List.not_mem_nil h).elim, rfl⟩

theorem beginFinishCall_ending : IsEnding beginFinishCall := by
  intro env s
  apply post_beginFinishCall
  · intro _
    exact .refl s
  · intro _ t hQuiet
    have hFlag : Ending s { s with finalizationStarted := true } :=
      { Ending.refl s with wiring := fun hOpen => by cases hOpen }
    exact (hFlag.trans _ _ _ (.of_quiet hQuiet)).trans _ _ _ (finished_ending env t)

theorem failAiTransfer_ending (reason : String) : IsEnding (failAiTransfer reason) := by
  apply IsEnding.withEnv
  intro env
  refine .bind (cancelTimer_ending _) fun _ => .bind (cancelTimer_ending _) fun _ => ?_
  refine .bind (.of_quiet bumpPromptGeneration_quiet) fun _ => .withState fun s => ?_
  refine .bind (Within.modify fun s => (Ending.dropTransfer s).congr rfl) fun _ => ?_
  refine .bind (.of_quiet (observe_quiet rfl)) fun _ => ?_
  refine .bind (.whenSome fun transfer => .of_quiet (reportTransfer_quiet _ _ _ _)) fun _ => ?_
  exact .updateCall (fun _ => rfl) (fun _ => rfl) fun _ => rfl

theorem terminateUnanswered_ending (status : Nat) (cause : HangupCause) (actionId : String) :
    IsEnding (terminateUnanswered status cause actionId) := by
  refine .bind (beginTerminating_ending _) fun _ => .bind assignTerminating_ending fun _ => ?_
  refine .bind (.updateCall (fun _ => rfl) (fun _ => rfl) fun _ => rfl) fun _ =>
    .withState fun s => ?_
  exact .bind (submitCaller_ending _ _ _) fun _ => startTimer_ending _

theorem terminateRetrySetup_ending (cause : String) : IsEnding (terminateRetrySetup cause) :=
  .withState fun _ => terminateUnanswered_ending _ _ _

theorem terminateExhaustedRetry_ending (statusCode : Nat) :
    IsEnding (terminateExhaustedRetry statusCode) :=
  .withState fun _ => terminateUnanswered_ending _ _ _

theorem failAttemptSetup_ending (reason : String) : IsEnding (failAttemptSetup reason) :=
  .withState fun _ => .ite (failAiTransfer_ending reason) (terminateRetrySetup_ending reason)

theorem failMediaNegotiation_ending (calleeCommand : ActionKind) :
    IsEnding (failMediaNegotiation calleeCommand) := by
  refine .withState fun s => .ite (.pure _) fun env t => ?_
  rw [post_bind, post_beginTerminating, post_bind, post_modify]
  have hBegun : Ending t { t with
      call := t.call.beginTerminating .internalError
      journal := .stateAssigned t.call.state (t.call.beginTerminating .internalError).state ::
        t.journal } := by
    have hPost := beginTerminating_ending .internalError env t
    rwa [post_beginTerminating] at hPost
  have hDropped := hBegun.trans _ _ _
    (.dropAnswer (beginTerminating_isTerminating t.call .internalError))
  have hRest : IsEnding (do
      assignState .terminating
      updateCall fun call =>
        { call with lastStatus := some 488, hangupCause := some .incompatibleDestination }
      cancelTimer .dial
      cancelTimer .ring
      bumpMediaGeneration
      submitCalleeAction calleeCommand s!"media-failure-callee-{s.call.callId}" []
      submitCallerAction .rejectInboundInvite s!"media-failure-caller-{s.call.callId}"
        (s.statusBody 488)
      startTimer .cleanup) := by
    refine .bind assignTerminating_ending fun _ => ?_
    refine .bind (.updateCall (fun _ => rfl) (fun _ => rfl) fun _ => rfl) fun _ => ?_
    refine .bind (cancelTimer_ending _) fun _ => .bind (cancelTimer_ending _) fun _ => ?_
    refine .bind bumpMediaGeneration_ending fun _ => .bind (submitCallee_ending _ _ _) fun _ => ?_
    exact .bind (submitCaller_ending _ _ _) fun _ => startTimer_ending _
  apply (hRest env _).mono
  · exact fun _ u hu => hDropped.trans _ _ _ hu
  · exact fun u hu => hDropped.trans _ _ _ hu

theorem hangupLateAnswer_ending : IsEnding hangupLateAnswer :=
  .withState fun _ => .ite (.pure _) (.bind (.updateCall (fun _ => rfl) (fun _ => rfl) fun _ => rfl)
    fun _ => submitCallee_ending _ _ _)

theorem disconnectPeer_ending (event : CallLegEvent) : IsEnding (disconnectPeer event) := by
  refine .bind (beginTerminating_ending _) fun _ => .bind (cancelTimer_ending _) fun _ => ?_
  refine .withState fun s => .ite (.ite ?_ (.ite ?_ ?_)) (submitCaller_ending _ _ _)
  · refine .bind (Within.modify .dropTransfer) fun _ => ?_
    exact submitCallee_ending _ _ _
  · exact markCalleeTerminated_ending
  · exact submitCallee_ending _ _ _

theorem finishOrArmCleanup_ending (startCleanupTimer : Bool) :
    IsEnding (finishOrArmCleanup startCleanupTimer) :=
  .withState fun _ => .ite beginFinishCall_ending (.ite (startTimer_ending _) (.pure _))

theorem markLegTerminated_ending (sessionId : Option SessionId) :
    IsEnding (markLegTerminated sessionId) :=
  .withState fun _ => .ite (.updateCall (fun _ => rfl) (fun _ => rfl) fun _ => rfl)
    (.ite markCalleeTerminated_ending (.pure _))

theorem rejectCaller_ending (status : Nat) : IsEnding (rejectCaller status) :=
  .withState fun _ => .bind (beginTerminating_ending _) fun _ =>
    .bind (cancelTimer_ending _) fun _ => submitCaller_ending _ _ _

theorem rejectAfterFailure_ending (event : CallLegEvent) : IsEnding (rejectAfterFailure event) := by
  refine .withState fun s =>
    .bind (.when (.updateCall (fun _ => rfl) (fun _ => rfl) fun _ => rfl)) fun _ => ?_
  refine .bind (beginTerminating_ending _) fun _ => .bind (.when markCalleeTerminated_ending)
    fun _ => ?_
  exact .bind (.when (rejectCaller_ending _)) fun _ => finishOrArmCleanup_ending _

theorem cancelPeer_ending (transferPending : Bool) : IsEnding (cancelPeer transferPending) := by
  refine .bind (beginTerminating_ending _) fun _ => .bind (cancelTimer_ending _) fun _ => ?_
  refine .withState fun s => .ite ?_ (.ite ?_ (.ite ?_ ?_))
  · exact .bind (submitCallee_ending _ _ _) fun _ => .pure _
  · exact .bind markCalleeTerminated_ending fun _ => .pure _
  · exact .bind (submitCallee_ending _ _ _) fun _ => .pure _
  · exact .bind (submitCallee_ending _ _ _) fun _ => .pure _

theorem handleCancelled_ending : IsEnding handleCancelled := by
  refine .bind (cancelTimer_ending _) fun _ => .bind (.of_quiet bumpPromptGeneration_quiet)
    fun _ => .withState fun s => ?_
  refine .bind (Within.modify .dropTransfer) fun _ => ?_
  refine .bind (.updateCall (fun _ => rfl) (fun _ => rfl) fun _ => rfl) fun _ =>
    .bind assignTerminating_ending fun _ => ?_
  refine .bind (.updateCall (fun _ => rfl) (fun _ => rfl) fun _ => rfl) fun _ => .ite ?_ ?_
  · exact .bind (cancelPeer_ending _) fun _ => finishOrArmCleanup_ending _
  · exact .bind (.pure _) fun _ => finishOrArmCleanup_ending _

theorem timeoutAiTransfer_ending (kind : CallTimerKind) (actionId reason : String) :
    IsEnding (timeoutAiTransfer kind actionId reason) :=
  .bind (cancelTimer_ending _) fun _ => .bind (submitCallee_ending _ _ _) fun _ =>
    failAiTransfer_ending reason

theorem timeoutCall_ending (kind : CallTimerKind) (status : Nat) (cause : HangupCause)
    (cancelActionId rejectActionId reason : String) :
    IsEnding (timeoutCall kind status cause cancelActionId rejectActionId reason) := by
  refine .bind (cancelTimer_ending _) fun _ => .bind assignTerminating_ending fun _ => ?_
  refine .bind (.updateCall (fun _ => rfl) (fun _ => rfl) fun _ => rfl) fun _ =>
    .bind (submitCallee_ending _ _ _) fun _ => ?_
  exact .withState fun _ => .bind (submitCaller_ending _ _ _) fun _ => startTimer_ending _

theorem forceRemoval_ending : IsEnding forceRemoval := by
  refine .withState fun s => .bind (.when (submitCaller_ending _ _ _)) fun _ => ?_
  refine .bind (.when (submitCallee_ending _ _ _)) fun _ =>
    .bind (.updateCall (fun _ => rfl) (fun _ => rfl) fun _ => rfl) fun _ => ?_
  exact beginFinishCall_ending

theorem terminateActionFailure_ending (kind : ActionKind) (peerFailure : Bool) :
    IsEnding (terminateActionFailure kind peerFailure) := by
  refine .bind (beginTerminating_ending _) fun _ => .bind assignTerminating_ending fun _ => ?_
  refine .bind (.updateCall (fun _ => rfl) (fun _ => rfl) fun _ => rfl) fun _ =>
    .bind (cancelTimer_ending _) fun _ => ?_
  refine .bind (cancelTimer_ending _) fun _ => .bind (.when markCalleeTerminated_ending) fun _ => ?_
  exact .withState fun _ => .bind (.when (submitCaller_ending _ _ _)) fun _ => startTimer_ending _

theorem endAiCall_ending (cause : HangupCause) (actionId : String)
    (body : List (String × Document.Json)) : IsEnding (endAiCall cause actionId body) := by
  refine .bind (beginTerminating_ending _) fun _ =>
    .bind (.updateCall (fun _ => rfl) (fun _ => rfl) fun _ => rfl) fun _ => ?_
  refine .bind assignTerminating_ending fun _ => .bind markCalleeTerminated_ending fun _ => ?_
  refine .bind (cancelTimer_ending _) fun _ => .bind (cancelTimer_ending _) fun _ => ?_
  exact .bind (submitCaller_ending _ _ _) fun _ => startTimer_ending _

theorem handleAiGatewayUnavailable_ending : IsEnding handleAiGatewayUnavailable :=
  .withState fun _ => .ite (.pure _) (endAiCall_ending _ _ _)

theorem beginShutdown_ending : IsEnding beginShutdown := by
  refine .bind (Within.modify .dropRetry) fun _ => ?_
  refine .withState fun s => .ite (.pure _) (.bind (beginTerminating_ending _) fun _ => ?_)
  refine .bind (cancelTimer_ending _) fun _ => .bind (cancelTimer_ending _) fun _ => ?_
  refine .bind (.when (submitCaller_ending _ _ _)) fun _ => ?_
  refine .bind (.when markCalleeTerminated_ending) fun _ => .withState fun s => ?_
  exact .bind (.when (submitCallee_ending _ _ _)) fun _ => startTimer_ending _

theorem submitOriginate_ending (candidate : OutboundCandidate) (calleeOffer : SdpBody) :
    IsEnding (submitOriginate candidate calleeOffer) := by
  apply IsEnding.withState
  intro s
  split
  · exact submitCallee_ending _ _ _
  · exact submitCallee_ending _ _ _
  · exact .pure _

theorem finishNow_ending (cause : HangupCause) : IsEnding (finishNow cause) :=
  .bind (beginTerminating_ending _) fun _ => beginFinishCall_ending

theorem finishUnexplained_ending : IsEnding finishUnexplained :=
  .bind (.updateCall (fun _ => rfl) (fun _ => rfl) fun _ => rfl) fun _ => beginFinishCall_ending

end Handlers

end Coordinator

end VoipSwitch
