import VoipSwitch.Call.Desk
import VoipSwitch.Session.Manager

/-! The handoff of a coordinator from one session to another. The registry issues a token,
both actors give themselves up to the driver, and the driver either installs the coordinator
on the target's session or starts both actors again as they were. -/
namespace VoipSwitch

open Keyed Stateful
open Coordinator (CalleeActorView Input Invitation)

/-- Why a handoff came to nothing. A registry error is reported behind the stage it stopped. -/
inductive HandoffFailure where
  | reason (text : String)
  | registry (stage : String) (error : CoordinatorHandoffError)
  | aggregate (error : CallError)
deriving DecidableEq

/-- What one of the two actors has answered to the request to get ready. -/
inductive Readiness (α : Type) where
  | awaited
  | ready (actor : α)
  | failed (failure : HandoffFailure)

namespace Readiness

variable {α : Type}

def actor? : Readiness α → Option α
  | .ready actor => some actor
  | _ => none

def failure? : Readiness α → Option HandoffFailure
  | .failed failure => some failure
  | _ => none

def isAwaited : Readiness α → Bool
  | .awaited => true
  | _ => false

end Readiness

/-- A handoff under way, with the actors that gave themselves up for it. -/
structure Handoff where
  token : CoordinatorHandoffToken
  source : Readiness Coordinator := .awaited
  target : Readiness CalleeActorView := .awaited

namespace Coordinator

/-- The owner that the aggregate names. -/
def identity (s : Coordinator) : CoordinatorIdentity where
  sessionId := s.call.aggregate.coordinator
  generation := s.call.aggregate.coordinatorGeneration

/-- What keeps a package from being installed on this target. -/
def targetReady (s : Coordinator) (token : CoordinatorHandoffToken) (target : CalleeActorView) :
    Option HandoffFailure :=
  if target.session.callId ≠ token.callId ∨ target.session.id ≠ token.targetSessionId
      ∨ target.session.state.isTerminal then
    some (.reason "coordinator_handoff_target_unavailable")
  else if s.call.callId ≠ token.callId ∨ s.ownedSessionId ≠ token.sourceSessionId
      ∨ s.call.aggregate.coordinator ≠ token.sourceSessionId
      ∨ s.call.aggregate.coordinatorGeneration ≠ token.sourceGeneration
      ∨ target.coordinatorCallId ≠ token.callId then
    some (.reason "coordinator_handoff_package_mismatch")
  else none

/-- What makes `install_on` give the package back. -/
def installFailure (s : Coordinator) (token : CoordinatorHandoffToken) (target : CalleeActorView)
    (committed : CoordinatorIdentity) : Option HandoffFailure :=
  if committed.sessionId ≠ token.targetSessionId ∨
    committed.generation ≠ token.targetGeneration then
    some (.reason "coordinator_handoff_not_committed")
  else
    match s.targetReady token target with
    | some failure => some failure
    | none =>
      match (CallAggregate.handoffCoordinator token.sourceSessionId token.sourceGeneration
          token.targetSessionId () s.call.aggregate).1 with
      | .error error => some (.aggregate error)
      | .ok generation =>
        if generation = token.targetGeneration then none
        else some (.reason "coordinator_handoff_generation_mismatch")

/-- `prepare_handoff`: the actor gives itself up or says why it does not. -/
def prepareHandoff (env : Env) (token : CoordinatorHandoffToken) (s : Coordinator) :
    Readiness Coordinator :=
  if s.handoffPrepared token then
    .ready (step env (.control .coordinator (.prepareCoordinatorHandoff token)) s)
  else .failed (.reason "coordinator_handoff_prepare_mismatch")

/-- The inputs that reach an actor without the help of a handoff. -/
def Input.isOwn : Input → Bool
  | .installHandoff _ _ | .rollbackHandoff => false
  | .control .coordinator (.prepareCoordinatorHandoff _) => false
  | _ => true

/-- A callee's actor gives itself up for the handoff or says why it does not. -/
def CalleeActorView.prepareTarget (token : CoordinatorHandoffToken) (callee : CalleeActorView) :
    Readiness CalleeActorView :=
  if callee.session.callId ≠ token.callId ∨ callee.session.id ≠ token.targetSessionId
      ∨ callee.session.state.isTerminal then
    .failed (.reason "coordinator_handoff_target_unavailable")
  else .ready callee

end Coordinator

namespace Coordinator

/-- The actor of a callee's session before it runs. -/
def CalleeActorView.new (session : Session) (coordinatorCallId : CallId) (actionGeneration : Nat) :
    CalleeActorView where
  session := session
  coordinatorCallId := coordinatorCallId
  legEventDeduper := {}
  actionGeneration := actionGeneration
  completedActions := []
  dtmfSource := {}

/-- The actor for the session of a new call's first callee. -/
def firstCallee (invitation : Invitation) (s : Coordinator) : Except Error CalleeActorView :=
  match s.call.makeCalleeSession (calleeSessionIdOf invitation.callId 1) 1
      invitation.config.first.outboundTarget invitation.startedAtMs with
  | .error error => .error error
  | .ok session => .ok (.new session invitation.callId 1)

end Coordinator

/-- What the runtime holds. A session handle is known by the session whose mailbox it leads
to, a coordinator handle by its call. -/
structure Runtime where
  manager : SessionManager SessionId CallId
  coordinators : List Coordinator
  callees : List CalleeActorView
  handoffs : List Handoff
  /-- The calls whose coordinator has reported its end. -/
  finished : List CallId

namespace Runtime

def start : Runtime where
  manager := .empty
  coordinators := []
  callees := []
  handoffs := []
  finished := []

/-- The coordinators that exist: those that run and those that a handoff holds. -/
def holders (x : Runtime) : List Coordinator :=
  x.coordinators ++ x.handoffs.filterMap fun handoff => handoff.source.actor?

/-- The callee actors that exist. -/
def targets (x : Runtime) : List CalleeActorView :=
  x.callees ++ x.handoffs.filterMap fun handoff => handoff.target.actor?

/-- A coordinator's mailbox is closed once the actor that reads it is gone. -/
def isClosed (x : Runtime) (callId : CallId) : Bool :=
  !x.holders.any fun s => s.call.callId = callId

def handoffReadyCapacity : Nat := 32

/-- Ask for a handoff: why it is refused at once, if it is, and what it leaves. -/
def beginCoordinatorHandoff (callId : CallId) (targetSessionId : SessionId) (x : Runtime) :
    Option HandoffFailure × Runtime :=
  if handoffReadyCapacity ≤ x.handoffs.length then
    (some (.reason "coordinator_handoff_capacity_exhausted"), x)
  else
    match x.manager.coordinatorIdentity callId with
    | none => (some (.reason "coordinator_handoff_call_not_found"), x)
    | some source =>
      if (x.manager.coordinatorHandle x.isClosed callId).isNone then
        (some (.reason "coordinator_handoff_source_unavailable"), x)
      else if (x.manager.lookupBySession targetSessionId).isNone then
        (some (.reason "coordinator_handoff_target_unavailable"), x)
      else
        match SessionManager.prepareCoordinatorHandoff callId source.sessionId source.generation
            targetSessionId () x.manager with
        | (.error error, manager) =>
          (some (.registry "coordinator_handoff_prepare_failed" error), { x with manager })
        | (.ok token, manager) =>
          (none, { x with manager, handoffs := x.handoffs ++ [{ token }] })

/-- Start the actors of a failed handoff again, as they were. -/
def recoverActors (env : Env) (handoff : Handoff) (x : Runtime) : Runtime :=
  { x with
    coordinators := x.coordinators ++
      (handoff.source.actor?.map (Coordinator.step env .rollbackHandoff)).toList
    callees := x.callees ++ handoff.target.actor?.toList }

/-- Give the token back and start the actors again. -/
def abortHandoff (env : Env) (handoff : Handoff) (x : Runtime) : Runtime :=
  recoverActors env handoff { x with
    manager := (SessionManager.abortCoordinatorHandoff handoff.token).final () x.manager }

/-- Both actors have answered: install the coordinator on the target, or recover. -/
def completeCoordinatorHandoff (env : Env) (handoff : Handoff) (x : Runtime) :
    Except HandoffFailure CoordinatorIdentity × Runtime :=
  match handoff.source.actor?, handoff.target.actor? with
  | some package, some target =>
    match package.targetReady handoff.token target with
    | some failure => (.error failure, x.abortHandoff env handoff)
    | none =>
      match SessionManager.commitCoordinatorHandoff handoff.token () x.manager with
      | (.error error, manager) =>
        (.error (.registry "coordinator_handoff_commit_failed" error),
          abortHandoff env handoff { x with manager })
      | (.ok committed, manager) =>
        match package.installFailure handoff.token target committed with
        | none =>
          (.ok committed, { x with
            manager := manager.unregisterSession handoff.token.sourceSessionId
            coordinators := x.coordinators ++
              [package.step env (.installHandoff target committed)] })
        | some failure =>
          (.error failure, recoverActors env
            { handoff with source := .ready (package.step env (.installHandoff target committed)) }
            { x with
              manager := (SessionManager.rollbackCommittedCoordinatorHandoff handoff.token).final ()
                manager })
  | _, _ =>
    (.error (((handoff.source.failure?).orElse fun _ => handoff.target.failure?).getD
      (.reason "coordinator_handoff_not_ready")), x.abortHandoff env handoff)

/-- A call identifier that was not in use before. -/
structure FreshCall (x : Runtime) (callId : CallId) : Prop where
  holders : ∀ s ∈ x.holders, s.call.callId ≠ callId
  registered : x.manager.callCoordinators.get callId = none
  unfinished : callId ∉ x.finished
  handoffs : ∀ handoff ∈ x.handoffs, handoff.token.callId ≠ callId

/-- The coordinator of a call goes on with its loop or has left it. -/
def surviving (s : Coordinator) : List Coordinator := if s.stopped then [] else [s]

/-- What the runtime may do next. Actors are independent tasks, so any of them may be the
next one to move; requests, registrations and teardowns come at any time. -/
inductive Next (x : Runtime) : Runtime → Prop where
  /-- A call was created: both actors are registered and started. -/
  | admitCall {invitation : Invitation} {s : Coordinator} {callee : CalleeActorView}
      (hCreate : Coordinator.create invitation = .ok s)
      (hFirst : s.firstCallee invitation = .ok callee) (hFresh : x.FreshCall invitation.callId)
      (hCaller : x.manager.sessions.contains invitation.callerSessionId = false)
      (hCallee : x.manager.sessions.contains callee.session.id = false)
      (hDistinct : callee.session.id ≠ invitation.callerSessionId) :
      Next x { x with
        manager := (x.manager.registerCaller invitation.callerSessionId invitation.callId
          invitation.callerAdapterLegId invitation.callerSessionId
          invitation.callId).registerCallee callee.session.id invitation.callId callee.session.id
        coordinators := x.coordinators ++ [s]
        callees := x.callees ++ [callee] }
  /-- A callee's actor is registered and started. -/
  | registerCallee {callee : CalleeActorView} (callId : CallId)
      (hCallee : x.manager.sessions.contains callee.session.id = false) :
      Next x { x with
        manager := x.manager.registerCallee callee.session.id callId callee.session.id
        callees := x.callees ++ [callee] }
  | bindAdapterLeg (sessionId : SessionId) (leg : AdapterCallLegId) :
      Next x { x with manager := (x.manager.bindAdapterLeg sessionId leg).2 }
  | unregisterSession (sessionId : SessionId) :
      Next x { x with manager := x.manager.unregisterSession sessionId }
  | destroyCall (callId : CallId) : Next x { x with manager := x.manager.destroyCall callId }
  | requestHandoff (callId : CallId) (target : SessionId) :
      Next x (x.beginCoordinatorHandoff callId target).2
  /-- A coordinator handles one input. -/
  | coordinatorActs {before after : List Coordinator} {s : Coordinator} (env : Env)
      (input : Input) (hActors : x.coordinators = before ++ s :: after)
      (hAllowed : s.admissible input) (hOwn : input.isOwn = true) :
      Next x { x with
        coordinators := before ++ surviving (s.step env input) ++ after
        finished :=
          if (s.step env input).stopped then s.call.callId :: x.finished else x.finished }
  /-- A callee's actor handles one message; it stays on its session. -/
  | calleeActs {before after : List CalleeActorView} {callee callee' : CalleeActorView}
      (hActors : x.callees = before ++ callee :: after)
      (hSession : callee'.session.id = callee.session.id) :
      Next x { x with callees := before ++ callee' :: after }
  | calleeStops {before after : List CalleeActorView} {callee : CalleeActorView}
      (hActors : x.callees = before ++ callee :: after) :
        Next x { x with callees := before ++ after }
  /-- The coordinator takes the request to give itself up from its mailbox. -/
  | sourceAnswers {before after : List Coordinator} {s : Coordinator}
      {earlier later : List Handoff} {handoff : Handoff} (env : Env)
      (hActors : x.coordinators = before ++ s :: after)
      (hHandoffs : x.handoffs = earlier ++ handoff :: later)
      (hAwaited : handoff.source.isAwaited = true) (hRunning : s.running = true)
      (hMailbox : s.call.callId = handoff.token.callId) (hReply : env.handoffAwaited = true) :
      Next x { x with
        coordinators := before ++ (if s.handoffPrepared handoff.token then [] else [s]) ++ after
        handoffs := earlier ++
          { handoff with source := s.prepareHandoff env handoff.token } :: later }
  /-- The request reaches no actor that would answer it. -/
  | sourceLost {earlier later : List Handoff} {handoff : Handoff}
      (hHandoffs : x.handoffs = earlier ++ handoff :: later)
      (hAwaited : handoff.source.isAwaited = true) :
      Next x { x with
        handoffs := earlier ++
          { handoff with
            source := .failed (.reason "coordinator_handoff_source_channel_closed") } :: later }
  | targetAnswers {before after : List CalleeActorView} {callee : CalleeActorView}
      {earlier later : List Handoff} {handoff : Handoff}
      (hActors : x.callees = before ++ callee :: after)
      (hHandoffs : x.handoffs = earlier ++ handoff :: later)
      (hAwaited : handoff.target.isAwaited = true)
      (hMailbox : callee.session.id = handoff.token.targetSessionId) :
      Next x { x with
        callees := before ++
          (if (callee.prepareTarget handoff.token).actor?.isSome then [] else [callee]) ++ after
        handoffs :=
          earlier ++ { handoff with target := callee.prepareTarget handoff.token } :: later }
  | targetLost {earlier later : List Handoff} {handoff : Handoff}
      (hHandoffs : x.handoffs = earlier ++ handoff :: later)
      (hAwaited : handoff.target.isAwaited = true) :
      Next x { x with
        handoffs := earlier ++
          { handoff with
            target := .failed (.reason "coordinator_handoff_target_channel_closed") } :: later }
  | completeHandoff {earlier later : List Handoff} {handoff : Handoff} (env : Env)
      (hHandoffs : x.handoffs = earlier ++ handoff :: later)
      (hSource : handoff.source.isAwaited = false) (hTarget : handoff.target.isAwaited = false) :
      Next x (completeCoordinatorHandoff env handoff { x with handoffs := earlier ++ later }).2
  /-- The runtime no longer takes the answers: both actors go on as they were. -/
  | abandonHandoff {earlier later : List Handoff} {handoff : Handoff} (env : Env)
      (hHandoffs : x.handoffs = earlier ++ handoff :: later)
      (hSource : handoff.source.isAwaited = false) (hTarget : handoff.target.isAwaited = false) :
      Next x (recoverActors env handoff { x with handoffs := earlier ++ later })

/-- The runtime as a transition system. -/
def system : Transition.System Runtime Unit where
  init x := x = start
  next x _ y := x.Next y

instance decidableFreshCall (x : Runtime) (callId : CallId) : Decidable (x.FreshCall callId) :=
  decidable_of_iff ((∀ s ∈ x.holders, s.call.callId ≠ callId) ∧
      x.manager.callCoordinators.get callId = none ∧ callId ∉ x.finished ∧
      ∀ handoff ∈ x.handoffs, handoff.token.callId ≠ callId)
    ⟨fun h => ⟨h.1, h.2.1, h.2.2.1, h.2.2.2⟩,
      fun h => ⟨h.holders, h.registered, h.unfinished, h.handoffs⟩⟩

/-- Moves of a runtime with one call: it is always the first actor that moves, and the first
handoff that it moves for. -/
inductive Move where
  | admitCall (invitation : Invitation)
  | bindAdapterLeg (sessionId : SessionId) (leg : AdapterCallLegId)
  | unregisterSession (sessionId : SessionId)
  | requestHandoff (callId : CallId) (target : SessionId)
  | coordinatorActs (env : Env) (input : Input)
  | sourceAnswers (env : Env)
  | targetAnswers
  | completeHandoff (env : Env)

/-- What a move leads to, if it is possible. -/
def move (x : Runtime) : Move → Option Runtime
  | .admitCall invitation =>
    match Coordinator.create invitation with
    | .error _ => none
    | .ok s =>
      match s.firstCallee invitation with
      | .error _ => none
      | .ok callee =>
        if x.FreshCall invitation.callId
            ∧ x.manager.sessions.contains invitation.callerSessionId = false
            ∧ x.manager.sessions.contains callee.session.id = false
            ∧ callee.session.id ≠ invitation.callerSessionId then
          some { x with
            manager := (x.manager.registerCaller invitation.callerSessionId invitation.callId
              invitation.callerAdapterLegId invitation.callerSessionId
              invitation.callId).registerCallee callee.session.id invitation.callId
                callee.session.id
            coordinators := x.coordinators ++ [s]
            callees := x.callees ++ [callee] }
        else none
  | .bindAdapterLeg sessionId leg =>
    some { x with manager := (x.manager.bindAdapterLeg sessionId leg).2 }
  | .unregisterSession sessionId =>
    some { x with manager := x.manager.unregisterSession sessionId }
  | .requestHandoff callId target => some (x.beginCoordinatorHandoff callId target).2
  | .coordinatorActs env input =>
    match x.coordinators with
    | [] => none
    | s :: after =>
      if s.admissible input ∧ input.isOwn = true then
        some { x with
          coordinators := surviving (s.step env input) ++ after
          finished :=
            if (s.step env input).stopped then s.call.callId :: x.finished else x.finished }
      else none
  | .sourceAnswers env =>
    match x.coordinators, x.handoffs with
    | s :: after, handoff :: later =>
      if handoff.source.isAwaited = true ∧ s.running = true
          ∧ s.call.callId = handoff.token.callId ∧ env.handoffAwaited = true then
        some { x with
          coordinators := (if s.handoffPrepared handoff.token then [] else [s]) ++ after
          handoffs := { handoff with source := s.prepareHandoff env handoff.token } :: later }
      else none
    | _, _ => none
  | .targetAnswers =>
    match x.callees, x.handoffs with
    | callee :: after, handoff :: later =>
      if handoff.target.isAwaited = true ∧ callee.session.id = handoff.token.targetSessionId then
        some { x with
          callees :=
            (if (callee.prepareTarget handoff.token).actor?.isSome then [] else [callee]) ++ after
          handoffs := { handoff with target := callee.prepareTarget handoff.token } :: later }
      else none
    | _, _ => none
  | .completeHandoff env =>
    match x.handoffs with
    | [] => none
    | handoff :: later =>
      if handoff.source.isAwaited = false ∧ handoff.target.isAwaited = false then
        some (completeCoordinatorHandoff env handoff { x with handoffs := later }).2
      else none

/-- A move that the runtime takes is one of its steps. -/
theorem next_of_move {x y : Runtime} {m : Move} (h : x.move m = some y) : x.Next y := by
  cases m with
  | admitCall invitation =>
      simp only [move] at h
      split at h
      · cases h
      · next s hCreate =>
          split at h
          · cases h
          · next callee hFirst =>
              split at h
              · next hFresh =>
                  obtain rfl := Option.some.inj h
                  exact .admitCall hCreate hFirst hFresh.1 hFresh.2.1 hFresh.2.2.1 hFresh.2.2.2
              · cases h
  | bindAdapterLeg sessionId leg =>
      obtain rfl := Option.some.inj h
      exact .bindAdapterLeg sessionId leg
  | unregisterSession sessionId =>
      obtain rfl := Option.some.inj h
      exact .unregisterSession sessionId
  | requestHandoff callId target =>
      obtain rfl := Option.some.inj h
      exact .requestHandoff callId target
  | coordinatorActs env input =>
      simp only [move] at h
      split at h
      · cases h
      · next s after hActors =>
          split at h
          · next hAllowed =>
              obtain rfl := Option.some.inj h
              exact @Next.coordinatorActs x [] after s env input hActors hAllowed.1 hAllowed.2
          · cases h
  | sourceAnswers env =>
      simp only [move] at h
      split at h
      · next s after handoff later hActors hHandoffs =>
          split at h
          · next hAllowed =>
              obtain rfl := Option.some.inj h
              exact @Next.sourceAnswers x [] after s [] later handoff env hActors
                hHandoffs hAllowed.1
                hAllowed.2.1 hAllowed.2.2.1 hAllowed.2.2.2
          · cases h
      · cases h
  | targetAnswers =>
      simp only [move] at h
      split at h
      · next callee after handoff later hActors hHandoffs =>
          split at h
          · next hAllowed =>
              obtain rfl := Option.some.inj h
              exact @Next.targetAnswers x [] after callee [] later handoff hActors hHandoffs
                hAllowed.1 hAllowed.2
          · cases h
      · cases h
  | completeHandoff env =>
      simp only [move] at h
      split at h
      · cases h
      · next handoff later hHandoffs =>
          split at h
          · next hAnswered =>
              obtain rfl := Option.some.inj h
              exact @Next.completeHandoff x [] later handoff env hHandoffs hAnswered.1 hAnswered.2
          · cases h

theorem run_of_move {x y : Runtime} {m : Move} (h : x.move m = some y) :
    Transition.Runs system x y :=
  Transition.RunsWithin.refl.step (i := ()) trivial (next_of_move h)

/-- The runtime that a list of moves leads to. -/
def play (moves : List Move) : Option Runtime := moves.foldlM move start

theorem reachable_of_foldlM {x y : Runtime} {moves : List Move}
    (hStart : Transition.Reachable system x) (h : moves.foldlM move x = some y) :
    Transition.Reachable system y := by
  induction moves generalizing x with
  | nil =>
      obtain rfl := Option.some.inj h
      exact hStart
  | cons m rest ih =>
      rw [List.foldlM_cons, Option.bind_eq_bind, Option.bind_eq_some_iff] at h
      obtain ⟨z, hMove, hRest⟩ := h
      exact ih (hStart.runs (run_of_move hMove)) hRest

theorem reachable_of_play {x : Runtime} {moves : List Move} (h : play moves = some x) :
    Transition.Reachable system x :=
  reachable_of_foldlM ⟨start, rfl, .refl⟩ h

/-- Everything that a handoff from the caller's session to the first callee's takes. -/
def handoffMoves (env : Env) (callId : CallId) (target : SessionId) : List Move :=
  [.requestHandoff callId target, .sourceAnswers { env with handoffAwaited := true },
    .targetAnswers, .completeHandoff env]

end Runtime

end VoipSwitch
