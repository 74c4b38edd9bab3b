import VoipSwitch.Core.Aggregate
import VoipSwitch.Lib.Transition

/-! Runs of the call aggregate: what each of its operations can do to it, and what holds
of the legs, attempts and bridges of every call that is reached. -/
namespace VoipSwitch

open Stateful Keyed Transition

/-- One call of a mutating operation of the aggregate. -/
inductive AggregateOp where
  | updateLegRole (sessionId : SessionId) (role : LegRole) (effectiveAtMs : Nat)
  | markLegLeft (sessionId : SessionId) (leftAtMs : Nat)
  | addBridge (bridgeId : BridgeId) (legA legB : SessionId) (mediaGeneration createdAtMs : Nat)
  | activateBridge (bridgeId : BridgeId) (mediaGeneration activeAtMs : Nat)
  | releaseBridge (bridgeId : BridgeId) (releasedAtMs : Nat)
  | releaseAllBridges (releasedAtMs : Nat)
  | handoffCoordinator (expectedOwner : SessionId) (expectedGeneration : Nat) (target : SessionId)
  | addLeg (session : Session)
  | addCalleeAttempt (attemptId : CalleeAttemptId) (sessionId : SessionId) (target : CalleeTarget)
  | updateLegState (sessionId : SessionId) (state : LegState)
  | updateAttemptState (attemptId : CalleeAttemptId) (state : CalleeAttemptState)
      (cause : Option HangupCause)
  | selectWinner (attemptId : CalleeAttemptId) (answeredAtMs : Nat)
  | replaceWinner (attemptId : CalleeAttemptId) (answeredAtMs : Nat)

/-- The attempt has been selected or has ended, so that it cannot be answered any more. -/
def CalleeAttemptState.isDecided : CalleeAttemptState → Bool
  | .selected | .cancelled | .failed | .destroyed => true
  | _ => false

theorem isDecided_of_validAttemptTransition {state next : CalleeAttemptState}
    (h : validAttemptTransition state next = true) (hDecided : state.isDecided = true) :
    next.isDecided = true := by
  cases state <;> cases next <;>
    simp_all [validAttemptTransition, CalleeAttemptState.isDecided]

namespace CallAggregate

/-- Run one operation; what it returns does not concern the aggregate. -/
def run : AggregateOp → Op Unit
  | .updateLegRole sessionId role effectiveAtMs => updateLegRole sessionId role effectiveAtMs
  | .markLegLeft sessionId leftAtMs => markLegLeft sessionId leftAtMs
  | .addBridge bridgeId legA legB mediaGeneration createdAtMs =>
    addBridge bridgeId legA legB mediaGeneration createdAtMs
  | .activateBridge bridgeId mediaGeneration activeAtMs =>
    activateBridge bridgeId mediaGeneration activeAtMs
  | .releaseBridge bridgeId releasedAtMs => releaseBridge bridgeId releasedAtMs
  | .releaseAllBridges releasedAtMs => Proc.modify (releaseAllBridges releasedAtMs)
  | .handoffCoordinator owner generation target => do
    let _ ← handoffCoordinator owner generation target
    pure ()
  | .addLeg session => addLeg session
  | .addCalleeAttempt attemptId sessionId target => addCalleeAttempt attemptId sessionId target
  | .updateLegState sessionId state => updateLegState sessionId state
  | .updateAttemptState attemptId state cause => updateAttemptState attemptId state cause
  | .selectWinner attemptId answeredAtMs => do
    let _ ← selectWinner attemptId answeredAtMs
    pure ()
  | .replaceWinner attemptId answeredAtMs => do
    let _ ← replaceWinner attemptId answeredAtMs
    pure ()

/-- The aggregate between its creation and the end of the call. A failed operation is a
step too. -/
def system : System CallAggregate AggregateOp where
  init call := ∃ caller bridgePolicy startedAtMs,
    CallAggregate.new caller bridgePolicy startedAtMs = .ok call
  next call op next := next = (run op).final () call

/-- `CallAggregate::is_finished`. -/
def isFinished (call : CallAggregate) : Bool := call.legs.values.all (·.state.isTerminal)

/-! ### What an operation can do -/

/-- An operation that returns has found nothing to do or has made one of these changes. -/
inductive Achieved (call : CallAggregate) : AggregateOp → CallAggregate → Prop where
  | kept {op : AggregateOp} : Achieved call op call
  | roleUpdated {sessionId : SessionId} {role : LegRole} {effectiveAtMs : Nat} :
    Achieved call (.updateLegRole sessionId role effectiveAtMs)
      { call with
        legs := call.legs.adjust sessionId fun leg =>
          if leg.role = role then leg
          else { leg with role, roleHistory := leg.roleHistory ++ [{ role, effectiveAtMs }] } }
  | legLeft {sessionId : SessionId} {leftAtMs : Nat} :
    Achieved call (.markLegLeft sessionId leftAtMs)
      { call with
        legs := call.legs.adjust sessionId fun leg =>
          { leg with leftAtMs := getOrInsert leg.leftAtMs leftAtMs, state := .destroyed } }
  | legStateUpdated {sessionId : SessionId} {state : LegState}
    (hLeg : call.legs.contains sessionId = true) :
    Achieved call (.updateLegState sessionId state)
      { call with legs := call.legs.adjust sessionId fun leg => { leg with state } }
  | legAdded {session : Session} (hFree : call.legs.lookup session.id = none) :
    Achieved call (.addLeg session)
      { call with legs := call.legs.insert session.id (CallLeg.ofSession session) }
  | bridgeAdded {bridgeId : BridgeId} {legA legB : SessionId} {mediaGeneration createdAtMs : Nat}
    (hDistinct : legA ≠ legB) (hA : call.legs.contains legA = true)
    (hB : call.legs.contains legB = true) (hFree : call.bridges.lookup bridgeId = none) :
    Achieved call (.addBridge bridgeId legA legB mediaGeneration createdAtMs)
      { call with
        bridges := call.bridges.insert bridgeId
          { bridgeId, legA, legB, mediaGeneration, state := .planned, createdAtMs,
            activeAtMs := none, releasedAtMs := none } }
  | bridgeActivated {bridgeId : BridgeId} {mediaGeneration activeAtMs : Nat} {bridge : BridgeEdge}
    (hBridge : call.bridges.lookup bridgeId = some bridge) (hPlanned : bridge.state = .planned) :
    Achieved call (.activateBridge bridgeId mediaGeneration activeAtMs)
      { call with
        bridges := call.bridges.adjust bridgeId fun bridge =>
          { bridge with
            state := .active, activeAtMs := getOrInsert bridge.activeAtMs activeAtMs } }
  | bridgeReleased {bridgeId : BridgeId} {releasedAtMs : Nat} :
    Achieved call (.releaseBridge bridgeId releasedAtMs)
      { call with bridges := call.bridges.adjust bridgeId (·.release releasedAtMs) }
  | allReleased {releasedAtMs : Nat} :
    Achieved call (.releaseAllBridges releasedAtMs) (releaseAllBridges releasedAtMs call)
  | handedOff {owner target : SessionId} {generation : Nat} {leg : CallLeg}
    (hTarget : call.legs.lookup target = some leg) (hOther : target ≠ call.coordinator) :
    Achieved call (.handoffCoordinator owner generation target)
      { call with
        coordinator := target, coordinatorGeneration := call.coordinatorGeneration + 1 }
  | attemptAdded {attemptId : CalleeAttemptId} {sessionId : SessionId} {target : CalleeTarget}
    (hLeg : call.legs.contains sessionId = true)
    (hFree : call.calleeAttempts.lookup attemptId = none)
    (hSingle : call.bridgePolicy = .singleCallee → call.calleeAttempts = []) :
    Achieved call (.addCalleeAttempt attemptId sessionId target)
      { call with
        calleeAttempts := call.calleeAttempts.insert attemptId
          { attemptId, sessionId, target, state := .planned, failureCause := none } }
  | attemptMoved {attemptId : CalleeAttemptId} {state : CalleeAttemptState}
    {cause : Option HangupCause} {attempt : CalleeAttempt}
    (hAttempt : call.calleeAttempts.lookup attemptId = some attempt)
    (hValid : validAttemptTransition attempt.state state = true) :
    Achieved call (.updateAttemptState attemptId state cause)
      { call with
        calleeAttempts := call.calleeAttempts.adjust attemptId fun attempt =>
          { attempt with
            state
            failureCause := if cause.isSome then cause else attempt.failureCause } }
  | settled {op : AggregateOp} {attemptId : CalleeAttemptId} {answeredAtMs : Nat}
    {attempt : CalleeAttempt}
    (hOp : op = .selectWinner attemptId answeredAtMs ∨ op = .replaceWinner attemptId answeredAtMs)
    (hAttempt : call.calleeAttempts.lookup attemptId = some attempt)
    (hAnswered : attempt.state = .answered) :
    Achieved call op (settleWinner attemptId answeredAtMs call)

/-- What an operation does on its two outcomes. -/
abbrev Operates {α : Type} (m : Op α) (op : AggregateOp) (call : CallAggregate) : Prop :=
  Proc.Post m () call (fun _ => Achieved call op) fun next => next = call

variable {call : CallAggregate}

/-- Updating a leg in place fails without effect where there is no such leg. -/
theorem withLeg_operates {op : AggregateOp} {sessionId : SessionId} {f : CallLeg → CallLeg}
    (h : call.legs.contains sessionId = true →
      Achieved call op { call with legs := call.legs.adjust sessionId f }) :
    Operates (withLeg sessionId f) op call := by
  simp only [Operates, withLeg, Proc.post_bind, Proc.post_get, Proc.post_ite]
  split
  · next hLeg => exact h hLeg
  · rfl

theorem addBridge_operates (bridgeId : BridgeId) (legA legB : SessionId)
    (mediaGeneration createdAtMs : Nat) :
    Operates (addBridge bridgeId legA legB mediaGeneration createdAtMs)
      (.addBridge bridgeId legA legB mediaGeneration createdAtMs) call := by
  simp only [Operates, addBridge, Proc.post_bind, Proc.post_get, Proc.post_ite]
  split
  · rfl
  next hDistinct =>
  split
  · rfl
  next hA =>
  split
  · rfl
  next hB =>
  split
  · rfl
  next hFree =>
  exact .bridgeAdded hDistinct (not_not.mp hA) (not_not.mp hB)
    (OrdMap.lookup_eq_none_of_not_contains hFree)

theorem activateBridge_operates (bridgeId : BridgeId) (mediaGeneration activeAtMs : Nat) :
    Operates (activateBridge bridgeId mediaGeneration activeAtMs)
      (.activateBridge bridgeId mediaGeneration activeAtMs) call := by
  simp only [Operates, activateBridge, Proc.post_bind, Proc.post_get]
  split
  · rfl
  · next bridge hBridge =>
      rw [Proc.post_ite]
      split
      · rfl
      · split
        · next hPlanned => exact .bridgeActivated hBridge hPlanned
        · exact .kept
        · rfl

theorem releaseBridge_operates (bridgeId : BridgeId) (releasedAtMs : Nat) :
    Operates (releaseBridge bridgeId releasedAtMs) (.releaseBridge bridgeId releasedAtMs) call := by
  simp only [Operates, releaseBridge, Proc.post_bind, Proc.post_get, Proc.post_ite]
  split
  · exact .bridgeReleased
  · rfl

theorem handoffCoordinator_operates (owner : SessionId) (generation : Nat) (target : SessionId) :
    Operates (handoffCoordinator owner generation target)
      (.handoffCoordinator owner generation target) call := by
  simp only [Operates, handoffCoordinator, Proc.post_bind, Proc.post_get, Proc.post_ite]
  split
  · rfl
  next hOwner =>
  rw [not_or, not_not, not_not] at hOwner
  split
  · rfl
  · next leg hTarget =>
      simp only [Proc.post_ite]
      split
      · rfl
      split
      · exact .kept
      next hOther =>
      split
      · rfl
      · rw [Proc.post_bind, Proc.post_modify, Proc.post_pure]
        exact .handedOff hTarget (hOwner.1 ▸ hOther)

theorem addLeg_operates (session : Session) :
    Operates (addLeg session) (.addLeg session) call := by
  simp only [Operates, addLeg, Proc.post_bind, Proc.post_get, Proc.post_ite]
  split
  · rfl
  · split
    · rfl
    · next hFree => exact .legAdded (OrdMap.lookup_eq_none_of_not_contains hFree)

theorem addCalleeAttempt_operates (attemptId : CalleeAttemptId) (sessionId : SessionId)
    (target : CalleeTarget) :
    Operates (addCalleeAttempt attemptId sessionId target)
      (.addCalleeAttempt attemptId sessionId target) call := by
  simp only [Operates, addCalleeAttempt, Proc.post_bind, Proc.post_get]
  split
  · rfl
  · next leg hLeg =>
      simp only [Proc.post_ite]
      split
      · rfl
      split
      · rfl
      next hFree =>
      split
      · rfl
      · next hLimit =>
          apply Achieved.attemptAdded (OrdMap.contains_of_lookup hLeg)
            (OrdMap.lookup_eq_none_of_not_contains hFree)
          intro hPolicy
          rw [not_and, not_not] at hLimit
          exact List.isEmpty_iff.mp (hLimit hPolicy)

theorem updateAttemptState_operates (attemptId : CalleeAttemptId) (state : CalleeAttemptState)
    (cause : Option HangupCause) :
    Operates (updateAttemptState attemptId state cause)
      (.updateAttemptState attemptId state cause) call := by
  simp only [Operates, updateAttemptState, Proc.post_bind, Proc.post_get]
  split
  · rfl
  · next attempt hAttempt =>
      simp only [Proc.post_ite]
      split
      · exact .kept
      · split
        · rfl
        · next hValid => exact .attemptMoved hAttempt (not_not.mp hValid)

theorem selectAnswered_operates {op : AggregateOp} {attemptId : CalleeAttemptId}
    {answeredAtMs : Nat}
    (hOp : op = .selectWinner attemptId answeredAtMs ∨
      op = .replaceWinner attemptId answeredAtMs) :
    Operates (selectAnswered attemptId answeredAtMs) op call := by
  simp only [Operates, selectAnswered, Proc.post_bind, Proc.post_get]
  split
  · rfl
  · next attempt hAttempt =>
      rw [Proc.post_ite]
      split
      · rfl
      · next hAnswered => exact .settled hOp hAttempt (not_not.mp hAnswered)

theorem selectWinner_operates {op : AggregateOp} {attemptId : CalleeAttemptId}
    {answeredAtMs : Nat}
    (hOp : op = .selectWinner attemptId answeredAtMs ∨
      op = .replaceWinner attemptId answeredAtMs) :
    Operates (selectWinner attemptId answeredAtMs) op call := by
  simp only [Operates, selectWinner, Proc.post_bind, Proc.post_get]
  split
  · rw [Proc.post_ite]
    split
    · split
      · exact .kept
      · rfl
    · rfl
  · exact selectAnswered_operates hOp

theorem replaceWinner_operates (attemptId : CalleeAttemptId) (answeredAtMs : Nat) :
    Operates (replaceWinner attemptId answeredAtMs) (.replaceWinner attemptId answeredAtMs)
      call := by
  simp only [Operates, replaceWinner, Proc.post_bind, Proc.post_get, Proc.post_ite]
  split
  · exact selectWinner_operates (.inr rfl)
  · exact selectAnswered_operates (.inr rfl)

/-- An operation returns after one of the changes above, or fails and has done nothing. -/
theorem run_operates (op : AggregateOp) : Operates (run op) op call := by
  cases op with
  | updateLegRole sessionId role effectiveAtMs => exact withLeg_operates fun _ => .roleUpdated
  | markLegLeft sessionId leftAtMs => exact withLeg_operates fun _ => .legLeft
  | updateLegState sessionId state => exact withLeg_operates .legStateUpdated
  | addBridge bridgeId legA legB mediaGeneration createdAtMs =>
      exact addBridge_operates bridgeId legA legB mediaGeneration createdAtMs
  | activateBridge bridgeId mediaGeneration activeAtMs =>
      exact activateBridge_operates bridgeId mediaGeneration activeAtMs
  | releaseBridge bridgeId releasedAtMs => exact releaseBridge_operates bridgeId releasedAtMs
  | releaseAllBridges releasedAtMs => exact .allReleased
  | addLeg session => exact addLeg_operates session
  | addCalleeAttempt attemptId sessionId target =>
      exact addCalleeAttempt_operates attemptId sessionId target
  | updateAttemptState attemptId state cause =>
      exact updateAttemptState_operates attemptId state cause
  | handoffCoordinator owner generation target =>
      rw [Operates, run, Proc.post_bind]
      exact handoffCoordinator_operates owner generation target
  | selectWinner attemptId answeredAtMs =>
      rw [Operates, run, Proc.post_bind]
      exact selectWinner_operates (.inl rfl)
  | replaceWinner attemptId answeredAtMs =>
      rw [Operates, run, Proc.post_bind]
      exact replaceWinner_operates attemptId answeredAtMs

/-- A step of the aggregate is one of the changes above or leaves it alone. -/
theorem achieved_of_next {next : CallAggregate} {op : AggregateOp}
    (hNext : system.next call op next) : Achieved call op next := by
  rw [hNext]
  apply Proc.Post.final (P := Achieved call op)
  apply (run_operates op).mono
  · intro _ next h
    exact h
  · intro next h
    rw [h]
    exact .kept

/-! ### The structure of a call -/

/-- Every bridge is filed under its own identifier. -/
structure BridgesFiled (bridges : OrdMap BridgeId BridgeEdge) : Prop where
  ascending : bridges.Ascending
  filed : ∀ id bridge, bridges.lookup id = some bridge → bridge.bridgeId = id

/-- The parts of a call are filed and refer to each other consistently. -/
structure Sound (call : CallAggregate) : Prop where
  legs : call.LegsFiled
  edges : BridgesFiled call.bridges
  caller : call.legs.contains call.callerLeg = true
  coordinator : call.legs.contains call.coordinator = true
  attempts : ∀ id attempt, call.calleeAttempts.lookup id = some attempt →
    call.legs.contains attempt.sessionId = true
  bridges : ∀ id bridge, call.bridges.lookup id = some bridge →
    call.legs.contains bridge.legA = true ∧ call.legs.contains bridge.legB = true ∧
      bridge.legA ≠ bridge.legB
  winner : ∀ id, call.winner = some id → call.calleeAttempts.contains id = true
  single : call.bridgePolicy = .singleCallee → call.calleeAttempts.length ≤ 1

/-- What `slot` holds is not replaced in `next`. -/
def SetOnce {α : Type} (slot next : Option α) : Prop := ∀ a, slot = some a → next = some a

theorem SetOnce.refl {α : Type} (slot : Option α) : SetOnce slot slot := fun _ h => h

theorem SetOnce.trans {α : Type} {slot next last : Option α} (first : SetOnce slot next)
    (second : SetOnce next last) : SetOnce slot last := fun a h => second a (first a h)

theorem SetOnce.getOrInsert {α : Type} (slot : Option α) (value : α) :
    SetOnce slot (getOrInsert slot value) := by
  intro a h
  rw [h, getOrInsert_some]

/-- A leg and the same leg later: it does not leave twice. -/
def LegLater (leg next : CallLeg) : Prop := SetOnce leg.leftAtMs next.leftAtMs

/-- An attempt and the same attempt later: once decided, it stays decided. -/
structure AttemptLater (attempt next : CalleeAttempt) : Prop where
  attemptId : next.attemptId = attempt.attemptId
  sessionId : next.sessionId = attempt.sessionId
  decided : attempt.state.isDecided = true → next.state.isDecided = true

theorem AttemptLater.refl (attempt : CalleeAttempt) : AttemptLater attempt attempt :=
  ⟨rfl, rfl, fun h => h⟩

theorem AttemptLater.trans (attempt next last : CalleeAttempt) (first : AttemptLater attempt next)
    (second : AttemptLater next last) : AttemptLater attempt last :=
  ⟨second.attemptId.trans first.attemptId, second.sessionId.trans first.sessionId,
    fun h => second.decided (first.decided h)⟩

theorem LegLater.refl (leg : CallLeg) : LegLater leg leg := SetOnce.refl _

/-- A bridge and the same bridge later. -/
structure BridgeLater (bridge next : BridgeEdge) : Prop where
  active : SetOnce bridge.activeAtMs next.activeAtMs
  released : SetOnce bridge.releasedAtMs next.releasedAtMs
  state : bridge.state = .released → next.state = .released

theorem BridgeLater.refl (bridge : BridgeEdge) : BridgeLater bridge bridge :=
  ⟨.refl _, .refl _, fun h => h⟩

theorem BridgeLater.trans (bridge next last : BridgeEdge) (first : BridgeLater bridge next)
    (second : BridgeLater next last) : BridgeLater bridge last :=
  ⟨first.active.trans second.active, first.released.trans second.released,
    fun h => second.state (first.state h)⟩

theorem BridgeLater.release (bridge : BridgeEdge) (releasedAtMs : Nat) :
    BridgeLater bridge (bridge.release releasedAtMs) :=
  ⟨.refl _, .getOrInsert _ _, fun _ => rfl⟩

/-- `next` is a later state of the same call: legs, attempts and bridges stay, and times that
are set stay as they were set. -/
structure Later (call next : CallAggregate) : Prop where
  legs : OrdMap.Persists LegLater call.legs next.legs
  attempts : OrdMap.Persists AttemptLater call.calleeAttempts next.calleeAttempts
  bridges : OrdMap.Persists BridgeLater call.bridges next.bridges
  answered : SetOnce call.answeredAtMs next.answeredAtMs

theorem Later.refl (call : CallAggregate) : Later call call where
  legs := .refl .refl _
  attempts := .refl .refl _
  bridges := .refl .refl _
  answered := .refl _

theorem Later.trans {call next last : CallAggregate} (first : Later call next)
    (second : Later next last) : Later call last where
  legs := first.legs.trans (fun _ _ _ h h' => h.trans h') second.legs
  attempts := first.attempts.trans AttemptLater.trans second.attempts
  bridges := first.bridges.trans BridgeLater.trans second.bridges
  answered := first.answered.trans second.answered

/-- No operation undoes what an earlier one has settled. -/
theorem Achieved.later {op : AggregateOp} {next : CallAggregate} (h : Achieved call op next) :
    Later call next := by
  cases h with
  | kept => exact .refl call
  | roleUpdated =>
      refine { Later.refl call with legs := .adjust .refl fun leg _ => ?_ }
      split
      · exact SetOnce.refl _
      · exact SetOnce.refl _
  | legLeft =>
      exact { Later.refl call with
        legs := .adjust .refl fun leg _ => SetOnce.getOrInsert leg.leftAtMs _ }
  | legStateUpdated =>
      exact { Later.refl call with
        legs := .adjust .refl fun leg _ => SetOnce.refl leg.leftAtMs }
  | legAdded hFree =>
      exact { Later.refl call with legs := .insert .refl hFree _ }
  | bridgeAdded _ _ _ hFree =>
      exact { Later.refl call with bridges := .insert .refl hFree _ }
  | bridgeActivated hBridge hPlanned =>
      refine { Later.refl call with bridges := .adjust .refl fun bridge hSame => ?_ }
      rw [hBridge, Option.some.injEq] at hSame
      subst hSame
      refine ⟨.getOrInsert _ _, .refl _, fun hReleased => ?_⟩
      rw [hPlanned] at hReleased
      cases hReleased
  | bridgeReleased =>
      exact { Later.refl call with bridges := .adjust .refl fun bridge _ => .release bridge _ }
  | allReleased =>
      exact { Later.refl call with
        bridges := OrdMap.Persists.mapValues fun _ bridge => BridgeLater.release bridge _ }
  | handedOff => exact { Later.refl call with }
  | attemptAdded _ hFree =>
      exact { Later.refl call with attempts := .insert .refl hFree _ }
  | attemptMoved hAttempt hValid =>
      refine { Later.refl call with attempts := .adjust .refl fun attempt hSame => ?_ }
      rw [hAttempt, Option.some.injEq] at hSame
      subst hSame
      exact ⟨rfl, rfl, isDecided_of_validAttemptTransition hValid⟩
  | settled =>
      refine { Later.refl call with attempts := ?_, answered := .getOrInsert _ _ }
      simp only [settleWinner]
      apply OrdMap.Persists.mapValues
      intro id attempt
      split
      · exact ⟨rfl, rfl, fun _ => rfl⟩
      · split
        · exact .refl attempt
        · exact ⟨rfl, rfl, fun _ => rfl⟩

/-- A new call consists of its caller. -/
theorem Sound.new {caller : Session} {bridgePolicy : BridgePolicy} {startedAtMs : Nat}
    (h : CallAggregate.new caller bridgePolicy startedAtMs = .ok call) : call.Sound := by
  rw [CallAggregate.new] at h
  split at h
  · cases h
  · rw [Except.ok.injEq] at h
    subst h
    have hCaller : OrdMap.contains (OrdMap.insert [] caller.id (CallLeg.ofSession caller))
        caller.id = true := OrdMap.contains_of_lookup OrdMap.lookup_insert_self
    refine ⟨⟨OrdMap.Ascending.nil.insert _ _, ?_⟩, ⟨.nil, ?_⟩, hCaller, hCaller, ?_, ?_, ?_, ?_⟩
    · intro id leg hLookup
      rw [OrdMap.lookup_insert] at hLookup
      split at hLookup
      · next hSame => rw [← Option.some.inj hLookup, ← hSame, CallLeg.ofSession]
      · simp only [OrdMap.lookup_nil, reduceCtorEq] at hLookup
    · intro id bridge hLookup
      simp only [OrdMap.lookup_nil, reduceCtorEq] at hLookup
    · intro id attempt hLookup
      simp only [OrdMap.lookup_nil, reduceCtorEq] at hLookup
    · intro id bridge hLookup
      simp only [OrdMap.lookup_nil, reduceCtorEq] at hLookup
    · intro id hWinner
      cases hWinner
    · intro _
      exact Nat.zero_le 1

/-- What refers to the legs of a call survives as long as the legs do. -/
theorem Sound.of_legs {next : CallAggregate} (h : call.Sound) (hFiled : next.LegsFiled)
    (hLegs : ∀ id, call.legs.contains id = true → next.legs.contains id = true)
    (hSame : next = { call with legs := next.legs }) : next.Sound := by
  rw [hSame] at hFiled ⊢
  refine ⟨hFiled, h.edges, hLegs _ h.caller, hLegs _ h.coordinator, fun id attempt hAttempt => ?_,
    fun id bridge hBridge => ?_, h.winner, h.single⟩
  · exact hLegs _ (h.attempts id attempt hAttempt)
  · obtain ⟨hA, hB, hDistinct⟩ := h.bridges id bridge hBridge
    exact ⟨hLegs _ hA, hLegs _ hB, hDistinct⟩

/-- Updating a leg in place keeps a call sound. -/
theorem Sound.adjustLeg (h : call.Sound) {sessionId : SessionId} {f : CallLeg → CallLeg}
    (hf : ∀ leg, (f leg).sessionId = leg.sessionId) :
    Sound { call with legs := call.legs.adjust sessionId f } := by
  apply h.of_legs (h.legs.adjust hf) ?_ rfl
  intro id hLeg
  have hPersists : OrdMap.Persists (fun _ _ => True) call.legs (call.legs.adjust sessionId f) :=
    .adjust (fun _ => trivial) fun _ _ => trivial
  exact hPersists.contains hLeg

/-- Bridges whose ends are legs, and distinct ones, keep a call sound. -/
theorem Sound.withBridges (h : call.Sound) {bridges : OrdMap BridgeId BridgeEdge}
    (hEdges : BridgesFiled bridges) (hBridges : ∀ id bridge, bridges.lookup id = some bridge →
      call.legs.contains bridge.legA = true ∧ call.legs.contains bridge.legB = true ∧
        bridge.legA ≠ bridge.legB) : Sound { call with bridges } :=
  { h with legs := h.legs.of_legs rfl, edges := hEdges, bridges := hBridges }

/-- Updating a bridge in place, with its ends as they were, keeps a call sound. -/
theorem Sound.adjustBridge (h : call.Sound) {bridgeId : BridgeId} {f : BridgeEdge → BridgeEdge}
    (hf : ∀ bridge, (f bridge).bridgeId = bridge.bridgeId ∧ (f bridge).legA = bridge.legA ∧
      (f bridge).legB = bridge.legB) :
    Sound { call with bridges := call.bridges.adjust bridgeId f } := by
  apply h.withBridges
  · refine ⟨h.edges.ascending.adjust _ _, fun id bridge hBridge => ?_⟩
    rw [OrdMap.lookup_adjust] at hBridge
    split at hBridge
    · next hSame =>
        obtain ⟨old, hOld, rfl⟩ := Option.map_eq_some_iff.mp hBridge
        rw [(hf old).1, h.edges.filed bridgeId old hOld, hSame]
    · exact h.edges.filed id bridge hBridge
  intro id bridge hBridge
  rw [OrdMap.lookup_adjust] at hBridge
  split at hBridge
  · obtain ⟨old, hOld, rfl⟩ := Option.map_eq_some_iff.mp hBridge
    rw [(hf old).2.1, (hf old).2.2]
    exact h.bridges bridgeId old hOld
  · exact h.bridges id bridge hBridge

/-- A settled winner is one of the attempts. -/
theorem Sound.settleWinner (h : call.Sound) {attemptId : CalleeAttemptId} {answeredAtMs : Nat}
    {attempt : CalleeAttempt} (hAttempt : call.calleeAttempts.lookup attemptId = some attempt) :
    Sound (settleWinner attemptId answeredAtMs call) := by
  refine { h with
    legs := h.legs.of_legs rfl
    attempts := fun id other hOther => ?_
    winner := fun id hWinner => ?_
    single := fun hPolicy => ?_ }
  · rw [CallAggregate.settleWinner, OrdMap.lookup_mapValues] at hOther
    obtain ⟨old, hOld, rfl⟩ := Option.map_eq_some_iff.mp hOther
    have hSession := h.attempts id old hOld
    split
    · exact hSession
    · split
      · exact hSession
      · exact hSession
  · obtain rfl : attemptId = id := Option.some.inj hWinner
    apply OrdMap.contains_of_lookup
    rw [CallAggregate.settleWinner, OrdMap.lookup_mapValues, hAttempt, Option.map_some]
  · rw [CallAggregate.settleWinner, OrdMap.mapValues, List.length_map]
    exact h.single hPolicy

/-- Every change keeps a call sound. -/
theorem Achieved.sound {op : AggregateOp} {next : CallAggregate} (hDone : Achieved call op next)
    (h : call.Sound) : next.Sound := by
  have hLater : Later call next := hDone.later
  cases hDone with
  | kept => exact h
  | roleUpdated =>
      apply h.adjustLeg
      intro leg
      split
      · rfl
      · rfl
  | legLeft => exact h.adjustLeg fun _ => rfl
  | legStateUpdated => exact h.adjustLeg fun _ => rfl
  | legAdded hFree =>
      apply h.of_legs ?_ (fun id hLeg => hLater.legs.contains hLeg) rfl
      refine ⟨h.legs.ascending.insert _ _, fun id leg hLookup => ?_⟩
      rw [OrdMap.lookup_insert] at hLookup
      split at hLookup
      · next hSame => rw [← Option.some.inj hLookup, ← hSame, CallLeg.ofSession]
      · exact h.legs.filed id leg hLookup
  | bridgeAdded hDistinct hA hB =>
      apply h.withBridges
      · refine ⟨h.edges.ascending.insert _ _, fun id bridge hBridge => ?_⟩
        rw [OrdMap.lookup_insert] at hBridge
        split at hBridge
        · next hSame => rw [← Option.some.inj hBridge, hSame]
        · exact h.edges.filed id bridge hBridge
      intro id bridge hBridge
      rw [OrdMap.lookup_insert] at hBridge
      split at hBridge
      · rw [← Option.some.inj hBridge]
        exact ⟨hA, hB, hDistinct⟩
      · exact h.bridges id bridge hBridge
  | bridgeActivated => exact h.adjustBridge fun _ => ⟨rfl, rfl, rfl⟩
  | bridgeReleased => exact h.adjustBridge fun _ => ⟨rfl, rfl, rfl⟩
  | allReleased =>
      apply h.withBridges
      · refine ⟨h.edges.ascending.mapValues _, fun id bridge hBridge => ?_⟩
        rw [OrdMap.lookup_mapValues] at hBridge
        obtain ⟨old, hOld, rfl⟩ := Option.map_eq_some_iff.mp hBridge
        exact h.edges.filed id old hOld
      intro id bridge hBridge
      rw [OrdMap.lookup_mapValues] at hBridge
      obtain ⟨old, hOld, rfl⟩ := Option.map_eq_some_iff.mp hBridge
      exact h.bridges id old hOld
  | handedOff hTarget => exact { h with
        legs := h.legs.of_legs rfl
        coordinator := OrdMap.contains_of_lookup hTarget }
  | attemptAdded hLeg hFree hSingle =>
      refine { h with
        legs := h.legs.of_legs rfl
        attempts := fun id attempt hAttempt => ?_
        winner := fun id hWinner => ?_
        single := fun hPolicy => ?_ }
      · rw [OrdMap.lookup_insert] at hAttempt
        split at hAttempt
        · rw [← Option.some.inj hAttempt]
          exact hLeg
        · exact h.attempts id attempt hAttempt
      · exact hLater.attempts.contains (h.winner id hWinner)
      · rw [hSingle hPolicy]
        exact Nat.le_refl 1
  | @attemptMoved attemptId _ _ _ =>
      refine { h with
        legs := h.legs.of_legs rfl
        attempts := fun id attempt hAttempt => ?_
        winner := fun id hWinner => ?_
        single := fun hPolicy => ?_ }
      · rw [OrdMap.lookup_adjust] at hAttempt
        split at hAttempt
        · obtain ⟨old, hOld, rfl⟩ := Option.map_eq_some_iff.mp hAttempt
          exact h.attempts attemptId old hOld
        · exact h.attempts id attempt hAttempt
      · exact hLater.attempts.contains (h.winner id hWinner)
      · rw [← List.length_map (f := Prod.fst)]
        show (OrdMap.keys (OrdMap.adjust _ _ _)).length ≤ 1
        rw [OrdMap.keys_adjust, OrdMap.keys, List.length_map]
        exact h.single hPolicy
  | settled _ hAttempt => exact h.settleWinner hAttempt

/-- Every call that is reached is sound. -/
theorem sound_of_reachable (h : Reachable system call) : call.Sound := by
  apply h.invariant
  · intro call hInit
    obtain ⟨caller, bridgePolicy, startedAtMs, hNew⟩ := hInit
    exact .new hNew
  · intro call op next hSound hNext
    exact (achieved_of_next hNext).sound hSound

/-- A run never undoes what has been settled. -/
theorem later_of_runs {start : CallAggregate} {C : CallAggregate → AggregateOp → Prop}
    (run : RunsWithin system C start call) : Later start call := by
  apply run.invariant (Later.refl start)
  intro call op next hLater _ hNext
  exact hLater.trans (achieved_of_next hNext).later

/-- An operation of a call that is reached returns in a sound state that undoes nothing that
has been settled, or fails without effect; and no later operation undoes it either. -/
theorem operations_atomic (h : Reachable system call) :
    call.Sound ∧
      (∀ op, Proc.Post (run op) () call (fun _ next => next.Sound ∧ Later call next)
        fun next => next = call) ∧
      ∀ last, Runs system call last → Later call last := by
  refine ⟨sound_of_reachable h, fun op => ?_, fun last run => later_of_runs run⟩
  apply (run_operates op).mono
  · intro _ next hDone
    exact ⟨hDone.sound (sound_of_reachable h), hDone.later⟩
  · intro next hSame
    exact hSame

/-- The call after some operations, failed ones among them. -/
def runAll (ops : List AggregateOp) (call : CallAggregate) : CallAggregate :=
  ops.foldl (fun call op => (run op).final () call) call

theorem runs_runAll (ops : List AggregateOp) (call : CallAggregate) :
    Runs system call (runAll ops call) := by
  induction ops generalizing call with
  | nil => exact .refl
  | cons op rest ih =>
      have hFirst : Runs system call ((run op).final () call) := .step .refl trivial rfl
      exact hFirst.trans (ih _)

/-- A caller of the call `"call"`. -/
def exampleCaller : Session where
  id := "caller"
  domainId := "domain"
  callId := "call"
  role := .caller
  direction := .inbound
  endpoint := .external "100"
  state := .dialing
  sip := none
  peer := none
  createdAtMs := 1
  answeredAtMs := none
  hangupCause := none

/-- A leg that is dialled for `exampleCaller`. -/
def exampleCallee (sessionId : SessionId) (attemptId : CalleeAttemptId) : Session :=
  { exampleCaller with
    id := sessionId
    role := .callee attemptId
    direction := .outbound
    endpoint := .trunk "trunk"
    createdAtMs := 2 }

def exampleCall : CallAggregate where
  id := "call"
  domainId := "domain"
  callerLeg := "caller"
  coordinator := "caller"
  coordinatorGeneration := 1
  bridgePolicy := .sequentialHunt
  startedAtMs := 1
  legs := [("caller", CallLeg.ofSession exampleCaller)]
  calleeAttempts := []
  bridges := []
  winner := none
  answeredAtMs := none

theorem reachable_runAll (ops : List AggregateOp) :
    Reachable system (runAll ops exampleCall) :=
  ⟨exampleCall, ⟨exampleCaller, .sequentialHunt, 1, rfl⟩, runs_runAll ops exampleCall⟩

/-- One attempt, up to its answer. -/
def answering (sessionId : SessionId) (attemptId : CalleeAttemptId) : List AggregateOp :=
  [.addLeg (exampleCallee sessionId attemptId),
    .addCalleeAttempt attemptId sessionId (.trunk "trunk"),
    .updateAttemptState attemptId .dialing none, .updateAttemptState attemptId .answered none]

theorem operations_atomic_answered :
    (runAll (answering "callee" "attempt") exampleCall).Sound ∧
      Proc.Post (run (.selectWinner "attempt" 5)) ()
        (runAll (answering "callee" "attempt") exampleCall)
        (fun _ next => next.Sound ∧ Later (runAll (answering "callee" "attempt") exampleCall) next)
        fun next => next = runAll (answering "callee" "attempt") exampleCall :=
  have h := operations_atomic (reachable_runAll (answering "callee" "attempt"))
  ⟨h.1, h.2.1 (.selectWinner "attempt" 5)⟩

end CallAggregate

end VoipSwitch
