import Mathlib.Data.List.Sort
import VoipSwitch.Core.Types
import VoipSwitch.Lib.OrdMap
import VoipSwitch.Lib.Proc

/-! The call aggregate: the legs, dial attempts and bridges of one call. Its
operations update the aggregate in place and keep what they wrote before an error. -/
namespace VoipSwitch

open Stateful Keyed

inductive BridgePolicy where
  | singleCallee
  | parallelFirstAnswer
  | sequentialHunt
deriving DecidableEq

structure LegRoleAssignment where
  role : LegRole
  effectiveAtMs : Nat
deriving DecidableEq

structure CallLeg where
  sessionId : SessionId
  domainId : DomainId
  role : LegRole
  endpoint : SessionEndpoint
  state : LegState
  roleHistory : List LegRoleAssignment
  joinedAtMs : Nat
  leftAtMs : Option Nat
deriving DecidableEq

def CallLeg.ofSession (session : Session) : CallLeg where
  sessionId := session.id
  domainId := session.domainId
  role := session.role
  endpoint := session.endpoint
  state := session.state
  roleHistory := [{ role := session.role, effectiveAtMs := session.createdAtMs }]
  joinedAtMs := session.createdAtMs
  leftAtMs := none

inductive BridgeState where
  | planned
  | active
  | released
deriving DecidableEq

structure BridgeEdge where
  bridgeId : BridgeId
  legA : SessionId
  legB : SessionId
  mediaGeneration : Nat
  state : BridgeState
  createdAtMs : Nat
  activeAtMs : Option Nat
  releasedAtMs : Option Nat
deriving DecidableEq

def BridgeEdge.release (bridge : BridgeEdge) (releasedAtMs : Nat) : BridgeEdge :=
  { bridge with state := .released, releasedAtMs := getOrInsert bridge.releasedAtMs releasedAtMs }

inductive CalleeAttemptState where
  | planned
  | dialing
  | ringing
  | answered
  | selected
  | cancelled
  | failed
  | destroyed
deriving Repr, DecidableEq

def CalleeAttemptState.isTerminal : CalleeAttemptState → Bool
  | .cancelled | .failed | .destroyed => true
  | _ => false

structure CalleeAttempt where
  attemptId : CalleeAttemptId
  sessionId : SessionId
  target : CalleeTarget
  state : CalleeAttemptState
  failureCause : Option HangupCause
deriving DecidableEq

def validAttemptTransition : CalleeAttemptState → CalleeAttemptState → Bool
  | .planned, .dialing | .planned, .cancelled | .planned, .failed => true
  | .dialing, .ringing | .dialing, .answered | .dialing, .cancelled | .dialing, .failed => true
  | .ringing, .answered | .ringing, .cancelled | .ringing, .failed => true
  | .answered, .selected | .answered, .cancelled | .answered, .failed => true
  | .selected, .destroyed | .cancelled, .destroyed | .failed, .destroyed => true
  | _, _ => false

inductive CallError where
  | callerRoleRequired
  | foreignSession (sessionId : SessionId)
  | duplicateSession (sessionId : SessionId)
  | sessionNotFound (sessionId : SessionId)
  | duplicateAttempt (attemptId : CalleeAttemptId)
  | singleCalleeLimitExceeded
  | attemptNotFound (attemptId : CalleeAttemptId)
  | attemptRoleMismatch (attemptId : CalleeAttemptId) (sessionId : SessionId)
  | attemptNotAnswered (attemptId : CalleeAttemptId)
  | winnerAlreadySelected (attemptId : CalleeAttemptId)
  | invalidAttemptTransition (attemptId : CalleeAttemptId) (source target : CalleeAttemptState)
  | duplicateBridge (bridgeId : BridgeId)
  | bridgeNotFound (bridgeId : BridgeId)
  | bridgeRequiresDistinctLegs
  | bridgeGenerationMismatch (bridgeId : BridgeId) (expected actual : Nat)
  | bridgeAlreadyReleased (bridgeId : BridgeId)
  | staleCoordinator (expectedOwner : SessionId) (expectedGeneration : Nat)
  | coordinatorTargetUnavailable (sessionId : SessionId)
  | coordinatorGenerationExhausted
deriving Repr, DecidableEq

structure WinnerSelection where
  winnerSessionId : SessionId
  cancelledSessions : List SessionId
deriving DecidableEq

structure CallAggregate where
  id : CallId
  domainId : DomainId
  callerLeg : SessionId
  coordinator : SessionId
  coordinatorGeneration : Nat
  bridgePolicy : BridgePolicy
  startedAtMs : Nat
  legs : OrdMap SessionId CallLeg
  calleeAttempts : OrdMap CalleeAttemptId CalleeAttempt
  bridges : OrdMap BridgeId BridgeEdge
  winner : Option CalleeAttemptId
  answeredAtMs : Option Nat

namespace CallAggregate

abbrev Op (α : Type) : Type := Proc Unit CallAggregate CallError α

def new (caller : Session) (bridgePolicy : BridgePolicy) (startedAtMs : Nat) :
    Except CallError CallAggregate :=
  if caller.role ≠ .caller then .error .callerRoleRequired
  else .ok
    { id := caller.callId
      domainId := caller.domainId
      callerLeg := caller.id
      coordinator := caller.id
      coordinatorGeneration := 1
      bridgePolicy
      startedAtMs
      legs := OrdMap.insert [] caller.id (CallLeg.ofSession caller)
      calleeAttempts := []
      bridges := []
      winner := none
      answeredAtMs := none }

/-- Update one leg in place, or report that it is not part of the call. -/
def withLeg (sessionId : SessionId) (f : CallLeg → CallLeg) : Op Unit := do
  let call ← Proc.get
  if call.legs.contains sessionId then
    Proc.modify fun call => { call with legs := call.legs.adjust sessionId f }
  else Proc.fail (.sessionNotFound sessionId)

def markLegLeft (sessionId : SessionId) (leftAtMs : Nat) : Op Unit :=
  withLeg sessionId fun leg =>
    { leg with leftAtMs := getOrInsert leg.leftAtMs leftAtMs, state := .destroyed }

def updateLegState (sessionId : SessionId) (state : LegState) : Op Unit :=
  withLeg sessionId fun leg => { leg with state }

def updateLegRole (sessionId : SessionId) (role : LegRole) (effectiveAtMs : Nat) : Op Unit :=
  withLeg sessionId fun leg =>
    if leg.role = role then leg
    else { leg with role, roleHistory := leg.roleHistory ++ [{ role, effectiveAtMs }] }

def addBridge (bridgeId : BridgeId) (legA legB : SessionId) (mediaGeneration createdAtMs : Nat) :
    Op Unit := do
  let call ← Proc.get
  if legA = legB then Proc.fail .bridgeRequiresDistinctLegs
  else if ¬ call.legs.contains legA then Proc.fail (.sessionNotFound legA)
  else if ¬ call.legs.contains legB then Proc.fail (.sessionNotFound legB)
  else if call.bridges.contains bridgeId then Proc.fail (.duplicateBridge bridgeId)
  else
    Proc.modify fun call =>
      { call with
        bridges := call.bridges.insert bridgeId
          { bridgeId, legA, legB, mediaGeneration, state := .planned, createdAtMs,
            activeAtMs := none, releasedAtMs := none } }

def activateBridge (bridgeId : BridgeId) (mediaGeneration activeAtMs : Nat) : Op Unit := do
  let call ← Proc.get
  match call.bridges.lookup bridgeId with
  | none => Proc.fail (.bridgeNotFound bridgeId)
  | some bridge =>
    if bridge.mediaGeneration ≠ mediaGeneration then
      Proc.fail (.bridgeGenerationMismatch bridgeId bridge.mediaGeneration mediaGeneration)
    else
      match bridge.state with
      | .planned =>
        Proc.modify fun call =>
          { call with
            bridges := call.bridges.adjust bridgeId fun bridge =>
              { bridge with
                state := .active, activeAtMs := getOrInsert bridge.activeAtMs activeAtMs } }
      | .active => pure ()
      | .released => Proc.fail (.bridgeAlreadyReleased bridgeId)

def releaseBridge (bridgeId : BridgeId) (releasedAtMs : Nat) : Op Unit := do
  let call ← Proc.get
  if call.bridges.contains bridgeId then
    Proc.modify fun call =>
      { call with bridges := call.bridges.adjust bridgeId (·.release releasedAtMs) }
  else Proc.fail (.bridgeNotFound bridgeId)

def releaseAllBridges (releasedAtMs : Nat) (call : CallAggregate) : CallAggregate :=
  { call with bridges := call.bridges.mapValues fun _ bridge => bridge.release releasedAtMs }

def handoffCoordinator (expectedOwner : SessionId) (expectedGeneration : Nat)
    (target : SessionId) : Op Nat := do
  let call ← Proc.get
  if call.coordinator ≠ expectedOwner ∨ call.coordinatorGeneration ≠ expectedGeneration then
    Proc.fail (.staleCoordinator call.coordinator call.coordinatorGeneration)
  else
    match call.legs.lookup target with
    | none => Proc.fail (.sessionNotFound target)
    | some leg =>
      if leg.state.isTerminal ∨ leg.leftAtMs.isSome then
        Proc.fail (.coordinatorTargetUnavailable target)
      else if target = expectedOwner then pure call.coordinatorGeneration
      else if u64Max ≤ call.coordinatorGeneration then
        Proc.fail .coordinatorGenerationExhausted
      else do
        Proc.modify fun call =>
          { call with
            coordinator := target, coordinatorGeneration := call.coordinatorGeneration + 1 }
        pure (call.coordinatorGeneration + 1)

/-- A handoff changes nothing but the owner and its generation. -/
theorem handoffCoordinator_post {owner target : SessionId} {generation : Nat}
    {call : CallAggregate} :
    Proc.Post (handoffCoordinator owner generation target) () call
      (fun _ next => ∃ coordinator coordinatorGeneration,
        next = { call with
          coordinator := coordinator, coordinatorGeneration := coordinatorGeneration })
      fun next => next = call := by
  simp only [handoffCoordinator, Proc.post_bind, Proc.post_get, Proc.post_ite]
  split
  · rfl
  · split
    · rfl
    · simp only [Proc.post_ite]
      split
      · rfl
      · split
        · exact ⟨call.coordinator, call.coordinatorGeneration, rfl⟩
        · split
          · rfl
          · exact ⟨_, _, rfl⟩

/-- The order in which legs are preferred as the next coordinator: the explicit
continuation first, then legs of an active bridge, then by joining time and id. -/
def handoffRank (call : CallAggregate) (continuation : Option SessionId) (leg : CallLeg) :
    Bool × Bool × Nat × SessionId :=
  let bridged := leg.state = .bridged && call.bridges.values.any fun bridge =>
    bridge.state = .active && (bridge.legA = leg.sessionId || bridge.legB = leg.sessionId)
  (continuation ≠ some leg.sessionId, !bridged, leg.joinedAtMs, leg.sessionId)

/-- Ranks compare field by field, with `false` before `true`. -/
def rankLe (a b : Bool × Bool × Nat × SessionId) : Bool :=
  if a.1 ≠ b.1 then b.1
  else if a.2.1 ≠ b.2.1 then b.2.1
  else if a.2.2.1 ≠ b.2.2.1 then a.2.2.1 < b.2.2.1
  else a.2.2.2 ≤ b.2.2.2

def handoffCandidates (call : CallAggregate) (continuation : Option SessionId) :
    List SessionId :=
  let isAvailable := fun leg : CallLeg =>
    leg.sessionId ≠ call.coordinator && !leg.state.isTerminal && leg.leftAtMs.isNone
  ((call.legs.values.filter isAvailable).insertionSort fun a b =>
    rankLe (call.handoffRank continuation a) (call.handoffRank continuation b)).map (·.sessionId)

def addLeg (session : Session) : Op Unit := do
  let call ← Proc.get
  if session.domainId ≠ call.domainId ∨ session.callId ≠ call.id then
    Proc.fail (.foreignSession session.id)
  else if call.legs.contains session.id then Proc.fail (.duplicateSession session.id)
  else
    Proc.modify fun call =>
      { call with legs := call.legs.insert session.id (CallLeg.ofSession session) }

def addCalleeAttempt (attemptId : CalleeAttemptId) (sessionId : SessionId)
    (target : CalleeTarget) : Op Unit := do
  let call ← Proc.get
  match call.legs.lookup sessionId with
  | none => Proc.fail (.sessionNotFound sessionId)
  | some leg =>
    if leg.role ≠ .callee attemptId then Proc.fail (.attemptRoleMismatch attemptId sessionId)
    else if call.calleeAttempts.contains attemptId then Proc.fail (.duplicateAttempt attemptId)
    else if call.bridgePolicy = .singleCallee ∧ ¬ call.calleeAttempts.isEmpty then
      Proc.fail .singleCalleeLimitExceeded
    else
      Proc.modify fun call =>
        { call with
          calleeAttempts := call.calleeAttempts.insert attemptId
            { attemptId, sessionId, target, state := .planned, failureCause := none } }

def updateAttemptState (attemptId : CalleeAttemptId) (state : CalleeAttemptState)
    (cause : Option HangupCause) : Op Unit := do
  let call ← Proc.get
  match call.calleeAttempts.lookup attemptId with
  | none => Proc.fail (.attemptNotFound attemptId)
  | some attempt =>
    if attempt.state = state then pure ()
    else if ¬ validAttemptTransition attempt.state state then
      Proc.fail (.invalidAttemptTransition attemptId attempt.state state)
    else
      Proc.modify fun call =>
        { call with
          calleeAttempts := call.calleeAttempts.adjust attemptId fun attempt =>
            { attempt with
              state
              failureCause := if cause.isSome then cause else attempt.failureCause } }

/-- The attempts other than `attemptId` that have not ended yet. -/
def otherLiveSessions (call : CallAggregate) (attemptId : CalleeAttemptId) : List SessionId :=
  (call.calleeAttempts.filter fun entry =>
    entry.1 ≠ attemptId && !entry.2.state.isTerminal).map (·.2.sessionId)

/-- The common tail of a winner selection: mark the attempt and cancel the others. -/
def settleWinner (attemptId : CalleeAttemptId) (answeredAtMs : Nat) (call : CallAggregate) :
    CallAggregate :=
  { call with
    calleeAttempts := call.calleeAttempts.mapValues fun id attempt =>
      if id = attemptId then { attempt with state := .selected }
      else if attempt.state.isTerminal then attempt
      else { attempt with state := .cancelled }
    winner := some attemptId
    answeredAtMs := getOrInsert call.answeredAtMs answeredAtMs }

def selectAnswered (attemptId : CalleeAttemptId) (answeredAtMs : Nat) : Op WinnerSelection := do
  let call ← Proc.get
  match call.calleeAttempts.lookup attemptId with
  | none => Proc.fail (.attemptNotFound attemptId)
  | some attempt =>
    if attempt.state ≠ .answered then Proc.fail (.attemptNotAnswered attemptId)
    else do
      Proc.modify (settleWinner attemptId answeredAtMs)
      pure
        { winnerSessionId := attempt.sessionId
          cancelledSessions := call.otherLiveSessions attemptId }

def selectWinner (attemptId : CalleeAttemptId) (answeredAtMs : Nat) : Op WinnerSelection := do
  let call ← Proc.get
  match call.winner with
  | some winner =>
    if winner = attemptId then
      -- The source unwraps the winner's attempt here: a winner is always registered.
      match call.calleeAttempts.lookup attemptId with
      | some attempt =>
        pure { winnerSessionId := attempt.sessionId, cancelledSessions := [] }
      | none => Proc.fail (.attemptNotFound attemptId)
    else Proc.fail (.winnerAlreadySelected winner)
  | none => selectAnswered attemptId answeredAtMs

/-- Move the winner to a newly answered attempt during an attended transfer. -/
def replaceWinner (attemptId : CalleeAttemptId) (answeredAtMs : Nat) : Op WinnerSelection := do
  let call ← Proc.get
  if call.winner = some attemptId then selectWinner attemptId answeredAtMs
  else selectAnswered attemptId answeredAtMs

/-- An attempt and a later state of it: it keeps its session and its target, and it stays
ended once it has ended. -/
structure Succeeds (attempt next : CalleeAttempt) : Prop where
  attemptId : next.attemptId = attempt.attemptId
  sessionId : next.sessionId = attempt.sessionId
  target : next.target = attempt.target
  ended : attempt.state.isTerminal = true → next.state.isTerminal = true

theorem Succeeds.refl (attempt : CalleeAttempt) : Succeeds attempt attempt :=
  ⟨rfl, rfl, rfl, fun hEnded => hEnded⟩

theorem Succeeds.trans {attempt next last : CalleeAttempt} (first : Succeeds attempt next)
    (second : Succeeds next last) : Succeeds attempt last :=
  ⟨second.attemptId.trans first.attemptId, second.sessionId.trans first.sessionId,
    second.target.trans first.target, fun hEnded => second.ended (first.ended hEnded)⟩

/-- The attempts of a call and the same attempts later: none is added and none is lost. -/
structure Evolves (attempts next : OrdMap CalleeAttemptId CalleeAttempt) : Prop where
  forth : ∀ id attempt, attempts.lookup id = some attempt →
    ∃ attempt', next.lookup id = some attempt' ∧ Succeeds attempt attempt'
  back : ∀ id attempt', next.lookup id = some attempt' →
    ∃ attempt, attempts.lookup id = some attempt ∧ Succeeds attempt attempt'

theorem Evolves.refl (attempts : OrdMap CalleeAttemptId CalleeAttempt) :
    Evolves attempts attempts :=
  ⟨fun _ attempt h => ⟨attempt, h, .refl attempt⟩, fun _ attempt h => ⟨attempt, h, .refl attempt⟩⟩

theorem Evolves.trans {attempts next last : OrdMap CalleeAttemptId CalleeAttempt}
    (first : Evolves attempts next) (second : Evolves next last) : Evolves attempts last := by
  constructor
  · intro id attempt h
    obtain ⟨attempt', h', hFirst⟩ := first.forth id attempt h
    obtain ⟨attempt'', h'', hSecond⟩ := second.forth id attempt' h'
    exact ⟨attempt'', h'', hFirst.trans hSecond⟩
  · intro id attempt'' h
    obtain ⟨attempt', h', hSecond⟩ := second.back id attempt'' h
    obtain ⟨attempt, h'', hFirst⟩ := first.back id attempt' h'
    exact ⟨attempt, h'', hFirst.trans hSecond⟩

/-- Updating every attempt of the call in place lets the attempts evolve. -/
theorem Evolves.of_map {attempts next : OrdMap CalleeAttemptId CalleeAttempt}
    {f : CalleeAttemptId → CalleeAttempt → CalleeAttempt}
    (hNext : ∀ id, next.lookup id = (attempts.lookup id).map (f id))
    (hf : ∀ id attempt, attempts.lookup id = some attempt → Succeeds attempt (f id attempt)) :
    Evolves attempts next := by
  constructor
  · intro id attempt h
    exact ⟨f id attempt, by rw [hNext, h, Option.map_some], hf id attempt h⟩
  · intro id attempt' h
    rw [hNext, Option.map_eq_some_iff] at h
    obtain ⟨attempt, hLookup, rfl⟩ := h
    exact ⟨attempt, hLookup, hf id attempt hLookup⟩

/-- Updating one attempt in place lets the attempts evolve. -/
theorem Evolves.adjust {attempts : OrdMap CalleeAttemptId CalleeAttempt}
    {attemptId : CalleeAttemptId} {f : CalleeAttempt → CalleeAttempt}
    (hf : ∀ attempt, attempts.lookup attemptId = some attempt → Succeeds attempt (f attempt)) :
    Evolves attempts (attempts.adjust attemptId f) := by
  apply Evolves.of_map (f := fun id attempt => if attemptId = id then f attempt else attempt)
  · intro id
    rw [OrdMap.lookup_adjust]
    split
    · next hId => rw [hId]
    · rw [Option.map_id']
  · intro id attempt hLookup
    split
    · next hId => exact hf attempt (hId ▸ hLookup)
    · exact .refl attempt

/-- An attempt that has ended only ever becomes destroyed. -/
theorem isTerminal_of_validAttemptTransition {state next : CalleeAttemptState}
    (h : validAttemptTransition state next = true) (hEnded : state.isTerminal = true) :
    next.isTerminal = true := by
  cases state with
  | cancelled | failed | destroyed =>
      cases next <;> simp_all [validAttemptTransition, CalleeAttemptState.isTerminal]
  | _ => simp only [CalleeAttemptState.isTerminal, Bool.false_eq_true] at hEnded

/-- The session that owns the call, and for which generation. -/
def owner (call : CallAggregate) : SessionId × Nat := (call.coordinator, call.coordinatorGeneration)

/-- Every leg is filed under its own session. -/
structure LegsFiled (call : CallAggregate) : Prop where
  ascending : call.legs.Ascending
  filed : ∀ id leg, call.legs.lookup id = some leg → leg.sessionId = id

theorem LegsFiled.of_legs {call next : CallAggregate} (h : call.LegsFiled)
    (hSame : next.legs = call.legs) : next.LegsFiled := by
  constructor
  · rw [hSame]
    exact h.ascending
  · rw [hSame]
    exact h.filed

/-- The attempts of the call and its owner are as they were. -/
structure Kept (call next : CallAggregate) : Prop where
  attempts : next.calleeAttempts = call.calleeAttempts
  id : next.id = call.id
  owner : next.owner = call.owner
  legs : call.LegsFiled → next.LegsFiled

theorem Kept.trans {call next last : CallAggregate} (first : Kept call next)
    (second : Kept next last) : Kept call last where
  attempts := second.attempts.trans first.attempts
  id := second.id.trans first.id
  owner := second.owner.trans first.owner
  legs h := second.legs (first.legs h)

/-- `next` is a later state of the same call with the same attempts and the same owner. -/
structure Evolved (call next : CallAggregate) : Prop where
  attempts : Evolves call.calleeAttempts next.calleeAttempts
  id : next.id = call.id
  owner : next.owner = call.owner
  legs : call.LegsFiled → next.LegsFiled

theorem Evolved.refl (call : CallAggregate) : Evolved call call := ⟨.refl _, rfl, rfl, fun h => h⟩

theorem Evolved.trans (call next last : CallAggregate) (first : Evolved call next)
    (second : Evolved next last) : Evolved call last where
  attempts := first.attempts.trans second.attempts
  id := second.id.trans first.id
  owner := second.owner.trans first.owner
  legs h := second.legs (first.legs h)

/-- An operation that leaves the attempts of the call in place. -/
abbrev Evolving {α : Type} (m : Op α) : Prop := Proc.Within Evolved (fun _ => Evolved) m

/-- A leg that is updated in place stays where it is filed. -/
theorem LegsFiled.adjust {call : CallAggregate} (h : call.LegsFiled) {sessionId : SessionId}
    {f : CallLeg → CallLeg} (hf : ∀ leg, (f leg).sessionId = leg.sessionId) :
    LegsFiled { call with legs := call.legs.adjust sessionId f } where
  ascending := h.ascending.adjust sessionId f
  filed id leg hLookup := by
    rw [OrdMap.lookup_adjust] at hLookup
    split at hLookup
    · next hSame =>
        obtain ⟨old, hOld, rfl⟩ := Option.map_eq_some_iff.mp hLookup
        rw [hf, h.filed sessionId old hOld, hSame]
    · exact h.filed id leg hLookup

theorem withLeg_keeps (sessionId : SessionId) {f : CallLeg → CallLeg}
    (hf : ∀ leg, (f leg).sessionId = leg.sessionId) (call : CallAggregate) :
    Proc.Post (withLeg sessionId f) () call (fun _ => Kept call) (Kept call) := by
  simp only [withLeg, Proc.post_bind, Proc.post_get, Proc.post_ite]
  split
  · exact ⟨rfl, rfl, rfl, fun h => h.adjust hf⟩
  · exact ⟨rfl, rfl, rfl, fun h => h⟩

theorem Kept.evolved {call next : CallAggregate} (h : Kept call next) : Evolved call next where
  attempts := h.attempts ▸ .refl _
  id := h.id
  owner := h.owner
  legs := h.legs

theorem withLeg_evolving (sessionId : SessionId) {f : CallLeg → CallLeg}
    (hf : ∀ leg, (f leg).sessionId = leg.sessionId) : Evolving (withLeg sessionId f) := by
  intro _ call
  exact (withLeg_keeps sessionId hf call).mono (fun _ _ h => h.evolved) fun _ h => h.evolved

theorem addBridge_evolving (bridgeId : BridgeId) (legA legB : SessionId)
    (mediaGeneration createdAtMs : Nat) :
    Evolving (addBridge bridgeId legA legB mediaGeneration createdAtMs) := by
  intro _ call
  simp only [addBridge, Proc.post_bind, Proc.post_get, Proc.post_ite]
  split
  · exact .refl call
  split
  · exact .refl call
  split
  · exact .refl call
  split
  · exact .refl call
  · exact ⟨.refl _, rfl, rfl, fun h => h.of_legs rfl⟩

theorem addBridge_post {bridgeId : BridgeId} {legA legB : SessionId}
    {mediaGeneration createdAtMs : Nat} {call : CallAggregate} :
    Proc.Post (addBridge bridgeId legA legB mediaGeneration createdAtMs) () call
      (fun _ next => ∃ bridge, next.bridges.lookup bridgeId = some bridge ∧
        bridge.mediaGeneration = mediaGeneration ∧ bridge.state = .planned) fun _ => True := by
  simp only [addBridge, Proc.post_bind, Proc.post_get, Proc.post_ite]
  split
  · trivial
  split
  · trivial
  split
  · trivial
  split
  · trivial
  · exact ⟨_, OrdMap.lookup_insert_self, rfl, rfl⟩

/-- A bridge of the right generation that is not released is active afterwards. -/
theorem activateBridge_post {bridgeId : BridgeId} {mediaGeneration activeAtMs : Nat}
    {call : CallAggregate} {bridge : BridgeEdge}
    (hBridge : call.bridges.lookup bridgeId = some bridge)
    (hGeneration : bridge.mediaGeneration = mediaGeneration) (hState : bridge.state ≠ .released) :
    Proc.Post (activateBridge bridgeId mediaGeneration activeAtMs) () call
      (fun _ next => ∃ active, next.bridges.lookup bridgeId = some active ∧
        active.mediaGeneration = mediaGeneration ∧ active.state = .active) fun _ => False := by
  simp only [activateBridge, Proc.post_bind, Proc.post_get, hBridge, Proc.post_ite]
  split
  · next hOther => exact (hOther hGeneration).elim
  · split
    · exact ⟨_, OrdMap.lookup_adjust_self hBridge, hGeneration, rfl⟩
    · next hActive => exact ⟨bridge, hBridge, hGeneration, hActive⟩
    · next hReleased => exact (hState hReleased).elim

theorem activateBridge_evolving (bridgeId : BridgeId) (mediaGeneration activeAtMs : Nat) :
    Evolving (activateBridge bridgeId mediaGeneration activeAtMs) := by
  intro _ call
  simp only [activateBridge, Proc.post_bind, Proc.post_get]
  split
  · exact .refl call
  · rw [Proc.post_ite]
    split
    · exact .refl call
    · split
      · exact ⟨.refl _, rfl, rfl, fun h => h.of_legs rfl⟩
      · exact .refl call
      · exact .refl call

theorem updateAttemptState_post {attemptId : CalleeAttemptId} {state : CalleeAttemptState}
    {cause : Option HangupCause} {call : CallAggregate} :
    Proc.Post (updateAttemptState attemptId state cause) () call
      (fun _ next => Evolved call next ∧
        (∀ attempt, next.calleeAttempts.lookup attemptId = some attempt → attempt.state = state) ∧
        next.bridges = call.bridges)
      fun next => next = call := by
  simp only [updateAttemptState, Proc.post_bind, Proc.post_get]
  split
  · rfl
  · next attempt hLookup =>
      simp only [Proc.post_ite]
      split
      · next hSame =>
          refine ⟨.refl _, fun attempt' h => ?_, rfl⟩
          rw [hLookup, Option.some.injEq] at h
          rw [← h, hSame]
      · split
        · rfl
        · next hValid =>
            rw [Bool.not_eq_true, Bool.not_eq_false] at hValid
            rw [Proc.post_modify]
            refine ⟨⟨.adjust fun attempt' h => ?_, rfl, rfl, fun h => h.of_legs rfl⟩,
              fun attempt' h => ?_, rfl⟩
            · rw [hLookup, Option.some.injEq] at h
              subst h
              exact ⟨rfl, rfl, rfl, isTerminal_of_validAttemptTransition hValid⟩
            · rw [OrdMap.lookup_adjust, if_pos rfl, hLookup, Option.map_some,
                Option.some.injEq] at h
              rw [← h]

theorem updateAttemptState_evolving (attemptId : CalleeAttemptId) (state : CalleeAttemptState)
    (cause : Option HangupCause) : Evolving (updateAttemptState attemptId state cause) := by
  intro _ call
  exact updateAttemptState_post.mono (fun _ _ h => h.1) fun _ h => h ▸ .refl call

/-- The attempts after a selection: the winner is selected, the others have ended. -/
theorem settleWinner_evolves {attemptId : CalleeAttemptId} {answeredAtMs : Nat}
    {call : CallAggregate} {attempt : CalleeAttempt}
    (hLookup : call.calleeAttempts.lookup attemptId = some attempt)
    (hAnswered : attempt.state = .answered) :
    Evolves call.calleeAttempts (settleWinner attemptId answeredAtMs call).calleeAttempts := by
  apply Evolves.of_map (f := fun id attempt =>
    if id = attemptId then { attempt with state := .selected }
    else if attempt.state.isTerminal then attempt
    else { attempt with state := .cancelled })
  · intro id
    rw [settleWinner, OrdMap.lookup_mapValues]
  · intro id other hOther
    split
    · next hId =>
        rw [hId, hLookup, Option.some.injEq] at hOther
        subst hOther
        refine ⟨rfl, rfl, rfl, fun hEnded => ?_⟩
        rw [hAnswered] at hEnded
        exact hEnded
    · split
      · exact .refl other
      · exact ⟨rfl, rfl, rfl, fun _ => rfl⟩

theorem selectAnswered_evolving (attemptId : CalleeAttemptId) (answeredAtMs : Nat) :
    Evolving (selectAnswered attemptId answeredAtMs) := by
  intro _ call
  simp only [selectAnswered, Proc.post_bind, Proc.post_get]
  split
  · exact .refl call
  · next attempt hLookup =>
      rw [Proc.post_ite]
      split
      · exact .refl call
      · next hAnswered =>
          exact ⟨settleWinner_evolves hLookup (not_not.mp hAnswered), rfl, rfl,
            fun h => h.of_legs rfl⟩

theorem selectWinner_evolving (attemptId : CalleeAttemptId) (answeredAtMs : Nat) :
    Evolving (selectWinner attemptId answeredAtMs) := by
  intro _ call
  simp only [selectWinner, Proc.post_bind, Proc.post_get]
  split
  · rw [Proc.post_ite]
    split
    · split
      · exact .refl call
      · exact .refl call
    · exact .refl call
  · exact selectAnswered_evolving attemptId answeredAtMs () call

theorem replaceWinner_evolving (attemptId : CalleeAttemptId) (answeredAtMs : Nat) :
    Evolving (replaceWinner attemptId answeredAtMs) := by
  intro _ call
  simp only [replaceWinner, Proc.post_bind, Proc.post_get, Proc.post_ite]
  split
  · exact selectWinner_evolving attemptId answeredAtMs () call
  · exact selectAnswered_evolving attemptId answeredAtMs () call

/-- A new attempt is planned under an identifier that was free. -/
theorem addCalleeAttempt_post {attemptId : CalleeAttemptId} {sessionId : SessionId}
    {target : CalleeTarget} {call : CallAggregate} :
    Proc.Post (addCalleeAttempt attemptId sessionId target) () call
      (fun _ next => call.calleeAttempts.lookup attemptId = none ∧
        next.calleeAttempts = call.calleeAttempts.insert attemptId
          { attemptId, sessionId, target, state := .planned, failureCause := none } ∧
        next.id = call.id ∧ next.owner = call.owner ∧ next.legs = call.legs ∧
        next.bridges = call.bridges)
      fun next => next = call := by
  simp only [addCalleeAttempt, Proc.post_bind, Proc.post_get]
  split
  · rfl
  · simp only [Proc.post_ite]
    split
    · rfl
    · split
      · rfl
      · next hFree =>
          split
          · rfl
          · refine ⟨?_, rfl, rfl, rfl, rfl, rfl⟩
            rwa [OrdMap.contains, Bool.not_eq_true, Option.isSome_eq_false_iff,
              Option.isNone_iff_eq_none] at hFree

theorem addLeg_post {session : Session} {call : CallAggregate} :
    Proc.Post (addLeg session) () call
      (fun _ next => Kept call next ∧ next.bridges = call.bridges) fun next => next = call := by
  simp only [addLeg, Proc.post_bind, Proc.post_get, Proc.post_ite]
  split
  · rfl
  · split
    · rfl
    · refine ⟨⟨rfl, rfl, rfl, fun h => ⟨h.ascending.insert _ _, fun id leg hLookup => ?_⟩⟩, rfl⟩
      rw [OrdMap.lookup_insert] at hLookup
      split at hLookup
      · next hSame =>
          rw [← hSame, ← Option.some.inj hLookup]
          rfl
      · exact h.filed id leg hLookup

/-- `next` has one attempt more than `call`, and that one is being dialled. -/
structure Entered (call next : CallAggregate) (attemptId : CalleeAttemptId)
    (sessionId : SessionId) (target : CalleeTarget) : Prop where
  id : next.id = call.id
  owner : next.owner = call.owner
  legs : call.LegsFiled → next.LegsFiled
  bridges : next.bridges = call.bridges
  free : call.calleeAttempts.lookup attemptId = none
  lookup : ∀ other, next.calleeAttempts.lookup other =
    if attemptId = other then
      some { attemptId, sessionId, target, state := .dialing, failureCause := none }
    else call.calleeAttempts.lookup other

/-- A planned attempt can be dialled. -/
theorem dialPlanned_post {attemptId : CalleeAttemptId} {sessionId : SessionId}
    {target : CalleeTarget} {call next : CallAggregate}
    (hFree : call.calleeAttempts.lookup attemptId = none)
    (hPlanned : next.calleeAttempts = call.calleeAttempts.insert attemptId
      { attemptId, sessionId, target, state := .planned, failureCause := none })
    (hId : next.id = call.id) (hOwner : next.owner = call.owner)
    (hLegs : call.LegsFiled → next.LegsFiled) (hBridges : next.bridges = call.bridges) :
    Proc.Post (updateAttemptState attemptId .dialing none) () next
      (fun _ last => Entered call last attemptId sessionId target) fun _ => False := by
  have hLookup : next.calleeAttempts.lookup attemptId =
      some { attemptId, sessionId, target, state := .planned, failureCause := none } := by
    rw [hPlanned, OrdMap.lookup_insert_self]
  simp only [updateAttemptState, Proc.post_bind, Proc.post_get, hLookup, Proc.post_ite]
  split
  · next hSame => exact CalleeAttemptState.noConfusion hSame
  · split
    · next hInvalid => exact (hInvalid rfl).elim
    · refine ⟨hId, hOwner, fun h => (hLegs h).of_legs rfl, hBridges, hFree, fun other => ?_⟩
      show (next.calleeAttempts.adjust _ _).lookup other = _
      rw [OrdMap.lookup_adjust, hLookup, hPlanned, OrdMap.lookup_insert]
      split
      · rfl
      · rfl

end CallAggregate

end VoipSwitch
