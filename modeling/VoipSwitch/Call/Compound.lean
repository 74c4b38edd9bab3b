import VoipSwitch.Core.Winner
import VoipSwitch.Call.Model

/-! The compound operations of the call runtime. Each is a chain of fallible updates of the
aggregate that stops at its first error and takes nothing back. -/
namespace VoipSwitch

open Stateful Keyed Transition

/-- The bridge of an attempt. -/
def bridgeIdOf (attemptId : CalleeAttemptId) : BridgeId := s!"bridge-{attemptId}"

theorem bridgeIdOf_injective {a b : CalleeAttemptId} (h : bridgeIdOf a = bridgeIdOf b) : a = b := by
  have hChars := congrArg String.toList h
  simp only [bridgeIdOf, String.toList_append, List.append_cancel_left_eq] at hChars
  exact String.toList_injective hChars

namespace CallAggregate

variable {call next last : CallAggregate}

/-- What holds of the aggregate of a running call. -/
structure Coherent (call : CallAggregate) : Prop where
  sound : call.Sound
  won : call.Won
  ascending : call.calleeAttempts.Ascending
  filed : ∀ id attempt, call.calleeAttempts.lookup id = some attempt → attempt.attemptId = id
  callees : ∀ id attempt, call.calleeAttempts.lookup id = some attempt →
    attempt.sessionId ≠ call.callerLeg
  bridged : ∀ id, call.bridges.contains (bridgeIdOf id) = true →
    ∃ attempt, call.calleeAttempts.lookup id = some attempt ∧ attempt.state.isDecided = true

/-- Operations that a running call uses: attempts are dialled to other sessions than the
caller's, and a bridge is planned for an attempt that is decided. -/
def Fits (call : CallAggregate) : AggregateOp → Prop
  | .addCalleeAttempt _ sessionId _ => sessionId ≠ call.callerLeg
  | .addBridge bridgeId _ _ _ _ => ∃ id attempt, bridgeId = bridgeIdOf id ∧
    call.calleeAttempts.lookup id = some attempt ∧ attempt.state.isDecided = true
  | _ => True

/-- The attempts after an operation: no other ones than before, or a new one among them. -/
theorem Achieved.attemptBack {op : AggregateOp} (h : Achieved call op next)
    {id : CalleeAttemptId} {attempt : CalleeAttempt}
    (hLookup : next.calleeAttempts.lookup id = some attempt) :
    (∃ old, call.calleeAttempts.lookup id = some old ∧ attempt.attemptId = old.attemptId ∧
      attempt.sessionId = old.sessionId) ∨
      attempt.attemptId = id ∧ ∃ target, op = .addCalleeAttempt id attempt.sessionId target := by
  cases h with
  | @attemptAdded _ _ target =>
      rw [OrdMap.lookup_insert] at hLookup
      split at hLookup
      · next hSame =>
          rw [Option.some.injEq] at hLookup
          subst hLookup hSame
          exact .inr ⟨rfl, target, rfl⟩
      · exact .inl ⟨attempt, hLookup, rfl, rfl⟩
  | attemptMoved =>
      rw [OrdMap.lookup_adjust] at hLookup
      split at hLookup
      · next hSame =>
          obtain ⟨old, hOld, rfl⟩ := Option.map_eq_some_iff.mp hLookup
          exact .inl ⟨old, hSame ▸ hOld, rfl, rfl⟩
      · exact .inl ⟨attempt, hLookup, rfl, rfl⟩
  | settled =>
      rw [settleWinner, OrdMap.lookup_mapValues] at hLookup
      obtain ⟨old, hOld, rfl⟩ := Option.map_eq_some_iff.mp hLookup
      refine .inl ⟨old, hOld, ?_⟩
      split
      · exact ⟨rfl, rfl⟩
      · split
        · exact ⟨rfl, rfl⟩
        · exact ⟨rfl, rfl⟩
  | _ => exact .inl ⟨attempt, hLookup, rfl, rfl⟩

/-- The bridges after an operation: no other ones than before, or a new one among them. -/
theorem Achieved.bridges {op : AggregateOp} (h : Achieved call op next) {id : BridgeId}
    (hBridge : next.bridges.contains id = true) :
    call.bridges.contains id = true ∨
      ∃ legA legB mediaGeneration createdAtMs,
        op = .addBridge id legA legB mediaGeneration createdAtMs := by
  cases h with
  | @bridgeAdded bridgeId legA legB mediaGeneration createdAtMs =>
      rw [OrdMap.contains, OrdMap.lookup_insert] at hBridge
      split at hBridge
      · next hSame => exact .inr ⟨legA, legB, mediaGeneration, createdAtMs, hSame ▸ rfl⟩
      · exact .inl hBridge
  | bridgeActivated hLookup =>
      rw [OrdMap.contains, OrdMap.lookup_adjust] at hBridge
      split at hBridge
      · next hSame => exact .inl (hSame ▸ OrdMap.contains_of_lookup hLookup)
      · exact .inl hBridge
  | bridgeReleased =>
      rw [OrdMap.contains, OrdMap.lookup_adjust] at hBridge
      split at hBridge
      · next hSame =>
          rw [Option.isSome_map] at hBridge
          exact .inl (hSame ▸ hBridge)
      · exact .inl hBridge
  | allReleased =>
      rw [OrdMap.contains, releaseAllBridges, OrdMap.lookup_mapValues, Option.isSome_map] at hBridge
      exact .inl hBridge
  | _ => exact .inl hBridge

/-- The identity of a call: what no operation changes. -/
def identity (call : CallAggregate) : CallId × DomainId × SessionId × BridgePolicy :=
  (call.id, call.domainId, call.callerLeg, call.bridgePolicy)

theorem Achieved.identity {op : AggregateOp} (h : Achieved call op next) :
    next.identity = call.identity := by
  cases h <;> rfl

/-- The legs after an operation: no other ones than before, or a new one among them. -/
theorem Achieved.back {op : AggregateOp} (h : Achieved call op next) {id : SessionId}
    (hLeg : next.legs.contains id = true) :
    call.legs.contains id = true ∨ ∃ session, op = .addLeg session ∧ session.id = id := by
  cases h with
  | @legAdded session =>
      rw [OrdMap.contains, OrdMap.lookup_insert] at hLeg
      split at hLeg
      · next hSame => exact .inr ⟨session, rfl, hSame⟩
      · exact .inl hLeg
  | roleUpdated | legLeft | legStateUpdated =>
      rw [OrdMap.contains, OrdMap.lookup_adjust] at hLeg
      split at hLeg
      · next hSame =>
          rw [Option.isSome_map] at hLeg
          exact .inl (hSame ▸ hLeg)
      · exact .inl hLeg
  | _ => exact .inl hLeg

theorem Achieved.ascending {op : AggregateOp} (h : Achieved call op next)
    (hCall : call.calleeAttempts.Ascending) : next.calleeAttempts.Ascending := by
  cases h with
  | attemptAdded => exact hCall.insert _ _
  | attemptMoved => exact hCall.adjust _ _
  | settled =>
      simp only [settleWinner]
      exact hCall.mapValues _
  | _ => exact hCall

/-- An operation that fits keeps the aggregate of a running call coherent. -/
theorem Coherent.of_achieved {op : AggregateOp} (h : call.Coherent) (hFits : call.Fits op)
    (hDone : Achieved call op next) : next.Coherent := by
  have hCaller : next.callerLeg = call.callerLeg := congrArg (·.2.2.1) hDone.identity
  have hLater : Later call next := hDone.later
  refine ⟨hDone.sound h.sound, h.won.of_achieved hDone, hDone.ascending h.ascending,
    fun id attempt hLookup => ?_, fun id attempt hLookup => ?_, fun id hBridge => ?_⟩
  · rcases hDone.attemptBack hLookup with ⟨old, hOld, hId, -⟩ | ⟨hId, -⟩
    · exact hId.trans (h.filed id old hOld)
    · exact hId
  · rw [hCaller]
    rcases hDone.attemptBack hLookup with ⟨old, hOld, -, hSession⟩ | ⟨-, target, hOp⟩
    · exact hSession ▸ h.callees id old hOld
    · rw [hOp] at hFits
      exact hFits
  · have hDecided : ∃ attempt, call.calleeAttempts.lookup id = some attempt ∧
        attempt.state.isDecided = true := by
      rcases hDone.bridges hBridge with hOld | ⟨legA, legB, mediaGeneration, createdAtMs, hOp⟩
      · exact h.bridged id hOld
      · rw [hOp] at hFits
        obtain ⟨attemptId, attempt, hId, hLookup, hDecided⟩ := hFits
        exact ⟨attempt, bridgeIdOf_injective hId ▸ hLookup, hDecided⟩
    obtain ⟨attempt, hLookup, hState⟩ := hDecided
    obtain ⟨attempt', hLookup', hAfter⟩ := hLater.attempts id attempt hLookup
    exact ⟨attempt', hLookup', hAfter.decided hState⟩

/-- A new call is coherent. -/
theorem Coherent.new {caller : Session} {bridgePolicy : BridgePolicy} {startedAtMs : Nat}
    (h : CallAggregate.new caller bridgePolicy startedAtMs = .ok call) : call.Coherent := by
  have hSound : call.Sound := .new h
  have hWon : call.Won := (new_won h).1
  rw [CallAggregate.new] at h
  split at h
  · cases h
  · rw [Except.ok.injEq] at h
    subst h
    refine ⟨hSound, hWon, .nil, fun id attempt hLookup => ?_, fun id attempt hLookup => ?_,
      fun id hBridge => ?_⟩
    · simp only [OrdMap.lookup_nil, reduceCtorEq] at hLookup
    · simp only [OrdMap.lookup_nil, reduceCtorEq] at hLookup
    · simp only [OrdMap.contains, OrdMap.lookup_nil, Option.isSome_none, Bool.false_eq_true]
        at hBridge

/-- A new call belongs to its caller, who is its only leg. -/
theorem new_identity {caller : Session} {bridgePolicy : BridgePolicy} {startedAtMs : Nat}
    (h : CallAggregate.new caller bridgePolicy startedAtMs = .ok call) :
    call.identity = (caller.callId, caller.domainId, caller.id, bridgePolicy) ∧
      ∀ id, call.legs.contains id = true → id = caller.id := by
  rw [CallAggregate.new] at h
  split at h
  · cases h
  · rw [Except.ok.injEq] at h
    subst h
    refine ⟨rfl, fun id hLeg => ?_⟩
    rw [OrdMap.contains, OrdMap.lookup_insert] at hLeg
    split at hLeg
    · next hSame => exact hSame.symm
    · simp only [OrdMap.lookup_nil, Option.isSome_none, Bool.false_eq_true] at hLeg

/-- The same call later, without a new leg. -/
structure Grown (call next : CallAggregate) : Prop where
  coherent : call.Coherent → next.Coherent
  later : Later call next
  identity : next.identity = call.identity
  legs : ∀ id, next.legs.contains id = true → call.legs.contains id = true

theorem Grown.refl (call : CallAggregate) : Grown call call :=
  ⟨fun h => h, .refl call, rfl, fun _ h => h⟩

theorem Grown.trans (first : Grown call next) (second : Grown next last) : Grown call last :=
  ⟨fun h => second.coherent (first.coherent h), first.later.trans second.later,
    second.identity.trans first.identity, fun id h => first.legs id (second.legs id h)⟩

theorem Achieved.grown {op : AggregateOp} (h : Achieved call op next)
    (hFits : call.Coherent → call.Fits op) (hOp : ∀ session, op ≠ .addLeg session) :
    Grown call next where
  coherent hCall := hCall.of_achieved (hFits hCall) h
  later := h.later
  identity := h.identity
  legs id hLeg := by
    rcases h.back hLeg with hOld | ⟨session, hAdded, -⟩
    · exact hOld
    · exact (hOp session hAdded).elim

end CallAggregate

namespace CallRuntime

open CallAggregate

variable {call next last : CallRuntime}

/-- The current attempt is one of the call, and the call belongs to its caller. -/
structure Consistent (call : CallRuntime) : Prop where
  coherent : call.aggregate.Coherent
  identity : call.aggregate.identity =
    (call.caller.callId, call.caller.domainId, call.caller.id, .sequentialHunt)
  current : ∃ attempt, call.aggregate.calleeAttempts.lookup call.currentAttemptId = some attempt ∧
    attempt.sessionId = call.currentCalleeSessionId

/-- Whose call this is, and which attempt is the current one. -/
def parties (call : CallRuntime) : (CallId × DomainId × SessionId) × CalleeAttemptId × SessionId :=
  ((call.caller.callId, call.caller.domainId, call.caller.id),
    call.currentAttemptId, call.currentCalleeSessionId)

/-- The same call later, with the same current attempt and no new leg. -/
structure Advanced (call next : CallRuntime) : Prop where
  aggregate : Grown call.aggregate next.aggregate
  parties : next.parties = call.parties

theorem Advanced.refl (call : CallRuntime) : Advanced call call := ⟨.refl _, rfl⟩

theorem Advanced.trans (first : Advanced call next) (second : Advanced next last) :
    Advanced call last :=
  ⟨first.aggregate.trans second.aggregate, second.parties.trans first.parties⟩

theorem Advanced.attemptId (h : Advanced call next) :
    next.currentAttemptId = call.currentAttemptId := congrArg (·.2.1) h.parties

theorem Consistent.advance (h : call.Consistent) (hNext : Advanced call next) :
    next.Consistent := by
  have hParties := hNext.parties
  simp only [CallRuntime.parties, Prod.mk.injEq] at hParties
  obtain ⟨⟨hCall, hDomain, hCaller⟩, hAttempt, hSession⟩ := hParties
  refine ⟨hNext.aggregate.coherent h.coherent, ?_, ?_⟩
  · rw [hNext.aggregate.identity, h.identity, hCall, hDomain, hCaller]
  · obtain ⟨attempt, hLookup, hCallee⟩ := h.current
    obtain ⟨attempt', hLookup', hAfter⟩ :=
      hNext.aggregate.later.attempts call.currentAttemptId attempt hLookup
    rw [hAttempt, hSession]
    exact ⟨attempt', hLookup', hAfter.sessionId.trans hCallee⟩

/-- A change of the aggregate that adds no leg. -/
theorem Advanced.of_achieved {op : AggregateOp} {aggregate : CallAggregate}
    (h : Achieved call.aggregate op aggregate)
    (hFits : call.aggregate.Coherent → call.aggregate.Fits op)
    (hOp : ∀ session, op ≠ .addLeg session) : Advanced call { call with aggregate } :=
  ⟨h.grown hFits hOp, rfl⟩

/-- An update of the aggregate that fits: it fails without effect or advances the call. -/
theorem onAggregate_advances {α : Type} {m : CallAggregate.Op α} {op : AggregateOp}
    (hm : Operates m op call.aggregate) (hFits : call.aggregate.Coherent → call.aggregate.Fits op)
    (hOp : ∀ session, op ≠ .addLeg session) :
    Proc.Post (onAggregate m) () call (fun _ next => Advanced call next)
      fun next => next = call := by
  rw [onAggregate, Proc.post_focus]
  apply hm.mono
  · intro _ aggregate hDone
    exact .of_achieved hDone hFits hOp
  · intro aggregate hSame
    rw [hSame]

/-- An error of `m` leaves the topology of the call as it was before. -/
def Atomic {α : Type} (m : Op α) (call : CallRuntime) : Prop :=
  ∀ error next, m () call = (.error error, next) →
    next.aggregate = call.aggregate ∧ next.currentAttemptId = call.currentAttemptId ∧
      next.currentCalleeSessionId = call.currentCalleeSessionId ∧
      next.currentBridgeId = call.currentBridgeId

/-- The outcomes of an operation that breaks off halfway under `torn` only. -/
theorem atomic_iff {α : Type} {m : Op α} {torn : Prop}
    (h : Proc.Post m () call (fun _ _ => ¬ torn) fun next =>
      next = call ∧ ¬ torn ∨ torn ∧ next.aggregate ≠ call.aggregate) :
    Atomic m call ↔ ¬ torn := by
  rw [Proc.Post] at h
  rcases hRun : m () call with ⟨result, next⟩
  rw [hRun] at h
  cases result with
  | ok a =>
      constructor
      · intro _
        exact h
      · intro _ error next' hError
        rw [hRun] at hError
        simp only [Prod.mk.injEq, reduceCtorEq, false_and] at hError
  | error error =>
      rcases h with ⟨rfl, hWhole⟩ | ⟨hTorn, hChanged⟩
      · refine ⟨fun _ => hWhole, fun _ error' next' hError => ?_⟩
        rw [hRun, Prod.mk.injEq] at hError
        rw [← hError.2]
        exact ⟨rfl, rfl, rfl, rfl⟩
      · refine ⟨fun hAtomic => (hChanged (hAtomic error next hRun).1).elim, fun hWhole => ?_⟩
        exact (hWhole hTorn).elim

/-! ### Registering an attempt -/

/-- The session of a new attempt is free, but the attempt is not. -/
def orphansLeg (call : CallRuntime) (attemptSeq : Nat) (sessionId : SessionId)
    (target : OutboundTarget) : Bool :=
  target.sessionEndpoint.isOk && !call.aggregate.legs.contains sessionId &&
    call.aggregate.calleeAttempts.contains (attemptIdOf attemptSeq)

/-- A target whose session can be described can be dialled. -/
theorem calleeTarget_of_sessionEndpoint {target : OutboundTarget} {endpoint : SessionEndpoint}
    (h : target.sessionEndpoint = .ok endpoint) :
    ∃ calleeTarget, target.calleeTarget = .ok calleeTarget := by
  cases target with
  | endpoint endpointId endpointNumber =>
      simp only [OutboundTarget.sessionEndpoint] at h
      split at h
      · next number hNumber =>
          refine ⟨.extension endpointId number, ?_⟩
          rw [OutboundTarget.calleeTarget, hNumber]
      · cases h
  | trunk trunkRef => exact ⟨_, rfl⟩
  | aiAgent agentId => exact ⟨_, rfl⟩

/-- A leg of this call is refused only under a session that is taken. -/
theorem addLeg_own {session : Session} {aggregate : CallAggregate}
    (hDomain : session.domainId = aggregate.domainId) (hCall : session.callId = aggregate.id) :
    Proc.Post (addLeg session) () aggregate
      (fun _ next => Achieved aggregate (.addLeg session) next ∧
        aggregate.legs.contains session.id = false ∧
        next = { aggregate with
          legs := aggregate.legs.insert session.id (CallLeg.ofSession session) })
      fun next => next = aggregate ∧ aggregate.legs.contains session.id = true := by
  simp only [addLeg, Proc.post_bind, Proc.post_get, Proc.post_ite]
  split
  · next hForeign =>
      rw [hDomain, hCall] at hForeign
      simp only [ne_eq, not_true, or_self] at hForeign
  · split
    · next hTaken => exact ⟨rfl, hTaken⟩
    · next hFree =>
        exact ⟨.legAdded (OrdMap.lookup_eq_none_of_not_contains hFree),
          Bool.eq_false_iff.mpr hFree, rfl⟩

/-- An attempt for its own leg is refused only if it is there already. -/
theorem addCalleeAttempt_own {attemptId : CalleeAttemptId} {sessionId : SessionId}
    {target : CalleeTarget} {aggregate : CallAggregate} {leg : CallLeg}
    (hLeg : aggregate.legs.lookup sessionId = some leg) (hRole : leg.role = .callee attemptId)
    (hPolicy : aggregate.bridgePolicy = .sequentialHunt) :
    Proc.Post (addCalleeAttempt attemptId sessionId target) () aggregate
      (fun _ next => Achieved aggregate (.addCalleeAttempt attemptId sessionId target) next ∧
        aggregate.calleeAttempts.contains attemptId = false ∧
        next.calleeAttempts = aggregate.calleeAttempts.insert attemptId
          { attemptId, sessionId, target, state := .planned, failureCause := none })
      fun next => next = aggregate ∧ aggregate.calleeAttempts.contains attemptId = true := by
  simp only [addCalleeAttempt, Proc.post_bind, Proc.post_get, hLeg, Proc.post_ite]
  split
  · next hOther => exact (hOther hRole).elim
  · split
    · next hTaken => exact ⟨rfl, hTaken⟩
    · next hFree =>
        split
        · next hLimit =>
            rw [hPolicy] at hLimit
            simp only [reduceCtorEq, false_and] at hLimit
        · refine ⟨.attemptAdded (OrdMap.contains_of_lookup hLeg)
            (OrdMap.lookup_eq_none_of_not_contains hFree) fun hSingle => ?_,
            Bool.eq_false_iff.mpr hFree, rfl⟩
          rw [hPolicy] at hSingle
          cases hSingle

/-- The call later, with the leg `sessionId` added and, where there is one, its attempt. -/
structure Joined (aggregate : CallAggregate) (sessionId : SessionId) (next : CallAggregate) :
    Prop where
  coherent : next.Coherent
  later : Later aggregate next
  identity : next.identity = aggregate.identity
  legs : ∀ id, next.legs.contains id = true → id = sessionId ∨ aggregate.legs.contains id = true
  free : aggregate.legs.contains sessionId = false
  added : next.legs.contains sessionId = true

/-- A leg that was free and is there now has changed the call. -/
theorem Joined.ne {aggregate next : CallAggregate} {sessionId : SessionId}
    (h : Joined aggregate sessionId next) : next ≠ aggregate := by
  intro hSame
  have hAdded := h.added
  rw [hSame, h.free] at hAdded
  simp only [Bool.false_eq_true] at hAdded

/-- The new leg of an attempt. -/
theorem joined_of_addLeg {aggregate next : CallAggregate} {session : Session}
    (hCoherent : aggregate.Coherent) (hFree : aggregate.legs.contains session.id = false)
    (hAdded : Achieved aggregate (.addLeg session) next)
    (hLegs : next = { aggregate with
      legs := aggregate.legs.insert session.id (CallLeg.ofSession session) }) :
    Joined aggregate session.id next where
  coherent := hCoherent.of_achieved (show aggregate.Fits (.addLeg session) from trivial) hAdded
  later := hAdded.later
  identity := hAdded.identity
  legs id hLeg := by
    rcases hAdded.back hLeg with hOld | ⟨session', hOp, hId⟩
    · exact .inr hOld
    · rw [AggregateOp.addLeg.injEq] at hOp
      exact .inl (hOp ▸ hId.symm)
  free := hFree
  added := by
    rw [hLegs]
    exact OrdMap.contains_of_lookup OrdMap.lookup_insert_self

theorem Joined.grown {aggregate next last : CallAggregate} {sessionId : SessionId}
    (h : Joined aggregate sessionId next) (hNext : Grown next last) :
    Joined aggregate sessionId last where
  coherent := hNext.coherent h.coherent
  later := h.later.trans hNext.later
  identity := hNext.identity.trans h.identity
  legs id hLeg := h.legs id (hNext.legs id hLeg)
  free := h.free
  added := hNext.later.legs.contains h.added

/-- The attempt of a new leg is entered, unless its identifier is taken. -/
theorem enterAttempt_post {callee : Session} {attemptId : CalleeAttemptId}
    {target : OutboundTarget} {calleeTarget : CalleeTarget}
    (hTarget : target.calleeTarget = .ok calleeTarget) (hRole : callee.role = .callee attemptId)
    (hDomain : callee.domainId = call.aggregate.domainId)
    (hCall : callee.callId = call.aggregate.id)
    (hPolicy : call.aggregate.bridgePolicy = .sequentialHunt)
    (hCoherent : call.aggregate.Coherent) :
    Proc.Post (enterAttempt callee attemptId target) () call
      (fun _ next => call.aggregate.calleeAttempts.contains attemptId = false ∧
        ∃ aggregate attempt, next = { call with aggregate } ∧
          Joined call.aggregate callee.id aggregate ∧
          aggregate.calleeAttempts.lookup attemptId = some attempt ∧ attempt.sessionId = callee.id)
      fun next => next = call ∧ call.aggregate.legs.contains callee.id = true ∨
        call.aggregate.calleeAttempts.contains attemptId = true ∧
          ∃ aggregate, next = { call with aggregate } ∧
            Joined call.aggregate callee.id aggregate := by
  simp only [enterAttempt, onAggregate, Proc.post_bind, Proc.post_focus, ofExcept, hTarget,
    Proc.post_pure]
  apply (addLeg_own hDomain hCall).mono
  · rintro _ added ⟨hAdded, hFree, hLegs⟩
    have hJoined : Joined call.aggregate callee.id added :=
      joined_of_addLeg hCoherent hFree hAdded hLegs
    have hAttempts : added.calleeAttempts = call.aggregate.calleeAttempts := by rw [hLegs]
    have hLeg : added.legs.lookup callee.id = some (CallLeg.ofSession callee) := by
      rw [hLegs, OrdMap.lookup_insert_self]
    have hOther : callee.id ≠ added.callerLeg := by
      intro hSame
      have hCaller := hCoherent.sound.caller
      rw [hLegs] at hSame
      rw [← hSame, hFree] at hCaller
      simp only [Bool.false_eq_true] at hCaller
    apply (addCalleeAttempt_own hLeg hRole (by rw [hLegs, hPolicy])).mono
    · rintro _ planned ⟨hPlanned, hNew, hInserted⟩
      have hGrown : Grown added planned := hPlanned.grown (fun _ => hOther) fun _ hNew => by
        cases hNew
      have hLookup : planned.calleeAttempts.lookup attemptId =
          some ⟨attemptId, callee.id, calleeTarget, .planned, none⟩ := by
        rw [hInserted, OrdMap.lookup_insert_self]
      have hDialled : Proc.Post (updateAttemptState attemptId .dialing none) () planned
          (fun _ next => Achieved planned (.updateAttemptState attemptId .dialing none) next)
          fun _ => False := by
        simp only [updateAttemptState, Proc.post_bind, Proc.post_get, hLookup, Proc.post_ite]
        exact .attemptMoved hLookup rfl
      apply hDialled.mono
      · intro _ dialled hMoved
        obtain ⟨attempt, hAttempt, hSame⟩ := hMoved.later.attempts attemptId _ hLookup
        refine ⟨hAttempts ▸ hNew, dialled, attempt, rfl, ?_, hAttempt, hSame.sessionId⟩
        exact (hJoined.grown hGrown).grown
          (hMoved.grown (fun _ => trivial) fun _ hNew => by cases hNew)
      · exact fun _ h => h.elim
    · rintro _ ⟨rfl, hTaken⟩
      exact .inr ⟨hAttempts ▸ hTaken, _, rfl, hJoined⟩
  · rintro _ ⟨rfl, hTaken⟩
    exact .inl ⟨rfl, hTaken⟩

/-- What a registration has done when it returns. -/
structure Registered (call : CallRuntime) (sessionId : SessionId) (next : CallRuntime) : Prop where
  consistent : next.Consistent
  joined : Joined call.aggregate sessionId next.aggregate
  callee : next.currentCalleeSessionId = sessionId
  caller : next.caller.id = call.caller.id

/-- A registration breaks off after it has added the leg exactly if the attempt is taken. -/
theorem registerAttempt_post (h : call.Consistent) (attemptSeq : Nat) (sessionId : SessionId)
    (target : OutboundTarget) (createdAtMs : Nat) :
    Proc.Post (registerAttempt attemptSeq sessionId target createdAtMs) () call
      (fun _ next => call.Registered sessionId next ∧
        ¬ call.orphansLeg attemptSeq sessionId target = true)
      fun next => next.Consistent ∧
        (next = call ∧ ¬ call.orphansLeg attemptSeq sessionId target = true ∨
          call.orphansLeg attemptSeq sessionId target = true ∧
            next.aggregate ≠ call.aggregate) := by
  obtain ⟨hCall, hDomain, hCaller, hPolicy⟩ : call.aggregate.id = call.caller.callId ∧
      call.aggregate.domainId = call.caller.domainId ∧
      call.aggregate.callerLeg = call.caller.id ∧
      call.aggregate.bridgePolicy = .sequentialHunt := by
    simpa only [identity, Prod.mk.injEq] using h.identity
  rw [registerAttempt, Proc.post_bind, Proc.post_get, Proc.post_bind, makeCalleeSession,
    calleeSession]
  cases hEndpoint : target.sessionEndpoint with
  | error error =>
      refine ⟨h, .inl ⟨rfl, ?_⟩⟩
      simp only [orphansLeg, hEndpoint, Except.isOk, Except.toBool, Bool.false_and,
        Bool.false_eq_true, not_false_iff]
  | ok endpoint =>
      obtain ⟨calleeTarget, hTarget⟩ := calleeTarget_of_sessionEndpoint hEndpoint
      have hOrphans : call.orphansLeg attemptSeq sessionId target =
          (!call.aggregate.legs.contains sessionId &&
            call.aggregate.calleeAttempts.contains (attemptIdOf attemptSeq)) := by
        rw [orphansLeg, hEndpoint]
        rfl
      rw [hOrphans]
      simp only [ofExcept, Proc.post_pure, Proc.post_bind, Proc.post_modify]
      refine (enterAttempt_post hTarget rfl ?_ ?_ hPolicy h.coherent).mono ?_ ?_
      · exact hDomain.symm
      · exact hCall.symm
      · rintro _ _ ⟨hNew, aggregate, attempt, rfl, hJoined, hLookup, hSession⟩
        rw [hNew, Bool.and_false]
        refine ⟨⟨⟨hJoined.coherent, ?_, attempt, hLookup, hSession⟩, hJoined, rfl, rfl⟩,
          Bool.false_ne_true⟩
        exact hJoined.identity.trans h.identity
      · rintro next (⟨rfl, hTaken⟩ | ⟨hTaken, aggregate, rfl, hJoined⟩)
        · rw [show next.aggregate.legs.contains sessionId = true from hTaken, Bool.not_true,
            Bool.false_and]
          exact ⟨h, .inl ⟨rfl, Bool.false_ne_true⟩⟩
        · rw [hTaken, show call.aggregate.legs.contains sessionId = false from hJoined.free]
          refine ⟨⟨hJoined.coherent, hJoined.identity.trans h.identity, ?_⟩,
            .inr ⟨rfl, hJoined.ne⟩⟩
          obtain ⟨attempt, hLookup, hSession⟩ := h.current
          obtain ⟨attempt', hLookup', hLater⟩ :=
            hJoined.later.attempts call.currentAttemptId attempt hLookup
          exact ⟨attempt', hLookup', hLater.sessionId.trans hSession⟩

theorem Consistent.aggregate_caller (h : call.Consistent) :
    call.aggregate.callerLeg = call.caller.id := by
  have hIdentity := h.identity
  simp only [CallAggregate.identity, Prod.mk.injEq] at hIdentity
  exact hIdentity.2.2.1

/-- A new call consists of its caller and the leg of its first attempt. -/
theorem new_consistent {callId callerSessionId calleeSessionId callerAdapterLegId : String}
    {config : CallConfigSnapshot} {startedAtMs : Nat}
    (h : CallRuntime.new callId callerSessionId calleeSessionId callerAdapterLegId config
      startedAtMs = .ok call) :
    call.Consistent ∧ call.currentCalleeSessionId = calleeSessionId ∧
      ∃ aggregate, CallAggregate.new (callerSession callId callerSessionId calleeSessionId
          callerAdapterLegId config startedAtMs) .sequentialHunt startedAtMs = .ok aggregate ∧
        Joined aggregate calleeSessionId call.aggregate := by
  rw [CallRuntime.new] at h
  simp only [calleeSession] at h
  cases hEndpoint : config.first.outboundTarget.sessionEndpoint with
  | error error =>
      rw [hEndpoint] at h
      cases h
  | ok endpoint =>
      obtain ⟨calleeTarget, hTarget⟩ := calleeTarget_of_sessionEndpoint hEndpoint
      simp only [hEndpoint] at h
      split at h
      · cases h
      · cases h
      · next callee aggregate hCallee hNew =>
          obtain ⟨hId, hRole, hDomain, hCall⟩ : callee.id = calleeSessionId ∧
              callee.role = .callee (attemptIdOf 1) ∧ callee.domainId = config.domainId ∧
              callee.callId = callId := by
            rw [← Except.ok.inj hCallee]
            exact ⟨rfl, rfl, rfl, rfl⟩
          have hIdentity := (new_identity hNew).1
          have hParts := hIdentity
          simp only [CallAggregate.identity, Prod.mk.injEq] at hParts
          have hPlaced : callee.domainId = (base callId callerSessionId calleeSessionId
              callerAdapterLegId config startedAtMs aggregate).aggregate.domainId :=
            hDomain.trans hParts.2.1.symm
          have hEntered := enterAttempt_post hTarget hRole hPlaced (hCall.trans hParts.1.symm)
            hParts.2.2.2 (.new hNew)
          split at h
          · next next hRun =>
              rw [Except.ok.injEq] at h
              subst h
              rw [Proc.Post, hRun] at hEntered
              obtain ⟨-, entered, attempt, rfl, hJoined, hLookup, hSession⟩ := hEntered
              exact ⟨⟨hJoined.coherent, hJoined.identity.trans hIdentity, attempt, hLookup,
                hSession.trans hId⟩, rfl, aggregate, hNew, hId ▸ hJoined⟩
          · cases h

/-! ### Answering an attempt -/

/-- A leg that is there takes any state. -/
theorem updateLegState_total {sessionId : SessionId} {state : LegState}
    {aggregate : CallAggregate} (hLeg : aggregate.legs.contains sessionId = true) :
    Proc.Post (updateLegState sessionId state) () aggregate
      (fun _ next => Achieved aggregate (.updateLegState sessionId state) next ∧
        next.bridges = aggregate.bridges ∧ next.calleeAttempts = aggregate.calleeAttempts)
      fun _ => False := by
  simp only [updateLegState, withLeg, Proc.post_bind, Proc.post_get, Proc.post_ite]
  rw [if_pos hLeg]
  exact ⟨.legStateUpdated hLeg, rfl, rfl⟩

/-- A new bridge between two legs that are there. -/
theorem addBridge_total {bridgeId : BridgeId} {legA legB : SessionId}
    {mediaGeneration createdAtMs : Nat} {aggregate : CallAggregate} (hDistinct : legA ≠ legB)
    (hA : aggregate.legs.contains legA = true) (hB : aggregate.legs.contains legB = true)
    (hFree : aggregate.bridges.contains bridgeId = false) :
    Proc.Post (addBridge bridgeId legA legB mediaGeneration createdAtMs) () aggregate
      (fun _ next => Achieved aggregate
        (.addBridge bridgeId legA legB mediaGeneration createdAtMs) next)
      fun _ => False := by
  have hNew : ¬ aggregate.bridges.contains bridgeId = true := by
    rw [hFree]
    exact Bool.false_ne_true
  simp only [addBridge, Proc.post_bind, Proc.post_get, Proc.post_ite]
  rw [if_neg hDistinct, if_neg (not_not.mpr hA), if_neg (not_not.mpr hB), if_neg hNew]
  exact .bridgeAdded hDistinct hA hB (OrdMap.lookup_eq_none_of_not_contains hNew)

/-- The bridge of a decided attempt can be planned once. -/
theorem planBridge_total (h : call.Consistent) (mediaGeneration answeredAtMs : Nat)
    (hFree : call.aggregate.bridges.contains (bridgeIdOf call.currentAttemptId) = false)
    (hDecided : ∃ attempt,
      call.aggregate.calleeAttempts.lookup call.currentAttemptId = some attempt ∧
        attempt.state.isDecided = true) :
    Proc.Post (planBridge mediaGeneration answeredAtMs) () call (fun _ next => Advanced call next)
      fun _ => False := by
  have hCaller : call.aggregate.legs.contains call.caller.id = true :=
    h.aggregate_caller ▸ h.coherent.sound.caller
  obtain ⟨attempt, hLookup, hSession⟩ := h.current
  have hCallee : call.aggregate.legs.contains call.currentCalleeSessionId = true :=
    hSession ▸ h.coherent.sound.attempts _ attempt hLookup
  have hDistinct : call.caller.id ≠ call.currentCalleeSessionId := by
    rw [← h.aggregate_caller, ← hSession]
    exact (h.coherent.callees _ attempt hLookup).symm
  rw [planBridge, Proc.post_bind, Proc.post_get]
  simp only [onAggregate, Proc.post_bind, Proc.post_focus, Proc.post_modify]
  apply (updateLegState_total hCaller).mono ?_ fun _ hFalse => hFalse
  rintro _ first ⟨hFirst, hFirstBridges, hFirstAttempts⟩
  have hFirstGrown : Grown call.aggregate first := hFirst.grown (fun _ => trivial) fun _ hNew => by
    cases hNew
  apply (updateLegState_total (hFirst.later.legs.contains hCallee)).mono ?_ fun _ hFalse => hFalse
  rintro _ second ⟨hSecond, hSecondBridges, hSecondAttempts⟩
  have hSecondGrown : Grown call.aggregate second :=
    hFirstGrown.trans (hSecond.grown (fun _ => trivial) fun _ hNew => by cases hNew)
  apply (addBridge_total hDistinct (hSecondGrown.later.legs.contains hCaller)
    (hSecondGrown.later.legs.contains hCallee) (by rwa [hSecondBridges, hFirstBridges])).mono ?_
    fun _ hFalse => hFalse
  intro _ third hThird
  refine ⟨hSecondGrown.trans (hThird.grown (fun _ => ?_) fun _ hNew => by cases hNew), rfl⟩
  obtain ⟨decided, hDecidedLookup, hState⟩ := hDecided
  exact ⟨call.currentAttemptId, decided, rfl, by
    rw [hSecondAttempts, hFirstAttempts, hDecidedLookup], hState⟩

/-- Where the current attempt stands. -/
def currentState (call : CallRuntime) : Option CalleeAttemptState :=
  (call.aggregate.calleeAttempts.lookup call.currentAttemptId).map (·.state)

/-- The current attempt can be moved to its answered state, and is not in it. -/
def rings (call : CallRuntime) : Bool :=
  call.currentState = some .dialing || call.currentState = some .ringing

/-- What an answer of the current attempt changes. -/
structure Answered (call next : CallRuntime) : Prop where
  advanced : Advanced call next
  answered : next.currentState = some .answered
  bridges : next.aggregate.bridges = call.aggregate.bridges
  winner : next.aggregate.winner = call.aggregate.winner
  undecided : ∃ attempt, call.aggregate.calleeAttempts.lookup call.currentAttemptId = some attempt ∧
    attempt.state.isDecided = false
  changed : call.rings = true ∧ next.aggregate ≠ call.aggregate ∨
    call.currentState = some .answered ∧ next = call

/-- An attempt is answered out of two states; in a third one it is answered already. -/
theorem updateCurrentAttempt_answered (h : call.Consistent) :
    Proc.Post (updateCurrentAttempt .answered none) () call (fun _ next => Answered call next)
      fun next => next = call ∧ call.rings = false ∧ call.currentState ≠ some .answered := by
  obtain ⟨attempt, hLookup, -⟩ := h.current
  have hState : call.currentState = some attempt.state := by
    rw [currentState, hLookup, Option.map_some]
  simp only [updateCurrentAttempt, onAggregate, updateAttemptState, Proc.post_bind, Proc.post_get,
    Proc.post_focus, hLookup, Proc.post_ite]
  split
  · next hAnswered =>
      rw [hAnswered] at hState
      exact ⟨.refl call, hState, rfl, rfl, ⟨attempt, hLookup, by rw [hAnswered]; rfl⟩,
        .inr ⟨hState, rfl⟩⟩
  · next hOther =>
      split
      · next hInvalid =>
          refine ⟨rfl, ?_, ?_⟩
          · rw [rings, hState]
            cases hAt : attempt.state <;> simp_all [validAttemptTransition]
          · rw [hState]
            exact fun hSame => hOther (Option.some.inj hSame)
      · next hValid =>
          rw [not_not] at hValid
          have hMoved : Achieved call.aggregate
            (.updateAttemptState call.currentAttemptId .answered none)
            _ := .attemptMoved hLookup hValid
          have hRings : call.rings = true := by
            rw [rings, hState]
            cases hAt : attempt.state <;> simp_all [validAttemptTransition]
          refine ⟨.of_achieved hMoved (fun _ => trivial) fun _ hNew => (by cases hNew), ?_,
            rfl, rfl, ⟨attempt, hLookup, ?_⟩, .inl ⟨hRings, fun hSame => ?_⟩⟩
          · simp only [currentState, OrdMap.lookup_adjust_self hLookup, Option.map_some]
          · cases hAt : attempt.state <;>
              simp_all [validAttemptTransition, CalleeAttemptState.isDecided]
          · have hBoth := congrArg
              (fun aggregate =>
                (aggregate.calleeAttempts.lookup call.currentAttemptId).map (·.state))
              hSame
            simp only [OrdMap.lookup_adjust_self hLookup, hLookup, Option.map_some,
              Option.some.injEq] at hBoth
            exact hOther hBoth.symm

/-- An answered attempt that did not win yet is no winner: the winner is decided. -/
theorem winner_ne_current (h : call.aggregate.Won)
    (hAnswered : call.currentState = some .answered) :
    call.aggregate.winner ≠ some call.currentAttemptId := by
  intro hWinner
  obtain ⟨-, attempt, hLookup, hState⟩ := h call.currentAttemptId hWinner
  rw [currentState, hLookup, Option.map_some, Option.some.injEq] at hAnswered
  rw [hAnswered] at hState
  simp only [reduceCtorEq, or_self] at hState

/-- An answered attempt is selected. -/
theorem selectAnswered_total {attemptId : CalleeAttemptId} {answeredAtMs : Nat}
    {aggregate : CallAggregate} {op : AggregateOp}
    (hOp : op = .selectWinner attemptId answeredAtMs ∨ op = .replaceWinner attemptId answeredAtMs)
    (hAnswered : (aggregate.calleeAttempts.lookup attemptId).map (·.state) = some .answered) :
    Proc.Post (selectAnswered attemptId answeredAtMs) () aggregate
      (fun _ next => Achieved aggregate op next ∧ next.bridges = aggregate.bridges ∧
        ∃ attempt, next.calleeAttempts.lookup attemptId = some attempt ∧
          attempt.state.isDecided = true)
      fun _ => False := by
  obtain ⟨attempt, hLookup, hState⟩ := Option.map_eq_some_iff.mp hAnswered
  simp only [selectAnswered, Proc.post_bind, Proc.post_get, hLookup, Proc.post_ite]
  rw [if_neg (not_not.mpr hState)]
  refine ⟨.settled hOp hLookup hState, rfl, { attempt with state := .selected }, ?_, rfl⟩
  rw [settleWinner, OrdMap.lookup_mapValues, hLookup, Option.map_some, if_pos rfl]

/-- The first winner is selected, a second one refused. -/
theorem selectCurrentAttempt_answered (h : call.Consistent) (answeredAtMs : Nat)
    (hAnswered : call.currentState = some .answered) :
    Proc.Post (selectCurrentAttempt answeredAtMs) () call
      (fun _ next => call.aggregate.winner = none ∧ Advanced call next ∧
        next.aggregate.bridges = call.aggregate.bridges ∧
        ∃ attempt, next.aggregate.calleeAttempts.lookup call.currentAttemptId = some attempt ∧
          attempt.state.isDecided = true)
      fun next => next = call ∧ call.aggregate.winner ≠ none := by
  simp only [selectCurrentAttempt, onAggregate, selectWinner, Proc.post_bind, Proc.post_get,
    Proc.post_focus, Proc.post_pure]
  split
  · next winner hWinner =>
      rw [Proc.post_ite]
      split
      · next hSame => exact (winner_ne_current h.coherent.won hAnswered (hSame ▸ hWinner)).elim
      · exact ⟨rfl, by rw [hWinner]; exact Option.some_ne_none winner⟩
  · next hWinner =>
      apply (@selectAnswered_total call.currentAttemptId answeredAtMs call.aggregate
        (.selectWinner call.currentAttemptId answeredAtMs) (.inl rfl) hAnswered).mono ?_
          fun _ hFalse => hFalse.elim
      rintro _ next ⟨hDone, hBridges, hDecided⟩
      exact ⟨hWinner, .of_achieved hDone (fun _ => trivial) fun _ hNew => (by cases hNew),
        hBridges, hDecided⟩

/-- An answer is refused after the attempt has moved to its answered state, for the call has a
winner already. -/
def tearsAnswer (call : CallRuntime) : Bool := call.rings && call.aggregate.winner.isSome

/-- The bridge of an undecided attempt is not planned yet. -/
theorem Consistent.bridge_free (h : call.Consistent)
    (hUndecided : ∃ attempt,
      call.aggregate.calleeAttempts.lookup call.currentAttemptId = some attempt ∧
        attempt.state.isDecided = false) :
    call.aggregate.bridges.contains (bridgeIdOf call.currentAttemptId) = false := by
  rw [Bool.eq_false_iff]
  intro hBridge
  obtain ⟨attempt, hLookup, hState⟩ := hUndecided
  obtain ⟨decided, hDecided, hDone⟩ := h.coherent.bridged _ hBridge
  rw [hLookup, Option.some.injEq] at hDecided
  rw [← hDecided, hState] at hDone
  simp only [Bool.false_eq_true] at hDone

theorem markAnswered_post (h : call.Consistent) (answeredAtMs mediaGeneration : Nat) :
    Proc.Post (markAnswered answeredAtMs mediaGeneration) () call
      (fun _ next => Advanced call next ∧ ¬ call.tearsAnswer = true)
      fun next => Advanced call next ∧
        (next = call ∧ ¬ call.tearsAnswer = true ∨
          call.tearsAnswer = true ∧ next.aggregate ≠ call.aggregate) := by
  rw [markAnswered, Proc.post_bind]
  apply (updateCurrentAttempt_answered h).mono
  · intro _ answered hAnswered
    have hConsistent : answered.Consistent := h.advance hAnswered.advanced
    rw [Proc.post_bind]
    apply (selectCurrentAttempt_answered hConsistent answeredAtMs hAnswered.answered).mono
    · rintro _ selected ⟨hNone, hSelected, hBridges, hDecided⟩
      have hWhole : ¬ call.tearsAnswer = true := by
        rw [tearsAnswer, ← hAnswered.winner, hNone, Option.isSome_none, Bool.and_false]
        exact Bool.false_ne_true
      rw [Proc.post_bind, Proc.post_modify]
      have hMarked : Advanced selected { selected with
          caller := { selected.caller.markAnswered answeredAtMs with state := .bridged } } :=
        ⟨.refl _, rfl⟩
      have hAll := hAnswered.advanced.trans (hSelected.trans hMarked)
      apply (planBridge_total (h.advance hAll) mediaGeneration answeredAtMs ?_ ?_).mono ?_
        fun _ hFalse => hFalse.elim
      · show selected.aggregate.bridges.contains (bridgeIdOf selected.currentAttemptId) = false
        rw [hBridges, hAnswered.bridges, hSelected.attemptId, hAnswered.advanced.attemptId]
        exact h.bridge_free hAnswered.undecided
      · show ∃ attempt, selected.aggregate.calleeAttempts.lookup selected.currentAttemptId =
          some attempt ∧ attempt.state.isDecided = true
        rw [hSelected.attemptId]
        exact hDecided
      · intro _ last hLast
        exact ⟨hAll.trans hLast, hWhole⟩
    · rintro _ ⟨rfl, hSome⟩
      refine ⟨hAnswered.advanced, ?_⟩
      rcases hAnswered.changed with ⟨hRings, hChanged⟩ | ⟨hState, hSame⟩
      · refine .inr ⟨?_, hChanged⟩
        rw [tearsAnswer, hRings, Bool.true_and, ← hAnswered.winner]
        exact Option.isSome_iff_ne_none.mpr hSome
      · refine .inl ⟨hSame, ?_⟩
        rw [tearsAnswer, rings, hState]
        simp only [Option.some.injEq, reduceCtorEq, decide_false, Bool.or_self, Bool.false_and,
          Bool.false_eq_true, not_false_iff]
  · rintro _ ⟨rfl, hRings, -⟩
    refine ⟨.refl _, .inl ⟨rfl, ?_⟩⟩
    rw [tearsAnswer, hRings, Bool.false_and]
    exact Bool.false_ne_true

/-! ### Answering a transfer -/

/-- The leg of the attempt that has won so far. -/
def winnerLeg (call : CallRuntime) : Option CallLeg := do
  let winner ← call.aggregate.winner
  let attempt ← call.aggregate.calleeAttempts.lookup winner
  call.aggregate.legs.lookup attempt.sessionId

/-- A transfer is refused after the leg of the winner has been marked as left. -/
def tearsTransfer (call : CallRuntime) : Bool :=
  (match call.winnerLeg with
    | some leg => leg.leftAtMs.isNone || leg.state ≠ .destroyed
    | none => false) && !call.rings && call.currentState ≠ some .answered

/-- The attempt of the winner is found in the list of attempts. -/
theorem find_attempt {aggregate : CallAggregate} (h : aggregate.Coherent)
    {attemptId : CalleeAttemptId} {attempt : CalleeAttempt}
    (hLookup : aggregate.calleeAttempts.lookup attemptId = some attempt) :
    aggregate.calleeAttempts.values.find? (·.attemptId = attemptId) = some attempt := by
  have hFound : (aggregate.calleeAttempts.values.find? (·.attemptId = attemptId)).isSome =
    true := by
    rw [List.find?_isSome]
    exact ⟨attempt, List.mem_map_of_mem (OrdMap.mem_of_lookup hLookup),
      decide_eq_true (h.filed attemptId attempt hLookup)⟩
  obtain ⟨found, hFind⟩ := Option.isSome_iff_exists.mp hFound
  have hId : found.attemptId = attemptId := by
    simpa only [decide_eq_true_iff] using List.find?_some hFind
  obtain ⟨entry, hEntry, rfl⟩ := List.mem_map.mp (List.mem_of_find?_eq_some hFind)
  have hSame := OrdMap.lookup_of_mem h.ascending hEntry
  rw [← h.filed entry.1 entry.2 hSame, hId, hLookup] at hSame
  rw [hFind, hSame]

/-- Marking a leg as left changes a call only if the leg has not left or is not destroyed. -/
theorem markLegLeft_total {sessionId : SessionId} {leftAtMs : Nat} {aggregate : CallAggregate}
    {leg : CallLeg} (hLeg : aggregate.legs.lookup sessionId = some leg) :
    Proc.Post (markLegLeft sessionId leftAtMs) () aggregate
      (fun _ next => Achieved aggregate (.markLegLeft sessionId leftAtMs) next ∧
        next.calleeAttempts = aggregate.calleeAttempts ∧ next.winner = aggregate.winner ∧
        next.bridges = aggregate.bridges ∧
        (next = aggregate ↔ leg.leftAtMs.isSome = true ∧ leg.state = .destroyed))
      fun _ => False := by
  simp only [markLegLeft, withLeg, Proc.post_bind, Proc.post_get, Proc.post_ite]
  rw [if_pos (OrdMap.contains_of_lookup hLeg)]
  refine ⟨.legLeft, rfl, rfl, rfl, ?_, ?_⟩
  · intro hSame
    have hBoth := congrArg (fun aggregate => aggregate.legs.lookup sessionId) hSame
    simp only [OrdMap.lookup_adjust_self hLeg, hLeg, Option.some.injEq] at hBoth
    rw [← hBoth]
    exact ⟨getOrInsert_isSome _ _, rfl⟩
  · rintro ⟨hLeft, hState⟩
    have hLegs := OrdMap.adjust_eq_self (f := fun leg : CallLeg =>
      { leg with leftAtMs := getOrInsert leg.leftAtMs leftAtMs, state := .destroyed }) hLeg
      (by rw [getOrInsert_of_isSome hLeft, ← hState])
    simp only [hLegs]

/-- The current winner, where there is one, leaves the call, and no more than that happens. -/
structure WinnerLeft (call next : CallRuntime) : Prop where
  advanced : Advanced call next
  attempts : next.aggregate.calleeAttempts = call.aggregate.calleeAttempts
  winner : next.aggregate.winner = call.aggregate.winner
  bridges : next.aggregate.bridges = call.aggregate.bridges
  changed : next = call ∨ next.aggregate ≠ call.aggregate
  left : next = call ↔ ∀ leg, call.winnerLeg = some leg →
    leg.leftAtMs.isSome = true ∧ leg.state = .destroyed

theorem leaveWinner_total (h : call.Consistent) (answeredAtMs : Nat) :
    Proc.Post (Proc.whenSome (call.aggregate.winner.bind fun winner =>
        call.aggregate.calleeAttempts.values.find? (·.attemptId = winner)) fun attempt =>
          onAggregate (CallAggregate.markLegLeft attempt.sessionId answeredAtMs)) () call
      (fun _ next => WinnerLeft call next) fun _ => False := by
  cases hWinner : call.aggregate.winner with
  | none =>
      refine ⟨.refl call, rfl, rfl, rfl, .inl rfl, fun _ leg hLeg => ?_, fun _ => rfl⟩
      simp only [winnerLeg, hWinner, Option.bind_eq_bind, Option.bind_none, reduceCtorEq] at hLeg
  | some winner =>
      obtain ⟨-, attempt, hLookup, -⟩ := h.coherent.won winner hWinner
      obtain ⟨leg, hLeg⟩ := Option.isSome_iff_exists.mp
        (h.coherent.sound.attempts winner attempt hLookup)
      have hWinnerLeg : call.winnerLeg = some leg := by
        simp only [winnerLeg, hWinner, hLookup, Option.bind_eq_bind, Option.bind_some, hLeg]
      rw [Option.bind_some, find_attempt h.coherent hLookup]
      simp only [Proc.whenSome, onAggregate, Proc.post_focus]
      apply (markLegLeft_total hLeg).mono ?_ fun _ hFalse => hFalse
      rintro _ aggregate ⟨hDone, hAttempts, hSameWinner, hBridges, hSame⟩
      have hNext : ({ call with aggregate } : CallRuntime) = call ↔ aggregate = call.aggregate := by
        constructor
        · exact fun hEq => congrArg CallRuntime.aggregate hEq
        · intro hEq
          rw [hEq]
      refine ⟨.of_achieved hDone (fun _ => trivial) fun _ hNew => (by cases hNew), hAttempts,
        hSameWinner, hBridges, ?_, ?_⟩
      · rw [hNext]
        exact em _
      · rw [hNext, hSame]
        constructor
        · intro hGone leg' hLeg'
          rw [hWinnerLeg, Option.some.injEq] at hLeg'
          exact hLeg' ▸ hGone
        · exact fun hGone => hGone leg hWinnerLeg

theorem contains_releaseAllBridges (releasedAtMs : Nat) (aggregate : CallAggregate)
    (bridgeId : BridgeId) :
    (releaseAllBridges releasedAtMs aggregate).bridges.contains bridgeId =
      aggregate.bridges.contains bridgeId := by
  simp only [releaseAllBridges, OrdMap.contains, OrdMap.lookup_mapValues, Option.isSome_map]

/-- A transfer is answered as a whole. Only one that is torn errs after it has changed the call. -/
theorem markTransferAnswered_post (h : call.Consistent) (answeredAtMs mediaGeneration : Nat) :
    Proc.Post (markTransferAnswered answeredAtMs mediaGeneration) () call
      (fun _ next => Advanced call next ∧ ¬ call.tearsTransfer = true)
      fun next => Advanced call next ∧
        (next = call ∧ ¬ call.tearsTransfer = true ∨
          call.tearsTransfer = true ∧ next.aggregate ≠ call.aggregate) := by
  rw [markTransferAnswered, Proc.post_bind, Proc.post_get, Proc.post_bind]
  apply (leaveWinner_total h answeredAtMs).mono ?_ fun _ hFalse => hFalse.elim
  intro _ left hLeft
  have hConsistent : left.Consistent := h.advance hLeft.advanced
  have hState : left.currentState = call.currentState := by
    rw [currentState, currentState, hLeft.attempts, hLeft.advanced.attemptId]
  have hRings : left.rings = call.rings := by rw [rings, rings, hState]
  rw [Proc.post_bind]
  apply (updateCurrentAttempt_answered hConsistent).mono
  · intro _ answered hAnswered
    have hWhole : ¬ call.tearsTransfer = true := by
      rw [tearsTransfer, ← hRings, ← hState]
      rcases hAnswered.changed with ⟨hRinging, -⟩ | ⟨hDone, -⟩
      · simp [hRinging]
      · simp [hDone]
    have hAnsweredConsistent : answered.Consistent := hConsistent.advance hAnswered.advanced
    have hNotWinner : answered.aggregate.winner ≠ some answered.currentAttemptId :=
      winner_ne_current hAnsweredConsistent.coherent.won hAnswered.answered
    rw [Proc.post_bind, Proc.post_get]
    simp only [onAggregate, replaceWinner, Proc.post_bind, Proc.post_get, Proc.post_focus,
      Proc.post_modify]
    rw [if_neg hNotWinner]
    apply (@selectAnswered_total answered.currentAttemptId answeredAtMs answered.aggregate
      (.replaceWinner answered.currentAttemptId answeredAtMs) (.inr rfl) hAnswered.answered).mono
        ?_ fun _ hFalse => hFalse.elim
    rintro _ settled ⟨hDone, hBridges, attempt, hLookup, hDecided⟩
    have hSettled : Advanced answered { answered with aggregate := settled } :=
      .of_achieved hDone (fun _ => trivial) fun _ hNew => by cases hNew
    have hReleased : Advanced { answered with aggregate := settled }
        { answered with
          aggregate := settled.releaseAllBridges answeredAtMs
          caller := { answered.caller with state := .bridged } } :=
      ⟨Achieved.allReleased.grown (fun _ => trivial) fun _ hNew => (by cases hNew), rfl⟩
    have hAll := ((hLeft.advanced.trans hAnswered.advanced).trans hSettled).trans hReleased
    apply (planBridge_total (h.advance hAll) mediaGeneration answeredAtMs ?_ ?_).mono ?_
      fun _ hFalse => hFalse.elim
    · have hFree := hConsistent.bridge_free hAnswered.undecided
      rw [← hAnswered.advanced.attemptId, ← hAnswered.bridges, ← hBridges] at hFree
      show (releaseAllBridges answeredAtMs settled).bridges.contains
        (bridgeIdOf answered.currentAttemptId) = false
      rwa [contains_releaseAllBridges]
    · exact ⟨attempt, hLookup, hDecided⟩
    · intro _ last hLast
      exact ⟨hAll.trans hLast, hWhole⟩
  · rintro next ⟨hNext, hSilent, hOther⟩
    rw [hNext]
    refine ⟨hLeft.advanced, ?_⟩
    have hTears : call.tearsTransfer = true ↔ ¬ left = call := by
      rw [hLeft.left, tearsTransfer, ← hRings, ← hState, hSilent, decide_eq_true hOther]
      cases call.winnerLeg with
      | none => simp
      | some leg => simp [imp_iff_not_or]
    rw [hTears]
    rcases hLeft.changed with hSame | hChanged
    · exact .inl ⟨hSame, not_not.mpr hSame⟩
    · exact .inr ⟨fun hSame => hChanged (congrArg CallRuntime.aggregate hSame), hChanged⟩

/-! ### Runs -/

/-- Another leg that leaves, or was never there. -/
theorem leaveLeg_grown (leftAtMs : Nat) (sessionId : SessionId) (aggregate : CallAggregate) :
    Grown aggregate (leaveLeg leftAtMs aggregate sessionId) := by
  have hStep : CallAggregate.system.next aggregate (.markLegLeft sessionId leftAtMs)
      (leaveLeg leftAtMs aggregate sessionId) := rfl
  exact (achieved_of_next hStep).grown (fun _ => trivial) fun _ => nofun

theorem leaveLegs_grown (leftAtMs : Nat) (sessions : List SessionId) (aggregate : CallAggregate) :
    Grown aggregate (sessions.foldl (leaveLeg leftAtMs) aggregate) := by
  induction sessions generalizing aggregate with
  | nil => exact .refl aggregate
  | cons sessionId rest ih => exact (leaveLeg_grown leftAtMs sessionId aggregate).trans (ih _)

theorem releaseTopology_advances (releasedAtMs : Nat) (call : CallRuntime) :
    Advanced call (call.releaseTopology releasedAtMs) := by
  have hReleased : Grown call.aggregate (call.aggregate.releaseAllBridges releasedAtMs) :=
    Achieved.allReleased.grown (fun _ => trivial) fun _ => nofun
  refine ⟨?_, rfl⟩
  exact (hReleased.trans (leaveLeg_grown releasedAtMs _ _)).trans (leaveLegs_grown releasedAtMs _ _)

end CallRuntime

/-- What the actor does with the runtime of its call. -/
inductive RuntimeOp where
  | registerAttempt (attemptSeq : Nat) (sessionId : SessionId) (target : OutboundTarget)
      (createdAtMs : Nat)
  | markAnswered (answeredAtMs mediaGeneration : Nat)
  | markTransferAnswered (answeredAtMs mediaGeneration : Nat)
  | activateCurrentBridge (mediaGeneration activeAtMs : Nat)
  | updateCurrentAttempt (state : CalleeAttemptState) (cause : Option HangupCause)
  | selectCurrentAttempt (answeredAtMs : Nat)
  | handoffCoordinator (expectedOwner : SessionId) (expectedGeneration : Nat) (target : SessionId)
  | releaseTopology (releasedAtMs : Nat)

namespace CallRuntime

open CallAggregate

variable {call next last : CallRuntime}

def run : RuntimeOp → Op Unit
  | .registerAttempt attemptSeq sessionId target createdAtMs =>
    registerAttempt attemptSeq sessionId target createdAtMs
  | .markAnswered answeredAtMs mediaGeneration => markAnswered answeredAtMs mediaGeneration
  | .markTransferAnswered answeredAtMs mediaGeneration =>
    markTransferAnswered answeredAtMs mediaGeneration
  | .activateCurrentBridge mediaGeneration activeAtMs =>
    activateCurrentBridge mediaGeneration activeAtMs
  | .updateCurrentAttempt state cause => updateCurrentAttempt state cause
  | .selectCurrentAttempt answeredAtMs => selectCurrentAttempt answeredAtMs
  | .handoffCoordinator owner generation target =>
    onAggregate (CallAggregate.run (.handoffCoordinator owner generation target))
  | .releaseTopology releasedAtMs => Proc.modify (releaseTopology releasedAtMs)

/-- The runtime record of a call. A step is an operation, failed or not, or a write to other
fields than those of the call's topology. -/
def system : System CallRuntime (Option RuntimeOp) where
  init call := ∃ callId callerSessionId calleeSessionId callerAdapterLegId config startedAtMs,
    CallRuntime.new callId callerSessionId calleeSessionId callerAdapterLegId config startedAtMs =
      .ok call
  next call op next :=
    match op with
    | some op => next = (run op).final () call
    | none => next.aggregate = call.aggregate ∧ next.parties = call.parties ∧
        next.currentBridgeId = call.currentBridgeId

/-- An operation registers an attempt or goes on with those that are there. -/
theorem run_advances (op : RuntimeOp) (h : call.Consistent) :
    (∃ attemptSeq sessionId target createdAtMs,
      op = .registerAttempt attemptSeq sessionId target createdAtMs) ∨
    Proc.Post (run op) () call (fun _ next => Advanced call next) fun next =>
      Advanced call next := by
  have hUpdate : ∀ {m : CallAggregate.Op Unit} {op : AggregateOp},
      Operates m op call.aggregate → (∀ aggregate, CallAggregate.Fits aggregate op) →
      (∀ session, op ≠ .addLeg session) →
      Proc.Post (onAggregate m) () call (fun _ next => Advanced call next)
        fun next => Advanced call next := by
    intro m op hm hFits hOp
    apply (onAggregate_advances hm (fun _ => hFits _) hOp).mono (fun _ _ hDone => hDone)
    intro next hSame
    exact hSame ▸ .refl call
  cases op with
  | registerAttempt attemptSeq sessionId target createdAtMs =>
      exact .inl ⟨attemptSeq, sessionId, target, createdAtMs, rfl⟩
  | markAnswered answeredAtMs mediaGeneration =>
      right
      exact (markAnswered_post h answeredAtMs mediaGeneration).mono (fun _ _ hDone => hDone.1)
        fun _ hFailed => hFailed.1
  | markTransferAnswered answeredAtMs mediaGeneration =>
      right
      exact (markTransferAnswered_post h answeredAtMs mediaGeneration).mono
        (fun _ _ hDone => hDone.1) fun _ hFailed => hFailed.1
  | activateCurrentBridge mediaGeneration activeAtMs =>
      right
      rw [run, activateCurrentBridge, Proc.post_bind, Proc.post_get]
      split
      · exact .refl call
      · exact hUpdate (activateBridge_operates _ _ _) (fun _ => trivial) fun _ => nofun
  | updateCurrentAttempt state cause =>
      right
      rw [run, updateCurrentAttempt, Proc.post_bind, Proc.post_get]
      exact hUpdate (updateAttemptState_operates _ _ _) (fun _ => trivial) fun _ => nofun
  | selectCurrentAttempt answeredAtMs =>
      right
      rw [run, selectCurrentAttempt, Proc.post_bind, Proc.post_get, Proc.post_bind]
      apply (onAggregate_advances (selectWinner_operates (.inl rfl)) (fun _ => trivial)
        fun _ => nofun).mono
      · exact fun _ _ hDone => hDone
      · intro next hSame
        exact hSame ▸ .refl call
  | handoffCoordinator owner generation target =>
      right
      exact hUpdate (run_operates _) (fun _ => trivial) fun _ => nofun
  | releaseTopology releasedAtMs =>
      right
      exact releaseTopology_advances releasedAtMs call

theorem consistent_of_next {op : Option RuntimeOp} (h : call.Consistent)
    (hNext : system.next call op next) : next.Consistent := by
  cases op with
  | none =>
      obtain ⟨hAggregate, hParties, -⟩ := hNext
      exact h.advance ⟨hAggregate ▸ .refl _, hParties⟩
  | some op =>
      rw [show next = (run op).final () call from hNext]
      apply Proc.Post.final (P := Consistent)
      rcases run_advances op h with ⟨attemptSeq, sessionId, target, createdAtMs, rfl⟩ | hAdvances
      · apply (registerAttempt_post h attemptSeq sessionId target createdAtMs).mono
        · exact fun _ _ hDone => hDone.1.consistent
        · exact fun _ hFailed => hFailed.1
      · exact hAdvances.mono (fun _ _ hDone => h.advance hDone) fun _ hFailed => h.advance hFailed

theorem consistent_of_reachable (h : Reachable system call) : call.Consistent := by
  apply h.invariant
  · rintro call ⟨callId, callerSessionId, calleeSessionId, callerAdapterLegId, config,
      startedAtMs, hNew⟩
    exact (new_consistent hNew).1
  · intro call op next hCall hNext
    exact consistent_of_next hCall hNext

theorem registerAttempt_atomic_iff (h : call.Consistent) (attemptSeq : Nat)
    (sessionId : SessionId) (target : OutboundTarget) (createdAtMs : Nat) :
    Atomic (registerAttempt attemptSeq sessionId target createdAtMs) call ↔
      ¬ call.orphansLeg attemptSeq sessionId target = true := by
  apply atomic_iff
  exact (registerAttempt_post h attemptSeq sessionId target createdAtMs).mono
    (fun _ _ hDone => hDone.2) fun _ hFailed => hFailed.2

theorem markAnswered_atomic_iff (h : call.Consistent) (answeredAtMs mediaGeneration : Nat) :
    Atomic (markAnswered answeredAtMs mediaGeneration) call ↔ ¬ call.tearsAnswer = true := by
  apply atomic_iff
  exact (markAnswered_post h answeredAtMs mediaGeneration).mono (fun _ _ hDone => hDone.2)
    fun _ hFailed => hFailed.2

theorem markTransferAnswered_atomic_iff (h : call.Consistent)
    (answeredAtMs mediaGeneration : Nat) :
    Atomic (markTransferAnswered answeredAtMs mediaGeneration) call ↔
      ¬ call.tearsTransfer = true := by
  apply atomic_iff
  exact (markTransferAnswered_post h answeredAtMs mediaGeneration).mono
    (fun _ _ hDone => hDone.2) fun _ hFailed => hFailed.2

/-- An error leaves the topology of the call as it was, unless it comes after the leg of a new
attempt was added, after an attempt was moved to its answered state though the call has its
winner, or after the leg of the winner was marked as left. -/
theorem compound_atomic_iff (h : Reachable system call) :
    (∀ attemptSeq sessionId target createdAtMs,
      Atomic (registerAttempt attemptSeq sessionId target createdAtMs) call ↔
        ¬ call.orphansLeg attemptSeq sessionId target = true) ∧
      (∀ answeredAtMs mediaGeneration,
        Atomic (markAnswered answeredAtMs mediaGeneration) call ↔ ¬ call.tearsAnswer = true) ∧
      ∀ answeredAtMs mediaGeneration,
        Atomic (markTransferAnswered answeredAtMs mediaGeneration) call ↔
          ¬ call.tearsTransfer = true :=
  have hConsistent : call.Consistent := consistent_of_reachable h
  ⟨registerAttempt_atomic_iff hConsistent, markAnswered_atomic_iff hConsistent,
    markTransferAnswered_atomic_iff hConsistent⟩

/-- The runtime after some operations, failed ones among them. -/
def runAll (ops : List RuntimeOp) (call : CallRuntime) : CallRuntime :=
  ops.foldl (fun call op => (run op).final () call) call

theorem runs_runAll (ops : List RuntimeOp) (call : CallRuntime) :
    Runs system call (runAll ops call) := by
  induction ops generalizing call with
  | nil => exact .refl
  | cons op rest ih =>
      have hNext : system.next call (some op) ((run op).final () call) := rfl
      have hFirst : Runs system call ((run op).final () call) := .step .refl trivial hNext
      exact hFirst.trans (ih _)

/-- A call from one number to another over a trunk. -/
def exampleConfig : CallConfigSnapshot where
  domainId := "domain"
  numbers :=
    { originalCaller := "100", originalCallee := "200", signalingCaller := "100",
      signalingCallee := "200" }
  inbound := {}
  outbound := {}
  candidates := [{ outboundTarget := .trunk "trunk" }]
  candidates_ne_nil := List.cons_ne_nil _ _
  timeouts := {}
  recordingDir := ""

/-- The runtime of a new call. -/
def exampleStart : CallRuntime :=
  ((CallRuntime.new "call" "caller" "callee" "leg" exampleConfig 1).toOption).getD
    (base "call" "caller" "callee" "leg" exampleConfig 1 exampleCall)

theorem reachable_exampleStart (ops : List RuntimeOp) :
    Reachable system (runAll ops exampleStart) :=
  ⟨exampleStart, ⟨"call", "caller", "callee", "leg", exampleConfig, 1, rfl⟩, runs_runAll ops _⟩

/-- The answered attempt is reported answered once more, which is an error. -/
theorem compound_atomic_iff_repeated :
    (markAnswered 9 1 () (runAll [.markAnswered 5 1] exampleStart)).1.isOk = false ∧
      Atomic (markAnswered 9 1) (runAll [.markAnswered 5 1] exampleStart) :=
  ⟨rfl, ((compound_atomic_iff (reachable_exampleStart [.markAnswered 5 1])).2.1 9 1).mpr
    (by decide)⟩

/-- The first attempt has won, and a second one is dialled for a transfer. -/
def transferring : CallRuntime :=
  runAll [.markAnswered 5 1, .registerAttempt 2 "callee-2" (.trunk "trunk") 6] exampleStart

/-- The attempt of the transfer is cancelled before it is answered. -/
def transferCancelled : CallRuntime :=
  runAll [.markAnswered 5 1, .registerAttempt 2 "callee-2" (.trunk "trunk") 6,
    .updateCurrentAttempt .cancelled none] exampleStart

/-- Each of the three operations can fail halfway. -/
theorem compound_torn :
    (Reachable system exampleStart ∧
        ¬ Atomic (registerAttempt 1 "callee-2" (.trunk "trunk") 6) exampleStart) ∧
      (Reachable system transferring ∧ ¬ Atomic (markAnswered 9 1) transferring) ∧
      Reachable system transferCancelled ∧
        ¬ Atomic (markTransferAnswered 9 2) transferCancelled := by
  have hStart : Reachable system exampleStart := reachable_exampleStart []
  have hTransferring : Reachable system transferring := reachable_exampleStart _
  have hCancelled : Reachable system transferCancelled := reachable_exampleStart _
  refine ⟨⟨hStart, ?_⟩, ⟨hTransferring, ?_⟩, hCancelled, ?_⟩
  · rw [registerAttempt_atomic_iff (consistent_of_reachable hStart), not_not]
    decide
  · rw [markAnswered_atomic_iff (consistent_of_reachable hTransferring), not_not]
    decide
  · rw [markTransferAnswered_atomic_iff (consistent_of_reachable hCancelled), not_not]
    decide

end CallRuntime

end VoipSwitch
