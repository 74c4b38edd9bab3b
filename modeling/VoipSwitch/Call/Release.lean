import VoipSwitch.Call.Compound
import VoipSwitch.Core.Departure

/-! The end of a call's topology. Its legs are reached through the caller and the registered
attempts, which is enough as long as no leg was added without its attempt. -/
namespace VoipSwitch

open Stateful Keyed Transition

/-- A leg at the end of its call. -/
def CallLeg.leave (leg : CallLeg) (leftAtMs : Nat) : CallLeg :=
  { leg with leftAtMs := some (leg.leftAtMs.getD leftAtMs), state := .destroyed }

namespace CallRuntime

open CallAggregate

variable {call next : CallRuntime}

/-- Every leg is the caller's or that of an attempt. -/
def Staffed (call : CallRuntime) : Prop :=
  ∀ id, call.aggregate.legs.contains id = true → id = call.caller.id ∨
    ∃ attemptId attempt, call.aggregate.calleeAttempts.lookup attemptId = some attempt ∧
      attempt.sessionId = id

/-- The operations of a call that goes well: they answer, activate and register, and return. -/
def goesWell (call : CallRuntime) : Option RuntimeOp → Prop
  | none => True
  | some op =>
    (match op with
      | .registerAttempt .. | .markAnswered .. | .markTransferAnswered ..
      | .activateCurrentBridge .. => True
      | _ => False) ∧ (run op () call).1 = .ok ()

theorem Staffed.advance (h : call.Staffed) (hNext : Advanced call next) : next.Staffed := by
  intro id hLeg
  have hCaller : next.caller.id = call.caller.id := congrArg (·.1.2.2) hNext.parties
  rcases h id (hNext.aggregate.legs id hLeg) with hSame | ⟨attemptId, attempt, hLookup, hSession⟩
  · exact .inl (hSame.trans hCaller.symm)
  · obtain ⟨attempt', hLookup', hLater⟩ := hNext.aggregate.later.attempts attemptId attempt hLookup
    exact .inr ⟨attemptId, attempt', hLookup', hLater.sessionId.trans hSession⟩

/-- A registered attempt has the leg that was added for it. -/
theorem Staffed.register {sessionId : SessionId} (h : call.Staffed)
    (hNext : call.Registered sessionId next) : next.Staffed := by
  intro id hLeg
  rcases hNext.joined.legs id hLeg with hNew | hOld
  · obtain ⟨attempt, hLookup, hSession⟩ := hNext.consistent.current
    exact .inr ⟨_, attempt, hLookup, by rw [hSession, hNext.callee, hNew]⟩
  · rcases h id hOld with hSame | ⟨attemptId, attempt, hLookup, hSession⟩
    · exact .inl (hSame.trans hNext.caller.symm)
    · obtain ⟨attempt', hLookup', hLater⟩ := hNext.joined.later.attempts attemptId attempt hLookup
      exact .inr ⟨attemptId, attempt', hLookup', hLater.sessionId.trans hSession⟩

theorem staffed_of_reachable (h : ReachableWithin system goesWell call) : call.Staffed := by
  apply (h.invariant (P := fun call => call.Consistent ∧ call.Staffed) ?_ ?_).2
  · rintro call ⟨callId, callerSessionId, calleeSessionId, callerAdapterLegId, config,
      startedAtMs, hStart⟩
    obtain ⟨hConsistent, hCallee, aggregate, hNew, hJoined⟩ := new_consistent hStart
    refine ⟨hConsistent, fun id hLeg => ?_⟩
    rcases hJoined.legs id hLeg with hFirst | hCaller
    · obtain ⟨attempt, hLookup, hSession⟩ := hConsistent.current
      exact .inr ⟨_, attempt, hLookup, by rw [hSession, hCallee, hFirst]⟩
    · have hIdentity := hJoined.identity.trans (new_identity hNew).1
      have hCallerLeg : call.aggregate.callerLeg = callerSessionId :=
        congrArg (·.2.2.1) hIdentity
      left
      rw [← hConsistent.aggregate_caller, hCallerLeg]
      exact (new_identity hNew).2 id hCaller
  · rintro call op next ⟨hConsistent, hStaffed⟩ hWell hNext
    refine ⟨consistent_of_next hConsistent hNext, ?_⟩
    cases op with
    | none => exact hStaffed.advance ⟨hNext.1 ▸ .refl _, hNext.2.1⟩
    | some op =>
        obtain ⟨-, hReturned⟩ := hWell
        rw [show next = (run op).final () call from hNext]
        rcases run_advances op hConsistent with
          ⟨attemptSeq, sessionId, target, createdAtMs, rfl⟩ | hAdvances
        · exact hStaffed.register ((registerAttempt_post hConsistent attemptSeq sessionId target
            createdAtMs).returned hReturned).1
        · exact hStaffed.advance (hAdvances.returned hReturned)

/-! ### What the release leaves -/

/-- A leg that leaves once more. -/
theorem leave_leave (leg : CallLeg) (leftAtMs : Nat) :
    (leg.leave leftAtMs).leave leftAtMs = leg.leave leftAtMs := by
  simp only [CallLeg.leave, Option.getD_some]

/-- The legs after one of them has left. -/
theorem lookup_leaveLeg (leftAtMs : Nat) (aggregate : CallAggregate) (sessionId id : SessionId) :
    (leaveLeg leftAtMs aggregate sessionId).legs.lookup id =
      if sessionId = id then (aggregate.legs.lookup id).map (·.leave leftAtMs)
      else aggregate.legs.lookup id := by
  have hPost : Proc.Post (markLegLeft sessionId leftAtMs) () aggregate
      (fun _ next => next.legs.lookup id =
        if sessionId = id then (aggregate.legs.lookup id).map (·.leave leftAtMs)
        else aggregate.legs.lookup id)
      fun next => next.legs.lookup id =
        if sessionId = id then (aggregate.legs.lookup id).map (·.leave leftAtMs)
        else aggregate.legs.lookup id := by
    simp only [markLegLeft, withLeg, Proc.post_bind, Proc.post_get, Proc.post_ite]
    split
    · rw [Proc.post_modify, OrdMap.lookup_adjust]
      split
      · next hSame =>
          subst hSame
          congr 1
          funext leg
          cases hLeft : leg.leftAtMs with
          | none => rw [CallLeg.leave, hLeft, getOrInsert_none, Option.getD_none]
          | some held => rw [CallLeg.leave, hLeft, getOrInsert_some, Option.getD_some]
      · rfl
    · next hMissing =>
        rw [Proc.post_fail]
        split
        · next hSame =>
            subst hSame
            rw [OrdMap.lookup_eq_none_of_not_contains hMissing, Option.map_none]
        · rfl
  exact hPost.final (P := fun next : CallAggregate => next.legs.lookup id =
    if sessionId = id then (aggregate.legs.lookup id).map (·.leave leftAtMs)
    else aggregate.legs.lookup id)

/-- The legs after some of them have left. -/
theorem lookup_leaveLegs (leftAtMs : Nat) (sessions : List SessionId) (aggregate : CallAggregate)
    (id : SessionId) :
    (sessions.foldl (leaveLeg leftAtMs) aggregate).legs.lookup id =
      if id ∈ sessions then (aggregate.legs.lookup id).map (·.leave leftAtMs)
      else aggregate.legs.lookup id := by
  induction sessions generalizing aggregate with
  | nil => rw [List.foldl_nil, if_neg List.not_mem_nil]
  | cons sessionId rest ih =>
      rw [List.foldl_cons, ih, lookup_leaveLeg]
      by_cases hHead : sessionId = id
      · have hMem : id ∈ sessionId :: rest := by
          rw [hHead]
          exact List.mem_cons_self
        rw [if_pos hHead, if_pos hMem, Option.map_map]
        have hTwice : (fun leg : CallLeg => leg.leave leftAtMs) ∘
            (fun leg : CallLeg => leg.leave leftAtMs) = fun leg => leg.leave leftAtMs := by
          funext leg
          exact leave_leave leg leftAtMs
        rw [hTwice]
        split
        · rfl
        · rfl
      · have hMem : id ∈ sessionId :: rest ↔ id ∈ rest := by
          rw [List.mem_cons]
          exact or_iff_right (Ne.symm hHead)
        rw [if_neg hHead]
        simp only [hMem]

/-- Legs that leave take no attempt and no bridge with them. -/
theorem leaveLegs_keep (leftAtMs : Nat) (sessions : List SessionId) (aggregate : CallAggregate) :
    (sessions.foldl (leaveLeg leftAtMs) aggregate).calleeAttempts = aggregate.calleeAttempts ∧
      (sessions.foldl (leaveLeg leftAtMs) aggregate).bridges = aggregate.bridges := by
  induction sessions generalizing aggregate with
  | nil => exact ⟨rfl, rfl⟩
  | cons sessionId rest ih =>
      have hHead : (leaveLeg leftAtMs aggregate sessionId).calleeAttempts =
          aggregate.calleeAttempts ∧
          (leaveLeg leftAtMs aggregate sessionId).bridges = aggregate.bridges := by
        apply Proc.Post.final (P := fun next : CallAggregate =>
          next.calleeAttempts = aggregate.calleeAttempts ∧ next.bridges = aggregate.bridges)
        simp only [markLegLeft, withLeg, Proc.post_bind, Proc.post_get, Proc.post_ite]
        split
        · exact ⟨rfl, rfl⟩
        · exact ⟨rfl, rfl⟩
      rw [List.foldl_cons, (ih _).1, (ih _).2]
      exact hHead

/-- The release of the topology, as one pass over the caller and the sessions of the attempts. -/
theorem releaseTopology_eq (releasedAtMs : Nat) (call : CallRuntime) :
    (call.releaseTopology releasedAtMs).aggregate =
      (call.caller.id :: call.aggregate.calleeAttempts.values.map (·.sessionId)).foldl
        (leaveLeg releasedAtMs) (call.aggregate.releaseAllBridges releasedAtMs) := by
  have hCaller := (leaveLegs_keep releasedAtMs [call.caller.id]
    (call.aggregate.releaseAllBridges releasedAtMs)).1
  rw [List.foldl_cons, List.foldl_nil] at hCaller
  rw [List.foldl_cons]
  simp only [releaseTopology, hCaller]
  rfl

/-- The legs of a call that goes well are the caller and the sessions of its attempts, and the
release reaches all of them: legs and bridges end, and what had ended before keeps its time. -/
theorem releaseTopology_complete (h : ReachableWithin system goesWell call)
    (releasedAtMs : Nat) :
    (∀ id, call.aggregate.legs.contains id = true ↔ id = call.caller.id ∨
      ∃ attemptId attempt, call.aggregate.calleeAttempts.lookup attemptId = some attempt ∧
        attempt.sessionId = id) ∧
      (∀ id, (call.releaseTopology releasedAtMs).aggregate.legs.lookup id =
        (call.aggregate.legs.lookup id).map fun leg =>
          { leg with leftAtMs := some (leg.leftAtMs.getD releasedAtMs), state := .destroyed }) ∧
      (∀ id, (call.releaseTopology releasedAtMs).aggregate.bridges.lookup id =
        (call.aggregate.bridges.lookup id).map fun bridge =>
          { bridge with
            state := .released, releasedAtMs := some (bridge.releasedAtMs.getD releasedAtMs) }) ∧
      (call.releaseTopology releasedAtMs).aggregate.isFinished = true := by
  have hConsistent : call.Consistent := consistent_of_reachable h.reachable
  have hLegs : ∀ id, call.aggregate.legs.contains id = true ↔ id = call.caller.id ∨
      ∃ attemptId attempt, call.aggregate.calleeAttempts.lookup attemptId = some attempt ∧
        attempt.sessionId = id := by
    intro id
    constructor
    · exact staffed_of_reachable h id
    · rintro (rfl | ⟨attemptId, attempt, hLookup, rfl⟩)
      · exact hConsistent.aggregate_caller ▸ hConsistent.coherent.sound.caller
      · exact hConsistent.coherent.sound.attempts attemptId attempt hLookup
  have hReached : ∀ id, call.aggregate.legs.contains id = true →
      id ∈ call.caller.id :: call.aggregate.calleeAttempts.values.map (·.sessionId) := by
    intro id hLeg
    rcases (hLegs id).mp hLeg with rfl | ⟨attemptId, attempt, hLookup, rfl⟩
    · exact List.mem_cons_self
    · exact .tail _ (List.mem_map_of_mem (List.mem_map_of_mem (OrdMap.mem_of_lookup hLookup)))
  have hRelease := releaseTopology_eq releasedAtMs call
  have hLookup : ∀ id, (call.releaseTopology releasedAtMs).aggregate.legs.lookup id =
      (call.aggregate.legs.lookup id).map (·.leave releasedAtMs) := by
    intro id
    rw [hRelease, lookup_leaveLegs]
    split
    · rfl
    · next hAway =>
        have hMissing : ¬ call.aggregate.legs.contains id = true := fun hLeg =>
          hAway (hReached id hLeg)
        rw [OrdMap.lookup_eq_none_of_not_contains hMissing, Option.map_none]
        exact OrdMap.lookup_eq_none_of_not_contains hMissing
  refine ⟨hLegs, hLookup, fun id => ?_, ?_⟩
  · rw [hRelease, (leaveLegs_keep releasedAtMs _ _).2]
    simp only [releaseAllBridges, OrdMap.lookup_mapValues]
    congr 1
    funext bridge
    cases hReleased : bridge.releasedAtMs with
    | none => rw [BridgeEdge.release, hReleased, getOrInsert_none, Option.getD_none]
    | some held => rw [BridgeEdge.release, hReleased, getOrInsert_some, Option.getD_some]
  · have hFiled : (call.releaseTopology releasedAtMs).aggregate.LegsFiled :=
      ((releaseTopology_advances releasedAtMs call).aggregate.coherent
        hConsistent.coherent).sound.legs
    rw [isFinished_iff hFiled]
    intro id leg hLeg
    rw [hLookup, Option.map_eq_some_iff] at hLeg
    obtain ⟨old, -, rfl⟩ := hLeg
    rfl

/-- A call that was answered by one attempt and transferred to a second one. -/
def transferred : CallRuntime :=
  runAll [.markAnswered 5 1, .activateCurrentBridge 1 6,
    .registerAttempt 2 "callee-2" (.trunk "trunk") 7, .markTransferAnswered 8 2] exampleStart

theorem transferred_reachable : ReachableWithin system goesWell transferred := by
  refine ⟨exampleStart, ⟨"call", "caller", "callee", "leg", exampleConfig, 1, rfl⟩, ?_⟩
  apply RunsWithin.step (i := some (.markTransferAnswered 8 2)) ?_ ⟨trivial, rfl⟩ rfl
  apply RunsWithin.step (i := some (.registerAttempt 2 "callee-2" (.trunk "trunk") 7)) ?_
    ⟨trivial, rfl⟩ rfl
  apply RunsWithin.step (i := some (.activateCurrentBridge 1 6)) ?_ ⟨trivial, rfl⟩ rfl
  exact .step (i := some (.markAnswered 5 1)) .refl ⟨trivial, rfl⟩ rfl

theorem releaseTopology_complete_transferred :
    (transferred.releaseTopology 10).aggregate.isFinished = true ∧
      ((transferred.releaseTopology 10).aggregate.legs.lookup "callee").map (·.leftAtMs) =
        some (some 8) := by
  have h := releaseTopology_complete transferred_reachable 10
  refine ⟨h.2.2.2, ?_⟩
  rw [h.2.1]
  decide

end CallRuntime

end VoipSwitch
