import VoipSwitch.Call.Compound
import VoipSwitch.Call.State
import VoipSwitch.Cdr.Record
import VoipSwitch.Core.Ownership

/-! The call detail records of the legs of a call. They are drawn from the final topology: one
for the caller, and one for every other leg that was an end of an activated bridge. -/
namespace VoipSwitch

open Keyed Transition

/-- The packets that a media bridge forwarded. -/
structure MediaStatsSnapshot where
  callerToCalleePackets : UInt64
  callerToCalleeBytes : UInt64
  calleeToCallerPackets : UInt64
  calleeToCallerBytes : UInt64
  callerToCalleeRtcpPackets : UInt64
  calleeToCallerRtcpPackets : UInt64

/-- How a leg is named in its record. -/
structure LegNames where
  endpointRef : Option String
  endpointNumber : Option String
  signalingNumber : Option String
  trunkRef : Option String

namespace FinalCallSnapshot

def legNames (call : FinalCallSnapshot) : SessionEndpoint → LegNames
  | .endpoint endpoint =>
    { endpointRef := some endpoint.endpointId
      endpointNumber := some endpoint.number.text
      signalingNumber := some endpoint.number.text
      trunkRef := none }
  | .trunk trunkId =>
    { endpointRef := some trunkId
      endpointNumber := none
      signalingNumber := some call.calleeNumber
      trunkRef := some trunkId }
  | .aiAgent agentId =>
    { endpointRef := some s!"ai_agent:{agentId}"
      endpointNumber := none
      signalingNumber := some call.calleeNumber
      trunkRef := none }
  | .external number =>
    { endpointRef := call.inboundRoute.trunkRef
      endpointNumber := some number
      signalingNumber := some number
      trunkRef := call.inboundRoute.trunkRef }

/-- The activated bridges of a leg, in the order of their ids. -/
def legBridges (call : FinalCallSnapshot) (sessionId : SessionId) : List BridgeEdge :=
  call.topology.bridges.values.filter fun bridge =>
    bridge.activeAtMs.isSome && (bridge.legA = sessionId || bridge.legB = sessionId)

def hangup (call : FinalCallSnapshot) : String :=
  call.hangupCause.getD (if call.answered then "normal_clearing" else "not_answered")

/-- The record of one leg, if it gets one. -/
def legCdr (call : FinalCallSnapshot) (mediaStats : MediaStatsSnapshot) (endedAtMs : Nat)
    (leg : CallLeg) : Option LegCdrRecord :=
  let caller : Bool := leg.sessionId = call.callerSessionId
  let bridges := call.legBridges leg.sessionId
  if !caller && bridges.isEmpty then none
  else
    let current : Bool := leg.sessionId = call.calleeSessionId
    let names := call.legNames leg.endpoint
    some
      { callId := call.callId
        sessionId := leg.sessionId
        domainId := leg.domainId
        legRole := if caller then "caller" else "callee"
        direction := if caller then "inbound" else "outbound"
        endpointRef := names.endpointRef
        endpointNumber := names.endpointNumber
        signalingNumber := names.signalingNumber
        routeId := if caller then call.inboundRoute.routeId else call.outboundRouteId
        routeName := if caller then call.inboundRoute.routeName else call.outboundRouteName
        trunkRef := names.trunkRef
        trunkName :=
          if caller then call.inboundRoute.trunkName
          else if names.trunkRef = call.outboundTrunkRef then call.outboundTrunkName
          else none
        joinedAtMs := .ofNat leg.joinedAtMs
        answeredAtMs :=
          (((bridges.map (·.createdAtMs)).min?).or
            (if caller then call.answeredAtMs else none)).map .ofNat
        leftAtMs := .ofNat (leg.leftAtMs.getD endedAtMs)
        finalStatus := if caller || current then call.lastStatus.map .ofNat else some 200
        hangupCause := some (if caller || current then call.hangup else "normal_clearing")
        mediaPackets :=
          if caller || current then
            mediaStats.callerToCalleePackets + mediaStats.calleeToCallerPackets
          else 0
        mediaBytes :=
          if caller || current then
            mediaStats.callerToCalleeBytes + mediaStats.calleeToCallerBytes
          else 0
        mediaRtcpPackets :=
          if caller || current then
            mediaStats.callerToCalleeRtcpPackets + mediaStats.calleeToCallerRtcpPackets
          else 0
        bridgeIds := ",".intercalate (bridges.map (·.bridgeId)) }

/-- `build_leg_cdrs`. -/
def buildLegCdrs (call : FinalCallSnapshot) (mediaStats : MediaStatsSnapshot) (endedAtMs : Nat) :
    List LegCdrRecord :=
  call.topology.legs.values.filterMap (call.legCdr mediaStats endedAtMs)

end FinalCallSnapshot

/-- The bridge was activated, and the leg is an end of it. -/
structure CallAggregate.Activated (call : CallAggregate) (sessionId : SessionId)
    (bridge : BridgeEdge) : Prop where
  filed : call.bridges.lookup bridge.bridgeId = some bridge
  active : bridge.activeAtMs.isSome = true
  joins : bridge.legA = sessionId ∨ bridge.legB = sessionId

namespace FinalCallSnapshot

variable {call : FinalCallSnapshot} {mediaStats : MediaStatsSnapshot} {endedAtMs : Nat}

theorem mem_legBridges (h : call.topology.Sound) {sessionId : SessionId} {bridge : BridgeEdge} :
    bridge ∈ call.legBridges sessionId ↔ call.topology.Activated sessionId bridge := by
  have hMem : bridge ∈ call.topology.bridges.values ↔
      call.topology.bridges.lookup bridge.bridgeId = some bridge := by
    constructor
    · intro hValue
      obtain ⟨entry, hEntry, rfl⟩ := List.mem_map.mp hValue
      have hLookup := OrdMap.lookup_of_mem h.edges.ascending hEntry
      rwa [← h.edges.filed entry.1 entry.2 hLookup] at hLookup
    · intro hLookup
      exact List.mem_map.mpr ⟨_, OrdMap.mem_of_lookup hLookup, rfl⟩
  rw [legBridges, List.mem_filter, hMem]
  simp only [Bool.and_eq_true, Bool.or_eq_true, decide_eq_true_iff]
  constructor
  · intro hBoth
    exact ⟨hBoth.1, hBoth.2.1, hBoth.2.2⟩
  · intro hActivated
    exact ⟨hActivated.filed, hActivated.active, hActivated.joins⟩

/-- A leg has a record if it is the caller's or has an activated bridge. -/
theorem legCdr_sessionId (leg : CallLeg) :
    (call.legCdr mediaStats endedAtMs leg).map (·.sessionId) =
      if leg.sessionId = call.callerSessionId ∨ call.legBridges leg.sessionId ≠ [] then
        some leg.sessionId
      else none := by
  rw [legCdr]
  by_cases hCaller : leg.sessionId = call.callerSessionId
  · simp [hCaller]
  · cases hBridges : call.legBridges leg.sessionId with
    | nil => simp [hCaller]
    | cons bridge rest => simp [hCaller]

theorem map_buildLegCdrs :
    (call.buildLegCdrs mediaStats endedAtMs).map (·.sessionId) =
      (call.topology.legs.values.filter fun leg =>
        leg.sessionId = call.callerSessionId ∨ call.legBridges leg.sessionId ≠ []).map
          (·.sessionId) := by
  rw [buildLegCdrs, List.map_filterMap]
  induction call.topology.legs.values with
  | nil => rfl
  | cons leg rest ih =>
      rw [List.filterMap_cons, legCdr_sessionId, List.filter_cons]
      split
      · next hNone =>
          split at hNone
          · cases hNone
          · next hSilent => rw [if_neg (by simpa using hSilent), ih]
      · next sessionId hSome =>
          split at hSome
          · next hListed =>
              rw [if_pos (by simpa using hListed), List.map_cons, ih, Option.some.inj hSome]
          · cases hSome

/-- What the record of a leg says about its times and its bridges. -/
theorem legCdr_fields {leg : CallLeg} {record : LegCdrRecord}
    (h : call.legCdr mediaStats endedAtMs leg = some record) :
    record.sessionId = leg.sessionId ∧ record.leftAtMs = .ofNat (leg.leftAtMs.getD endedAtMs) ∧
      record.bridgeIds = ",".intercalate ((call.legBridges leg.sessionId).map (·.bridgeId)) ∧
      record.answeredAtMs =
        ((((call.legBridges leg.sessionId).map (·.createdAtMs)).min?).or
          (if leg.sessionId = call.callerSessionId then call.answeredAtMs else none)).map
            .ofNat := by
  rw [legCdr] at h
  dsimp only at h
  split at h
  · cases h
  · rw [Option.some.injEq] at h
    subst h
    refine ⟨rfl, rfl, rfl, ?_⟩
    simp only [decide_eq_true_iff]

/-- The ids of a leg's activated bridges are distinct. -/
theorem nodup_legBridges (h : call.topology.Sound) (sessionId : SessionId) :
    ((call.legBridges sessionId).map (·.bridgeId)).Nodup := by
  have hKeys : call.topology.bridges.values.map (·.bridgeId) = call.topology.bridges.keys := by
    rw [OrdMap.values, OrdMap.keys, List.map_map]
    apply List.map_congr_left
    intro entry hEntry
    exact h.edges.filed entry.1 entry.2 (OrdMap.lookup_of_mem h.edges.ascending hEntry)
  have hDistinct : (call.topology.bridges.values.map (·.bridgeId)).Nodup := by
    rw [hKeys]
    exact h.edges.ascending.imp fun hLess => ne_of_lt hLess
  exact hDistinct.sublist (List.filter_sublist.map _)

end FinalCallSnapshot

/-- What the record of a leg says, in terms of the call. -/
structure RecordsLeg (call : CallRuntime) (endedAtMs : Nat) (record : LegCdrRecord) : Prop where
  left : ∃ leg, call.aggregate.legs.lookup record.sessionId = some leg ∧
    record.leftAtMs = .ofNat (leg.leftAtMs.getD endedAtMs)
  bridges : ∃ bridges : List BridgeEdge, (bridges.map (·.bridgeId)).Nodup ∧
    (∀ bridge, bridge ∈ bridges ↔ call.aggregate.Activated record.sessionId bridge) ∧
    record.bridgeIds = ",".intercalate (bridges.map (·.bridgeId))
  answered : ∀ first, call.aggregate.Activated record.sessionId first →
    (∀ bridge, call.aggregate.Activated record.sessionId bridge →
      first.createdAtMs ≤ bridge.createdAtMs) →
    record.answeredAtMs = some (.ofNat first.createdAtMs)
  unanswered : (∀ bridge, ¬ call.aggregate.Activated record.sessionId bridge) →
    record.answeredAtMs =
      (if record.sessionId = call.caller.id then call.caller.answeredAtMs else none).map .ofNat

section Listing

variable {call : CallRuntime} {mediaStats : MediaStatsSnapshot} {endedAtMs : Nat}

open FinalCallSnapshot

theorem CallRuntime.Consistent.sound (h : call.Consistent) :
    (FinalCallSnapshot.ofCall call).topology.Sound := h.coherent.sound

theorem nodup_buildLegCdrs (h : call.Consistent) :
    ((buildLegCdrs (.ofCall call) mediaStats endedAtMs).map (·.sessionId)).Nodup := by
  rw [map_buildLegCdrs]
  exact h.sound.legs.nodup.sublist (List.filter_sublist.map _)

theorem mem_buildLegCdrs (h : call.Consistent) (sessionId : SessionId) :
    sessionId ∈ (buildLegCdrs (.ofCall call) mediaStats endedAtMs).map (·.sessionId) ↔
      sessionId = call.caller.id ∨ ∃ bridge, call.aggregate.Activated sessionId bridge := by
  have hSound := h.sound
  rw [map_buildLegCdrs]
  simp only [List.mem_map, List.mem_filter, decide_eq_true_iff]
  constructor
  · rintro ⟨leg, ⟨hLeg, hCaller | hBridges⟩, rfl⟩
    · exact .inl hCaller
    · obtain ⟨bridge, hBridge⟩ := List.exists_mem_of_ne_nil _ hBridges
      exact .inr ⟨bridge, (mem_legBridges hSound).mp hBridge⟩
  · intro hListed
    have hLeg : call.aggregate.legs.contains sessionId = true := by
      rcases hListed with rfl | ⟨bridge, hActivated⟩
      · exact h.aggregate_caller ▸ hSound.caller
      · obtain ⟨hA, hB, -⟩ := hSound.bridges _ bridge hActivated.filed
        rcases hActivated.joins with rfl | rfl
        · exact hA
        · exact hB
    obtain ⟨leg, hLookup⟩ := Option.isSome_iff_exists.mp hLeg
    obtain rfl : leg.sessionId = sessionId := hSound.legs.filed sessionId leg hLookup
    refine ⟨leg, ⟨hSound.legs.mem_values.mpr hLookup, ?_⟩, rfl⟩
    rcases hListed with hCaller | ⟨bridge, hActivated⟩
    · exact .inl hCaller
    · exact .inr (List.ne_nil_of_mem ((mem_legBridges hSound).mpr hActivated))

end Listing

open FinalCallSnapshot in
/-- The caller and the ends of activated bridges have one record each, no other leg has one, and
each record says what the topology says about its leg. -/
theorem legCdrs_exact {call : CallRuntime} (h : Reachable CallRuntime.system call)
    (mediaStats : MediaStatsSnapshot) (endedAtMs : Nat) :
    ((buildLegCdrs (.ofCall call) mediaStats endedAtMs).map (·.sessionId)).Nodup ∧
      (∀ sessionId,
        sessionId ∈ (buildLegCdrs (.ofCall call) mediaStats endedAtMs).map (·.sessionId) ↔
          sessionId = call.caller.id ∨ ∃ bridge, call.aggregate.Activated sessionId bridge) ∧
      ∀ record ∈ buildLegCdrs (.ofCall call) mediaStats endedAtMs,
        RecordsLeg call endedAtMs record := by
  have hConsistent : call.Consistent := CallRuntime.consistent_of_reachable h
  have hSound := hConsistent.sound
  refine ⟨nodup_buildLegCdrs hConsistent, mem_buildLegCdrs hConsistent, fun record hRecord => ?_⟩
  obtain ⟨leg, hLeg, hCdr⟩ := List.mem_filterMap.mp hRecord
  obtain ⟨hId, hLeft, hIds, hAnswered⟩ := legCdr_fields hCdr
  have hMem : ∀ bridge, bridge ∈ legBridges (.ofCall call) leg.sessionId ↔
      call.aggregate.Activated leg.sessionId bridge := fun bridge => mem_legBridges hSound
  refine ⟨⟨leg, ?_, hLeft⟩, ⟨_, nodup_legBridges hSound leg.sessionId, ?_, hIds⟩, ?_, ?_⟩
  · rw [hId]
    exact hSound.legs.mem_values.mp hLeg
  · rw [hId]
    exact hMem
  · rw [hId]
    intro first hFirst hEarliest
    have hMin : ((legBridges (.ofCall call) leg.sessionId).map (·.createdAtMs)).min? =
        some first.createdAtMs := by
      rw [List.min?_eq_some_iff]
      refine ⟨List.mem_map_of_mem ((hMem first).mpr hFirst), fun time hTime => ?_⟩
      obtain ⟨bridge, hBridge, rfl⟩ := List.mem_map.mp hTime
      exact hEarliest bridge ((hMem bridge).mp hBridge)
    rw [hAnswered, hMin]
    rfl
  · rw [hId]
    intro hNone
    have hEmpty : legBridges (.ofCall call) leg.sessionId = [] := by
      apply List.eq_nil_iff_forall_not_mem.mpr
      intro bridge hBridge
      exact hNone bridge ((hMem bridge).mp hBridge)
    rw [hAnswered, hEmpty]
    rfl

/-- A call that was answered over an activated bridge, and one attempt that was not. -/
def endedCall : CallRuntime :=
  CallRuntime.runAll [.updateCurrentAttempt .failed none,
    .registerAttempt 2 "callee-2" (.trunk "trunk") 4, .markAnswered 5 1,
    .activateCurrentBridge 1 6, .releaseTopology 9] CallRuntime.exampleStart

def noMedia : MediaStatsSnapshot := ⟨0, 0, 0, 0, 0, 0⟩

open FinalCallSnapshot in
theorem legCdrs_exact_endedCall :
    (buildLegCdrs (.ofCall endedCall) noMedia 10).map (·.sessionId) = ["callee-2", "caller"] ∧
      ((buildLegCdrs (.ofCall endedCall) noMedia 10).map (·.sessionId)).Nodup :=
  ⟨by decide, (legCdrs_exact (CallRuntime.reachable_exampleStart _) noMedia 10).1⟩

end VoipSwitch
