import Mathlib.Algebra.BigOperators.Group.List.Basic
import VoipSwitch.Cdr.Legs

/-! Which records of a call carry its media totals: the caller's, and that of the leg that is
current when the call ends. -/
namespace VoipSwitch

open Transition

structure MediaTotals where
  packets : UInt64
  bytes : UInt64
  rtcpPackets : UInt64
deriving DecidableEq

def MediaTotals.zero : MediaTotals := ⟨0, 0, 0⟩

def MediaStatsSnapshot.totals (mediaStats : MediaStatsSnapshot) : MediaTotals where
  packets := mediaStats.callerToCalleePackets + mediaStats.calleeToCallerPackets
  bytes := mediaStats.callerToCalleeBytes + mediaStats.calleeToCallerBytes
  rtcpPackets := mediaStats.callerToCalleeRtcpPackets + mediaStats.calleeToCallerRtcpPackets

def LegCdrRecord.media (record : LegCdrRecord) : MediaTotals where
  packets := record.mediaPackets
  bytes := record.mediaBytes
  rtcpPackets := record.mediaRtcpPackets

def calleeRecords (records : List LegCdrRecord) : List LegCdrRecord :=
  records.filter fun record => record.legRole = "callee"

/-- The caller's record and one callee record have the totals, no other callee record has any
media, and so the packets of the callees are those of the caller. -/
structure Attributed (totals : MediaTotals) (records : List LegCdrRecord) : Prop where
  caller : ∃ record ∈ records, record.legRole = "caller" ∧ record.media = totals
  callee : ∃ record ∈ calleeRecords records, record.media = totals ∧
    ∀ other ∈ calleeRecords records, other.sessionId ≠ record.sessionId → other.media = .zero
  packets : ∀ record ∈ records, record.legRole = "caller" →
    ((calleeRecords records).map (·.mediaPackets.toNat)).sum = record.mediaPackets.toNat

namespace FinalCallSnapshot

variable {call : FinalCallSnapshot} {mediaStats : MediaStatsSnapshot} {endedAtMs : Nat}
  {record : LegCdrRecord}

/-- The role of a record and its share of the media. -/
theorem legCdr_media {leg : CallLeg} (h : call.legCdr mediaStats endedAtMs leg = some record) :
    record.legRole = (if record.sessionId = call.callerSessionId then "caller" else "callee") ∧
      record.media =
        if record.sessionId = call.callerSessionId ∨ record.sessionId = call.calleeSessionId then
          mediaStats.totals
        else .zero := by
  rw [legCdr] at h
  dsimp only at h
  split at h
  · cases h
  · cases h
    by_cases hCaller : leg.sessionId = call.callerSessionId
    · simp [hCaller, LegCdrRecord.media, MediaStatsSnapshot.totals]
    · by_cases hCurrent : leg.sessionId = call.calleeSessionId
      · simp [hCurrent, LegCdrRecord.media, MediaStatsSnapshot.totals]
      · simp [hCaller, hCurrent, LegCdrRecord.media, MediaTotals.zero]

theorem media_of_mem (h : record ∈ call.buildLegCdrs mediaStats endedAtMs) :
    record.legRole = (if record.sessionId = call.callerSessionId then "caller" else "callee") ∧
      record.media =
        if record.sessionId = call.callerSessionId ∨ record.sessionId = call.calleeSessionId then
          mediaStats.totals
        else .zero := by
  obtain ⟨leg, _, hCdr⟩ := List.mem_filterMap.mp h
  exact legCdr_media hCdr

theorem mem_calleeRecords :
    record ∈ calleeRecords (call.buildLegCdrs mediaStats endedAtMs) ↔
      record ∈ call.buildLegCdrs mediaStats endedAtMs ∧
        record.sessionId ≠ call.callerSessionId := by
  rw [calleeRecords, List.mem_filter, decide_eq_true_eq]
  constructor
  · intro ⟨hRecord, hRole⟩
    use hRecord
    intro hCaller
    rw [(media_of_mem hRecord).1, if_pos hCaller] at hRole
    exact absurd hRole (by decide)
  · intro ⟨hRecord, hOther⟩
    use hRecord
    rw [(media_of_mem hRecord).1, if_neg hOther]

end FinalCallSnapshot

section Calls

variable {call : CallRuntime} {mediaStats : MediaStatsSnapshot} {endedAtMs : Nat}
  {record : LegCdrRecord}

open FinalCallSnapshot

/-- The current callee of a call is not its caller. -/
theorem CallRuntime.Consistent.callee_ne (h : call.Consistent) :
    call.currentCalleeSessionId ≠ call.caller.id := by
  obtain ⟨attempt, hLookup, hSession⟩ := h.current
  rw [← hSession, ← h.aggregate_caller]
  exact h.coherent.callees _ attempt hLookup

/-- Every activated bridge has an end that is a callee. -/
theorem exists_callee_of_activated (h : call.Consistent) {sessionId : SessionId}
    {bridge : BridgeEdge} (hActivated : call.aggregate.Activated sessionId bridge) :
    ∃ callee, callee ≠ call.caller.id ∧ call.aggregate.Activated callee bridge := by
  have hEnds := (h.sound.bridges _ bridge hActivated.filed).2.2
  by_cases hFirst : bridge.legA = call.caller.id
  · use bridge.legB
    constructor
    · rw [← hFirst]
      exact hEnds.symm
    · exact ⟨hActivated.filed, hActivated.active, .inr rfl⟩
  · exact ⟨bridge.legA, hFirst, hActivated.filed, hActivated.active, .inl rfl⟩

theorem exists_record (h : call.Consistent) {sessionId : SessionId}
    (hListed : sessionId = call.caller.id ∨ ∃ bridge, call.aggregate.Activated sessionId bridge) :
    ∃ record ∈ buildLegCdrs (.ofCall call) mediaStats endedAtMs, record.sessionId = sessionId := by
  obtain ⟨record, hRecord, hId⟩ := List.mem_map.mp ((mem_buildLegCdrs h sessionId).mpr hListed)
  exact ⟨record, hRecord, hId⟩

theorem media_of_callee
    (h : record ∈ calleeRecords (buildLegCdrs (.ofCall call) mediaStats endedAtMs)) :
    record.media = if record.sessionId = call.currentCalleeSessionId then mediaStats.totals
      else .zero := by
  obtain ⟨hRecord, hOther⟩ := mem_calleeRecords.mp h
  rw [(media_of_mem hRecord).2]
  simp only [hOther, false_or]
  rfl

theorem mem_callees (h : call.Consistent) (sessionId : SessionId) :
    sessionId ∈ (calleeRecords (buildLegCdrs (.ofCall call) mediaStats endedAtMs)).map
        (·.sessionId) ↔
      sessionId ≠ call.caller.id ∧ ∃ bridge, call.aggregate.Activated sessionId bridge := by
  constructor
  · intro hMem
    obtain ⟨record, hRecord, rfl⟩ := List.mem_map.mp hMem
    obtain ⟨hAny, hOther⟩ := mem_calleeRecords.mp hRecord
    have hListed := (mem_buildLegCdrs h record.sessionId).mp (List.mem_map_of_mem hAny)
    exact ⟨hOther, hListed.resolve_left hOther⟩
  · intro ⟨hOther, hBridge⟩
    obtain ⟨record, hRecord, rfl⟩ :=
      @exists_record call mediaStats endedAtMs h sessionId (.inr hBridge)
    exact List.mem_map_of_mem (mem_calleeRecords.mpr ⟨hRecord, hOther⟩)

theorem nodup_callees (h : call.Consistent) :
    ((calleeRecords (buildLegCdrs (.ofCall call) mediaStats endedAtMs)).map
      (·.sessionId)).Nodup :=
  (nodup_buildLegCdrs h).sublist (List.filter_sublist.map _)

/-- All the packets of the callees are in the record of the current one. -/
theorem sum_packets (call : CallRuntime) (mediaStats : MediaStatsSnapshot) (endedAtMs : Nat) :
    ((calleeRecords (buildLegCdrs (.ofCall call) mediaStats endedAtMs)).map
      (·.mediaPackets.toNat)).sum =
        ((calleeRecords (buildLegCdrs (.ofCall call) mediaStats endedAtMs)).map
          (·.sessionId)).count call.currentCalleeSessionId * mediaStats.totals.packets.toNat := by
  have hShares : (calleeRecords (buildLegCdrs (.ofCall call) mediaStats endedAtMs)).map
      (·.mediaPackets.toNat) =
        ((calleeRecords (buildLegCdrs (.ofCall call) mediaStats endedAtMs)).map
          (·.sessionId)).map fun sessionId =>
            if sessionId = call.currentCalleeSessionId then mediaStats.totals.packets.toNat
            else 0 := by
    rw [List.map_map]
    apply List.map_congr_left
    intro record hRecord
    have hPackets : record.mediaPackets = record.media.packets := rfl
    rw [hPackets, media_of_callee hRecord]
    simp only [Function.comp_apply]
    split
    · rfl
    · rfl
  rw [hShares, List.sum_map_eq_nsmul_single call.currentCalleeSessionId _
    fun sessionId hOther _ => if_neg hOther, if_pos rfl]
  rfl

theorem sum_packets_eq (h : call.Consistent)
    (hWhen : (∃ bridge, call.aggregate.Activated call.currentCalleeSessionId bridge) ∨
      mediaStats.totals = .zero) :
    ((calleeRecords (buildLegCdrs (.ofCall call) mediaStats endedAtMs)).map
      (·.mediaPackets.toNat)).sum = mediaStats.totals.packets.toNat := by
  rw [sum_packets]
  rcases hWhen with hCurrent | hZero
  · have hMem := (@mem_callees call mediaStats endedAtMs h _).mpr ⟨h.callee_ne, hCurrent⟩
    rw [List.count_eq_one_of_mem (nodup_callees h) hMem, Nat.one_mul]
  · rw [hZero]
    exact Nat.mul_zero _

theorem media_packets_of_caller
    (h : record ∈ buildLegCdrs (.ofCall call) mediaStats endedAtMs)
    (hCaller : record.legRole = "caller") : record.mediaPackets = mediaStats.totals.packets := by
  obtain ⟨hRole, hMedia⟩ := media_of_mem h
  have hPackets : record.mediaPackets = record.media.packets := rfl
  by_cases hId : record.sessionId = (FinalCallSnapshot.ofCall call).callerSessionId
  · rw [hPackets, hMedia, if_pos (.inl hId)]
  · rw [hRole, if_neg hId] at hCaller
    exact absurd hCaller (by decide)

/-- One callee record has all the media, if the current leg has a record or there are none. -/
theorem exists_attributed (h : call.Consistent)
    (hBridged : ∃ sessionId bridge, call.aggregate.Activated sessionId bridge)
    (hWhen : (∃ bridge, call.aggregate.Activated call.currentCalleeSessionId bridge) ∨
      mediaStats.totals = .zero) :
    ∃ record ∈ calleeRecords (buildLegCdrs (.ofCall call) mediaStats endedAtMs),
      record.media = mediaStats.totals ∧
        ∀ other ∈ calleeRecords (buildLegCdrs (.ofCall call) mediaStats endedAtMs),
          other.sessionId ≠ record.sessionId → other.media = .zero := by
  rcases hWhen with hCurrent | hZero
  · obtain ⟨record, hRecord, hId⟩ := List.mem_map.mp
      ((@mem_callees call mediaStats endedAtMs h _).mpr ⟨h.callee_ne, hCurrent⟩)
    refine ⟨record, hRecord, ?_, fun other hOther hNe => ?_⟩
    · rw [media_of_callee hRecord, if_pos hId]
    · rw [media_of_callee hOther, if_neg]
      rw [← hId]
      exact hNe
  · obtain ⟨sessionId, bridge, hActivated⟩ := hBridged
    obtain ⟨callee, hNe, hCallee⟩ := exists_callee_of_activated h hActivated
    obtain ⟨record, hRecord, _⟩ := List.mem_map.mp
      ((@mem_callees call mediaStats endedAtMs h callee).mpr ⟨hNe, bridge, hCallee⟩)
    have hNone : ∀ other ∈ calleeRecords (buildLegCdrs (.ofCall call) mediaStats endedAtMs),
        other.media = .zero := by
      intro other hOther
      rw [media_of_callee hOther, hZero, ite_self]
    exact ⟨record, hRecord, (hNone record hRecord).trans hZero.symm,
      fun other hOther _ => hNone other hOther⟩

/-- The media of a call that had a bridge are attributed exactly if the leg that is current in
the end had one, or if there are no media. -/
theorem media_attributed_iff (h : Reachable CallRuntime.system call)
    (hBridged : ∃ sessionId bridge, call.aggregate.Activated sessionId bridge)
    (mediaStats : MediaStatsSnapshot) (endedAtMs : Nat) :
    Attributed mediaStats.totals (buildLegCdrs (.ofCall call) mediaStats endedAtMs) ↔
      (∃ bridge, call.aggregate.Activated call.currentCalleeSessionId bridge) ∨
        mediaStats.totals = .zero := by
  have hConsistent := CallRuntime.consistent_of_reachable h
  constructor
  · intro hAttributed
    obtain ⟨record, hRecord, hMedia, _⟩ := hAttributed.callee
    rw [media_of_callee hRecord] at hMedia
    split at hMedia
    · next hCurrent =>
        left
        have hListed := (mem_buildLegCdrs hConsistent record.sessionId).mp
          (List.mem_map_of_mem (mem_calleeRecords.mp hRecord).1)
        rw [hCurrent] at hListed
        exact hListed.resolve_left hConsistent.callee_ne
    · exact .inr hMedia.symm
  · intro hWhen
    constructor
    · obtain ⟨record, hRecord, hId⟩ :=
        @exists_record call mediaStats endedAtMs hConsistent call.caller.id (.inl rfl)
      obtain ⟨hRole, hMedia⟩ := media_of_mem hRecord
      exact ⟨record, hRecord, by rw [hRole]; exact if_pos hId,
        by rw [hMedia]; exact if_pos (.inl hId)⟩
    · exact exists_attributed hConsistent hBridged hWhen
    · intro record hRecord hCaller
      rw [media_packets_of_caller hRecord hCaller]
      exact sum_packets_eq hConsistent hWhen

/-- An answered call whose transfer to another callee has failed. -/
def failedTransfer : CallRuntime :=
  CallRuntime.runAll [.markAnswered 5 1, .activateCurrentBridge 1 6,
    .registerAttempt 2 "callee-2" (.trunk "trunk") 7, .updateCurrentAttempt .failed none,
    .releaseTopology 9] CallRuntime.exampleStart

def oneEach : MediaStatsSnapshot := ⟨1, 100, 1, 100, 0, 0⟩

theorem activated_of_check {aggregate : CallAggregate} {id : BridgeId} {sessionId : SessionId}
    (h : ((aggregate.bridges.lookup id).any fun bridge => bridge.bridgeId = id &&
      bridge.activeAtMs.isSome && (bridge.legA = sessionId || bridge.legB = sessionId)) = true) :
    ∃ sessionId bridge, aggregate.Activated sessionId bridge := by
  obtain ⟨bridge, hLookup, hBridge⟩ := (Option.any_eq_true ..).mp h
  rw [Bool.and_eq_true, Bool.and_eq_true, Bool.or_eq_true, decide_eq_true_eq, decide_eq_true_eq,
    decide_eq_true_eq] at hBridge
  obtain ⟨⟨hId, hActive⟩, hEnds⟩ := hBridge
  exact ⟨sessionId, bridge, by rw [hId]; exact hLookup, hActive, hEnds⟩

theorem media_attributed_endedCall :
    Attributed oneEach.totals (buildLegCdrs (.ofCall endedCall) oneEach 10) ↔
      (∃ bridge, endedCall.aggregate.Activated endedCall.currentCalleeSessionId bridge) ∨
        oneEach.totals = .zero :=
  media_attributed_iff (CallRuntime.reachable_exampleStart _)
    (@activated_of_check _ "bridge-attempt-2" "caller" (by decide)) oneEach 10

/-- The totals are on no callee's record. -/
theorem media_lost :
    Reachable CallRuntime.system failedTransfer ∧
      (∃ sessionId bridge, failedTransfer.aggregate.Activated sessionId bridge) ∧
        ¬ Attributed oneEach.totals (buildLegCdrs (.ofCall failedTransfer) oneEach 10) := by
  have hNone : ∀ record ∈ calleeRecords (buildLegCdrs (.ofCall failedTransfer) oneEach 10),
      record.media ≠ oneEach.totals := by
    decide
  refine ⟨CallRuntime.reachable_exampleStart _,
    @activated_of_check _ "bridge-attempt-1" "caller" (by decide), fun hAttributed => ?_⟩
  obtain ⟨record, hRecord, hMedia, _⟩ := hAttributed.callee
  exact hNone record hRecord hMedia

end Calls

end VoipSwitch
