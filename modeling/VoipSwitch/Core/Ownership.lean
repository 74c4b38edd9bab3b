import Mathlib.Data.Prod.Lex
import VoipSwitch.Core.Topology

/-! Who coordinates a call. The generation of the owner fences handoffs that were decided on
an older owner, and the candidates for the next owner are listed in order of preference. -/
namespace VoipSwitch

open Stateful Keyed Transition

namespace CallAggregate

variable {call next last : CallAggregate} {continuation : Option SessionId}

/-- The leg is still part of the call and is not its coordinator. -/
structure Candidate (call : CallAggregate) (leg : CallLeg) : Prop where
  other : leg.sessionId ≠ call.coordinator
  live : leg.state.isTerminal = false
  present : leg.leftAtMs = none

/-- The leg is an end of a bridge that carries media. -/
def ActivelyBridged (call : CallAggregate) (leg : CallLeg) : Prop :=
  leg.state = .bridged ∧ ∃ bridge ∈ call.bridges.values,
    bridge.state = .active ∧ (bridge.legA = leg.sessionId ∨ bridge.legB = leg.sessionId)

instance (call : CallAggregate) (leg : CallLeg) : Decidable (call.ActivelyBridged leg) :=
  inferInstanceAs (Decidable (_ ∧ _))

/-- A handoff prefers, in this order: the explicit continuation, a leg that is actively
bridged, the leg that joined first, the smaller session id. -/
def preference (call : CallAggregate) (continuation : Option SessionId) (leg : CallLeg) :
    Bool ×ₗ Bool ×ₗ Nat ×ₗ SessionId :=
  toLex (decide (continuation ≠ some leg.sessionId),
    toLex (decide (¬ call.ActivelyBridged leg), toLex (leg.joinedAtMs, leg.sessionId)))

theorem handoffRank_eq (leg : CallLeg) :
    call.handoffRank continuation leg =
      (decide (continuation ≠ some leg.sessionId), !decide (call.ActivelyBridged leg),
        leg.joinedAtMs, leg.sessionId) := by
  have hBridged : (leg.state = .bridged && call.bridges.values.any fun bridge =>
      bridge.state = .active && (bridge.legA = leg.sessionId || bridge.legB = leg.sessionId)) =
      decide (call.ActivelyBridged leg) := by
    rw [Bool.eq_iff_iff, decide_eq_true_iff, ActivelyBridged]
    simp only [Bool.and_eq_true, decide_eq_true_iff, List.any_eq_true, Bool.or_eq_true]
  rw [handoffRank, hBridged]

/-- Ranks compare lexicographically. -/
theorem rankLe_iff (a b : Bool × Bool × Nat × SessionId) :
    rankLe a b = true ↔
      (toLex (a.1, toLex (a.2.1, toLex (a.2.2.1, a.2.2.2))) :
          Bool ×ₗ Bool ×ₗ Nat ×ₗ SessionId) ≤
        toLex (b.1, toLex (b.2.1, toLex (b.2.2.1, b.2.2.2))) := by
  obtain ⟨aOther, aIdle, aJoined, aId⟩ := a
  obtain ⟨bOther, bIdle, bJoined, bId⟩ := b
  simp only [rankLe, Prod.Lex.toLex_le_toLex]
  by_cases hOther : aOther = bOther
  · by_cases hIdle : aIdle = bIdle
    · by_cases hJoined : aJoined = bJoined
      · simp [hOther, hIdle, hJoined]
      · have hIff : aJoined < bJoined ∨ aJoined = bJoined ∧ aId ≤ bId ↔ aJoined < bJoined := by
          constructor
          · intro h
            exact h.elim (fun h => h) fun h => (hJoined h.1).elim
          · exact .inl
        simp [hOther, hIdle, hJoined]
    · cases aIdle <;> cases bIdle <;> simp_all
  · cases aOther <;> cases bOther <;> simp_all

theorem rankLe_handoffRank_iff (a b : CallLeg) :
    rankLe (call.handoffRank continuation a) (call.handoffRank continuation b) = true ↔
      call.preference continuation a ≤ call.preference continuation b := by
  rw [rankLe_iff, handoffRank_eq, handoffRank_eq]
  simp only [preference, decide_not]

/-- The legs that a handoff may go to, in the order in which it prefers them. -/
def rankedLegs (call : CallAggregate) (continuation : Option SessionId) : List CallLeg :=
  (call.legs.values.filter fun leg =>
    leg.sessionId ≠ call.coordinator && !leg.state.isTerminal && leg.leftAtMs.isNone).insertionSort
    fun a b => rankLe (call.handoffRank continuation a) (call.handoffRank continuation b)

theorem handoffCandidates_eq :
    call.handoffCandidates continuation = (call.rankedLegs continuation).map (·.sessionId) := rfl

theorem mem_rankedLegs {leg : CallLeg} :
    leg ∈ call.rankedLegs continuation ↔ leg ∈ call.legs.values ∧ call.Candidate leg := by
  rw [rankedLegs, List.mem_insertionSort, List.mem_filter]
  apply and_congr Iff.rfl
  simp only [Bool.and_eq_true, decide_eq_true_iff, Bool.not_eq_true', Option.isNone_iff_eq_none,
    and_assoc]
  constructor
  · intro h
    exact ⟨h.1, h.2.1, h.2.2⟩
  · intro h
    exact ⟨h.other, h.live, h.present⟩

/-- The legs of a call are listed under their own sessions. -/
theorem LegsFiled.mem_values (h : call.LegsFiled) {leg : CallLeg} :
    leg ∈ call.legs.values ↔ call.legs.lookup leg.sessionId = some leg := by
  constructor
  · intro hMem
    obtain ⟨entry, hEntry, rfl⟩ := List.mem_map.mp hMem
    have hLookup := OrdMap.lookup_of_mem h.ascending hEntry
    rwa [← h.filed entry.1 entry.2 hLookup] at hLookup
  · intro hLookup
    exact List.mem_map.mpr ⟨_, OrdMap.mem_of_lookup hLookup, rfl⟩

/-- The candidates are the legs that are still there, the coordinator apart. -/
theorem mem_handoffCandidates (h : call.LegsFiled) {sessionId : SessionId} :
    sessionId ∈ call.handoffCandidates continuation ↔
      ∃ leg, call.legs.lookup sessionId = some leg ∧ call.Candidate leg := by
  rw [handoffCandidates_eq, List.mem_map]
  constructor
  · rintro ⟨leg, hMem, rfl⟩
    obtain ⟨hLeg, hCandidate⟩ := mem_rankedLegs.mp hMem
    exact ⟨leg, h.mem_values.mp hLeg, hCandidate⟩
  · rintro ⟨leg, hLookup, hCandidate⟩
    obtain rfl := h.filed sessionId leg hLookup
    exact ⟨leg, mem_rankedLegs.mpr ⟨h.mem_values.mpr hLookup, hCandidate⟩, rfl⟩

/-- Ids in ascending key order are distinct. -/
theorem LegsFiled.nodup (h : call.LegsFiled) :
    (call.legs.values.map (·.sessionId)).Nodup := by
  have hKeys : call.legs.values.map (·.sessionId) = call.legs.keys := by
    rw [OrdMap.values, OrdMap.keys, List.map_map]
    apply List.map_congr_left
    intro entry hEntry
    exact h.filed entry.1 entry.2 (OrdMap.lookup_of_mem h.ascending hEntry)
  rw [hKeys]
  exact h.ascending.imp fun hLess => ne_of_lt hLess

/-- No leg is a candidate twice. -/
theorem nodup_handoffCandidates (h : call.LegsFiled) :
    (call.handoffCandidates continuation).Nodup := by
  have hPerm : (call.handoffCandidates continuation).Perm
      ((call.legs.values.filter _).map (·.sessionId)) :=
    (List.perm_insertionSort _ _).map _
  rw [hPerm.nodup_iff]
  exact h.nodup.sublist (List.filter_sublist.map _)

theorem rankedLegs_pairwise :
    (call.rankedLegs continuation).Pairwise fun a b =>
      call.preference continuation a ≤ call.preference continuation b := by
  let preferred : CallLeg → CallLeg → Prop := fun a b =>
    rankLe (call.handoffRank continuation a) (call.handoffRank continuation b) = true
  have hPreferred : ∀ a b, preferred a b ↔
      call.preference continuation a ≤ call.preference continuation b := rankLe_handoffRank_iff
  have hTotal : Std.Total preferred := by
    constructor
    intro a b
    rw [hPreferred, hPreferred]
    exact le_total _ _
  have hTrans : IsTrans CallLeg preferred := by
    constructor
    intro a b c hFirst hSecond
    rw [hPreferred] at hFirst hSecond ⊢
    exact hFirst.trans hSecond
  apply (List.pairwise_insertionSort preferred _).imp
  intro a b h
  exact (hPreferred a b).mp h

/-- Candidates are listed in the order of preference. -/
theorem handoffCandidates_pairwise (h : call.LegsFiled) :
    (call.handoffCandidates continuation).Pairwise fun a b => ∀ legA legB,
      call.legs.lookup a = some legA → call.legs.lookup b = some legB →
        call.preference continuation legA < call.preference continuation legB := by
  have hNodup : (call.handoffCandidates continuation).Nodup := nodup_handoffCandidates h
  rw [handoffCandidates_eq] at hNodup ⊢
  rw [List.Nodup, List.pairwise_map] at hNodup
  rw [List.pairwise_map]
  apply (rankedLegs_pairwise.and hNodup).imp_of_mem
  intro a b hMemA hMemB hPair legA legB hA hB
  rw [h.mem_values.mp (mem_rankedLegs.mp hMemA).1, Option.some.injEq] at hA
  rw [h.mem_values.mp (mem_rankedLegs.mp hMemB).1, Option.some.injEq] at hB
  rw [← hA, ← hB]
  apply lt_of_le_of_ne hPair.1
  intro hSame
  apply hPair.2
  simp only [preference, toLex_inj, Prod.mk.injEq] at hSame
  exact hSame.2.2.2

/-- A handoff that was decided on another owner, or on an older generation, has no effect. -/
theorem handoffCoordinator_stale {owner target : SessionId} {generation : Nat}
    (h : (owner, generation) ≠ call.owner) :
    handoffCoordinator owner generation target () call =
      (.error (.staleCoordinator call.coordinator call.coordinatorGeneration), call) := by
  have hStale : call.coordinator ≠ owner ∨ call.coordinatorGeneration ≠ generation := by
    by_contra hCurrent
    rw [not_or, not_not, not_not] at hCurrent
    exact h (Prod.ext hCurrent.1.symm hCurrent.2.symm)
  simp only [handoffCoordinator, bind, Proc.get, if_pos hStale, Proc.fail]

/-- A current handoff to a candidate: the generation goes up by one, if it can. -/
theorem handoffCoordinator_candidate {leg : CallLeg} {target : SessionId}
    (hTarget : call.legs.lookup target = some leg) (hFiled : leg.sessionId = target)
    (h : call.Candidate leg) :
    handoffCoordinator call.coordinator call.coordinatorGeneration target () call =
      if u64Max ≤ call.coordinatorGeneration then (.error .coordinatorGenerationExhausted, call)
      else (.ok (call.coordinatorGeneration + 1),
        { call with
          coordinator := target, coordinatorGeneration := call.coordinatorGeneration + 1 }) := by
  have hCurrent : ¬ (call.coordinator ≠ call.coordinator ∨
      call.coordinatorGeneration ≠ call.coordinatorGeneration) := by
    rw [not_or, not_not, not_not]
    exact ⟨rfl, rfl⟩
  have hAvailable : ¬ (leg.state.isTerminal = true ∨ leg.leftAtMs.isSome = true) := by
    rw [h.live, h.present, Option.isSome_none]
    simp only [Bool.false_eq_true, or_self, not_false_iff]
  have hOther : target ≠ call.coordinator := hFiled ▸ h.other
  show (if _ ∨ _ then _ else _ : Op Nat) () call = _
  rw [if_neg hCurrent, hTarget]
  show (if _ ∨ _ then _ else if _ then _ else if _ then _ else _ : Op Nat) () call = _
  rw [if_neg hAvailable, if_neg hOther]
  by_cases hExhausted : u64Max ≤ call.coordinatorGeneration
  · rw [if_pos hExhausted, if_pos hExhausted]
    rfl
  · rw [if_neg hExhausted, if_neg hExhausted]
    rfl

/-- The generation counts the changes of the owner. -/
structure Fenced (call next : CallAggregate) : Prop where
  changed : next.coordinator ≠ call.coordinator →
    next.coordinatorGeneration = call.coordinatorGeneration + 1
  kept : next.coordinator = call.coordinator →
    next.coordinatorGeneration = call.coordinatorGeneration

theorem Achieved.fenced {op : AggregateOp} (h : Achieved call op next) : Fenced call next := by
  cases h with
  | handedOff hTarget hOther => exact ⟨fun _ => rfl, fun hSame => (hOther hSame).elim⟩
  | _ => exact ⟨fun hChanged => (hChanged rfl).elim, fun _ => rfl⟩

/-- Along a run the generation does not go down, and it names the owner. -/
theorem generation_of_runs {C : CallAggregate → AggregateOp → Prop}
    (run : RunsWithin system C call last) :
    call.coordinatorGeneration ≤ last.coordinatorGeneration ∧
      (last.coordinatorGeneration = call.coordinatorGeneration →
        last.coordinator = call.coordinator) := by
  apply run.invariant (P := fun last =>
    call.coordinatorGeneration ≤ last.coordinatorGeneration ∧
      (last.coordinatorGeneration = call.coordinatorGeneration →
        last.coordinator = call.coordinator))
  · exact ⟨Nat.le_refl _, fun _ => rfl⟩
  · intro middle op next h _ hNext
    have hFenced := (achieved_of_next hNext).fenced
    by_cases hOwner : next.coordinator = middle.coordinator
    · rw [hFenced.kept hOwner, hOwner]
      exact h
    · have hStep := hFenced.changed hOwner
      constructor
      · omega
      · intro hSame
        omega

/-- Owners change one generation at a time, a handoff that is not current has no effect, and
the listed candidates are those that the next handoff can go to, until the generation has no
successor. -/
theorem coordinator_ownership (h : Reachable system call) :
    (∀ op next, system.next call op next → Fenced call next) ∧
      (∀ last, Runs system call last →
        call.coordinatorGeneration ≤ last.coordinatorGeneration ∧
          (last.coordinatorGeneration = call.coordinatorGeneration →
            last.coordinator = call.coordinator)) ∧
      (∀ owner generation target, (owner, generation) ≠ call.owner →
        handoffCoordinator owner generation target () call =
          (.error (.staleCoordinator call.coordinator call.coordinatorGeneration), call)) ∧
      ∀ continuation,
        (∀ sessionId, sessionId ∈ call.handoffCandidates continuation ↔
          ∃ leg, call.legs.lookup sessionId = some leg ∧ call.Candidate leg) ∧
        (call.handoffCandidates continuation).Nodup ∧
        ((call.handoffCandidates continuation).Pairwise fun a b => ∀ legA legB,
          call.legs.lookup a = some legA → call.legs.lookup b = some legB →
            call.preference continuation legA < call.preference continuation legB) ∧
        ∀ target ∈ call.handoffCandidates continuation,
          handoffCoordinator call.coordinator call.coordinatorGeneration target () call =
            if u64Max ≤ call.coordinatorGeneration then
              (.error .coordinatorGenerationExhausted, call)
            else (.ok (call.coordinatorGeneration + 1),
              { call with
                coordinator := target
                coordinatorGeneration := call.coordinatorGeneration + 1 }) := by
  have hFiled : call.LegsFiled := (sound_of_reachable h).legs
  refine ⟨fun op next hNext => (achieved_of_next hNext).fenced,
    fun last run => generation_of_runs run,
    fun owner generation target hStale => handoffCoordinator_stale hStale,
    fun continuation => ⟨fun sessionId => mem_handoffCandidates hFiled,
      nodup_handoffCandidates hFiled, handoffCandidates_pairwise hFiled, fun target hMem => ?_⟩⟩
  obtain ⟨leg, hTarget, hCandidate⟩ := (mem_handoffCandidates hFiled).mp hMem
  exact handoffCoordinator_candidate hTarget (hFiled.filed target leg hTarget) hCandidate

theorem coordinator_ownership_dialled :
    (runAll (answering "callee" "attempt") exampleCall).handoffCandidates none = ["callee"] ∧
      handoffCoordinator "caller" 7 "callee" ()
        (runAll (answering "callee" "attempt") exampleCall) =
        (.error (.staleCoordinator "caller" 1),
          runAll (answering "callee" "attempt") exampleCall) :=
  have h := coordinator_ownership (reachable_runAll (answering "callee" "attempt"))
  ⟨by decide, h.2.2.1 "caller" 7 "callee" (by decide)⟩

/-- The example call with a second leg, owned by either of them for the given generation. -/
def passed (coordinator : SessionId) (coordinatorGeneration : Nat) : CallAggregate :=
  { exampleCall with
    legs := [("callee", CallLeg.ofSession (exampleCallee "callee" "attempt")),
      ("caller", CallLeg.ofSession exampleCaller)]
    coordinator
    coordinatorGeneration }

/-- Either leg hands the call over to the other one. -/
theorem next_passed {owner other : SessionId} {generation : Nat}
    (hPair : (owner, other) ∈ [("caller", "callee"), ("callee", "caller")])
    (hBelow : ¬ u64Max ≤ generation) :
    system.next (passed owner generation) (.handoffCoordinator owner generation other)
      (passed other (generation + 1)) := by
  have hCandidate : ∃ leg, (passed owner generation).legs.lookup other = some leg ∧
      leg.sessionId = other ∧ (passed owner generation).Candidate leg := by
    simp only [List.mem_cons, Prod.mk.injEq, List.not_mem_nil, or_false] at hPair
    rcases hPair with ⟨rfl, rfl⟩ | ⟨rfl, rfl⟩
    · exact ⟨_, rfl, rfl, show "callee" ≠ "caller" by decide, rfl, rfl⟩
    · exact ⟨_, rfl, rfl, show "caller" ≠ "callee" by decide, rfl, rfl⟩
  obtain ⟨leg, hTarget, hFiled, hLeg⟩ := hCandidate
  have hRun := handoffCoordinator_candidate hTarget hFiled hLeg
  rw [if_neg (show ¬ u64Max ≤ (passed owner generation).coordinatorGeneration from hBelow)] at hRun
  show _ = (run _).final () _
  rw [run, Proc.final_bind_pure, Proc.final]
  exact (congrArg Prod.snd hRun).symm

/-- The two legs can pass the call to each other until the generation is used up. -/
theorem reachable_passed {generation : Nat} (hLow : 1 ≤ generation) (hHigh : generation ≤ u64Max) :
    ∃ owner other, (owner, other) ∈ [("caller", "callee"), ("callee", "caller")] ∧
      Reachable system (passed owner generation) := by
  induction generation with
  | zero => omega
  | succ generation ih =>
      by_cases hFirst : generation = 0
      · subst hFirst
        exact ⟨"caller", "callee", .head _, exampleCall, ⟨exampleCaller, .sequentialHunt, 1, rfl⟩,
          runs_runAll [.addLeg (exampleCallee "callee" "attempt")] exampleCall⟩
      · obtain ⟨owner, other, hPair, hReached⟩ := ih (by omega) (by omega)
        have hSwap : (other, owner) ∈ [("caller", "callee"), ("callee", "caller")] := by
          simp only [List.mem_cons, Prod.mk.injEq, List.not_mem_nil, or_false] at hPair ⊢
          rcases hPair with hCaller | hCallee
          · exact .inr ⟨hCaller.2, hCaller.1⟩
          · exact .inl ⟨hCallee.2, hCallee.1⟩
        have hRun : Runs system (passed owner generation) (passed other (generation + 1)) :=
          .step .refl trivial (next_passed hPair (by omega))
        exact ⟨other, owner, hSwap, hReached.runs hRun⟩

/-- A listed candidate is refused once the generation has no successor. -/
theorem generation_exhausted :
    ¬ ∀ call, Reachable system call → ∀ target ∈ call.handoffCandidates none,
      ∃ generation next,
        handoffCoordinator call.coordinator call.coordinatorGeneration target () call =
          (.ok generation, next) := by
  intro hAccepted
  obtain ⟨owner, other, hPair, hReached⟩ :=
    reachable_passed (by decide : 1 ≤ u64Max) (Nat.le_refl _)
  have hListed : other ∈ (passed owner u64Max).handoffCandidates none ∧
      handoffCoordinator owner u64Max other () (passed owner u64Max) =
        (.error .coordinatorGenerationExhausted, passed owner u64Max) := by
    simp only [List.mem_cons, Prod.mk.injEq, List.not_mem_nil, or_false] at hPair
    rcases hPair with ⟨rfl, rfl⟩ | ⟨rfl, rfl⟩
    · exact ⟨by decide, rfl⟩
    · exact ⟨by decide, rfl⟩
  obtain ⟨generation, next, hOk⟩ := hAccepted _ hReached other hListed.1
  have hBoth := hListed.2.symm.trans hOk
  simp only [Prod.mk.injEq, reduceCtorEq, false_and] at hBoth

end CallAggregate

end VoipSwitch
