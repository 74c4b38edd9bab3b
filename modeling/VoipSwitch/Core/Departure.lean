import VoipSwitch.Core.Ownership

/-! Legs that have left the call. The departure of a leg is written in two places, its state
and its departure time, and only the state can be written again. -/
namespace VoipSwitch

open Stateful Keyed Transition

namespace CallAggregate

variable {call next last : CallAggregate} {sessionId : SessionId}

/-- The operation gives a new life to a leg that has left, or to any leg of a finished call. -/
def revives (call : CallAggregate) : AggregateOp → Bool
  | .updateLegState sessionId state =>
    state ≠ .destroyed && match call.legs.lookup sessionId with
      | some leg => leg.leftAtMs.isSome || call.isFinished
      | none => false
  | _ => false

/-- The leg is destroyed, and its departure is on record. -/
def Departed (call : CallAggregate) (sessionId : SessionId) : Prop :=
  ∃ leg, call.legs.lookup sessionId = some leg ∧ leg.state = .destroyed ∧
    leg.leftAtMs.isSome = true

theorem isTerminal_iff {state : LegState} : state.isTerminal = true ↔ state = .destroyed := by
  cases state <;> simp [LegState.isTerminal]

/-- A leg that is marked as left has departed. -/
theorem departed_of_markLegLeft {leftAtMs : Nat}
    (h : markLegLeft sessionId leftAtMs () call = (.ok (), next)) : next.Departed sessionId := by
  have hPost : Proc.Post (markLegLeft sessionId leftAtMs) () call
      (fun _ next => next.Departed sessionId) fun _ => True := by
    simp only [markLegLeft, withLeg, Proc.post_bind, Proc.post_get, Proc.post_ite]
    split
    · next hLeg =>
        obtain ⟨leg, hLookup⟩ := Option.isSome_iff_exists.mp hLeg
        exact ⟨_, OrdMap.lookup_adjust_self hLookup, rfl, getOrInsert_isSome _ _⟩
    · trivial
  rw [Proc.Post, h] at hPost
  exact hPost

/-- A leg and the same leg after an operation: it does not leave twice, and once destroyed it
has another state only if that state is written to it. -/
def LegAfter (op : AggregateOp) (sessionId : SessionId) (leg next : CallLeg) : Prop :=
  SetOnce leg.leftAtMs next.leftAtMs ∧ (leg.state = .destroyed → next.state = .destroyed ∨
    op = .updateLegState sessionId next.state)

theorem LegAfter.refl (op : AggregateOp) (leg : CallLeg) : LegAfter op sessionId leg leg :=
  ⟨.refl _, .inl⟩

/-- Updating one leg in place leaves the others as they are. -/
theorem legAfter_adjust {op : AggregateOp} {id : SessionId} {f : CallLeg → CallLeg} {leg : CallLeg}
    (hLookup : call.legs.lookup sessionId = some leg)
    (hf : id = sessionId → LegAfter op sessionId leg (f leg)) :
    ∃ leg', (call.legs.adjust id f).lookup sessionId = some leg' ∧
      LegAfter op sessionId leg leg' := by
  by_cases hSame : id = sessionId
  · have hAfter := hf hSame
    subst hSame
    exact ⟨f leg, OrdMap.lookup_adjust_self hLookup, hAfter⟩
  · refine ⟨leg, ?_, .refl op leg⟩
    rw [OrdMap.lookup_adjust, if_neg hSame, hLookup]

theorem Achieved.legAfter {op : AggregateOp} {leg : CallLeg} (h : Achieved call op next)
    (hLookup : call.legs.lookup sessionId = some leg) :
    ∃ leg', next.legs.lookup sessionId = some leg' ∧ LegAfter op sessionId leg leg' := by
  cases h with
  | roleUpdated =>
      apply legAfter_adjust hLookup
      intro _
      split
      · exact .refl _ leg
      · exact ⟨.refl _, .inl⟩
  | legLeft =>
      apply legAfter_adjust hLookup
      intro _
      exact ⟨.getOrInsert _ _, fun _ => .inl rfl⟩
  | legStateUpdated =>
      apply legAfter_adjust hLookup
      intro hSame
      exact ⟨.refl _, fun _ => .inr (hSame ▸ rfl)⟩
  | legAdded hFree =>
      refine ⟨leg, ?_, .refl _ leg⟩
      rw [OrdMap.lookup_insert, if_neg, hLookup]
      intro hSame
      rw [← hSame, hFree] at hLookup
      cases hLookup
  | _ => exact ⟨leg, hLookup, .refl _ leg⟩

/-- Outside of `revives`, a destroyed leg that has left, or whose call is finished, stays
destroyed. -/
theorem destroyed_of_next {op : AggregateOp} {leg : CallLeg} (hNext : system.next call op next)
    (hRevives : call.revives op = false) (hLookup : call.legs.lookup sessionId = some leg)
    (hState : leg.state = .destroyed)
    (hGone : (leg.leftAtMs.isSome || call.isFinished) = true) :
    ∃ leg', next.legs.lookup sessionId = some leg' ∧ leg'.state = .destroyed ∧
      SetOnce leg.leftAtMs leg'.leftAtMs := by
  obtain ⟨leg', hLookup', hLeft, hAfter⟩ := (achieved_of_next hNext).legAfter hLookup
  refine ⟨leg', hLookup', ?_, hLeft⟩
  rcases hAfter hState with hKept | hOp
  · exact hKept
  · simp only [hOp, revives, hLookup, hGone, Bool.and_true, decide_eq_false_iff_not, not_not]
      at hRevives
    exact hRevives

theorem Departed.of_next {op : AggregateOp} (h : call.Departed sessionId)
    (hRevives : call.revives op = false) (hNext : system.next call op next) :
    next.Departed sessionId := by
  obtain ⟨leg, hLookup, hState, hLeft⟩ := h
  obtain ⟨leg', hLookup', hState', hLater⟩ := destroyed_of_next hNext hRevives hLookup hState
    (by rw [hLeft, Bool.true_or])
  obtain ⟨leftAtMs, hAt⟩ := Option.isSome_iff_exists.mp hLeft
  refine ⟨leg', hLookup', hState', ?_⟩
  rw [hLater leftAtMs hAt, Option.isSome_some]

/-- A call is finished when all its legs are destroyed. -/
theorem isFinished_iff (h : call.LegsFiled) :
    call.isFinished = true ↔
      ∀ id leg, call.legs.lookup id = some leg → leg.state = .destroyed := by
  rw [isFinished, List.all_eq_true]
  constructor
  · intro hAll id leg hLookup
    apply isTerminal_iff.mp
    apply hAll
    rw [h.mem_values, h.filed id leg hLookup, hLookup]
  · intro hAll leg hMem
    exact isTerminal_iff.mpr (hAll leg.sessionId leg (h.mem_values.mp hMem))

/-- A finished call stays finished unless a leg is revived or added. -/
theorem isFinished_of_runs (hReached : Reachable system call) (hFinished : call.isFinished = true)
    (run : RunsWithin system (fun call op => call.revives op = false) call last)
    (hLegs : ∀ id, last.legs.contains id = true → call.legs.contains id = true) :
    last.isFinished = true := by
  induction run with
  | refl => exact hFinished
  | @step middle last op first hRevives hNext ih =>
      have hMiddle : Reachable system middle := hReached.runs first
      have hLater : Later call middle := later_of_runs first
      have hStep : Later middle last := (achieved_of_next hNext).later
      have hDone : middle.isFinished = true := ih fun id hLeg => hLegs id (hStep.legs.contains hLeg)
      have hLast : Reachable system last :=
        hMiddle.runs (C := fun call op => call.revives op = false)
        (.step .refl hRevives hNext)
      rw [isFinished_iff (sound_of_reachable hLast).legs]
      intro id leg hLookup
      have hOld : middle.legs.contains id = true :=
        hLater.legs.contains (hLegs id (OrdMap.contains_of_lookup hLookup))
      obtain ⟨old, hOldLookup⟩ := Option.isSome_iff_exists.mp hOld
      have hState := (isFinished_iff (sound_of_reachable hMiddle).legs).mp hDone id old hOldLookup
      obtain ⟨leg', hLookup', hState', -⟩ := destroyed_of_next hNext hRevives hOldLookup hState
        (by rw [hDone, Bool.or_true])
      rw [hLookup', Option.some.injEq] at hLookup
      exact hLookup ▸ hState'

/-- A leg that has left is not a candidate for the next owner and is refused as one. -/
theorem refused_of_left (hFiled : call.LegsFiled) {leg : CallLeg}
    (hLookup : call.legs.lookup sessionId = some leg) (hLeft : leg.leftAtMs.isSome = true) :
    (∀ continuation, sessionId ∉ call.handoffCandidates continuation) ∧
      ∀ owner generation, ∃ error,
        handoffCoordinator owner generation sessionId () call = (.error error, call) := by
  constructor
  · intro continuation hMem
    obtain ⟨leg', hLookup', hCandidate⟩ := (mem_handoffCandidates hFiled).mp hMem
    rw [hLookup, Option.some.injEq] at hLookup'
    rw [hLookup', hCandidate.present, Option.isSome_none] at hLeft
    simp only [Bool.false_eq_true] at hLeft
  · intro owner generation
    by_cases hOwner : (owner, generation) = call.owner
    · have hCurrent : ¬ (call.coordinator ≠ owner ∨ call.coordinatorGeneration ≠ generation) := by
        rw [not_or, not_not, not_not]
        exact ⟨(Prod.mk.inj hOwner).1.symm, (Prod.mk.inj hOwner).2.symm⟩
      refine ⟨.coordinatorTargetUnavailable sessionId, ?_⟩
      show (if _ ∨ _ then _ else _ : Op Nat) () call = _
      rw [if_neg hCurrent, hLookup]
      show (if _ ∨ _ then _ else _ : Op Nat) () call = _
      rw [if_pos (.inr hLeft)]
      rfl
    · exact ⟨_, handoffCoordinator_stale hOwner⟩

/-- What has left has left in every later state of the call. -/
theorem left_of_runs {C : CallAggregate → AggregateOp → Prop} (h : call.Departed sessionId)
    (run : RunsWithin system C call last) :
    ∃ leg, last.legs.lookup sessionId = some leg ∧ leg.leftAtMs.isSome = true := by
  obtain ⟨leg, hLookup, -, hLeft⟩ := h
  obtain ⟨leg', hLookup', hLater⟩ := (later_of_runs run).legs sessionId leg hLookup
  obtain ⟨leftAtMs, hAt⟩ := Option.isSome_iff_exists.mp hLeft
  refine ⟨leg', hLookup', ?_⟩
  rw [hLater leftAtMs hAt, Option.isSome_some]

/-- A revived leg contradicts its departure, or the end of its call. -/
theorem revived_of_next {op : AggregateOp} (hRevives : call.revives op = true)
    (hFiled : next.LegsFiled) (hNext : system.next call op next) :
    (∃ id leg, next.legs.lookup id = some leg ∧ leg.leftAtMs.isSome = true ∧
        leg.state ≠ .destroyed) ∨
      call.isFinished = true ∧ next.isFinished = false ∧
        ∀ id, next.legs.contains id = true → call.legs.contains id = true := by
  cases op with
  | updateLegState id state =>
      simp only [revives, Bool.and_eq_true, decide_eq_true_iff] at hRevives
      obtain ⟨hState, hGone⟩ := hRevives
      split at hGone
      · next leg hLookup =>
          have hLegs : next.legs = call.legs.adjust id fun leg => { leg with state } := by
            rw [hNext]
            show ((withLeg id _ () call).2).legs = _
            show (((if _ then _ else _ : Op Unit) () call).2).legs = _
            rw [if_pos (OrdMap.contains_of_lookup hLookup)]
            rfl
          have hRevived : next.legs.lookup id = some { leg with state } := by
            rw [hLegs, OrdMap.lookup_adjust_self hLookup]
          rcases Bool.or_eq_true _ _ ▸ hGone with hLeft | hFinished
          · exact .inl ⟨id, _, hRevived, hLeft, hState⟩
          · refine .inr ⟨hFinished, ?_, fun other hOther => ?_⟩
            · rw [← Bool.not_eq_true, isFinished_iff hFiled]
              exact fun hAll => hState (hAll id _ hRevived)
            · rw [hLegs, OrdMap.contains, OrdMap.lookup_adjust] at hOther
              split at hOther
              · next hSame => exact hSame ▸ OrdMap.contains_of_lookup hLookup
              · exact hOther
      · simp only [Bool.false_eq_true] at hGone
  | _ => simp only [revives, Bool.false_eq_true] at hRevives

/-- Along operations that revive no leg, a leg that is marked as left stays destroyed and a
finished call to which no leg is added stays finished; it is no candidate for the next owner
whatever happens; and an operation that revives a leg breaks one of the two at once. -/
theorem departed_stays_departed (h : Reachable system call) :
    (∀ sessionId leftAtMs next, markLegLeft sessionId leftAtMs () call = (.ok (), next) →
      (∀ last, RunsWithin system (fun call op => call.revives op = false) next last →
        last.Departed sessionId) ∧
      ∀ last, Runs system next last →
        (∀ continuation, sessionId ∉ last.handoffCandidates continuation) ∧
        ∀ owner generation, ∃ error,
          handoffCoordinator owner generation sessionId () last = (.error error, last)) ∧
      (call.isFinished = true → ∀ last,
        RunsWithin system (fun call op => call.revives op = false) call last →
        (∀ id, last.legs.contains id = true → call.legs.contains id = true) →
        last.isFinished = true) ∧
      ∀ op next, call.revives op = true → system.next call op next →
        (∃ id leg, next.legs.lookup id = some leg ∧ leg.leftAtMs.isSome = true ∧
          leg.state ≠ .destroyed) ∨
        call.isFinished = true ∧ next.isFinished = false ∧
          ∀ id, next.legs.contains id = true → call.legs.contains id = true := by
  refine ⟨fun sessionId leftAtMs next hLeft => ?_,
    fun hFinished last run hLegs => isFinished_of_runs h hFinished run hLegs,
    fun op next hRevives hNext => ?_⟩
  · have hDeparted : next.Departed sessionId := departed_of_markLegLeft hLeft
    have hNext : system.next call (.markLegLeft sessionId leftAtMs) next := by
      show next = (run _).final () call
      rw [run, Proc.final, hLeft]
    have hReached : Reachable system next :=
      h.runs (C := fun _ _ => True) (.step .refl trivial hNext)
    constructor
    · intro last run
      apply run.invariant hDeparted
      intro call op next hGone hRevives hNext
      exact hGone.of_next hRevives hNext
    · intro last run
      obtain ⟨leg, hLookup, hAway⟩ := left_of_runs hDeparted run
      exact refused_of_left (sound_of_reachable (hReached.runs run)).legs hLookup hAway
  · have hReached : Reachable system next :=
      h.runs (C := fun _ _ => True) (.step .refl trivial hNext)
    exact revived_of_next hRevives (sound_of_reachable hReached).legs hNext

/-- The example call with a second leg. -/
def dialled : CallAggregate := runAll [.addLeg (exampleCallee "callee" "attempt")] exampleCall

theorem departed_stays_departed_dialled :
    (runAll [.markLegLeft "callee" 5, .updateLegState "caller" .bridged] dialled).Departed
      "callee" :=
  ((departed_stays_departed (reachable_runAll [.addLeg (exampleCallee "callee" "attempt")])).1
    "callee" 5 (runAll [.markLegLeft "callee" 5] dialled) rfl).1 _
    (.step .refl (i := .updateLegState "caller" .bridged) (by decide) rfl)

/-- A leg-state update after the departure gives the leg a state again. -/
theorem departed_leg_revived :
    Reachable system (runAll [.addLeg (exampleCallee "callee" "attempt"), .markLegLeft "callee" 5,
        .updateLegState "callee" .bridged] exampleCall) ∧
      ((runAll [.addLeg (exampleCallee "callee" "attempt"), .markLegLeft "callee" 5,
        .updateLegState "callee" .bridged] exampleCall).legs.lookup "callee").map
          (fun leg => (leg.state, leg.leftAtMs)) = some (.bridged, some 5) :=
  ⟨reachable_runAll _, by decide⟩

end CallAggregate

end VoipSwitch
