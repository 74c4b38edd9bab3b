import VoipSwitch.Core.Topology

/-! The winner of a call. It is recorded as a field of the call and as the state of an attempt;
the transition table of the attempts knows the second record only. -/
namespace VoipSwitch

open Stateful Keyed Transition

namespace CallAggregate

variable {call next last : CallAggregate}

/-- A recorded winner has been selected, and the call was answered. -/
def Won (call : CallAggregate) : Prop :=
  ∀ id, call.winner = some id → call.answeredAtMs.isSome = true ∧
    ∃ attempt, call.calleeAttempts.lookup id = some attempt ∧
      (attempt.state = .selected ∨ attempt.state = .destroyed)

/-- Every selected attempt is the recorded winner. -/
def Elected (call : CallAggregate) : Prop :=
  ∀ id attempt, call.calleeAttempts.lookup id = some attempt → attempt.state = .selected →
    call.winner = some id

/-- The transition table moves an attempt into its selected state. -/
def movesToSelected (call : CallAggregate) : AggregateOp → Bool
  | .updateAttemptState attemptId .selected _ =>
    match call.calleeAttempts.lookup attemptId with
    | some attempt => attempt.state = .answered
    | none => false
  | _ => false

/-- A selected attempt can only end. -/
theorem eq_destroyed_of_selected {state : CalleeAttemptState}
    (h : validAttemptTransition .selected state = true) : state = .destroyed := by
  cases state <;> simp_all [validAttemptTransition]

theorem eq_answered_of_selected {state : CalleeAttemptState}
    (h : validAttemptTransition state .selected = true) : state = .answered := by
  cases state <;> simp_all [validAttemptTransition]

theorem not_validAttemptTransition_destroyed {state : CalleeAttemptState} :
    validAttemptTransition .destroyed state = false := by
  cases state <;> rfl

/-- The attempts after a selection. -/
theorem lookup_settleWinner {attemptId id : CalleeAttemptId} {answeredAtMs : Nat}
    {attempt : CalleeAttempt}
    (h : (settleWinner attemptId answeredAtMs call).calleeAttempts.lookup id = some attempt) :
    (id = attemptId ∧ attempt.state = .selected) ∨
    (id ≠ attemptId ∧ attempt.state.isTerminal = true) := by
  rw [settleWinner, OrdMap.lookup_mapValues] at h
  obtain ⟨old, -, rfl⟩ := Option.map_eq_some_iff.mp h
  split
  · next hSame => exact .inl ⟨hSame, rfl⟩
  · next hOther =>
      split
      · next hEnded => exact .inr ⟨hOther, hEnded⟩
      · exact .inr ⟨hOther, rfl⟩

theorem Won.of_achieved {op : AggregateOp} (h : call.Won) (hDone : Achieved call op next) :
    next.Won := by
  intro id hWinner
  cases hDone with
  | attemptAdded _ hFree =>
      obtain ⟨hAnswered, attempt, hLookup, hState⟩ := h id hWinner
      refine ⟨hAnswered, attempt, ?_, hState⟩
      rw [OrdMap.lookup_insert, if_neg, hLookup]
      intro hSame
      rw [← hSame, hFree] at hLookup
      cases hLookup
  | @attemptMoved attemptId state _ moved hMoved hValid =>
      obtain ⟨hAnswered, attempt, hLookup, hState⟩ := h id hWinner
      refine ⟨hAnswered, ?_⟩
      by_cases hSame : attemptId = id
      · subst hSame
        refine ⟨_, OrdMap.lookup_adjust_self hLookup, .inr ?_⟩
        rw [hMoved, Option.some.injEq] at hLookup
        subst hLookup
        rcases hState with hSelected | hDestroyed
        · rw [hSelected] at hValid
          exact eq_destroyed_of_selected hValid
        · rw [hDestroyed, not_validAttemptTransition_destroyed] at hValid
          simp only [Bool.false_eq_true] at hValid
      · refine ⟨attempt, ?_, hState⟩
        rw [OrdMap.lookup_adjust, if_neg hSame, hLookup]
  | @settled _ attemptId answeredAtMs _ _ hAttempt _ =>
      obtain rfl : attemptId = id := Option.some.inj hWinner
      refine ⟨getOrInsert_isSome _ _, ?_⟩
      have hThere : (settleWinner attemptId answeredAtMs call).calleeAttempts.contains attemptId =
          true := by
        rw [OrdMap.contains, settleWinner, OrdMap.lookup_mapValues, hAttempt, Option.map_some,
          Option.isSome_some]
      obtain ⟨winner, hLookup⟩ := Option.isSome_iff_exists.mp hThere
      rcases lookup_settleWinner hLookup with hSelected | hOther
      · exact ⟨winner, hLookup, .inl hSelected.2⟩
      · exact (hOther.1 rfl).elim
  | _ => exact h id hWinner

theorem Elected.of_achieved {op : AggregateOp} (h : call.Elected)
    (hOp : call.movesToSelected op = false) (hDone : Achieved call op next) : next.Elected := by
  intro id attempt hLookup hSelected
  cases hDone with
  | attemptAdded =>
      rw [OrdMap.lookup_insert] at hLookup
      split at hLookup
      · rw [← Option.some.inj hLookup] at hSelected
        cases hSelected
      · exact h id attempt hLookup hSelected
  | attemptMoved hMoved hValid =>
      rw [OrdMap.lookup_adjust] at hLookup
      split at hLookup
      · rw [hMoved, Option.map_some, Option.some.injEq] at hLookup
        rw [← hLookup] at hSelected
        simp only at hSelected
        subst hSelected
        simp only [movesToSelected, hMoved, eq_answered_of_selected hValid, decide_true,
          reduceCtorEq] at hOp
      · exact h id attempt hLookup hSelected
  | settled =>
      rcases lookup_settleWinner hLookup with hWinner | hOther
      · rw [settleWinner, hWinner.1]
      · rw [hSelected] at hOther
        simp only [CalleeAttemptState.isTerminal, Bool.false_eq_true, and_false] at hOther
  | _ => exact h id attempt hLookup hSelected

/-- A new call has no winner and no attempts. -/
theorem new_won {caller : Session} {bridgePolicy : BridgePolicy} {startedAtMs : Nat}
    (h : CallAggregate.new caller bridgePolicy startedAtMs = .ok call) :
    call.Won ∧ call.Elected := by
  rw [CallAggregate.new] at h
  split at h
  · cases h
  · rw [Except.ok.injEq] at h
    subst h
    constructor
    · intro id hWinner
      cases hWinner
    · intro id attempt hLookup
      simp only [OrdMap.lookup_nil, reduceCtorEq] at hLookup

/-- A recorded winner has been selected in an answered call; and as long as the transition table
selects no attempt by itself, the selected attempt is the recorded winner, so that there is one
at most. -/
theorem winner_selected :
    (∀ call, Reachable system call → call.Won) ∧
      ∀ call, ReachableWithin system (fun call op => call.movesToSelected op = false) call →
        call.Elected ∧
          (∀ a b first second, call.calleeAttempts.lookup a = some first →
            call.calleeAttempts.lookup b = some second → first.state = .selected →
            second.state = .selected → a = b) ∧
          ∀ a attempt, call.calleeAttempts.lookup a = some attempt → attempt.state = .selected →
            call.answeredAtMs.isSome = true := by
  have hWon : ∀ call, Reachable system call → call.Won := by
    intro call h
    apply h.invariant
    · intro call hInit
      obtain ⟨caller, bridgePolicy, startedAtMs, hNew⟩ := hInit
      exact (new_won hNew).1
    · intro call op next hWon hNext
      exact hWon.of_achieved (achieved_of_next hNext)
  refine ⟨hWon, fun call h => ?_⟩
  have hElected : call.Elected := by
    apply h.invariant
    · intro call hInit
      obtain ⟨caller, bridgePolicy, startedAtMs, hNew⟩ := hInit
      exact (new_won hNew).2
    · intro call op next hElected hOp hNext
      exact hElected.of_achieved hOp (achieved_of_next hNext)
  refine ⟨hElected, fun a b first second hA hB hFirst hSecond => ?_,
    fun a attempt hA hSelected => ?_⟩
  · have hBoth := (hElected a first hA hFirst).symm.trans (hElected b second hB hSecond)
    exact Option.some.inj hBoth
  · exact (hWon call h.reachable a (hElected a attempt hA hSelected)).1

/-- The example call with an answered attempt that won. -/
def wonCall : CallAggregate :=
  runAll (answering "callee" "attempt" ++ [.selectWinner "attempt" 5]) exampleCall

theorem wonCall_reachable :
    ReachableWithin system (fun call op => call.movesToSelected op = false) wonCall := by
  have hFollow : follow (fun call op => !call.movesToSelected op)
      (fun call op => (run op).final () call)
      (answering "callee" "attempt" ++ [.selectWinner "attempt" 5]) exampleCall = some wonCall :=
    rfl
  refine ⟨exampleCall, ⟨exampleCaller, .sequentialHunt, 1, rfl⟩, follow_runsWithin ?_ hFollow⟩
  intro call op hAllowed
  exact ⟨(Bool.not_eq_true' _).mp hAllowed, rfl⟩

theorem winner_selected_wonCall : wonCall.Elected ∧ wonCall.Won :=
  ⟨(winner_selected.2 wonCall wonCall_reachable).1, winner_selected.1 wonCall
    wonCall_reachable.reachable⟩

/-- Two answered attempts that the transition table selects. -/
def selectedByTable : CallAggregate :=
  runAll (answering "callee-1" "attempt-1" ++ answering "callee-2" "attempt-2" ++
    [.updateAttemptState "attempt-1" .selected none,
      .updateAttemptState "attempt-2" .selected none]) exampleCall

/-- A winner that the transition table ends. -/
def endedByTable : CallAggregate :=
  runAll (answering "callee" "attempt" ++
    [.selectWinner "attempt" 5, .updateAttemptState "attempt" .destroyed none]) exampleCall

/-- An attempt is selected by its transitions alone, and a winner is destroyed by them. -/
theorem selected_without_winner :
    (Reachable system selectedByTable ∧ selectedByTable.winner = none ∧
        selectedByTable.answeredAtMs = none ∧
        selectedByTable.calleeAttempts.values.map (·.state) = [.selected, .selected]) ∧
      Reachable system endedByTable ∧ endedByTable.winner = some "attempt" ∧
        endedByTable.calleeAttempts.values.map (·.state) = [.destroyed] :=
  ⟨⟨reachable_runAll _, by decide⟩, reachable_runAll _, by decide⟩

end CallAggregate

end VoipSwitch
