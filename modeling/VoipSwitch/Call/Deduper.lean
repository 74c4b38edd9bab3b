import VoipSwitch.Call.State

/-! The table of the highest sequence numbers. Its queue names the legs of its map, so the loop
that makes room always finds a leg to forget; what it accepts for a leg between two evictions of
that leg ascends, and whatever is higher than all of that is accepted. -/
namespace VoipSwitch.LegEventDeduper

open Keyed

/-- The queue and the map of a table. -/
abbrev Entries : Type := List AdapterCallLegId × OrdMap AdapterCallLegId Nat

/-- The number is not above the highest one of the leg. -/
def isStale (deduper : LegEventDeduper) (leg : AdapterCallLegId) (sequence : Nat) : Bool :=
  (deduper.highestSequences.lookup leg).any (sequence ≤ ·)

/-- The table when the loop starts: the leg is in the queue and the number in the map. -/
def entered (deduper : LegEventDeduper) (leg : AdapterCallLegId) (sequence : Nat) : Entries :=
  (if deduper.highestSequences.contains leg then deduper.order else deduper.order ++ [leg],
    deduper.highestSequences.insert leg sequence)

/-- A round of the loop as it is written: with an empty queue nothing is removed. -/
def round : Entries → Entries
  | ([], highest) => ([], highest)
  | (oldest :: rest, highest) => (rest, highest.erase oldest)

/-- The loop, started with some entries, ends with others. -/
inductive Ends (capacity : Nat) : Entries → Entries → Prop where
  | stop {entries : Entries} (h : entries.2.length ≤ capacity) : Ends capacity entries entries
  | again {entries left : Entries} (h : capacity < entries.2.length)
      (rest : Ends capacity (round entries) left) : Ends capacity entries left

/-- Every leg of the map is in the queue once, and no other leg is. -/
structure InStep (entries : Entries) : Prop where
  ascending : entries.2.Ascending
  keys_perm : entries.2.keys.Perm entries.1

/-- The table after some calls of `accept`. -/
def after (capacity : Nat) (calls : List (AdapterCallLegId × Nat)) : LegEventDeduper :=
  calls.foldl (fun deduper call => (deduper.accept call.1 call.2).2) { capacity }

/-- A call makes the table forget the leg. -/
def evicts (deduper : LegEventDeduper) (call : AdapterCallLegId × Nat)
    (leg : AdapterCallLegId) : Bool :=
  !deduper.isStale call.1 call.2 && (deduper.entered call.1 call.2).2.contains leg &&
    !(deduper.accept call.1 call.2).2.highestSequences.contains leg

/-- The numbers accepted for a leg: between its evictions, and since the last one. -/
structure Accepted where
  past : List (List Nat) := []
  current : List Nat := []

def Accepted.note (deduper : LegEventDeduper) (leg : AdapterCallLegId)
    (call : AdapterCallLegId × Nat) (accepted : Accepted) : Accepted :=
  let current :=
    if call.1 = leg ∧ (deduper.accept call.1 call.2).1 = true then accepted.current ++ [call.2]
    else accepted.current
  if deduper.evicts call leg then { past := accepted.past ++ [current] }
  else { accepted with current }

/-- What is accepted for a leg in a run that starts with the given table. -/
def acceptedFor (leg : AdapterCallLegId) :
    LegEventDeduper → Accepted → List (AdapterCallLegId × Nat) → Accepted
  | _, accepted, [] => accepted
  | deduper, accepted, call :: calls =>
    acceptedFor leg (deduper.accept call.1 call.2).2 (accepted.note deduper leg call) calls

variable {deduper : LegEventDeduper} {entries left : Entries} {capacity sequence : Nat}
  {leg other : AdapterCallLegId} {accepted : Accepted} {calls : List (AdapterCallLegId × Nat)}

section Loop

theorem InStep.nodup (h : InStep entries) : entries.1.Nodup := by
  apply h.keys_perm.nodup_iff.mp
  exact h.ascending.imp fun hLess => ne_of_lt hLess

theorem InStep.length_eq (h : InStep entries) : entries.2.length = entries.1.length := by
  have hLength := h.keys_perm.length_eq
  rw [OrdMap.keys, List.length_map] at hLength
  exact hLength

theorem InStep.contains_iff (h : InStep entries) :
    entries.2.contains leg = true ↔ leg ∈ entries.1 := by
  rw [← h.keys_perm.mem_iff, OrdMap.mem_keys_iff, OrdMap.contains, Option.isSome_iff_exists]

theorem InStep.round (h : InStep entries) : InStep (round entries) := by
  obtain ⟨order, highest⟩ := entries
  cases order with
  | nil => exact h
  | cons oldest rest =>
      constructor
      · exact h.ascending.erase oldest
      · have hErased := h.keys_perm.erase oldest
        rw [List.erase_cons_head, ← OrdMap.keys_erase] at hErased
        exact hErased

/-- Entering a leg keeps the queue and the map in step. -/
theorem InStep.entered (h : InStep (deduper.order, deduper.highestSequences))
    (leg : AdapterCallLegId) (sequence : Nat) : InStep (deduper.entered leg sequence) := by
  constructor
  · exact h.ascending.insert leg sequence
  · rw [LegEventDeduper.entered]
    by_cases hKnown : deduper.highestSequences.contains leg = true
    · have hMem : leg ∈ deduper.highestSequences.keys :=
        h.keys_perm.mem_iff.mpr (h.contains_iff.mp hKnown)
      rw [if_pos hKnown, OrdMap.keys_insert_of_mem h.ascending hMem]
      exact h.keys_perm
    · have hNew : leg ∉ deduper.highestSequences.keys := by
        intro hMem
        exact hKnown (h.contains_iff.mpr (h.keys_perm.mem_iff.mp hMem))
      rw [if_neg hKnown]
      apply (OrdMap.keys_insert_perm hNew).trans
      exact (h.keys_perm.cons leg).trans (List.perm_append_singleton leg _).symm

/-- What the loop leaves: the queue and the map in step and within the capacity, and the numbers
of the legs that are still there. -/
structure Kept (capacity : Nat) (entries left : Entries) : Prop where
  ends : Ends capacity entries left
  inStep : InStep left
  bounded : left.2.length ≤ capacity
  suffix : left.1 <:+ entries.1
  lookup_eq : ∀ leg, left.2.lookup leg = if leg ∈ left.1 then entries.2.lookup leg else none

theorem Kept.all (h : InStep entries) (hFits : entries.2.length ≤ capacity) :
    Kept capacity entries entries where
  ends := .stop hFits
  inStep := h
  bounded := hFits
  suffix := List.suffix_rfl
  lookup_eq leg := by
    split
    · rfl
    · next hGone =>
        apply OrdMap.lookup_eq_none
        rw [h.keys_perm.mem_iff]
        exact hGone

/-- The queue is never empty while the map is too large, so the loop ends. -/
theorem expire_kept (h : InStep entries) :
    Kept capacity entries (expire capacity entries.1 entries.2) := by
  obtain ⟨order, highest⟩ := entries
  induction order generalizing highest with
  | nil =>
      have hEmpty : highest.length = 0 := h.length_eq
      exact Kept.all h (hEmpty ▸ Nat.zero_le capacity)
  | cons oldest rest ih =>
      simp only [expire]
      split
      · next hOver =>
          have hRest := ih (highest.erase oldest) h.round
          exact {
            ends := .again hOver hRest.ends
            inStep := hRest.inStep
            bounded := hRest.bounded
            suffix := hRest.suffix.trans (List.suffix_cons oldest rest)
            lookup_eq := fun leg => by
              rw [hRest.lookup_eq leg]
              split
              · next hStays =>
                  have hOther : oldest ≠ leg := by
                    intro hSame
                    apply (List.nodup_cons.mp h.nodup).1
                    rw [hSame]
                    exact hRest.suffix.subset hStays
                  rw [OrdMap.lookup_erase h.ascending, if_neg hOther]
              · rfl }
      · next hFits => exact Kept.all h (Nat.le_of_not_lt hFits)

end Loop

section Runs

theorem accept_of_stale (h : deduper.isStale leg sequence = true) :
    deduper.accept leg sequence = (false, deduper) := if_pos h

theorem accept_of_fresh (h : deduper.isStale leg sequence = false) :
    deduper.accept leg sequence =
      (true, { deduper with
        order := (expire deduper.capacity (deduper.entered leg sequence).1
          (deduper.entered leg sequence).2).1
        highestSequences := (expire deduper.capacity (deduper.entered leg sequence).1
          (deduper.entered leg sequence).2).2 }) := by
  have hFresh : ¬ deduper.isStale leg sequence = true := Bool.eq_false_iff.mp h
  exact if_neg hFresh

/-- The table is in step and has room, and it has the last number accepted for the leg. -/
structure Follows (leg : AdapterCallLegId) (deduper : LegEventDeduper) (accepted : Accepted) :
    Prop where
  inStep : InStep (deduper.order, deduper.highestSequences)
  bounded : deduper.highestSequences.length ≤ deduper.capacity
  lookup_eq : deduper.highestSequences.lookup leg = accepted.current.getLast?
  past_ascending : ∀ numbers ∈ accepted.past, numbers.Pairwise (· < ·)
  ascending : accepted.current.Pairwise (· < ·)

/-- The last of ascending numbers is not below another one. -/
theorem le_getLast {numbers : List Nat} {last n : Nat} (h : numbers.Pairwise (· < ·))
    (hLast : numbers.getLast? = some last) (hMem : n ∈ numbers) : n ≤ last := by
  obtain ⟨earlier, rfl⟩ := List.getLast?_eq_some_iff.mp hLast
  rcases List.mem_append.mp hMem with hEarlier | hOwn
  · exact Nat.le_of_lt ((List.pairwise_append.mp h).2.2 n hEarlier last (List.mem_singleton_self _))
  · rw [List.mem_singleton.mp hOwn]

/-- A number is stale if it is not above all that were accepted. -/
theorem Follows.isStale_iff (h : Follows leg deduper accepted) :
    deduper.isStale leg sequence = false ↔ ∀ n ∈ accepted.current, n < sequence := by
  rw [isStale, h.lookup_eq]
  cases hLast : accepted.current.getLast? with
  | none =>
      rw [List.getLast?_eq_none_iff.mp hLast]
      simp
  | some last =>
      rw [Option.any_some, decide_eq_false_iff_not, Nat.not_le]
      constructor
      · intro hAbove n hMem
        exact Nat.lt_of_le_of_lt (le_getLast h.ascending hLast hMem) hAbove
      · intro hAll
        exact hAll last (List.mem_of_getLast? hLast)

theorem Follows.accept_iff (h : Follows leg deduper accepted) :
    (deduper.accept leg sequence).1 = true ↔ ∀ n ∈ accepted.current, n < sequence := by
  rw [← h.isStale_iff]
  cases hStale : deduper.isStale leg sequence with
  | true => simp [accept_of_stale hStale]
  | false => simp [accept_of_fresh hStale]

/-- The numbers accepted for the leg, with the one of this call if it is accepted for the leg. -/
def withAccepted (deduper : LegEventDeduper) (leg : AdapterCallLegId)
    (call : AdapterCallLegId × Nat) (accepted : Accepted) : List Nat :=
  if call.1 = leg ∧ (deduper.accept call.1 call.2).1 = true then accepted.current ++ [call.2]
  else accepted.current

theorem note_of_evicts {call : AdapterCallLegId × Nat} (h : deduper.evicts call leg = true) :
    accepted.note deduper leg call =
      { past := accepted.past ++ [withAccepted deduper leg call accepted] } := by
  rw [Accepted.note, h]
  rfl

theorem note_of_stays {call : AdapterCallLegId × Nat} (h : deduper.evicts call leg = false) :
    accepted.note deduper leg call =
      { accepted with current := withAccepted deduper leg call accepted } := by
  rw [Accepted.note, h]
  rfl

/-- An accepted number is entered behind the ones accepted before. -/
theorem Follows.entered (h : Follows leg deduper accepted) {call : AdapterCallLegId × Nat}
    (hFresh : deduper.isStale call.1 call.2 = false) :
    (withAccepted deduper leg call accepted).Pairwise (· < ·) ∧
      (deduper.entered call.1 call.2).2.lookup leg =
        (withAccepted deduper leg call accepted).getLast? := by
  have hAccepts : (deduper.accept call.1 call.2).1 = true := by rw [accept_of_fresh hFresh]
  rw [withAccepted, LegEventDeduper.entered]
  by_cases hOwn : call.1 = leg
  · rw [if_pos ⟨hOwn, hAccepts⟩, hOwn, OrdMap.lookup_insert_self, List.getLast?_concat]
    refine ⟨?_, rfl⟩
    rw [hOwn] at hFresh
    apply List.pairwise_append.mpr
    refine ⟨h.ascending, List.pairwise_singleton _ _, ?_⟩
    intro n hMem m hOnly
    rw [List.mem_singleton.mp hOnly]
    exact h.isStale_iff.mp hFresh n hMem
  · rw [if_neg (fun hBoth => hOwn hBoth.1), OrdMap.lookup_insert, if_neg hOwn]
    exact ⟨h.ascending, h.lookup_eq⟩

/-- A call of `accept`, and the numbers accepted for one leg. -/
theorem Follows.accept (h : Follows leg deduper accepted) (call : AdapterCallLegId × Nat) :
    Follows leg (deduper.accept call.1 call.2).2 (accepted.note deduper leg call) := by
  cases hStale : deduper.isStale call.1 call.2 with
  | true =>
      have hStays : deduper.evicts call leg = false := by rw [evicts, hStale]; rfl
      have hSame : withAccepted deduper leg call accepted = accepted.current := by
        rw [withAccepted, accept_of_stale hStale]
        exact if_neg (by simp)
      rw [note_of_stays hStays, hSame, accept_of_stale hStale]
      exact h
  | false =>
      obtain ⟨hAscending, hLookup⟩ := h.entered hStale
      have hKept : Kept deduper.capacity (deduper.entered call.1 call.2) _ :=
        expire_kept (h.inStep.entered call.1 call.2)
      have hLast := hKept.lookup_eq leg
      rw [hLookup] at hLast
      have hAfter := accept_of_fresh hStale
      cases hEvicts : deduper.evicts call leg with
      | true =>
          rw [note_of_evicts hEvicts]
          constructor
          · rw [hAfter]
            exact hKept.inStep
          · rw [hAfter]
            exact hKept.bounded
          · rw [evicts, Bool.and_eq_true, Bool.not_eq_true'] at hEvicts
            have hGone : ¬ (deduper.accept call.1 call.2).2.highestSequences.contains leg = true :=
              Bool.eq_false_iff.mp hEvicts.2
            exact OrdMap.lookup_eq_none_of_not_contains hGone
          · intro numbers hMem
            rcases List.mem_append.mp hMem with hPast | hCurrent
            · exact h.past_ascending numbers hPast
            · rw [List.mem_singleton.mp hCurrent]
              exact hAscending
          · exact List.Pairwise.nil
      | false =>
          rw [note_of_stays hEvicts]
          constructor
          · rw [hAfter]
            exact hKept.inStep
          · rw [hAfter]
            exact hKept.bounded
          · rw [hAfter]
            simp only
            rw [hLast]
            split
            · rfl
            · next hGone =>
                -- the leg is not in the table, and was not evicted: it was not there before
                rw [evicts, hStale, hAfter] at hEvicts
                have hAbsent : ¬ (deduper.entered call.1 call.2).2.contains leg = true := by
                  intro hThere
                  rw [hThere] at hEvicts
                  simp only [Bool.not_false, Bool.and_self, Bool.true_and, Bool.not_eq_false']
                    at hEvicts
                  exact hGone (hKept.inStep.contains_iff.mp hEvicts)
                rw [← hLookup]
                exact (OrdMap.lookup_eq_none_of_not_contains hAbsent).symm
          · exact h.past_ascending
          · exact hAscending

theorem Follows.start (leg : AdapterCallLegId) (capacity : Nat) :
    Follows leg { capacity } {} where
  inStep := ⟨List.Pairwise.nil, .refl _⟩
  bounded := Nat.zero_le _
  lookup_eq := rfl
  past_ascending numbers hMem := by cases hMem
  ascending := List.Pairwise.nil

theorem Follows.run (h : Follows leg deduper accepted) (calls : List (AdapterCallLegId × Nat)) :
    Follows leg (calls.foldl (fun deduper call => (deduper.accept call.1 call.2).2) deduper)
      (acceptedFor leg deduper accepted calls) := by
  induction calls generalizing deduper accepted with
  | nil => exact h
  | cons call calls ih => exact ih (h.accept call)

theorem follows_after (leg : AdapterCallLegId) (capacity : Nat)
    (calls : List (AdapterCallLegId × Nat)) :
    Follows leg (after capacity calls) (acceptedFor leg { capacity } {} calls) :=
  (Follows.start leg capacity).run calls

theorem capacity_accept (deduper : LegEventDeduper) (leg : AdapterCallLegId) (sequence : Nat) :
    (deduper.accept leg sequence).2.capacity = deduper.capacity := by
  cases hStale : deduper.isStale leg sequence with
  | true => rw [accept_of_stale hStale]
  | false => rw [accept_of_fresh hStale]

theorem capacity_foldl (deduper : LegEventDeduper) (calls : List (AdapterCallLegId × Nat)) :
    (calls.foldl (fun deduper call => (deduper.accept call.1 call.2).2) deduper).capacity =
      deduper.capacity := by
  induction calls generalizing deduper with
  | nil => rfl
  | cons call calls ih =>
      rw [List.foldl_cons, ih]
      exact capacity_accept deduper call.1 call.2

theorem capacity_after (capacity : Nat) (calls : List (AdapterCallLegId × Nat)) :
    (after capacity calls).capacity = capacity :=
  capacity_foldl { capacity } calls

/-- Whatever legs and numbers come: the keys are the elements of the queue, each once, and no more
than the capacity; every loop ends, with what the call leaves; and for every leg the numbers
accepted between two evictions ascend, and each number above all of them is accepted. -/
theorem accept_runs (capacity : Nat) (calls : List (AdapterCallLegId × Nat)) :
    ((after capacity calls).highestSequences.keys.Perm (after capacity calls).order ∧
      (after capacity calls).order.Nodup ∧
      (after capacity calls).highestSequences.keys.length ≤ capacity) ∧
    (∀ leg sequence, (after capacity calls).isStale leg sequence = false →
      Ends capacity ((after capacity calls).entered leg sequence)
        (((after capacity calls).accept leg sequence).2.order,
          ((after capacity calls).accept leg sequence).2.highestSequences)) ∧
    ∀ leg,
      (∀ numbers ∈ (acceptedFor leg { capacity } {} calls).past, numbers.Pairwise (· < ·)) ∧
      (acceptedFor leg { capacity } {} calls).current.Pairwise (· < ·) ∧
      ∀ sequence, (∀ n ∈ (acceptedFor leg { capacity } {} calls).current, n < sequence) →
        ((after capacity calls).accept leg sequence).1 = true := by
  have hCapacity := capacity_after capacity calls
  refine ⟨?_, ?_, ?_⟩
  · have hFollows := follows_after "" capacity calls
    refine ⟨hFollows.inStep.keys_perm, hFollows.inStep.nodup, ?_⟩
    rw [OrdMap.keys, List.length_map]
    exact Nat.le_trans hFollows.bounded (Nat.le_of_eq hCapacity)
  · intro leg sequence hFresh
    have hFollows := follows_after leg capacity calls
    have hKept : Kept capacity ((after capacity calls).entered leg sequence) _ :=
      expire_kept (hFollows.inStep.entered leg sequence)
    rw [accept_of_fresh hFresh, hCapacity]
    exact hKept.ends
  · intro leg
    have hFollows := follows_after leg capacity calls
    exact ⟨hFollows.past_ascending, hFollows.ascending, fun _ hAbove =>
      hFollows.accept_iff.mpr hAbove⟩

end Runs

end VoipSwitch.LegEventDeduper
