import Mathlib.Data.List.Induction

/-! What a history of events says about the present: an event that nothing has cancelled since. -/
namespace History

variable {α : Type} {event cancel : α → Prop} {history : List α} {last : α}

/-- An event of the one kind has come, and none of the other kind after it. -/
def Since (event cancel : α → Prop) (history : List α) : Prop :=
  ∃ before x after, history = before ++ x :: after ∧ event x ∧ ∀ y ∈ after, ¬ cancel y

theorem not_since_nil : ¬ Since event cancel [] := by
  rintro ⟨before, x, after, hEq, -, -⟩
  exact List.append_ne_nil_of_right_ne_nil before (List.cons_ne_nil x after) hEq.symm

/-- The last event of a history counts if it is one of the first kind, and otherwise only cancels
what was. -/
theorem since_snoc :
    Since event cancel (history ++ [last]) ↔
      event last ∨ Since event cancel history ∧ ¬ cancel last := by
  constructor
  · rintro ⟨before, x, after, hEq, hEvent, hAfter⟩
    induction after using List.reverseRecOn with
    | nil =>
        have hLast := List.append_inj_right' hEq rfl
        rw [List.cons.injEq] at hLast
        exact .inl (hLast.1 ▸ hEvent)
    | append_singleton after y _ =>
        rw [← List.cons_append, ← List.append_assoc] at hEq
        obtain ⟨hHistory, hLast⟩ := List.append_inj' hEq rfl
        obtain rfl : last = y := List.head_eq_of_cons_eq hLast
        right
        constructor
        · exact ⟨before, x, after, hHistory, hEvent, fun z hMem =>
            hAfter z (List.mem_append_left _ hMem)⟩
        · exact hAfter last (List.mem_append_right _ List.mem_cons_self)
  · rintro (hEvent | ⟨⟨before, x, after, rfl, hEvent, hAfter⟩, hKeeps⟩)
    · exact ⟨history, last, [], rfl, hEvent, fun y hMem => (List.not_mem_nil hMem).elim⟩
    · refine ⟨before, x, after ++ [last], by simp, hEvent, ?_⟩
      intro y hMem
      rcases List.mem_append.mp hMem with hAfterMem | hLast
      · exact hAfter y hAfterMem
      · rw [List.mem_singleton.mp hLast]
        exact hKeeps

end History
