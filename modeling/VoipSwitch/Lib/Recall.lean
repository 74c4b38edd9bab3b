import Mathlib.Data.Finset.Card
import Mathlib.Data.Finset.Dedup

/-! A memory of the elements admitted last. It has room for `capacity` elements and forgets
the oldest one first, so an element comes back as new only after that many others. -/
namespace Recall

structure Memory (α : Type) (capacity : Nat) where
  order : List α
  nodup : order.Nodup
  bounded : order.length ≤ capacity

namespace Memory

variable {α : Type} {capacity : Nat} {m : Memory α capacity} {x y : α} {ys : List α}

/-- What is remembered once `y` is added at the end of `order`. -/
def shift (capacity : Nat) (order : List α) (y : α) : List α :=
  (order ++ [y]).drop (order.length + 1 - capacity)

theorem shift_nodup (h : m.order.Nodup) (hNew : y ∉ m.order) :
    (shift capacity m.order y).Nodup := by
  apply (List.drop_sublist _ _).nodup
  apply List.Nodup.append h (List.nodup_singleton y)
  intro z hOld hLast
  rw [List.mem_singleton] at hLast
  subst hLast
  exact hNew hOld

theorem shift_length_le (order : List α) (y : α) : (shift capacity order y).length ≤ capacity := by
  rw [shift, List.length_drop, List.length_append, List.length_singleton]
  omega

/-- Remember `y`, which is new. -/
def learn (m : Memory α capacity) (y : α) (hNew : y ∉ m.order) : Memory α capacity :=
  ⟨shift capacity m.order y, shift_nodup m.nodup hNew, shift_length_le _ _⟩

@[simp] theorem learn_order (hNew : y ∉ m.order) :
    (m.learn y hNew).order = shift capacity m.order y := rfl

theorem shift_eq (h : 0 < capacity) (order : List α) :
    shift capacity order y = order.drop (order.length + 1 - capacity) ++ [y] := by
  rw [shift, List.drop_append_of_le_length]
  omega

theorem shift_of_length_lt (h : m.order.length < capacity) :
    shift capacity m.order y = m.order ++ [y] := by
  have hNone : m.order.length + 1 - capacity = 0 := by omega
  rw [shift, hNone, List.drop_zero]

theorem shift_of_full (h : m.order.length = capacity) :
    shift capacity m.order y = (m.order ++ [y]).tail := by
  have hOne : m.order.length + 1 - capacity = 1 := by omega
  rw [shift, hOne, List.drop_one]

variable [DecidableEq α]

/-- The memory is as it was left when `x` was admitted and then, in this order, all of `ys`:
either `x` is still there, or enough others have come. -/
def Since (x : α) (ys : List α) (m : Memory α capacity) : Prop :=
  (∃ older, m.order = older ++ x :: ys) ∨ capacity ≤ (ys.toFinset.erase x).card

theorem since_learn_self (h : 0 < capacity) (hNew : x ∉ m.order) : Since x [] (m.learn x hNew) := by
  left
  exact ⟨_, shift_eq h m.order⟩

theorem card_erase_of_nodup (h : (x :: ys).Nodup) : (ys.toFinset.erase x).card = ys.length := by
  obtain ⟨hNot, hNodup⟩ := List.nodup_cons.mp h
  rw [Finset.erase_eq_of_notMem, List.toFinset_card_of_nodup hNodup]
  rw [List.mem_toFinset]
  exact hNot

theorem Since.learn (h : Since x ys m) (hNew : y ∉ m.order) :
    Since x (ys ++ [y]) (m.learn y hNew) := by
  rcases h with ⟨older, hOrder⟩ | hMany
  · rcases Nat.lt_or_eq_of_le m.bounded with hRoom | hFull
    · left
      refine ⟨older, ?_⟩
      rw [learn_order, shift_of_length_lt hRoom, hOrder, List.append_assoc, List.cons_append]
    · have hShift := shift_of_full (y := y) hFull
      rw [hOrder, List.append_assoc, List.cons_append] at hShift
      cases older with
      | nil =>
          right
          have hNodup : (x :: (ys ++ [y])).Nodup := by
            rw [← List.cons_append]
            have hBoth := List.Nodup.append m.nodup (List.nodup_singleton y)
              (List.disjoint_singleton.mpr hNew)
            rw [hOrder] at hBoth
            exact hBoth
          rw [card_erase_of_nodup hNodup, ← hFull, hOrder]
          simp
      | cons oldest older =>
          left
          refine ⟨older, ?_⟩
          rw [learn_order, hOrder]
          exact hShift
  · right
    apply hMany.trans
    apply Finset.card_le_card
    apply Finset.erase_subset_erase
    intro z hMem
    rw [List.mem_toFinset] at hMem ⊢
    exact List.mem_append_left _ hMem

/-- What has been forgotten was followed by as many others as there is room for. -/
theorem Since.of_forgotten (h : Since x ys m) (hGone : x ∉ m.order) :
    capacity ≤ (ys.toFinset.erase x).card := by
  rcases h with ⟨older, hOrder⟩ | hMany
  · rw [hOrder] at hGone
    simp at hGone
  · exact hMany

end Memory

end Recall
