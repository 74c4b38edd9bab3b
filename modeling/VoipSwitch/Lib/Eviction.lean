import Mathlib.Algebra.BigOperators.Group.List.Basic
import Mathlib.Algebra.GroupWithZero.Nat
import Mathlib.Data.List.Perm.Basic

/-! Making room by one pass over the elements of a store. An element goes if it is old, or if
the total of what is still there is above the limit when the pass comes to it. -/
namespace Eviction

structure Policy (α : Type) where
  size : α → Nat
  old : α → Bool
  limit : Nat

namespace Policy

variable {α : Type} (policy : Policy α) {total carried : Nat} {x y : α} {xs : List α}

def bytes (xs : List α) : Nat := (xs.map policy.size).sum

def keeps (total : Nat) (x : α) : Bool := !policy.old x && total ≤ policy.limit

/-- What a pass leaves, if it starts from the given total. -/
def kept (total : Nat) : List α → List α
  | [] => []
  | x :: xs =>
      if policy.keeps total x then x :: kept total xs
      else kept (total - policy.size x) xs

def evicted (total : Nat) : List α → List α
  | [] => []
  | x :: xs =>
      if policy.keeps total x then evicted total xs
      else x :: evicted (total - policy.size x) xs

@[simp] theorem bytes_nil : policy.bytes [] = 0 := rfl

@[simp] theorem bytes_cons (x : α) (xs : List α) :
    policy.bytes (x :: xs) = policy.size x + policy.bytes xs := by
  simp [bytes]

theorem bytes_perm {ys : List α} (h : xs.Perm ys) : policy.bytes xs = policy.bytes ys :=
  (h.map policy.size).sum_eq

theorem keeps_iff : policy.keeps total x = true ↔ policy.old x = false ∧ total ≤ policy.limit := by
  simp [keeps]

theorem kept_cons_of_keeps (h : policy.keeps total x = true) (xs : List α) :
    policy.kept total (x :: xs) = x :: policy.kept total xs := by
  rw [kept, if_pos h]

theorem kept_cons_of_not (h : ¬ policy.keeps total x = true) (xs : List α) :
    policy.kept total (x :: xs) = policy.kept (total - policy.size x) xs := by
  rw [kept, if_neg h]

theorem evicted_cons_of_keeps (h : policy.keeps total x = true) (xs : List α) :
    policy.evicted total (x :: xs) = policy.evicted total xs := by
  rw [evicted, if_pos h]

theorem evicted_cons_of_not (h : ¬ policy.keeps total x = true) (xs : List α) :
    policy.evicted total (x :: xs) = x :: policy.evicted (total - policy.size x) xs := by
  rw [evicted, if_neg h]

theorem kept_append_evicted_perm (total : Nat) (xs : List α) :
    (policy.kept total xs ++ policy.evicted total xs).Perm xs := by
  induction xs generalizing total with
  | nil => exact List.Perm.nil
  | cons x xs ih =>
      by_cases hKeeps : policy.keeps total x = true
      · rw [policy.kept_cons_of_keeps hKeeps, policy.evicted_cons_of_keeps hKeeps]
        exact (ih total).cons x
      · rw [policy.kept_cons_of_not hKeeps, policy.evicted_cons_of_not hKeeps]
        exact List.perm_middle.trans ((ih _).cons x)

theorem mem_of_kept (h : x ∈ policy.kept total xs) : x ∈ xs :=
  (policy.kept_append_evicted_perm total xs).subset (List.mem_append_left _ h)

theorem mem_of_evicted (h : x ∈ policy.evicted total xs) : x ∈ xs :=
  (policy.kept_append_evicted_perm total xs).subset (List.mem_append_right _ h)

theorem bytes_kept_add_evicted (total : Nat) (xs : List α) :
    policy.bytes (policy.kept total xs) + policy.bytes (policy.evicted total xs) =
      policy.bytes xs := by
  rw [← policy.bytes_perm (policy.kept_append_evicted_perm total xs)]
  simp [bytes]

theorem length_evicted_le (total : Nat) (xs : List α) :
    (policy.evicted total xs).length ≤ xs.length := by
  have hLength := (policy.kept_append_evicted_perm total xs).length_eq
  rw [List.length_append] at hLength
  omega

theorem not_old_of_kept (h : x ∈ policy.kept total xs) : policy.old x = false := by
  induction xs generalizing total with
  | nil => cases h
  | cons y xs ih =>
      by_cases hKeeps : policy.keeps total y = true
      · rw [policy.kept_cons_of_keeps hKeeps] at h
        cases h with
        | head => exact (policy.keeps_iff.mp hKeeps).1
        | tail _ hTail => exact ih hTail
      · rw [policy.kept_cons_of_not hKeeps] at h
        exact ih h

/-- Below the limit only the old elements go. -/
theorem old_of_evicted (hTotal : total ≤ policy.limit) (h : x ∈ policy.evicted total xs) :
    policy.old x = true := by
  induction xs generalizing total with
  | nil => cases h
  | cons y xs ih =>
      by_cases hKeeps : policy.keeps total y = true
      · rw [policy.evicted_cons_of_keeps hKeeps] at h
        exact ih hTotal h
      · rw [policy.evicted_cons_of_not hKeeps] at h
        cases h with
        | head =>
            rw [policy.keeps_iff] at hKeeps
            by_contra hOld
            exact hKeeps ⟨Bool.eq_false_iff.mpr hOld, hTotal⟩
        | tail _ hTail => exact ih (by omega) hTail

/-- What goes for its size comes before all that stays. -/
theorem evicted_before_kept {R : α → α → Prop} (hSorted : xs.Pairwise R)
    (hx : x ∈ policy.evicted total xs) (hOld : policy.old x = false)
    (hy : y ∈ policy.kept total xs) : R x y := by
  induction xs generalizing total with
  | nil => cases hx
  | cons z xs ih =>
      rw [List.pairwise_cons] at hSorted
      by_cases hKeeps : policy.keeps total z = true
      · -- The total is within the limit from here on.
        rw [policy.evicted_cons_of_keeps hKeeps] at hx
        have hGone := policy.old_of_evicted (policy.keeps_iff.mp hKeeps).2 hx
        rw [hOld] at hGone
        cases hGone
      · rw [policy.evicted_cons_of_not hKeeps] at hx
        rw [policy.kept_cons_of_not hKeeps] at hy
        cases hx with
        | head => exact hSorted.1 y (policy.mem_of_kept hy)
        | tail _ hTail => exact ih hSorted.2 hTail hy

/-- Elements that are told apart by `f` either stay or go. -/
theorem mem_kept_iff {β : Type} {f : α → β} (h : (xs.map f).Nodup) :
    x ∈ policy.kept total xs ↔ x ∈ xs ∧ f x ∉ (policy.evicted total xs).map f := by
  have hPerm := policy.kept_append_evicted_perm total xs
  have hNodup := (hPerm.map f).nodup_iff.mpr h
  rw [List.map_append, List.nodup_append] at hNodup
  constructor
  · intro hKept
    use policy.mem_of_kept hKept
    intro hEvicted
    exact hNodup.2.2 (f x) (List.mem_map_of_mem hKept) (f x) hEvicted rfl
  · intro ⟨hMem, hStays⟩
    rcases List.mem_append.mp (hPerm.symm.subset hMem) with hKept | hEvicted
    · exact hKept
    · exact absurd (List.mem_map_of_mem hEvicted) hStays

/-- A pass from the exact total ends within the limit, if what it carries does. -/
theorem bytes_kept_le (hCarried : carried ≤ policy.limit) (xs : List α) :
    carried + policy.bytes (policy.kept (carried + policy.bytes xs) xs) ≤ policy.limit := by
  suffices hAll : ∀ total, total = carried + policy.bytes xs →
      carried + policy.bytes (policy.kept total xs) ≤ policy.limit from hAll _ rfl
  induction xs with
  | nil =>
      intro total _
      exact hCarried
  | cons x xs ih =>
      intro total hTotal
      by_cases hKeeps : policy.keeps total x = true
      · have hLimit := (policy.keeps_iff.mp hKeeps).2
        have hSplit := policy.bytes_kept_add_evicted total (x :: xs)
        omega
      · rw [policy.kept_cons_of_not hKeeps]
        apply ih
        rw [bytes_cons] at hTotal
        omega

/-- Whether no total is above `most`, in passes over some groups one after the other that start
with what is carried. -/
def fits (most carried : Nat) : List (List α) → Bool
  | [] => true
  | xs :: groups =>
      carried + policy.bytes xs ≤ most &&
        fits most (carried + policy.bytes (policy.kept (carried + policy.bytes xs) xs)) groups

end Policy

end Eviction
