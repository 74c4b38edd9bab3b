import Mathlib.Data.List.Basic
import Mathlib.Data.List.Induction
import Mathlib.Data.List.Nodup

/-! The order in which the elements of a sequence first occur, and sequences in which equal
elements stand together. -/
namespace Arrivals

variable {α : Type} {x y : α} {xs ys : List α}

/-- In a list without repetition two elements stand in one order only. -/
theorem not_sublist_swap (h : xs.Nodup) (hFirst : [x, y].Sublist xs)
    (hSecond : [y, x].Sublist xs) : False := by
  induction xs with
  | nil => cases hFirst
  | cons z xs ih =>
      obtain ⟨hNot, hRest⟩ := List.nodup_cons.mp h
      rcases List.sublist_cons_iff.mp hFirst with hLater | ⟨r, hHead, hTail⟩
      · rcases List.sublist_cons_iff.mp hSecond with hLater' | ⟨r, hHead, hTail⟩
        · exact ih hRest hLater hLater'
        · cases hHead
          exact hNot (hLater.subset (List.mem_cons_of_mem x List.mem_cons_self))
      · cases hHead
        rcases List.sublist_cons_iff.mp hSecond with hLater | ⟨r, hHead, hTail'⟩
        · exact hNot (hLater.subset (List.mem_cons_of_mem y List.mem_cons_self))
        · cases hHead
          exact hNot (hTail.subset List.mem_cons_self)

/-- A list that stands both ways round in one without repetition has one element at most. -/
theorem length_le_one_of_sublist (h : xs.Nodup) (hWay : ys.Sublist xs)
    (hBack : ys.reverse.Sublist xs) : ys.length ≤ 1 := by
  match ys, hWay, hBack with
  | [], _, _ => exact Nat.zero_le 1
  | [_], _, _ => exact Nat.le_refl 1
  | x :: y :: ys, hWay, hBack =>
      have hPair : [x, y].Sublist (x :: y :: ys) :=
        ((List.nil_sublist ys).cons_cons y).cons_cons x
      have hPairBack : [y, x].Sublist (x :: y :: ys).reverse := hPair.reverse
      exact absurd (hPairBack.trans hBack) (not_sublist_swap h (hPair.trans hWay))

/-- An element that occurs again occurs next. -/
def Contiguous : List α → Prop
  | [] => True
  | x :: xs => (x ∈ xs → xs.head? = some x) ∧ Contiguous xs

theorem Contiguous.of_append (h : Contiguous (xs ++ ys)) : Contiguous xs := by
  induction xs with
  | nil => trivial
  | cons x xs ih =>
      obtain ⟨hNext, hRest⟩ := h
      refine ⟨?_, ih hRest⟩
      intro hMem
      have hHead := hNext (List.mem_append_left ys hMem)
      cases xs with
      | nil => cases hMem
      | cons next xs => exact hHead

/-- What comes at the end and has been there before came just before. -/
theorem Contiguous.getLast (h : Contiguous (xs ++ [x])) (hMem : x ∈ xs) :
    xs.getLast? = some x := by
  induction xs with
  | nil => cases hMem
  | cons y xs ih =>
      obtain ⟨hNext, hRest⟩ := h
      by_cases hLater : x ∈ xs
      · have hLast := ih hRest hLater
        cases xs with
        | nil => cases hLater
        | cons next xs => exact hLast
      · have hSame : x = y := (List.mem_cons.mp hMem).resolve_right hLater
        subst hSame
        have hHead := hNext (List.mem_append_right xs (List.mem_singleton_self x))
        cases xs with
        | nil => rfl
        | cons next xs =>
            cases hHead
            exact absurd List.mem_cons_self hLater

variable [DecidableEq α]

/-- Each element once, where it first occurs. -/
def arrivals (xs : List α) : List α :=
  xs.foldl (fun seen x => if x ∈ seen then seen else seen ++ [x]) []

theorem arrivals_append (xs : List α) (x : α) :
    arrivals (xs ++ [x]) = if x ∈ arrivals xs then arrivals xs else arrivals xs ++ [x] := by
  rw [arrivals, List.foldl_append]
  rfl

theorem mem_arrivals : x ∈ arrivals xs ↔ x ∈ xs := by
  induction xs using List.reverseRecOn with
  | nil => rfl
  | append_singleton xs y ih =>
      rw [arrivals_append, List.mem_append, List.mem_singleton]
      split
      · next hOld =>
          rw [ih]
          constructor
          · intro hMem
            exact .inl hMem
          · rintro (hMem | rfl)
            · exact hMem
            · exact ih.mp hOld
      · rw [List.mem_append, List.mem_singleton, ih]

theorem arrivals_nodup (xs : List α) : (arrivals xs).Nodup := by
  induction xs using List.reverseRecOn with
  | nil => exact List.nodup_nil
  | append_singleton xs x ih =>
      rw [arrivals_append]
      split
      · exact ih
      · next hNew =>
          exact List.Nodup.append ih (List.nodup_singleton x) (List.disjoint_singleton.mpr hNew)

instance decidableContiguous : (xs : List α) → Decidable (Contiguous xs)
  | [] => .isTrue trivial
  | x :: xs =>
    have := decidableContiguous xs
    inferInstanceAs (Decidable ((x ∈ xs → xs.head? = some x) ∧ Contiguous xs))

/-- The last element of a contiguous sequence is the last to have arrived. -/
theorem Contiguous.arrivals_last (h : Contiguous xs) (hLast : xs.getLast? = some x) :
    ∃ earlier, arrivals xs = earlier ++ [x] := by
  induction xs using List.reverseRecOn with
  | nil => cases hLast
  | append_singleton xs y ih =>
      rw [List.getLast?_concat, Option.some.injEq] at hLast
      subst hLast
      rw [arrivals_append]
      split
      · next hOld =>
          exact ih h.of_append (h.getLast (mem_arrivals.mp hOld))
      · exact ⟨_, rfl⟩

end Arrivals
