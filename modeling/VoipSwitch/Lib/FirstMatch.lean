import Mathlib.Data.List.Basic
import Mathlib.Tactic.Push

/-! Changes to the first member of a row that satisfies a predicate. -/
namespace FirstMatch

variable {α : Type} {p q : α → Bool} {f : α → α} {l r : List α}

/-- Changes the first member that satisfies the predicate. -/
def modifyFirst (p : α → Bool) (f : α → α) : List α → List α
  | [] => []
  | x :: l => if p x then f x :: l else x :: modifyFirst p f l

theorem modifyFirst_of_none (hNone : l.any p = false) : modifyFirst p f l = l := by
  induction l with
  | nil => rfl
  | cons x l ih =>
      rw [List.any_cons, Bool.or_eq_false_iff] at hNone
      rw [modifyFirst, if_neg (Bool.eq_false_iff.mp hNone.1), ih hNone.2]

theorem modifyFirst_append_of_any (hAny : l.any p = true) :
    modifyFirst p f (l ++ r) = modifyFirst p f l ++ r := by
  induction l with
  | nil => exact absurd hAny (by simp)
  | cons x l ih =>
      rw [List.cons_append, modifyFirst, modifyFirst]
      split
      · rfl
      · rename_i hNot
        rw [List.any_cons, Bool.eq_false_iff.mpr hNot, Bool.false_or] at hAny
        rw [ih hAny, List.cons_append]

theorem modifyFirst_append_of_none (hNone : l.any p = false) :
    modifyFirst p f (l ++ r) = l ++ modifyFirst p f r := by
  induction l with
  | nil => rfl
  | cons x l ih =>
      rw [List.any_cons, Bool.or_eq_false_iff] at hNone
      rw [List.cons_append, modifyFirst, if_neg (Bool.eq_false_iff.mp hNone.1), ih hNone.2,
        List.cons_append]

@[simp] theorem length_modifyFirst : (modifyFirst p f l).length = l.length := by
  induction l with
  | nil => rfl
  | cons x l ih =>
      rw [modifyFirst]
      split
      · rfl
      · rw [List.length_cons, ih, List.length_cons]

theorem mem_modifyFirst {y : α} (hMem : y ∈ modifyFirst p f l) :
    y ∈ l ∨ ∃ x ∈ l, p x = true ∧ y = f x := by
  induction l with
  | nil => exact .inl hMem
  | cons x l ih =>
      rw [modifyFirst] at hMem
      split at hMem
      · rename_i hFirst
        rcases List.mem_cons.mp hMem with rfl | hLater
        · exact .inr ⟨x, List.mem_cons_self, hFirst, rfl⟩
        · exact .inl (List.mem_cons_of_mem _ hLater)
      · rcases List.mem_cons.mp hMem with rfl | hLater
        · exact .inl List.mem_cons_self
        · rcases ih hLater with hOld | ⟨z, hIn, hNew⟩
          · exact .inl (List.mem_cons_of_mem _ hOld)
          · exact .inr ⟨z, List.mem_cons_of_mem _ hIn, hNew⟩

/-- The members that the change does not concern stay, in their order. -/
theorem filter_modifyFirst (hOld : ∀ x, p x = true → q x = false)
    (hNew : ∀ x, p x = true → q (f x) = false) : (modifyFirst p f l).filter q = l.filter q := by
  induction l with
  | nil => rfl
  | cons x l ih =>
      rw [modifyFirst]
      split
      · rename_i hFirst
        rw [List.filter_cons, List.filter_cons, hOld x hFirst, hNew x hFirst,
          if_neg Bool.false_ne_true, if_neg Bool.false_ne_true]
      · rw [List.filter_cons, List.filter_cons, ih]

theorem filter_eraseP (hOld : ∀ x, p x = true → q x = false) :
    (l.eraseP p).filter q = l.filter q := by
  induction l with
  | nil => rfl
  | cons x l ih =>
      cases hFirst : p x with
      | true =>
          rw [List.eraseP_cons_of_pos hFirst, List.filter_cons, hOld x hFirst,
            if_neg Bool.false_ne_true]
      | false =>
          rw [List.eraseP_cons_of_neg (Bool.eq_false_iff.mp hFirst), List.filter_cons,
            List.filter_cons, ih]

/-- Rows with the same members of a kind have the same members of any narrower kind. -/
theorem filter_eq_of_imp (hSame : l.filter p = r.filter p)
    (hNarrow : ∀ x, q x = true → p x = true) :
    l.filter q = r.filter q := by
  have hTwice : ∀ l : List α, l.filter q = (l.filter p).filter q := by
    intro l
    rw [List.filter_filter]
    apply List.filter_congr
    intro x _
    cases hIs : q x with
    | false => rfl
    | true => rw [hNarrow x hIs, Bool.and_self]
  rw [hTwice l, hTwice r, hSame]

theorem any_eq_of_filter (hSame : l.filter q = r.filter q) : l.any q = r.any q := by
  have hKept : ∀ l : List α, l.any q = !(l.filter q).isEmpty := by
    intro l
    rw [Bool.eq_iff_iff, Bool.not_eq_true', List.isEmpty_eq_false_iff, Ne, List.filter_eq_nil_iff,
      List.any_eq_true]
    push Not
    rfl
  rw [hKept l, hKept r, hSame]

theorem find?_eq_of_filter (hSame : l.filter q = r.filter q) : l.find? q = r.find? q := by
  rw [← List.head?_filter, ← List.head?_filter, hSame]

theorem findSome?_eq_of_filter {β : Type} {g : α → Option β}
    (hSame : l.filter (fun x => (g x).isSome) = r.filter fun x => (g x).isSome) :
    l.findSome? g = r.findSome? g := by
  have hKept : ∀ l : List α, l.findSome? g = (l.filter fun x => (g x).isSome).findSome? g := by
    intro l
    induction l with
    | nil => rfl
    | cons x l ih =>
        rw [List.findSome?_cons, List.filter_cons]
        cases hIs : g x with
        | none => rw [ih]; rfl
        | some y => rw [Option.isSome_some, if_pos rfl, List.findSome?_cons, hIs]
  rw [hKept l, hKept r, hSame]

/-- The member that was changed is still the first. -/
theorem find?_modifyFirst (hKeeps : ∀ x, p x = true → p (f x) = true) :
    (modifyFirst p f l).find? p = (l.find? p).map f := by
  induction l with
  | nil => rfl
  | cons x l ih =>
      rw [modifyFirst]
      split
      · rename_i hFirst
        rw [List.find?_cons_of_pos (hKeeps x hFirst), List.find?_cons_of_pos hFirst]
        rfl
      · rename_i hNot
        rw [List.find?_cons_of_neg hNot, List.find?_cons_of_neg hNot, ih]

/-- Nothing changes if the first member is one that the change leaves as it is. -/
theorem modifyFirst_eq_self (hFirst : ∀ x, l.find? p = some x → f x = x) :
    modifyFirst p f l = l := by
  induction l with
  | nil => rfl
  | cons x l ih =>
      rw [modifyFirst]
      split
      · rename_i hIs
        rw [hFirst x (List.find?_cons_of_pos hIs)]
      · rename_i hNot
        rw [ih fun y hLater => hFirst y (by rw [List.find?_cons_of_neg hNot, hLater])]

/-- After the change, what is asked of the members is asked of those after the first. -/
theorem forall_modifyFirst {P : α → Prop} (hNew : ∀ x, p x = true → P (f x)) :
    (∀ x ∈ modifyFirst p f l, p x = true → P x) ↔ ∀ x ∈ (l.filter p).tail, P x := by
  induction l with
  | nil => simp [modifyFirst]
  | cons x l ih =>
      rw [modifyFirst, List.filter_cons]
      split
      · rename_i hFirst
        simp only [List.mem_cons, forall_eq_or_imp, List.tail_cons, List.mem_filter, and_imp]
        exact ⟨fun h => h.2, fun h => ⟨fun _ => hNew x hFirst, h⟩⟩
      · rename_i hNot
        rw [← ih, List.forall_mem_cons]
        exact ⟨fun h => h.2, fun h => ⟨fun hIs => absurd hIs hNot, h⟩⟩

/-- Changing what stands in the place of the first member changes that member. -/
theorem modify_of_findIdx? {i : Nat} (hFind : l.findIdx? p = some i) :
    l.modify i f = modifyFirst p f l := by
  induction l generalizing i with
  | nil => exact absurd hFind (by simp)
  | cons x l ih =>
      rw [List.findIdx?_cons] at hFind
      rw [modifyFirst]
      split at hFind
      · rename_i hFirst
        rw [if_pos hFirst, ← Option.some.inj hFind, List.modify_zero_cons]
      · rename_i hNot
        obtain ⟨j, hLater, rfl⟩ := Option.map_eq_some_iff.mp hFind
        rw [if_neg hNot, List.modify_succ_cons, ih hLater]

theorem set_of_findIdx? {i : Nat} {y : α} (hFind : l.findIdx? p = some i) :
    l.set i y = modifyFirst p (fun _ => y) l := by
  rw [← modify_of_findIdx? hFind, List.set_eq_modify]

/-- An insertion behind a member goes between it and what follows it. -/
theorem insertIdx_append_cons {x y : α} :
    (l ++ x :: r).insertIdx (l.length + 1) y = l ++ x :: y :: r := by
  induction l with
  | nil => rw [List.nil_append, List.length_nil, List.insertIdx_succ_cons, List.insertIdx_zero,
      List.nil_append]
  | cons z l ih => rw [List.cons_append, List.length_cons, List.insertIdx_succ_cons, ih,
      List.cons_append]

/-- A row with a single such member is what stands before it, that member, and what stands after
it. -/
theorem exists_of_findIdxs {start i : Nat} (hFind : l.findIdxs p start = [i]) :
    ∃ before x after, l = before ++ x :: after ∧ p x = true ∧ (∀ y ∈ before, p y = false) ∧
      (∀ y ∈ after, p y = false) ∧ i = start + before.length := by
  induction l generalizing start with
  | nil => exact absurd hFind (by simp)
  | cons x l ih =>
      rw [List.findIdxs_cons] at hFind
      split at hFind
      · rename_i hOnly
        obtain ⟨hStart, hAfter⟩ := List.cons.inj hFind
        exact ⟨[], x, l, rfl, hOnly, fun y hMem => absurd hMem List.not_mem_nil,
          List.findIdxs_eq_nil_iff.mp hAfter, hStart.symm⟩
      · rename_i hNot
        obtain ⟨before, y, after, rfl, hOnly, hBefore, hAfter, hPlace⟩ := ih hFind
        refine ⟨x :: before, y, after, rfl, hOnly, ?_, hAfter, ?_⟩
        · intro z hMem
          rcases List.mem_cons.mp hMem with rfl | hLater
          · exact Bool.eq_false_iff.mpr hNot
          · exact hBefore z hLater
        · rw [hPlace, List.length_cons]
          omega

end FirstMatch
