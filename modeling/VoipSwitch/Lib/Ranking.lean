import Mathlib.Data.List.Pairwise
import Mathlib.Data.List.Perm.Subperm
import Mathlib.Data.List.Sort
import Mathlib.Data.Prod.Lex

/-! Lists in the order of a key, and the first entries of a list that is put together from
parts. -/
namespace Ranking

variable {α β κ : Type} [LinearOrder κ] {key : α → κ} {items others : List α} {a : α}

/-- The items in the order of their keys. The sort is stable: items with one key stay in the order
in which they come. -/
def ranked (key : α → κ) (items : List α) : List α :=
  items.insertionSort fun a b => key a ≤ key b

/-- The keys ascend. -/
def Ranked (key : α → κ) (items : List α) : Prop := items.Pairwise fun a b => key a ≤ key b

/-- No two items have one key. -/
def Distinct (key : α → κ) (items : List α) : Prop := items.Pairwise fun a b => key a ≠ key b

instance total_le (key : α → κ) : Std.Total fun a b : α => key a ≤ key b :=
  ⟨fun a b => le_total (key a) (key b)⟩

instance symm_ne (key : α → κ) : Std.Symm fun a b : α => key a ≠ key b := ⟨fun _ _ => Ne.symm⟩

instance isTrans_le (key : α → κ) : IsTrans α fun a b : α => key a ≤ key b :=
  ⟨fun _ _ _ => le_trans⟩

theorem ranked_perm (key : α → κ) (items : List α) : (ranked key items).Perm items :=
  List.perm_insertionSort _ items

theorem ranked_ranked (key : α → κ) (items : List α) : Ranked key (ranked key items) :=
  List.pairwise_insertionSort _ items

theorem Ranked.eq (h : Ranked key items) : ranked key items = items :=
  List.Pairwise.insertionSort_eq h

omit [LinearOrder κ] in
theorem Distinct.perm (h : Distinct key items) (hPerm : items.Perm others) : Distinct key others :=
  (List.Perm.pairwise_iff (fun hNe => Ne.symm hNe) hPerm).mp h

/-- With distinct keys there is one order only. -/
theorem Ranked.eq_of_perm (h : Ranked key items) (hOthers : Ranked key others)
    (hDistinct : Distinct key items) (hPerm : items.Perm others) : items = others := by
  have hInj : ∀ a b, a ∈ items → b ∈ items → key a ≤ key b → key b ≤ key a → a = b := by
    intro a b hA hB hLe hGe
    by_contra hNe
    exact List.Pairwise.forall hDistinct hA hB hNe (le_antisymm hLe hGe)
  exact hPerm.eq_of_pairwise (fun a b hA hB => hInj a b hA (hPerm.mem_iff.mpr hB)) h hOthers

theorem ranked_eq_of_perm (hDistinct : Distinct key items) (hPerm : items.Perm others) :
    ranked key items = ranked key others :=
  (ranked_ranked key items).eq_of_perm (ranked_ranked key others)
    (hDistinct.perm (ranked_perm key items).symm)
    ((ranked_perm key items).trans (hPerm.trans (ranked_perm key others).symm))

/-- Sorting again after each new item sorts all of them. -/
theorem ranked_ranked_append (hDistinct : Distinct key (items ++ others)) :
    ranked key (ranked key items ++ others) = ranked key (items ++ others) :=
  (ranked_eq_of_perm hDistinct ((ranked_perm key items).symm.append_right others)).symm

/-- The items part by part, when every item belongs to one of the parts. -/
theorem flatMap_filter_perm [DecidableEq β] (part : α → β) {parts : List β} (hNodup : parts.Nodup)
    (hParts : ∀ a ∈ items, part a ∈ parts) :
    (parts.flatMap fun b => items.filter (part · = b)).Perm items := by
  induction parts generalizing items with
  | nil =>
      cases items with
      | nil => exact .refl _
      | cons a items => exact (List.not_mem_nil (hParts a List.mem_cons_self)).elim
  | cons b parts ih =>
      obtain ⟨hNew, hNodup⟩ := List.nodup_cons.mp hNodup
      have hOthers : (parts.flatMap fun c => items.filter (part · = c)) =
          parts.flatMap fun c =>
            (items.filter fun a => !decide (part a = b)).filter (part · = c) := by
        apply List.flatMap_congr
        intro c hMem
        rw [List.filter_filter]
        apply List.filter_congr
        intro a _
        by_cases hSame : part a = c
        · have hNe : c ≠ b := fun hEq => hNew (hEq ▸ hMem)
          simp [hSame, hNe]
        · simp [hSame]
      have hLater : ∀ a ∈ items.filter fun a => !decide (part a = b), part a ∈ parts := by
        intro a hMem
        obtain ⟨hMem, hNe⟩ := List.mem_filter.mp hMem
        rcases List.mem_cons.mp (hParts a hMem) with hEq | hLater
        · simp [hEq] at hNe
        · exact hLater
      have hRest := ih hNodup hLater
      rw [List.flatMap_cons, hOthers]
      exact (hRest.append_left _).trans (List.filter_append_perm _ _)

/-- The first item that is taken from a ranked list is the least of those that could be. -/
theorem Ranked.findSome?_cases (h : Ranked key items) (take : α → Option β) :
    (items.findSome? take = none ∧ ∀ a ∈ items, take a = none) ∨
      ∃ a ∈ items, ∃ b, take a = some b ∧ items.findSome? take = some b ∧
        ∀ other ∈ items, (take other).isSome = true → key a ≤ key other := by
  cases hFound : items.findSome? take with
  | none => exact .inl ⟨rfl, List.findSome?_eq_none_iff.mp hFound⟩
  | some b =>
      right
      obtain ⟨before, a, after, rfl, hTaken, hBefore⟩ := List.findSome?_eq_some_iff.mp hFound
      refine ⟨a, List.mem_append_right _ List.mem_cons_self, b, hTaken, rfl, ?_⟩
      intro other hMem hSome
      rcases List.mem_append.mp hMem with hEarlier | hLater
      · rw [hBefore other hEarlier] at hSome
        simp only [Option.isSome_none, Bool.false_eq_true] at hSome
      · rcases List.mem_cons.mp hLater with rfl | hAfter
        · exact le_refl _
        · exact (List.pairwise_cons.mp (List.pairwise_append.mp h).2.1).1 other hAfter

section First

variable {n : Nat} {rest : List α}

omit [LinearOrder κ] in
theorem Distinct.subperm (h : Distinct key items) (hSub : others.Subperm items) :
    Distinct key others := by
  obtain ⟨middle, hPerm, hSublist⟩ := hSub
  exact Distinct.perm (h.sublist hSublist) hPerm

/-- If that many items come before a key, then all of the first ones do. -/
theorem Ranked.lt_of_mem_take (h : Ranked key items) {bound : κ}
    (hCount : n ≤ items.countP (key · < bound)) (hMem : a ∈ items.take n) : key a < bound := by
  induction items generalizing n with
  | nil =>
      rw [List.take_nil] at hMem
      exact (List.not_mem_nil hMem).elim
  | cons first items ih =>
      obtain ⟨hFirst, hItems⟩ := List.pairwise_cons.mp h
      cases n with
      | zero => exact (List.not_mem_nil hMem).elim
      | succ n =>
          have hLt : key first < bound := by
            by_contra hNot
            have hNone : (first :: items).countP (key · < bound) = 0 := by
              rw [List.countP_eq_zero]
              intro b hB
              rw [decide_eq_true_eq]
              rcases List.mem_cons.mp hB with rfl | hLater
              · exact hNot
              · exact not_lt.mpr (le_trans (not_lt.mp hNot) (hFirst b hLater))
            omega
          rcases List.mem_cons.mp hMem with rfl | hLater
          · exact hLt
          · apply ih hItems _ hLater
            rw [List.countP_cons_of_pos (by simpa using hLt)] at hCount
            exact Nat.le_of_succ_le_succ hCount

/-- An item that comes after the first ones does not change them. -/
theorem take_orderedInsert (hLength : n ≤ items.length)
    (hBefore : ∀ b ∈ items.take n, key b < key a) :
    (items.orderedInsert (fun a b => key a ≤ key b) a).take n = items.take n := by
  induction items generalizing n with
  | nil =>
      rw [List.length_nil, Nat.le_zero] at hLength
      rw [hLength, List.take_zero, List.take_zero]
  | cons first items ih =>
      cases n with
      | zero => rw [List.take_zero, List.take_zero]
      | succ n =>
          have hFirst := hBefore first List.mem_cons_self
          rw [List.orderedInsert, if_neg (not_le.mpr hFirst), List.take_succ_cons,
            List.take_succ_cons, ih (Nat.le_of_succ_le_succ hLength)]
          exact fun b hB => hBefore b (List.mem_cons_of_mem first hB)

/-- The same for any number of items. -/
theorem take_ranked_append (hLate : ∀ a ∈ items, n ≤ rest.countP (key · < key a)) :
    (ranked key (items ++ rest)).take n = (ranked key rest).take n := by
  induction items with
  | nil => rfl
  | cons first items ih =>
      have hCount : n ≤ (ranked key (items ++ rest)).countP (key · < key first) := by
        have hRest := hLate first List.mem_cons_self
        rw [(ranked_perm key (items ++ rest)).countP_eq, List.countP_append]
        exact Nat.le_add_left_of_le hRest
      rw [← ih fun b hB => hLate b (List.mem_cons_of_mem first hB)]
      apply take_orderedInsert (hCount.trans List.countP_le_length)
      exact fun b hB => (ranked_ranked key (items ++ rest)).lt_of_mem_take hCount hB

/-- Of one part only its first items can be among the first ones of all. -/
theorem take_ranked_take (hDistinct : Distinct key (items ++ rest)) :
    (ranked key ((ranked key items).take n ++ rest)).take n =
      (ranked key (items ++ rest)).take n := by
  have hParts := List.take_append_drop n (ranked key items)
  have hSplit : (items ++ rest).Perm
      ((ranked key items).drop n ++ ((ranked key items).take n ++ rest)) := by
    rw [← List.append_assoc]
    apply List.Perm.append_right
    apply (ranked_perm key items).symm.trans
    nth_rewrite 1 [← hParts]
    exact List.perm_append_comm
  rw [ranked_eq_of_perm hDistinct hSplit]
  symm
  apply take_ranked_append
  intro a hLate
  have hItems : Distinct key (ranked key items) :=
    Distinct.perm (hDistinct.sublist (List.sublist_append_left items rest))
      (ranked_perm key items).symm
  have hRanked := ranked_ranked key items
  rw [Distinct, ← hParts, List.pairwise_append] at hItems
  rw [Ranked, ← hParts, List.pairwise_append] at hRanked
  have hBefore : ((ranked key items).take n).countP (key · < key a) =
      ((ranked key items).take n).length := by
    rw [List.countP_eq_length]
    intro b hB
    rw [decide_eq_true_eq]
    exact lt_of_le_of_ne (hRanked.2.2 b hB a hLate) (hItems.2.2 b hB a hLate)
  have hLong : n < (ranked key items).length := by
    by_contra hShort
    rw [List.drop_eq_nil_of_le (not_lt.mp hShort)] at hLate
    exact List.not_mem_nil hLate
  rw [List.countP_append, hBefore, List.length_take_of_le hLong.le]
  exact Nat.le_add_right n _

omit [LinearOrder κ] in
theorem flatMap_subperm {first second : β → List α} (parts : List β)
    (h : ∀ b, (first b).Subperm (second b)) :
    (parts.flatMap first).Subperm (parts.flatMap second) := by
  induction parts with
  | nil => exact List.Subperm.refl _
  | cons b parts ih =>
      rw [List.flatMap_cons, List.flatMap_cons]
      exact List.Subperm.append (h b) ih

/-- The first items of all are among the first items of the parts. -/
theorem take_ranked_flatMap {parts : List β} {part : β → List α}
    (hDistinct : Distinct key (parts.flatMap part ++ rest)) :
    (ranked key ((parts.flatMap fun b => (ranked key (part b)).take n) ++ rest)).take n =
      (ranked key (parts.flatMap part ++ rest)).take n := by
  have hCut : ∀ b, ((ranked key (part b)).take n).Subperm (part b) := fun b =>
    (List.take_sublist n _).subperm.trans (ranked_perm key (part b)).subperm
  induction parts generalizing rest with
  | nil => rfl
  | cons b parts ih =>
      rw [List.flatMap_cons, List.append_assoc] at hDistinct ⊢
      rw [List.flatMap_cons, List.append_assoc]
      have hMoved : ∀ others : List α, (part b ++ (others ++ rest)).Perm
          (others ++ (part b ++ rest)) := by
        intro others
        rw [← List.append_assoc, ← List.append_assoc]
        exact List.perm_append_comm.append_right rest
      have hAll := Distinct.perm hDistinct (hMoved _)
      have hCuts := flatMap_subperm parts hCut
      have hSome : Distinct key
          (part b ++ ((parts.flatMap fun c => (ranked key (part c)).take n) ++ rest)) := by
        apply Distinct.subperm hDistinct
        exact List.Subperm.append (.refl _) (List.Subperm.append hCuts (.refl _))
      rw [take_ranked_take hSome, ranked_eq_of_perm hSome (hMoved _), ih hAll,
        ← ranked_eq_of_perm hDistinct (hMoved _)]

theorem take_ranked_parts {parts : List β} {part : β → List α}
    (hDistinct : Distinct key (parts.flatMap part)) (n : Nat) :
    (ranked key (parts.flatMap fun b => (ranked key (part b)).take n)).take n =
      (ranked key (parts.flatMap part)).take n := by
  rw [← List.append_nil (parts.flatMap part)] at hDistinct ⊢
  rw [← take_ranked_flatMap hDistinct, List.append_nil]

end First

section Pages

/-- Pages of one size put together. -/
theorem flatMap_pages (items : List α) (size pages : Nat) :
    ((List.range pages).flatMap fun page => (items.drop (page * size)).take size) =
      items.take (pages * size) := by
  induction pages with
  | zero => rw [Nat.zero_mul]; rfl
  | succ pages ih =>
      rw [List.range_succ, List.flatMap_append, ih, List.flatMap_singleton, Nat.succ_mul,
        List.take_add]

/-- Items that are related one by one, with related keys, are so in the order of the keys. -/
theorem forall₂_ranked {κ' : Type} [LinearOrder κ'] (key : α → κ) (key' : β → κ') {R : α → β → Prop}
    {others : List β} (hKeys : ∀ a a' b b', R a b → R a' b' → (key a ≤ key a' ↔ key' b ≤ key' b'))
    (h : List.Forall₂ R items others) :
    List.Forall₂ R (ranked key items) (ranked key' others) := by
  have hInsert : ∀ {a b as bs}, R a b → List.Forall₂ R as bs → List.Forall₂ R
      (as.orderedInsert (fun a b => key a ≤ key b) a)
      (bs.orderedInsert (fun a b => key' a ≤ key' b) b) := by
    intro a b as bs hHead hTail
    induction hTail with
    | nil => exact .cons hHead .nil
    | @cons a' b' as bs hNext hTail ih =>
        rw [List.orderedInsert_cons, List.orderedInsert_cons]
        by_cases hLe : key a ≤ key a'
        · rw [if_pos hLe, if_pos ((hKeys a a' b b' hHead hNext).mp hLe)]
          exact .cons hHead (.cons hNext hTail)
        · rw [if_neg hLe, if_neg (fun hGe => hLe ((hKeys a a' b b' hHead hNext).mpr hGe))]
          exact .cons hNext ih
  induction h with
  | nil => exact .nil
  | cons hHead _ ih => exact hInsert hHead ih

omit [LinearOrder κ] in
theorem forall₂_mem {R : α → β → Prop} {others : List β} (h : List.Forall₂ R items others) :
    List.Forall₂ (fun a b => a ∈ items ∧ R a b) items others := by
  induction h with
  | nil => exact .nil
  | cons hHead _ ih =>
      exact .cons ⟨List.mem_cons_self, hHead⟩
        (ih.imp fun a b hRel => ⟨List.mem_cons_of_mem _ hRel.1, hRel.2⟩)

omit [LinearOrder κ] in
theorem pairwise_of_forall₂ {R : α → β → Prop} {P : α → α → Prop} {Q : β → β → Prop}
    {others : List β} (hRel : ∀ a a' b b', R a b → R a' b' → P a a' → Q b b')
    (h : List.Forall₂ R items others) (hItems : items.Pairwise P) : others.Pairwise Q := by
  induction h with
  | nil => exact .nil
  | @cons a b items others hHead hTail ih =>
      obtain ⟨hFirst, hItems⟩ := List.pairwise_cons.mp hItems
      apply List.Pairwise.cons _ (ih hItems)
      intro b' hMem
      obtain ⟨index, hIndex, rfl⟩ := List.getElem_of_mem hMem
      have hLength := hTail.length_eq
      exact hRel a items[index] b others[index] hHead
        (List.forall₂_iff_get.mp hTail |>.2 index (by omega) hIndex)
        (hFirst _ (List.getElem_mem _))

end Pages

end Ranking
