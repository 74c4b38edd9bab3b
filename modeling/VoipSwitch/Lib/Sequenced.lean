import Mathlib.Data.List.Pairwise

/-! Logs of numbered entries. Every entry carries a key and a number; a log ascends if the
numbers of each key do. -/
namespace Sequenced

variable {κ : Type} {log before after : List (κ × Nat)} {entry : κ × Nat}

/-- The numbers of each key ascend. -/
def Ascends (log : List (κ × Nat)) : Prop := log.Pairwise fun a b => a.1 = b.1 → a.2 < b.2

theorem Ascends.nil : Ascends ([] : List (κ × Nat)) := List.Pairwise.nil

theorem Ascends.sublist (h : Ascends log) (hSub : before.Sublist log) : Ascends before :=
  List.Pairwise.sublist hSub h

/-- No entry of an ascending log occurs twice. -/
theorem Ascends.nodup (h : Ascends log) : log.Nodup := by
  apply h.imp
  rintro a b hLater rfl
  exact Nat.lt_irrefl _ (hLater rfl)

theorem Ascends.ofKey [DecidableEq κ] (h : Ascends log) (k : κ) :
    ((log.filter fun entry => entry.1 = k).map Prod.snd).Pairwise (· < ·) := by
  rw [List.pairwise_map, List.pairwise_filter]
  apply h.imp
  intro a b hLater ha hb
  exact hLater ((of_decide_eq_true ha).trans (of_decide_eq_true hb).symm)

/-- An entry may be put where its number is above those before it and its key does not come
again. -/
theorem Ascends.insert (h : Ascends (before ++ after))
    (hBefore : ∀ other ∈ before, other.1 = entry.1 → other.2 < entry.2)
    (hAfter : ∀ other ∈ after, other.1 ≠ entry.1) : Ascends (before ++ entry :: after) := by
  rw [Ascends, List.pairwise_append] at h ⊢
  obtain ⟨hFirst, hLast, hAcross⟩ := h
  refine ⟨hFirst, List.pairwise_cons.mpr ⟨?_, hLast⟩, ?_⟩
  · intro other hMem hSame
    exact (hAfter other hMem hSame.symm).elim
  · intro a ha b hb
    rcases List.mem_cons.mp hb with rfl | hRest
    · exact hBefore a ha
    · exact hAcross a ha b hRest

/-- An entry may be added at the end if its number is new for its key. -/
theorem Ascends.snoc (h : Ascends log)
    (hNew : ∀ other ∈ log, other.1 = entry.1 → other.2 < entry.2) :
    Ascends (log ++ [entry]) := by
  apply Ascends.insert
  · rwa [List.append_nil]
  · exact hNew
  · intro other hMem
    exact (List.not_mem_nil hMem).elim

end Sequenced
