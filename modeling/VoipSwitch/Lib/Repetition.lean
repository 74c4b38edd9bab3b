import Mathlib.Data.List.Nodup
import Mathlib.Data.List.Perm.Basic

/-! Sequences of actions in which actions are repeated, and what absorbs the repetitions. -/
namespace Repetition

/-- A sequence of actions, with repetitions of actions that came before. -/
inductive WithRepetitions {α : Type} : List α → List α → List α → Prop where
  | done (earlier : List α) : WithRepetitions earlier [] []
  | next {earlier actions repeated : List α} (action : α)
      (rest : WithRepetitions (action :: earlier) actions repeated) :
      WithRepetitions earlier (action :: actions) (action :: repeated)
  | again {earlier actions repeated : List α} (action : α) (hEarlier : action ∈ earlier)
      (rest : WithRepetitions earlier actions repeated) :
      WithRepetitions earlier actions (action :: repeated)

variable {α κ σ : Type} {act : σ → α → σ} {good : α → Prop} {key : α → κ} {same : σ → σ → Prop}
  {held : α → σ → Prop}

/-- States in which an action, once held, is taken in vain; actions of other keys, and those that
are held themselves, leave it held. -/
structure Absorbs (act : σ → α → σ) (good : α → Prop) (key : α → κ) (same : σ → σ → Prop)
    (held : α → σ → Prop) : Prop where
  step : ∀ {s t action}, same s t → same (act s action) (act t action)
  back : ∀ {s t action}, good action → held action s → same s t → same (act s action) t
  made : ∀ {s action}, good action → held action (act s action)
  kept : ∀ {s action other}, good action → good other → held action s → key other ≠ key action →
    held action (act s other)
  idle : ∀ {s action other}, good action → good other → held action s → held other s →
    held action (act s other)

/-- Repetitions make no difference, from a state that holds all the actions they repeat. -/
theorem Absorbs.foldl (h : Absorbs act good key same held) {earlier actions repeated : List α}
    (hRun : WithRepetitions earlier actions repeated)
    (hGood : ∀ action ∈ earlier ++ actions, good action)
    (hKeys : ((earlier ++ actions).map key).Nodup) {s t : σ} (hSame : same s t)
    (hHeld : ∀ action ∈ earlier, held action s) :
    same (repeated.foldl act s) (actions.foldl act t) := by
  induction hRun generalizing s t with
  | done earlier => exact hSame
  | @next earlier actions repeated action rest ih =>
      have hMoved : (action :: earlier ++ actions).Perm (earlier ++ action :: actions) :=
        List.perm_middle.symm
      have hMovedKeys := (hMoved.map key).nodup_iff.mpr hKeys
      have hAction := hGood action (List.mem_append_right _ List.mem_cons_self)
      rw [List.foldl_cons, List.foldl_cons]
      apply ih
      · exact fun other hMem => hGood other (hMoved.mem_iff.mp hMem)
      · exact hMovedKeys
      · exact h.step hSame
      · intro other hMem
        rcases List.mem_cons.mp hMem with rfl | hEarlier
        · exact h.made hAction
        · have hOther := hGood other (List.mem_append_left _ hEarlier)
          apply h.kept hOther hAction (hHeld other hEarlier)
          intro hEqual
          rw [List.cons_append, List.map_cons, List.nodup_cons] at hMovedKeys
          apply hMovedKeys.1
          rw [List.mem_map]
          exact ⟨other, List.mem_append_left _ hEarlier, hEqual.symm⟩
  | @again earlier actions repeated action hEarlier rest ih =>
      have hAction := hGood action (List.mem_append_left _ hEarlier)
      rw [List.foldl_cons]
      apply ih hGood hKeys
      · exact h.back hAction (hHeld action hEarlier) hSame
      · intro other hMem
        have hOther := hGood other (List.mem_append_left _ hMem)
        exact h.idle hOther hAction (hHeld other hMem) (hHeld action hEarlier)

end Repetition
