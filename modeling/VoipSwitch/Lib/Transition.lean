import Mathlib.Logic.Basic

/-! Labelled transition systems and their runs. A run may be asked to keep every step
within a condition on the state before the step and on the step's label. -/
namespace Transition

/-- A transition system over states `σ` and labels `ι`. -/
structure System (σ ι : Type) where
  init : σ → Prop
  next : σ → ι → σ → Prop

variable {σ ι : Type} {S : System σ ι} {C D : σ → ι → Prop} {P : σ → Prop} {s t u : σ}

/-- Finite runs from `s` all of whose steps meet `C`. -/
inductive RunsWithin (S : System σ ι) (C : σ → ι → Prop) (s : σ) : σ → Prop where
  | refl : RunsWithin S C s s
  | step {t u : σ} {i : ι} (run : RunsWithin S C s t) (hC : C t i) (hNext : S.next t i u) :
      RunsWithin S C s u

/-- Finite runs without a condition on their steps. -/
abbrev Runs (S : System σ ι) : σ → σ → Prop := RunsWithin S fun _ _ => True

/-- States that some run reaches from an initial one. -/
def Reachable (S : System σ ι) (t : σ) : Prop := ∃ s, S.init s ∧ Runs S s t

/-- States that are reached by steps within `C` only. -/
def ReachableWithin (S : System σ ι) (C : σ → ι → Prop) (t : σ) : Prop :=
  ∃ s, S.init s ∧ RunsWithin S C s t

/-- A property that holds at the start and survives every admitted step holds all along. -/
theorem RunsWithin.invariant (run : RunsWithin S C s t) (hStart : P s)
    (hStep : ∀ t i u, P t → C t i → S.next t i u → P u) : P t := by
  induction run with
  | refl => exact hStart
  | step _ hC hNext ih => exact hStep _ _ _ ih hC hNext

theorem ReachableWithin.invariant (h : ReachableWithin S C t) (hInit : ∀ s, S.init s → P s)
    (hStep : ∀ t i u, P t → C t i → S.next t i u → P u) : P t := by
  obtain ⟨s, hs, run⟩ := h
  exact run.invariant (hInit s hs) hStep

theorem Reachable.invariant (h : Reachable S t) (hInit : ∀ s, S.init s → P s)
    (hStep : ∀ t i u, P t → S.next t i u → P u) : P t := by
  obtain ⟨s, hs, run⟩ := h
  exact run.invariant (hInit s hs) fun t i u hP _ hNext => hStep t i u hP hNext

theorem RunsWithin.mono (run : RunsWithin S C s t) (h : ∀ t i, C t i → D t i) :
    RunsWithin S D s t := by
  induction run with
  | refl => exact .refl
  | step _ hC hNext ih => exact .step ih (h _ _ hC) hNext

theorem RunsWithin.runs (run : RunsWithin S C s t) : Runs S s t :=
  run.mono fun _ _ _ => trivial

theorem RunsWithin.trans (first : RunsWithin S C s t) (second : RunsWithin S C t u) :
    RunsWithin S C s u := by
  induction second with
  | refl => exact first
  | step _ hC hNext ih => exact .step ih hC hNext

theorem ReachableWithin.reachable (h : ReachableWithin S C t) : Reachable S t := by
  obtain ⟨s, hs, run⟩ := h
  exact ⟨s, hs, run.runs⟩

theorem ReachableWithin.step {i : ι} (h : ReachableWithin S C t) (hC : C t i)
    (hNext : S.next t i u) : ReachableWithin S C u := by
  obtain ⟨s, hs, run⟩ := h
  exact ⟨s, hs, run.step hC hNext⟩

theorem Reachable.runs (h : Reachable S s) (run : RunsWithin S C s t) : Reachable S t := by
  obtain ⟨start, hStart, first⟩ := h
  exact ⟨start, hStart, first.trans run.runs⟩

/-- The state that a schedule of labels leads to, if each of them is allowed in its turn. -/
def follow (allowed : σ → ι → Bool) (step : σ → ι → σ) : List ι → σ → Option σ
  | [], s => some s
  | i :: rest, s => if allowed s i then follow allowed step rest (step s i) else none

theorem follow_runsWithin {allowed : σ → ι → Bool} {step : σ → ι → σ}
    (hAllowed : ∀ s i, allowed s i = true → C s i ∧ S.next s i (step s i)) {schedule : List ι}
    (h : follow allowed step schedule s = some t) : RunsWithin S C s t := by
  induction schedule generalizing s with
  | nil =>
      obtain rfl := Option.some.inj h
      exact .refl
  | cons i rest ih =>
      rw [follow] at h
      split at h
      · next hi =>
          obtain ⟨hC, hNext⟩ := hAllowed s i hi
          exact (RunsWithin.step .refl hC hNext).trans (ih h)
      · cases h

/-- Where the steps are a partial function, a schedule is run by it. -/
theorem runsWithin_of_foldlM {step : σ → ι → Option σ}
    (hStep : ∀ s i u, step s i = some u → C s i ∧ S.next s i u) {schedule : List ι}
    (h : schedule.foldlM step s = some t) : RunsWithin S C s t := by
  induction schedule generalizing s with
  | nil =>
      obtain rfl := Option.some.inj h
      exact .refl
  | cons i rest ih =>
      rw [List.foldlM_cons] at h
      obtain ⟨u, hFirst, hRest⟩ := Option.bind_eq_some_iff.mp h
      obtain ⟨hC, hNext⟩ := hStep s i u hFirst
      exact (RunsWithin.step .refl hC hNext).trans (ih hRest)

end Transition
