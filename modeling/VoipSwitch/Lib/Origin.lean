import VoipSwitch.Lib.OrdMap
import Mathlib.Logic.Function.Basic

/-! Entries of a map and who has reported them last. -/
namespace Keyed

namespace OrdMap

variable {κ υ : Type} [LinearOrder κ] {m : OrdMap κ υ} {origins : κ → Nat} {source reporter : Nat}
  {key : κ} {value : υ}

/-- All entries were reported by the source. -/
def ReportedBy (m : OrdMap κ υ) (origins : κ → Nat) (source : Nat) : Prop :=
  ∀ k, m.contains k = true → origins k = source

/-- All entries were, with the exception of one key. -/
def ReportedApart (m : OrdMap κ υ) (origins : κ → Nat) (source : Nat) (key : κ) : Prop :=
  ∀ k, k ≠ key → m.contains k = true → origins k = source

/-- Nothing is known from a source beyond the bound. -/
def KnownUpTo (m : OrdMap κ υ) (origins : κ → Nat) (bound : Nat) : Prop :=
  ∀ k, m.contains k = true → origins k ≤ bound

/-- The entries that the source has reported. -/
def reportedOn (m : OrdMap κ υ) (origins : κ → Nat) (source : Nat) : OrdMap κ υ :=
  m.filter fun entry => origins entry.1 = source

theorem contains_insert_self : (m.insert key value).contains key = true := by
  rw [contains, lookup_insert_self, Option.isSome_some]

theorem contains_insert_of_ne {k : κ} (h : k ≠ key) :
    (m.insert key value).contains k = m.contains k := by
  rw [contains, lookup_insert, if_neg (Ne.symm h), contains]

theorem contains_of_mem {entry : κ × υ} (h : entry ∈ m) : m.contains entry.1 = true := by
  induction m with
  | nil => exact (List.not_mem_nil h).elim
  | cons head rest ih =>
      rw [contains, lookup]
      split
      · rfl
      · next hOther =>
          rcases List.mem_cons.mp h with rfl | hRest
          · exact (hOther rfl).elim
          · exact ih hRest

theorem reportedBy_nil : ReportedBy ([] : OrdMap κ υ) origins source :=
  fun _ hContains => (Bool.false_ne_true hContains).elim

theorem reportedBy_insert :
    (m.insert key value).ReportedBy (Function.update origins key reporter) source ↔
      reporter = source ∧ m.ReportedApart origins source key := by
  constructor
  · intro h
    constructor
    · have hOwn := h key contains_insert_self
      rw [Function.update_self] at hOwn
      exact hOwn
    · intro k hOther hContains
      have hKept := h k ((contains_insert_of_ne hOther).trans hContains)
      rw [Function.update_of_ne hOther] at hKept
      exact hKept
  · rintro ⟨rfl, hApart⟩ k hContains
    by_cases hKey : k = key
    · rw [hKey, Function.update_self]
    · rw [contains_insert_of_ne hKey] at hContains
      rw [Function.update_of_ne hKey]
      exact hApart k hKey hContains

theorem ReportedBy.reportedOn_eq (h : m.ReportedBy origins source) :
    m.reportedOn origins source = m := by
  rw [reportedOn, List.filter_eq_self]
  exact fun entry hMem => decide_eq_true (h entry.1 (contains_of_mem hMem))

/-- A source that has not reported yet has reported all entries only if there are none. -/
theorem KnownUpTo.reportedBy_succ (h : m.KnownUpTo origins source) :
    m.ReportedBy origins (source + 1) ↔ m = [] := by
  constructor
  · intro hAll
    cases m with
    | nil => rfl
    | cons entry rest =>
        have hContains := contains_of_mem (List.mem_cons_self (a := entry) (l := rest))
        have hOld := h _ hContains
        rw [hAll _ hContains] at hOld
        exact (Nat.not_succ_le_self source hOld).elim
  · rintro rfl
    exact reportedBy_nil

theorem knownUpTo_nil : KnownUpTo ([] : OrdMap κ υ) origins source :=
  fun _ hContains => (Bool.false_ne_true hContains).elim

theorem KnownUpTo.insert (h : m.KnownUpTo origins source) (hReporter : reporter ≤ source) :
    (m.insert key value).KnownUpTo (Function.update origins key reporter) source := by
  intro k hContains
  by_cases hKey : k = key
  · rw [hKey, Function.update_self]
    exact hReporter
  · rw [contains_insert_of_ne hKey] at hContains
    rw [Function.update_of_ne hKey]
    exact h k hContains

theorem KnownUpTo.mono {bound : Nat} (h : m.KnownUpTo origins source) (hLe : source ≤ bound) :
    m.KnownUpTo origins bound :=
  fun k hContains => Nat.le_trans (h k hContains) hLe

end OrdMap

end Keyed
