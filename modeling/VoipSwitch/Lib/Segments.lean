import Mathlib.Tactic.Ring
import Mathlib.Tactic.Linarith

/-! Numbers that are kept as a segment and a level in it. Every segment is twice as wide as the one
before and has as many levels, and a level stands for the middle of its step. -/
namespace Segments

/-- The width of a step in a segment. -/
def step (half segment : Nat) : Nat := 2 * half * 2 ^ segment

/-- The level of a number, taken for a segment. -/
def level (levels half segment v : Nat) : Nat := v / step half segment % levels

/-- The number that a level of a segment stands for. -/
def restore (levels half segment level : Nat) : Nat :=
  (levels + level) * step half segment + half * 2 ^ segment

/-- The segment that a number lies in. -/
def InSegment (levels half segment v : Nat) : Prop :=
  levels * step half segment ≤ v ∧ v < 2 * levels * step half segment

variable {levels half segment other v : Nat}

theorem step_pos (hHalf : 0 < half) : 0 < step half segment :=
  Nat.mul_pos (Nat.mul_pos Nat.two_pos hHalf) (Nat.two_pow_pos segment)

/-- The steps of a later segment are so many times wider. -/
theorem step_add (half segment later : Nat) :
    step half (segment + later) = step half segment * 2 ^ later := by
  rw [step, step, pow_add]
  ring

theorem two_mul_half (half segment : Nat) : 2 * (half * 2 ^ segment) = step half segment := by
  rw [step]
  ring

/-- In its own segment a number is found again up to one step. -/
theorem near_self (hHalf : 0 < half) (hIn : InSegment levels half segment v) :
    |(restore levels half segment (level levels half segment v) : ℤ) - v| ≤ step half segment := by
  obtain ⟨hLow, hHigh⟩ := hIn
  have hPos : 0 < step half segment := step_pos hHalf
  have hQuotientLow : levels ≤ v / step half segment := (Nat.le_div_iff_mul_le hPos).mpr hLow
  have hQuotientHigh : v / step half segment < 2 * levels := (Nat.div_lt_iff_lt_mul hPos).mpr hHigh
  have hLevel : levels + level levels half segment v = v / step half segment := by
    rw [level, Nat.mod_eq_sub_mod hQuotientLow, Nat.mod_eq_of_lt (by omega)]
    omega
  have hValue := Nat.div_add_mod' v (step half segment)
  have hRest := Nat.mod_lt v hPos
  have hMiddle := two_mul_half half segment
  rw [restore, hLevel, abs_le]
  omega

/-- Taken for a later segment, a number is found too large. -/
theorem far_later (hHalf : 0 < half) (hLevels : 4 ≤ levels) (hIn : InSegment levels half segment v)
    (hLater : segment < other) :
    (step half segment : ℤ) < restore levels half other (level levels half other v) - v := by
  obtain ⟨later, rfl⟩ := Nat.exists_eq_add_of_lt hLater
  have hWide : 2 * step half segment ≤ step half (segment + later + 1) := by
    rw [Nat.add_assoc, step_add, Nat.mul_comm 2]
    exact Nat.mul_le_mul_left _ (Nat.le_pow (Nat.succ_pos later))
  generalize hOther : segment + later + 1 = other at hWide ⊢
  have hPos : 0 < step half other := step_pos hHalf
  have hBelow : v < levels * step half other := by
    calc v < 2 * levels * step half segment := hIn.2
      _ = levels * (2 * step half segment) := by ring
      _ ≤ levels * step half other := Nat.mul_le_mul_left _ hWide
  have hLevel : level levels half other v = v / step half other :=
    Nat.mod_eq_of_lt ((Nat.div_lt_iff_lt_mul hPos).mpr hBelow)
  have hMany : 4 * step half other ≤ levels * step half other := Nat.mul_le_mul_right _ hLevels
  have hValue := Nat.div_add_mod' v (step half other)
  have hRest := Nat.mod_lt v hPos
  rw [restore, hLevel, Nat.add_mul]
  omega

/-- Taken for an earlier segment, a number is found too small. -/
theorem far_earlier (hHalf : 0 < half) (hLevels : 4 ≤ levels)
    (hIn : InSegment levels half segment v) (hEarlier : other < segment) :
    (step half segment : ℤ) < v - restore levels half other (level levels half other v) := by
  obtain ⟨later, rfl⟩ := Nat.exists_eq_add_of_lt hEarlier
  have hStep : step half (other + later + 1) = 2 ^ (later + 1) * step half other := by
    rw [Nat.add_assoc, step_add, Nat.mul_comm]
  have hTwice : 2 ≤ 2 ^ (later + 1) := Nat.le_pow (Nat.succ_pos later)
  have hPos : 0 < step half other := step_pos hHalf
  have hLow : levels * 2 ^ (later + 1) ≤ v / step half other := by
    rw [Nat.le_div_iff_mul_le hPos, Nat.mul_assoc, ← hStep]
    exact hIn.1
  rw [hStep]
  generalize 2 ^ (later + 1) = times at hTwice hLow ⊢
  have hRounds : times ≤ v / step half other / levels := by
    rw [Nat.le_div_iff_mul_le (by omega), Nat.mul_comm]
    exact hLow
  have hOnce : 1 ≤ v / step half other / levels := by omega
  obtain ⟨rounds, hRoundsEq⟩ := Nat.exists_eq_add_of_le' hOnce
  have hQuotient : v / step half other =
      levels * rounds + levels + level levels half other v := by
    have hSplit := Nat.div_add_mod (v / step half other) levels
    rw [hRoundsEq, Nat.mul_add, Nat.mul_one] at hSplit
    exact hSplit.symm
  have hMany : 2 * times * step half other ≤ levels * rounds * step half other := by
    apply Nat.mul_le_mul_right
    calc 2 * times ≤ 4 * rounds := by omega
      _ ≤ levels * rounds := Nat.mul_le_mul_right _ hLevels
  have hValue := Nat.div_mul_le_self v (step half other)
  have hMiddle := two_mul_half half other
  rw [hQuotient, Nat.add_mul, Nat.add_mul] at hValue
  rw [restore, Nat.add_mul]
  have hTwo : 2 * times * step half other = times * step half other + times * step half other := by
    ring
  have hOne : step half other ≤ times * step half other := Nat.le_mul_of_pos_left _ (by omega)
  omega

/-- A number is found again up to one step of its segment exactly if it was taken for that
segment. -/
theorem near_iff (hHalf : 0 < half) (hLevels : 4 ≤ levels)
    (hIn : InSegment levels half segment v) :
    |(restore levels half other (level levels half other v) : ℤ) - v| ≤ step half segment ↔
      other = segment := by
  constructor
  · intro hNear
    rw [abs_le] at hNear
    rcases Nat.lt_trichotomy other segment with hEarlier | hSame | hLater
    · have hFar := far_earlier hHalf hLevels hIn hEarlier
      omega
    · exact hSame
    · have hFar := far_later hHalf hLevels hIn hLater
      omega
  · rintro rfl
    exact near_self hHalf hIn

end Segments
