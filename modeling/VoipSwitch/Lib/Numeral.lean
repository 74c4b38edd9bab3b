import Mathlib.Algebra.GroupWithZero.Nat
import Mathlib.Data.Nat.Basic

/-! Numbers at the front of a text, in a radix of at most sixteen. -/
namespace Numeral

/-- The value of a character as a digit. Letters count in either case. -/
def toDigit (radix : Nat) (c : Char) : Option Nat :=
  let value :=
    if '0' ≤ c && c ≤ '9' then some (c.toNat - '0'.toNat)
    else if 'a' ≤ c && c ≤ 'z' then some (c.toNat - 'a'.toNat + 10)
    else if 'A' ≤ c && c ≤ 'Z' then some (c.toNat - 'A'.toNat + 10)
    else none
  value.filter (· < radix)

/-- The digits at the front of a text, and what follows them. -/
def readDigits (radix : Nat) : List Char → List Nat × List Char
  | [] => ([], [])
  | c :: text =>
    match toDigit radix c with
    | some digit => (digit :: (readDigits radix text).1, (readDigits radix text).2)
    | none => ([], c :: text)

def value (radix : Nat) (digits : List Nat) : Nat :=
  digits.foldl (fun n digit => radix * n + digit) 0

/-- Reads a number of so many digits and below a bound. -/
def readNumber (radix maxDigits bound : Nat) (allowZeroPrefix : Bool) (text : List Char) :
    Option (Nat × List Char) :=
  let digits := (readDigits radix text).1
  if digits = [] ∨ maxDigits < digits.length then none
  else if !allowZeroPrefix ∧ digits.head? = some 0 ∧ 1 < digits.length then none
  else if value radix digits < bound then some (value radix digits, (readDigits radix text).2)
  else none

/-- No digit stands at the front of the text. -/
def Ended (radix : Nat) (text : List Char) : Prop :=
  ∀ c ∈ text.head?, toDigit radix c = none

variable {radix maxDigits bound n : Nat} {digits : List Nat} {text : List Char}

theorem toDigit_digitChar (hRadix : radix ≤ 16) : ∀ {digit : Nat}, digit < radix →
    toDigit radix (Nat.digitChar digit) = some digit := by
  intro digit hDigit
  have hSixteen : ∀ d < 16, toDigit 16 (Nat.digitChar d) = some d := by decide
  have hRead := hSixteen digit (by omega)
  rw [toDigit, Option.filter_eq_some_iff] at hRead ⊢
  exact ⟨hRead.1, decide_eq_true hDigit⟩

/-- The digits are among the letters and the figures. -/
theorem toNat_of_toDigit {c : Char} {digit : Nat} (hDigit : toDigit radix c = some digit) :
    48 ≤ c.toNat ∧ c.toNat ≤ 122 := by
  unfold toDigit at hDigit
  obtain ⟨hValue, -⟩ := Option.filter_eq_some_iff.mp hDigit
  simp only [Bool.and_eq_true, decide_eq_true_eq, Char.le_def, UInt32.le_iff_toNat_le] at hValue
  change 48 ≤ c.val.toNat ∧ c.val.toNat ≤ 122
  split at hValue
  · rename_i hFigure
    exact ⟨hFigure.1, Nat.le_trans hFigure.2 (by decide)⟩
  · split at hValue
    · rename_i hSmall
      exact ⟨Nat.le_trans (by decide) hSmall.1, hSmall.2⟩
    · split at hValue
      · rename_i hCapital
        exact ⟨Nat.le_trans (by decide) hCapital.1, Nat.le_trans hCapital.2 (by decide)⟩
      · exact absurd hValue (by simp)

theorem readDigits_ended (hEnded : Ended radix text) : readDigits radix text = ([], text) := by
  cases text with
  | nil => rfl
  | cons c text => rw [readDigits, hEnded c rfl]

theorem readDigits_map (hRadix : radix ≤ 16) (hDigits : ∀ digit ∈ digits, digit < radix)
    (hEnded : Ended radix text) :
    readDigits radix (digits.map Nat.digitChar ++ text) = (digits, text) := by
  induction digits with
  | nil => exact readDigits_ended hEnded
  | cons digit digits ih =>
      rw [List.map_cons, List.cons_append, readDigits,
        toDigit_digitChar hRadix (hDigits digit List.mem_cons_self),
        ih fun d hMem => hDigits d (List.mem_cons_of_mem _ hMem)]

/-- A numeral is made of digits that give back its number, and only zero's starts with a zero. -/
theorem toDigits_eq_map (hRadix : 1 < radix) (n : Nat) :
    ∃ digits : List Nat, Nat.toDigits radix n = digits.map Nat.digitChar ∧
      (∀ digit ∈ digits, digit < radix) ∧ value radix digits = n ∧
      (digits.head? = some 0 → n = 0) := by
  induction n using Nat.strong_induction_on with
  | _ n ih =>
      by_cases hSmall : n < radix
      · refine ⟨[n], Nat.toDigits_of_lt_base hSmall, ?_, ?_, ?_⟩
        · intro digit hMem
          rwa [List.mem_singleton.mp hMem]
        · simp [value]
        · intro hHead
          exact Option.some.inj hHead
      · have hPos : 0 < n / radix := Nat.div_pos (by omega) (by omega)
        obtain ⟨digits, hEq, hBelow, hValue, hHead⟩ := ih (n / radix)
          (Nat.div_lt_self (by omega) hRadix)
        refine ⟨digits ++ [n % radix], ?_, ?_, ?_, ?_⟩
        · rw [Nat.toDigits_of_base_le hRadix (by omega), hEq, List.map_append]
          rfl
        · intro digit hMem
          rcases List.mem_append.mp hMem with hDigit | hLast
          · exact hBelow digit hDigit
          · rw [List.mem_singleton.mp hLast]
            exact Nat.mod_lt n (by omega)
        · rw [value, List.foldl_append]
          change radix * value radix digits + n % radix = n
          rw [hValue]
          exact Nat.div_add_mod n radix
        · intro hFirst
          cases digits with
          | nil =>
              rw [← hValue] at hPos
              exact absurd hPos (Nat.lt_irrefl 0)
          | cons digit digits => exact absurd (hHead hFirst) (by omega)

theorem digit_of_mem_toDigits (hRadix : 1 < radix) (hSixteen : radix ≤ 16) {c : Char}
    (hMem : c ∈ Nat.toDigits radix n) : ∃ digit, toDigit radix c = some digit := by
  obtain ⟨digits, hEq, hBelow, -⟩ := toDigits_eq_map hRadix n
  rw [hEq] at hMem
  obtain ⟨digit, hDigit, rfl⟩ := List.mem_map.mp hMem
  exact ⟨digit, toDigit_digitChar hSixteen (hBelow digit hDigit)⟩

/-- A numeral is read back, whether or not zeros may lead. -/
theorem readNumber_toDigits (hRadix : 1 < radix) (hSixteen : radix ≤ 16) (hPos : 0 < maxDigits)
    (hDigits : n < radix ^ maxDigits) (hBound : n < bound) (allowZeroPrefix : Bool)
    (hEnded : Ended radix text) :
    readNumber radix maxDigits bound allowZeroPrefix (Nat.toDigits radix n ++ text) =
      some (n, text) := by
  obtain ⟨digits, hEq, hBelow, hValue, hHead⟩ := toDigits_eq_map hRadix n
  have hLength : digits.length ≤ maxDigits := by
    have hShort := (Nat.length_toDigits_le_iff hRadix hPos).mpr hDigits
    rwa [hEq, List.length_map] at hShort
  have hSome : digits ≠ [] := by
    intro hNil
    rw [hNil] at hEq
    exact Nat.toDigits_ne_nil hEq
  have hZero : ¬ (digits.head? = some 0 ∧ 1 < digits.length) := by
    rintro ⟨hFirst, hLong⟩
    obtain rfl := hHead hFirst
    rw [Nat.toDigits_zero] at hEq
    have hOne := congrArg List.length hEq
    rw [List.length_map] at hOne
    exact absurd hLong (by rw [← hOne]; decide)
  have hRead : readDigits radix (Nat.toDigits radix n ++ text) = (digits, text) := by
    rw [hEq]
    exact readDigits_map hSixteen hBelow hEnded
  unfold readNumber
  rw [hRead]
  simp only [hValue, if_pos hBound]
  rw [if_neg (by simp [hSome, hLength]), if_neg fun h => hZero h.2]

/-- A number takes the digits at the front of its text and no more. -/
theorem rest_of_readNumber {allowZeroPrefix : Bool} {rest : List Char}
    (hRead : readNumber radix maxDigits bound allowZeroPrefix text = some (n, rest)) :
    rest = (readDigits radix text).2 := by
  unfold readNumber at hRead
  simp only at hRead
  split at hRead
  · exact absurd hRead (by simp)
  · split at hRead
    · exact absurd hRead (by simp)
    · split at hRead
      · exact (congrArg Prod.snd (Option.some.inj hRead)).symm
      · exact absurd hRead (by simp)

end Numeral
