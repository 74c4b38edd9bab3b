import Mathlib.Algebra.GroupWithZero.Nat
import Mathlib.Tactic.SplitIfs
import VoipSwitch.Lib.Json

/-! The compact texts of objects, arrays and numbers, and how long they are. -/
namespace Document.Json

/-- Texts with a comma between any two of them. -/
def separated : List (List UInt8) → List UInt8
  | [] => []
  | [item] => item
  | item :: items => item ++ ','.toUInt8 :: separated items

def arrayText (items : List (List UInt8)) : List UInt8 :=
  '['.toUInt8 :: separated items ++ [']'.toUInt8]

def fieldText (field : String × List UInt8) : List UInt8 :=
  renderStr field.1 ++ ':'.toUInt8 :: field.2

def objectText (fields : List (String × List UInt8)) : List UInt8 :=
  '\x7b'.toUInt8 :: separated (fields.map fieldText) ++ ['\x7d'.toUInt8]

def numberText (n : Nat) : List UInt8 :=
  utf8 (toString n)

def optionText : Option String → List UInt8
  | some s => renderStr s
  | none => utf8 "null"

/-- The decimal digits of a number. -/
def digits (n : Nat) : Nat :=
  (Nat.toDigits 10 n).length

/-- The bytes of a string with their escapes. -/
def escapedLength (s : String) : Nat :=
  ((utf8 s).map fun b => (escapeByte b).length).sum

def optionLength : Option String → Nat
  | some s => escapedLength s + 2
  | none => 4

theorem length_utf8 (s : String) : (utf8 s).length = s.utf8ByteSize := by
  rw [utf8, Array.length_toList]
  rfl

theorem length_renderStr (s : String) : (renderStr s).length = escapedLength s + 2 := by
  rw [renderStr, List.cons_append, List.length_cons, List.length_append, List.length_flatMap,
    escapedLength]
  rfl

theorem length_optionText (s : Option String) : (optionText s).length = optionLength s := by
  cases s with
  | none => rw [optionText, length_utf8]; rfl
  | some s => exact length_renderStr s

theorem length_escapeByte_le (b : UInt8) : (escapeByte b).length ≤ 6 := by
  unfold escapeByte
  split_ifs <;> simp

theorem escapedLength_le (s : String) : escapedLength s ≤ 6 * s.utf8ByteSize := by
  rw [← length_utf8, escapedLength]
  induction utf8 s with
  | nil => exact Nat.le_refl 0
  | cons b rest ih =>
      have hByte := length_escapeByte_le b
      rw [List.map_cons, List.sum_cons, List.length_cons]
      omega

theorem length_utf8EncodeChar_digit {c : Char} (hDigit : c.isDigit = true) :
    (String.utf8EncodeChar c).length = 1 := by
  have hSmall : c.val ≤ 0x7f := by
    simp only [Char.isDigit, Bool.and_eq_true, decide_eq_true_eq] at hDigit
    exact UInt32.le_trans hDigit.2 (by decide)
  rw [String.length_utf8EncodeChar, Char.utf8Size]
  exact if_pos hSmall

theorem length_numberText (n : Nat) : (numberText n).length = digits n := by
  have hText : utf8 (toString n) = (Nat.toDigits 10 n).flatMap String.utf8EncodeChar := by
    rw [← utf8_ofList]
    rfl
  rw [numberText, hText, List.length_flatMap, digits]
  have hOnes : (Nat.toDigits 10 n).map (fun c => (String.utf8EncodeChar c).length) =
      (Nat.toDigits 10 n).map fun _ => 1 := by
    apply List.map_congr_left
    intro c hMem
    exact length_utf8EncodeChar_digit (Nat.isDigit_of_mem_toDigits (by decide) (by decide) hMem)
  rw [hOnes, List.map_const', List.sum_replicate_nat, Nat.mul_one]

theorem digits_le {n k : Nat} (hPos : 0 < k) (hLt : n < 10 ^ k) : digits n ≤ k :=
  (Nat.length_toDigits_le_iff (by decide) hPos).mpr hLt

theorem length_separated (items : List (List UInt8)) :
    (separated items).length = (items.map fun item => item.length + 1).sum - 1 := by
  fun_induction separated items with
  | case1 => rfl
  | case2 item => simp
  | case3 item items hMore ih =>
      cases items with
      | nil => exact absurd rfl hMore
      | cons next rest =>
          rw [List.length_append, List.length_cons, ih]
          simp only [List.map_cons, List.sum_cons]
          omega

theorem length_fieldText (field : String × List UInt8) :
    (fieldText field).length = escapedLength field.1 + field.2.length + 3 := by
  rw [fieldText, List.length_append, List.length_cons, length_renderStr]
  omega

/-- Each field has its name in quotation marks, a colon, and a comma or the brace after it. -/
theorem length_objectText (field : String × List UInt8) (rest : List (String × List UInt8)) :
    (objectText (field :: rest)).length =
      ((field :: rest).map fun field => escapedLength field.1 + field.2.length + 4).sum + 1 := by
  have hNames : ((field :: rest).map fieldText).map (fun item => item.length + 1) =
      (field :: rest).map fun field => escapedLength field.1 + field.2.length + 4 := by
    rw [List.map_map]
    apply List.map_congr_left
    intro field _
    exact congrArg (· + 1) (length_fieldText field)
  rw [objectText, List.cons_append, List.length_cons, List.length_append, length_separated, hNames]
  simp only [List.map_cons, List.sum_cons, List.length_cons, List.length_nil]
  omega

theorem length_arrayText (item : List UInt8) (rest : List (List UInt8)) :
    (arrayText (item :: rest)).length =
      ((item :: rest).map fun item => item.length + 1).sum + 1 := by
  rw [arrayText, List.cons_append, List.length_cons, List.length_append, length_separated]
  simp only [List.map_cons, List.sum_cons, List.length_cons, List.length_nil]
  omega

end Document.Json
