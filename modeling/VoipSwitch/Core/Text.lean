import Mathlib.Algebra.GroupWithZero.Nat
import Mathlib.Data.List.Basic

/-! The operations on texts that the switch takes from its language. -/
namespace VoipSwitch

/-- `char::is_whitespace`. -/
def isWhitespace (c : Char) : Bool :=
  let n := c.toNat
  (9 ≤ n && n ≤ 13) || n = 32 || n = 133 || n = 160 || n = 5760 || (8192 ≤ n && n ≤ 8202)
    || n = 8232 || n = 8233 || n = 8239 || n = 8287 || n = 12288

/-- `text.trim().is_empty()`. -/
def isBlank (text : String) : Bool := text.toList.all isWhitespace

def isAsciiDigit (c : Char) : Bool := '0' ≤ c && c ≤ '9'

def isAsciiAlphanumeric (c : Char) : Bool :=
  isAsciiDigit c || ('a' ≤ c && c ≤ 'z') || ('A' ≤ c && c ≤ 'Z')

/-- `str::trim`. -/
def trim (text : String) : String :=
  let started := text.toList.dropWhile isWhitespace
  String.ofList (started.reverse.dropWhile isWhitespace).reverse

/-- `str::strip_prefix`. -/
def stripStart (start text : String) : Option String :=
  (start.toList.isPrefixOf? text.toList).map String.ofList

/-- `str::split_once`. -/
def splitOnce (separator : Char) (text : String) : Option (String × String) :=
  match text.toList.span (· ≠ separator) with
  | (_, []) => none
  | (first, _ :: second) => some (String.ofList first, String.ofList second)

/-- `str::parse` for an unsigned number of so many bits. -/
def parseUnsigned (bits : Nat) (text : String) : Option Nat :=
  let digits :=
    match text.toList with
    | '+' :: digits => digits
    | digits => digits
  if digits.isEmpty || !digits.all isAsciiDigit then none
  else
    let value := digits.foldl (fun n digit => 10 * n + (digit.toNat - '0'.toNat)) 0
    if value < 2 ^ bits then some value else none

theorem isAsciiDigit_of_isDigit {c : Char} (hDigit : c.isDigit = true) : isAsciiDigit c = true := by
  simpa [Char.isDigit, isAsciiDigit, Char.le_def] using hDigit

/-- A number is read back from its digits. -/
theorem parseUnsigned_toDigits {bits n : Nat} (hSmall : n < 2 ^ bits) :
    parseUnsigned bits (String.ofList (Nat.toDigits 10 n)) = some n := by
  have hDigits : ∀ c ∈ Nat.toDigits 10 n, c.isDigit = true := fun c hMem =>
    Nat.isDigit_of_mem_toDigits (by decide) (by decide) hMem
  have hSign : (match Nat.toDigits 10 n with
      | '+' :: digits => digits
      | digits => digits) = Nat.toDigits 10 n := by
    split
    · rename_i digits hPlus
      exact absurd (hDigits '+' (by rw [hPlus]; exact List.mem_cons_self)) (by decide)
    · rfl
  have hValue : (Nat.toDigits 10 n).foldl (fun n digit => 10 * n + (digit.toNat - '0'.toNat)) 0 =
      n := Nat.ofDigitChars_ten_toDigits
  have hAll : (Nat.toDigits 10 n).all isAsciiDigit = true :=
    List.all_eq_true.mpr fun c hMem => isAsciiDigit_of_isDigit (hDigits c hMem)
  have hSome : (Nat.toDigits 10 n).isEmpty = false :=
    List.isEmpty_eq_false_iff.mpr Nat.toDigits_ne_nil
  unfold parseUnsigned
  simp only [String.toList_ofList, hSign, hValue, hAll, hSome]
  rw [if_neg (by decide), if_pos hSmall]

end VoipSwitch
