/-! JSON values, as far as a program builds them. Numbers are the integers that the
modelled programs write. -/
namespace Document

inductive Json where
  | null
  | bool (b : Bool)
  | num (n : Int)
  | str (s : String)
  | arr (items : List Json)
  | obj (fields : List (String × Json))

namespace Json

/-- The value of field `name`, if the document is an object that has it. -/
def get? : Json → String → Option Json
  | .obj fields, name => fields.lookup name
  | _, _ => none

def asStr? : Json → Option String
  | .str s => some s
  | _ => none

/-- Write field `name` of an object, in place if it is there and at its end otherwise. -/
def setField : List (String × Json) → String → Json → List (String × Json)
  | [], name, value => [(name, value)]
  | (key, old) :: rest, name, value =>
    if key = name then (key, value) :: rest else (key, old) :: setField rest name value

section Text

/-- The UTF-8 bytes of a string. -/
def utf8 (s : String) : List UInt8 := s.toUTF8.data.toList

/-- A hexadecimal digit. -/
def hexDigit (n : UInt8) : UInt8 := if n < 10 then 48 + n else 87 + n

/-- How a byte stands in the text of a string. The bytes that are escaped are all ASCII. -/
def escapeByte (b : UInt8) : List UInt8 :=
  if b = '"'.toUInt8 then ['\\'.toUInt8, '"'.toUInt8]
  else if b = '\\'.toUInt8 then ['\\'.toUInt8, '\\'.toUInt8]
  else if b = '\n'.toUInt8 then ['\\'.toUInt8, 'n'.toUInt8]
  else if b = '\r'.toUInt8 then ['\\'.toUInt8, 'r'.toUInt8]
  else if b = '\t'.toUInt8 then ['\\'.toUInt8, 't'.toUInt8]
  else if b = 8 then ['\\'.toUInt8, 'b'.toUInt8]
  else if b = 12 then ['\\'.toUInt8, 'f'.toUInt8]
  else if b < 32 then
    ['\\'.toUInt8, 'u'.toUInt8, '0'.toUInt8, '0'.toUInt8, hexDigit (b / 16), hexDigit (b % 16)]
  else [b]

def renderStr (s : String) : List UInt8 :=
  '"'.toUInt8 :: (utf8 s).flatMap escapeByte ++ ['"'.toUInt8]

mutual

/-- The compact text of a document, in UTF-8. -/
def render : Json → List UInt8
  | .null => utf8 "null"
  | .bool b => if b then utf8 "true" else utf8 "false"
  | .num n => utf8 (toString n)
  | .str s => renderStr s
  | .arr items => '['.toUInt8 :: renderItems items ++ [']'.toUInt8]
  | .obj fields => '\x7b'.toUInt8 :: renderFields fields ++ ['\x7d'.toUInt8]

def renderItems : List Json → List UInt8
  | [] => []
  | [item] => render item
  | item :: items => render item ++ ','.toUInt8 :: renderItems items

def renderFields : List (String × Json) → List UInt8
  | [] => []
  | [(name, value)] => renderStr name ++ ':'.toUInt8 :: render value
  | (name, value) :: fields =>
    renderStr name ++ ':'.toUInt8 :: render value ++ ','.toUInt8 :: renderFields fields

end

theorem utf8_ofList (chars : List Char) :
    utf8 (String.ofList chars) = chars.flatMap String.utf8EncodeChar := by
  rw [utf8, String.toUTF8_eq_toByteArray, String.toByteArray_ofList, List.utf8Encode,
    List.data_toByteArray]

theorem length_renderStr_replicate (n : Nat) :
    (renderStr (String.ofList (List.replicate n 'x'))).length = n + 2 := by
  have hText : (utf8 (String.ofList (List.replicate n 'x'))).flatMap escapeByte =
      List.replicate n 120 := by
    rw [utf8_ofList]
    induction n with
    | zero => rfl
    | succ n ih =>
        rw [List.replicate_succ, List.flatMap_cons, List.flatMap_append, ih]
        rfl
  rw [renderStr, hText]
  simp

end Text

end Json

end Document
