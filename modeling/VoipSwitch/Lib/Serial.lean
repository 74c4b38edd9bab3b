import VoipSwitch.Lib.Json

/-! Values that are written to JSON documents and read back, in the way of derived serializers:
a record is an object whose fields are looked up by name. -/
namespace Document

/-- How the values of a type stand in documents. -/
class Serial (τ : Type) where
  toJson : τ → Json
  ofJson : Json → Except String τ

export Serial (toJson ofJson)

/-- What is written is read back. -/
class RoundTrip (τ : Type) [Serial τ] : Prop where
  ofJson_toJson : ∀ value : τ, ofJson (toJson value) = .ok value

export RoundTrip (ofJson_toJson)

attribute [simp] ofJson_toJson

/-- No value is written as `null`, so that `null` can stand for an absent one. -/
class NonNull (τ : Type) [Serial τ] : Prop where
  toJson_ne_null : ∀ value : τ, toJson value ≠ .null

section Scalars

instance : Serial String where
  toJson text := .str text
  ofJson
    | .str text => .ok text
    | _ => .error "invalid type: expected a string"

instance : RoundTrip String where
  ofJson_toJson _ := rfl

instance : NonNull String where
  toJson_ne_null _ := Json.noConfusion

instance : Serial Bool where
  toJson b := .bool b
  ofJson
    | .bool b => .ok b
    | _ => .error "invalid type: expected a boolean"

instance : RoundTrip Bool where
  ofJson_toJson _ := rfl

/-- Read a number below `size`. -/
def natBelow (size : Nat) : Json → Except String Nat
  | .num n =>
    if 0 ≤ n ∧ n < size then .ok n.toNat else .error "invalid value: number out of range"
  | _ => .error "invalid type: expected a number"

theorem natBelow_num {size n : Nat} (h : n < size) : natBelow size (.num n) = .ok n := by
  rw [natBelow, if_pos (by omega), Int.toNat_natCast]

instance : Serial UInt8 where
  toJson n := .num n.toNat
  ofJson json := UInt8.ofNat <$> natBelow UInt8.size json

instance : RoundTrip UInt8 where
  ofJson_toJson n := by
    show UInt8.ofNat <$> natBelow UInt8.size (.num n.toNat) = .ok n
    rw [natBelow_num n.toNat_lt_size]
    exact congrArg Except.ok UInt8.ofNat_toNat

instance : Serial UInt16 where
  toJson n := .num n.toNat
  ofJson json := UInt16.ofNat <$> natBelow UInt16.size json

instance : RoundTrip UInt16 where
  ofJson_toJson n := by
    show UInt16.ofNat <$> natBelow UInt16.size (.num n.toNat) = .ok n
    rw [natBelow_num n.toNat_lt_size]
    exact congrArg Except.ok UInt16.ofNat_toNat

instance : NonNull UInt16 where
  toJson_ne_null _ := Json.noConfusion

instance : Serial UInt32 where
  toJson n := .num n.toNat
  ofJson json := UInt32.ofNat <$> natBelow UInt32.size json

instance : RoundTrip UInt32 where
  ofJson_toJson n := by
    show UInt32.ofNat <$> natBelow UInt32.size (.num n.toNat) = .ok n
    rw [natBelow_num n.toNat_lt_size]
    exact congrArg Except.ok UInt32.ofNat_toNat

instance : Serial UInt64 where
  toJson n := .num n.toNat
  ofJson json := UInt64.ofNat <$> natBelow UInt64.size json

instance : RoundTrip UInt64 where
  ofJson_toJson n := by
    show UInt64.ofNat <$> natBelow UInt64.size (.num n.toNat) = .ok n
    rw [natBelow_num n.toNat_lt_size]
    exact congrArg Except.ok UInt64.ofNat_toNat

instance : NonNull UInt64 where
  toJson_ne_null _ := Json.noConfusion

end Scalars

section Containers

variable {τ : Type} [Serial τ]

instance : Serial (Option τ) where
  toJson
    | none => .null
    | some value => toJson value
  ofJson
    | .null => .ok none
    | json => some <$> ofJson json

/-- A value that is there is read as such. -/
theorem ofJson_some [NonNull τ] (value : τ) :
    (ofJson (toJson (some value)) : Except String (Option τ)) = some <$> ofJson (toJson value) := by
  have hValue := NonNull.toJson_ne_null value
  show (match toJson value with
    | .null => .ok none
    | json => some <$> ofJson json) = some <$> ofJson (toJson value)
  split
  · next hNull => exact (hValue hNull).elim
  · rfl

instance [RoundTrip τ] [NonNull τ] : RoundTrip (Option τ) where
  ofJson_toJson
    | none => rfl
    | some value => by
        rw [ofJson_some, ofJson_toJson]
        rfl

instance : Serial (List τ) where
  toJson items := .arr (items.map toJson)
  ofJson
    | .arr items => items.mapM ofJson
    | _ => .error "invalid type: expected a sequence"

instance [RoundTrip τ] : RoundTrip (List τ) where
  ofJson_toJson items := by
    show (items.map toJson).mapM ofJson = .ok items
    induction items with
    | nil => rfl
    | cons item items ih =>
        rw [List.map_cons, List.mapM_cons, ofJson_toJson, ih]
        rfl

end Containers

section Fields

theorem bind_ok {τ υ : Type} (value : τ) (next : τ → Except String υ) :
    (Except.ok value >>= next) = next value := rfl

theorem bind_error {τ υ : Type} (error : String) (next : τ → Except String υ) :
    (Except.error error >>= next) = .error error := rfl

/-- A record is read from an object. -/
def ofObject {τ : Type} (read : List (String × Json) → Except String τ) : Json → Except String τ
  | .obj fields => read fields
  | _ => .error "invalid type: expected an object"

theorem ofObject_obj {τ : Type} (read : List (String × Json) → Except String τ)
    (fields : List (String × Json)) : ofObject read (.obj fields) = read fields := rfl

variable {τ : Type} [Serial τ]

/-- The values under a name, which is there more than once if the text repeats it. -/
def occurrences (fields : List (String × Json)) (name : String) : List Json :=
  (fields.filter fun field => field.1 = name).map Prod.snd

/-- A field of a record; `absent` is what a missing one stands for. -/
def field (fields : List (String × Json)) (name : String) (absent : Option τ) : Except String τ :=
  match occurrences fields name with
  | [] =>
    match absent with
    | some value => .ok value
    | none => .error s!"missing field `{name}`"
  | [json] => ofJson json
  | _ => .error s!"duplicate field `{name}`"

/-- A field that the text must have. -/
def required (fields : List (String × Json)) (name : String) : Except String τ :=
  field fields name none

/-- A field with a default. -/
def defaulted [Inhabited τ] (fields : List (String × Json)) (name : String) : Except String τ :=
  field fields name (some default)

variable {fields : List (String × Json)} {name : String}

theorem occurrences_cons {key : String} {json : Json} :
    occurrences ((key, json) :: fields) name =
      if key = name then json :: occurrences fields name else occurrences fields name := by
  rw [occurrences, List.filter_cons]
  by_cases hSame : key = name
  · rw [if_pos (decide_eq_true hSame), if_pos hSame]
    rfl
  · rw [if_neg (by rw [decide_eq_true_eq]; exact hSame), if_neg hSame]
    rfl

theorem occurrences_nil : occurrences [] name = [] := rfl

end Fields

end Document
