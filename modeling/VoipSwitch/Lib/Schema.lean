import Mathlib.Algebra.Order.Field.Rat
import Mathlib.Data.String.Basic
import VoipSwitch.Lib.OrdMap

/-! Readers of self-describing documents, built up field by field. A reader knows which
texts of a document are names, and what it reads contains these names and no others. -/
namespace Schema

open Keyed

/-- A parsed document. -/
inductive Value where
  | null
  | bool (b : Bool)
  | int (n : Int)
  | real (q : ℚ)
  | str (s : String)
  | arr (items : List Value)
  | obj (fields : List (String × Value))

/-- A reader of values of `α`; a value `a` contains the names `ids a`. -/
structure Reader (α : Type) (ids : α → List String) where
  read : Value → Except String α
  /-- The texts that stand where the document has names. -/
  texts : Value → List String
  sound : ∀ {v : Value} {a : α}, read v = .ok a → ∀ s, s ∈ ids a ↔ s ∈ texts v

/-- What contains no names. -/
abbrev noIds {α : Type} : α → List String := fun _ => []

/-- The names of an optional value. -/
def optionIds {α : Type} (ids : α → List String) (value : Option α) : List String :=
  value.toList.flatMap ids

/-- The names of two values. -/
def pairIds {α β : Type} (ids : α → List String) (ids' : β → List String) (pair : α × β) :
    List String := ids pair.1 ++ ids' pair.2

namespace Reader

variable {α β : Type} {ids : α → List String} {ids' : β → List String}

/-- A reader of values without names. -/
def plain (read : Value → Except String α) : Reader α noIds where
  read := read
  texts _ := []
  sound _ _ := Iff.rfl

/-- A text that is a name. -/
def name : Reader String fun s => [s] where
  read
    | .str s => .ok s
    | _ => .error "expected a string"
  texts
    | .str s => [s]
    | _ => []
  sound := by
    intro v a h s
    cases v with
    | str s' =>
        obtain rfl := Except.ok.inj h
        exact Iff.rfl
    | _ => cases h

def text : Reader String noIds :=
  plain fun
    | .str s => .ok s
    | _ => .error "expected a string"

def boolean : Reader Bool noIds :=
  plain fun
    | .bool b => .ok b
    | _ => .error "expected a boolean"

/-- An unsigned integer of `bits` bits. -/
def unsigned (bits : Nat) : Reader Nat noIds :=
  plain fun
    | .int n =>
      if 0 ≤ n ∧ n < 2 ^ bits then .ok n.toNat else .error "integer out of range"
    | _ => .error "expected an integer"

def number : Reader ℚ noIds :=
  plain fun
    | .int n => .ok n
    | .real q => .ok q
    | _ => .error "expected a number"

/-- The name of a variant without data: a text, or an object with one empty field. -/
def variantName : Value → Except String String
  | .str s => .ok s
  | .obj [(s, .null)] => .ok s
  | _ => .error "expected a variant"

/-- An enumeration whose variants have no data. -/
def enumeration (table : List (String × α)) : Reader α noIds :=
  plain fun v =>
    match variantName v with
    | .error error => .error error
    | .ok variant =>
      match table.lookup variant with
      | some a => .ok a
      | none => .error s!"unknown variant {variant}"

def option (r : Reader α ids) : Reader (Option α) (optionIds ids) where
  read
    | .null => .ok none
    | v => (r.read v).map some
  texts
    | .null => []
    | v => r.texts v
  sound := by
    intro v a h s
    split at h
    · obtain rfl := Except.ok.inj h
      exact Iff.rfl
    · next hNull =>
        cases hRead : r.read v with
        | error error =>
            rw [hRead] at h
            cases h
        | ok value =>
            rw [hRead] at h
            obtain rfl := Except.ok.inj h
            rw [← r.sound hRead s]
            simp [optionIds]

/-- Read the values one after another. -/
def readAll (r : Reader α ids) : List Value → Except String (List α)
  | [] => .ok []
  | v :: rest =>
    match r.read v, r.readAll rest with
    | .ok a, .ok as => .ok (a :: as)
    | .error error, _ | .ok _, .error error => .error error

theorem readAll_sound (r : Reader α ids) {items : List Value} {as : List α}
    (h : r.readAll items = .ok as) (s : String) :
    s ∈ as.flatMap ids ↔ s ∈ items.flatMap r.texts := by
  induction items generalizing as with
  | nil =>
      obtain rfl := Except.ok.inj h
      exact Iff.rfl
  | cons v rest ih =>
      rw [readAll] at h
      split at h
      · next a as' hRead hRest =>
          obtain rfl := Except.ok.inj h
          rw [List.flatMap_cons, List.flatMap_cons, List.mem_append, List.mem_append,
            r.sound hRead s, ih hRest]
      · cases h
      · cases h

def list (r : Reader α ids) : Reader (List α) (·.flatMap ids) where
  read
    | .arr items => r.readAll items
    | _ => .error "expected an array"
  texts
    | .arr items => items.flatMap r.texts
    | _ => []
  sound := by
    intro v a h
    cases v with
    | arr items => exact r.readAll_sound h
    | _ => cases h

/-- The values at the fields of an object; of two fields with one name the later counts. -/
def readKeyed (r : Reader α noIds) (m : OrdMap String α) :
    List (String × Value) → Except String (OrdMap String α)
  | [] => .ok m
  | (key, v) :: rest =>
    match r.read v with
    | .error error => .error error
    | .ok a => r.readKeyed (m.insert key a) rest

theorem mem_keys_insert {m : OrdMap String α} {key s : String} {a : α} :
    s ∈ (m.insert key a).keys ↔ s = key ∨ s ∈ m.keys := by
  constructor
  · exact OrdMap.mem_keys_insert
  · intro h
    by_cases hSame : key = s
    · subst hSame
      exact OrdMap.mem_keys_of_lookup OrdMap.lookup_insert_self
    · have hMem : s ∈ m.keys := h.resolve_left (Ne.symm hSame)
      cases hLookup : m.lookup s with
      | some v =>
          apply OrdMap.mem_keys_of_lookup (v := v)
          rw [OrdMap.lookup_insert, if_neg hSame, hLookup]
      | none =>
          clear h
          induction m with
          | nil => cases hMem
          | cons entry rest ih =>
              rw [OrdMap.lookup] at hLookup
              split at hLookup
              · cases hLookup
              · next hHead =>
                  have hRest : s ∈ OrdMap.keys rest := by
                    rcases List.mem_cons.mp hMem with rfl | hRest
                    · exact absurd rfl hHead
                    · exact hRest
                  simp only [OrdMap.insert]
                  split
                  · exact .tail _ hRest
                  · split
                    · exact .tail _ hMem
                    · exact .tail _ (ih hRest hLookup)

theorem readKeyed_sound (r : Reader α noIds) {m m' : OrdMap String α}
    {fields : List (String × Value)} (h : r.readKeyed m fields = .ok m') (s : String) :
    s ∈ m'.keys ↔ s ∈ m.keys ∨ s ∈ fields.map Prod.fst := by
  induction fields generalizing m with
  | nil =>
      obtain rfl := Except.ok.inj h
      simp
  | cons field rest ih =>
      rw [readKeyed] at h
      split at h
      · cases h
      · rw [ih h, mem_keys_insert, List.map_cons, List.mem_cons]
        tauto

/-- An object whose field names are names. -/
def keyed (r : Reader α noIds) : Reader (OrdMap String α) OrdMap.keys where
  read
    | .obj fields => r.readKeyed [] fields
    | _ => .error "expected an object"
  texts
    | .obj fields => fields.map Prod.fst
    | _ => []
  sound := by
    intro v a h s
    cases v with
    | obj fields =>
        rw [r.readKeyed_sound h s]
        simp [OrdMap.keys]
    | _ => cases h

/-- Read `α`, then make it `β`. -/
def map (r : Reader α ids) (f : α → β) (h : ∀ a s, s ∈ ids' (f a) ↔ s ∈ ids a) :
    Reader β ids' where
  read v := (r.read v).map f
  texts := r.texts
  sound := by
    intro v b hRead s
    cases hValue : r.read v with
    | error error =>
        rw [hValue] at hRead
        cases hRead
    | ok a =>
        rw [hValue] at hRead
        obtain rfl := Except.ok.inj hRead
        rw [h, r.sound hValue]

end Reader

section Structs

/-- The value at a field. A field must not stand twice. -/
def slot (fields : List (String × Value)) (name : String) : Except String (Option Value) :=
  match fields.filter (·.1 = name) with
  | [] => .ok none
  | [(_, v)] => .ok (some v)
  | _ => .error s!"duplicate field {name}"

def slots (fields : List (String × Value)) : List String → Except String (List (Option Value))
  | [] => .ok []
  | name :: rest =>
    match slot fields name, slots fields rest with
    | .ok v, .ok vs => .ok (v :: vs)
    | .error error, _ | .ok _, .error error => .error error

/-- The values of a struct's fields: by name, or by position. -/
def fieldValues (names : List String) : Value → Except String (Bool × List (Option Value))
  | .obj fields => (slots fields names).map (false, ·)
  | .arr items =>
    if names.length < items.length then .error "invalid length"
    else .ok (true, items.map some ++ List.replicate (names.length - items.length) none)
  | _ => .error "expected a struct"

/-- The fields of a struct; `read` is told whether they stand by position. -/
structure Fields (α : Type) (ids : α → List String) where
  names : List String
  read : Bool → List (Option Value) → Except String α
  texts : List (Option Value) → List String
  sound : ∀ {positional : Bool} {values : List (Option Value)} {a : α},
    read positional values = .ok a → ∀ s, s ∈ ids a ↔ s ∈ texts values

variable {α β : Type} {ids : α → List String} {ids' : β → List String}

namespace Fields

def done : Fields Unit noIds where
  names := []
  read _ _ := .ok ()
  texts _ := []
  sound _ _ := Iff.rfl

/-- A field, with what it is when it is absent. -/
def field (name : String) (r : Reader α ids) (absent : Bool → Except String α)
    (hAbsent : ∀ positional a, absent positional = .ok a → ids a = []) (rest : Fields β ids') :
    Fields (α × β) (pairIds ids ids') where
  names := name :: rest.names
  read
    | _, [] => .error "invalid length"
    | positional, value :: values =>
      match value.elim (absent positional) r.read, rest.read positional values with
      | .ok a, .ok b => .ok (a, b)
      | .error error, _ | .ok _, .error error => .error error
  texts
    | [] => []
    | value :: values => value.elim [] r.texts ++ rest.texts values
  sound := by
    intro positional values pair h s
    cases values with
    | nil => cases h
    | cons value values =>
        simp only at h
        split at h
        · next a b hFirst hRest =>
            obtain rfl := Except.ok.inj h
            simp only [pairIds, List.mem_append, rest.sound hRest s]
            cases value with
            | none => simp [hAbsent positional a hFirst]
            | some v => simp [r.sound hFirst s]
        · cases h
        · cases h

def required (name : String) (r : Reader α ids) (rest : Fields β ids') :
    Fields (α × β) (pairIds ids ids') :=
  field name r (fun _ => .error s!"missing field {name}") (fun _ _ h => by cases h) rest

/-- A field that may be left out by name, but not by position. -/
def optional (name : String) (r : Reader α ids) (rest : Fields β ids') :
    Fields (Option α × β) (pairIds (optionIds ids) ids') :=
  field name r.option
    (fun positional => if positional then .error s!"missing field {name}" else .ok none)
    (fun positional a h => by
      cases positional with
      | true => cases h
      | false =>
          obtain rfl := Except.ok.inj h
          rfl) rest

/-- A field with a default. -/
def withDefault (name : String) (r : Reader α ids) (default : α) (hDefault : ids default = [])
    (rest : Fields β ids') : Fields (α × β) (pairIds ids ids') :=
  field name r (fun _ => .ok default) (fun _ _ h => Except.ok.inj h ▸ hDefault) rest

end Fields

namespace Reader

def struct (f : Fields α ids) : Reader α ids where
  read v :=
    match fieldValues f.names v with
    | .error error => .error error
    | .ok (positional, values) => f.read positional values
  texts v :=
    match fieldValues f.names v with
    | .error _ => []
    | .ok (_, values) => f.texts values
  sound := by
    intro v a h s
    split at h
    · cases h
    · exact f.sound h s

/-- A variant that is named beside its data. -/
def adjacent (tag content : String) (variants : String → Option (Reader α ids)) :
    Reader α ids where
  read v :=
    match fieldValues [tag, content] v with
    | .ok (_, [some t, some c]) =>
      match variantName t with
      | .error error => .error error
      | .ok variant =>
        match variants variant with
        | none => .error s!"unknown variant {variant}"
        | some r => r.read c
    | .ok _ => .error "missing field"
    | .error error => .error error
  texts v :=
    match fieldValues [tag, content] v with
    | .ok (_, [some t, some c]) =>
      match variantName t with
      | .error _ => []
      | .ok variant => (variants variant).elim [] fun r => r.texts c
    | _ => []
  sound := by
    intro v a h s
    split at h
    · next t c hValues =>
        split at h
        · cases h
        · next variant hVariant =>
            split at h
            · cases h
            · next r hReader =>
                simp only [hValues, hVariant, hReader, Option.elim_some]
                exact r.sound h s
    · cases h
    · cases h

end Reader

end Structs

end Schema
