import NicKeeper.Json.Basic

/-!
# Reading records from JSON

A record is read from an object by the names of its fields, or from an array by their order, in
which fields at the end may be missing. Fields that are not known are passed over. A field is
required, has a default that stands in when it is missing, or is optional, and then `null` counts
as missing.
-/

namespace NicKeeper.Json

/-- The fields that a record was written with. -/
abbrev Record := String → Option Json

/-- The fields of a record that has `names`, of which an array holds at least the first `least`. -/
def record? (names : List String) (least : Nat) : Json → Option Record
  | .obj fields => some fun name => lookup name fields
  | .arr items =>
    if least ≤ items.length ∧ items.length ≤ names.length then
      some fun name => lookup name (names.zip items)
    else none
  | _ => none

variable {α : Type}

def required (record : Record) (name : String) (read? : Json → Option α) : Option α :=
  record name >>= read?

def defaulted (record : Record) (name : String) (read? : Json → Option α) (default : α) :
    Option α :=
  match record name with
  | none => some default
  | some value => read? value

def optional? (record : Record) (name : String) (read? : Json → Option α) : Option (Option α) :=
  match record name with
  | none => some none
  | some .null => some none
  | some value => (read? value).map some

def bool? : Json → Option Bool
  | .bool value => some value
  | _ => none

def str? : Json → Option String
  | .str value => some value
  | _ => none

/-- An unsigned number of so many bits. -/
def unsigned? (bits : Nat) : Json → Option Nat
  | .int value => if 0 ≤ value ∧ value < Int.pow 2 bits then some value.toNat else none
  | _ => none

def word? (json : Json) : Option UInt32 := (unsigned? 32 json).map .ofNat

def ofWord (value : UInt32) : Json := .int value.toNat

def list? (read? : Json → Option α) : Json → Option (List α)
  | .arr items => items.mapM read?
  | _ => none

/-- A choice among names, as a string or as an object of one field that holds `null`. -/
def choice? (choices : List (String × α)) : Json → Option α
  | .str name => choose name choices
  | .obj [(name, .null)] => choose name choices
  | _ => none
where
  choose (name : String) : List (String × α) → Option α
    | [] => none
    | choice :: rest => if choice.1 = name then some choice.2 else choose name rest

/-- An object whose values are all strings. -/
def strings? : Json → Option (List (String × String))
  | .obj fields => fields.mapM fun (name, value) => (str? value).map (name, ·)
  | _ => none

end NicKeeper.Json
