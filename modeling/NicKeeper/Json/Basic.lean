/-!
# JSON values

The values that resources are stored and sent as. Whole numbers and fractions are kept apart,
because a field that holds a whole number accepts no fraction, not even one such as 8.0. The fields
of an object are a list of pairs in which the first pair of a name counts.
-/

namespace NicKeeper

inductive Json where
  | null
  | bool (value : Bool)
  | int (value : Int)
  /-- `mantissa` divided by ten to the power of `places`. -/
  | fraction (mantissa : Int) (places : Nat)
  | str (value : String)
  | arr (items : List Json)
  | obj (fields : List (String × Json))
  deriving Repr, Inhabited

namespace Json

def lookup (name : String) : List (String × Json) → Option Json
  | [] => none
  | field :: rest => if field.1 = name then some field.2 else lookup name rest

/-- The pairs with a field set: in its place if it is there, at the end otherwise. -/
def setField (name : String) (value : Json) : List (String × Json) → List (String × Json)
  | [] => [(name, value)]
  | field :: rest =>
    if field.1 = name then (name, value) :: rest else field :: setField name value rest

def eraseField (name : String) (fields : List (String × Json)) : List (String × Json) :=
  fields.filter fun field => field.1 ≠ name

/-- The pairs of an object; no other value has any. -/
def fields : Json → List (String × Json)
  | .obj fields => fields
  | _ => []

def field? (value : Json) (name : String) : Option Json := lookup name value.fields

def ofStrings (entries : List (String × String)) : Json :=
  .obj (entries.map fun entry => (entry.1, .str entry.2))

/-- A field for a value that is there, and no field for one that is not. -/
def optional (name : String) : Option Json → List (String × Json)
  | some value => [(name, value)]
  | none => []

theorem lookup_setField (name other : String) (value : Json) (fields : List (String × Json)) :
    lookup other (setField name value fields) =
      if name = other then some value else lookup other fields := by
  induction fields with
  | nil => simp [setField, lookup]
  | cons first rest ih => grind [setField, lookup]

theorem lookup_eraseField (name other : String) (fields : List (String × Json)) :
    lookup other (eraseField name fields) =
      if name = other then none else lookup other fields := by
  induction fields with
  | nil => simp [eraseField, lookup]
  | cons first rest ih =>
    simp only [eraseField, List.filter_cons] at ih ⊢
    by_cases h : first.1 = name <;> grind [lookup]

end Json

end NicKeeper
