import NicKeeper.Json.Basic

/-!
# Merge patches

A merge patch that is an object changes the fields it names and leaves the others alone: `null`
removes a field, anything else is merged into what the field held. Any other patch takes the place
of the whole value.
-/

namespace NicKeeper.Json

mutual

/-- The value that a patch makes of another. -/
def merge (target : Json) : Json → Json
  | .obj changes => .obj (mergeFields target.fields changes)
  | .null => .null
  | .bool value => .bool value
  | .int value => .int value
  | .fraction mantissa places => .fraction mantissa places
  | .str value => .str value
  | .arr items => .arr items

/-- The fields of an object after the changes of a patch, in order. -/
def mergeFields (fields : List (String × Json)) : List (String × Json) → List (String × Json)
  | [] => fields
  | change :: rest => mergeFields (mergeField fields change) rest

def mergeField (fields : List (String × Json)) : String × Json → List (String × Json)
  | (name, .null) => eraseField name fields
  | (name, change) => setField name (merge ((lookup name fields).getD .null) change) fields

end

end NicKeeper.Json
