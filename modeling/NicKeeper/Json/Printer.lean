import NicKeeper.Json.Basic

/-!
# The text of a JSON value

Values are written on one line without blanks. A fraction keeps all its places, so it never reads
back as a whole number, and a text has no control character of its own: each is written as its code.
-/

namespace NicKeeper.Json

/-- What stands for a character inside the quotes of a JSON text. -/
def escapeChar (c : Char) : List Char :=
  if c = '"' then ['\\', '"']
  else if c = '\\' then ['\\', '\\']
  else if c.toNat < 32 then
    ['\\', 'u', '0', '0', Nat.digitChar (c.toNat / 16), Nat.digitChar (c.toNat % 16)]
  else [c]

def renderText (text : String) : String :=
  String.ofList ('"' :: text.toList.flatMap escapeChar ++ ['"'])

/-- The decimal digits of `mantissa` divided by ten to the power of `places`, with at least one
digit on either side of the point. -/
def renderFraction (mantissa : Int) (places : Nat) : String :=
  let digits := Nat.toDigits 10 mantissa.natAbs
  let padded := List.replicate (places + 1 - digits.length) '0' ++ digits
  let whole := padded.take (padded.length - places)
  let rest := padded.drop (padded.length - places)
  (if mantissa < 0 then "-" else "") ++
    String.ofList (whole ++ '.' :: if rest.isEmpty then ['0'] else rest)

mutual

def render : Json → String
  | .null => "null"
  | .bool true => "true"
  | .bool false => "false"
  | .int value => toString value
  | .fraction mantissa places => renderFraction mantissa places
  | .str text => renderText text
  | .arr items => "[" ++ renderItems items ++ "]"
  | .obj fields => "\x7b" ++ renderFields fields ++ "\x7d"

def renderItems : List Json → String
  | [] => ""
  | [item] => render item
  | item :: rest => render item ++ "," ++ renderItems rest

def renderFields : List (String × Json) → String
  | [] => ""
  | [(name, value)] => renderText name ++ ":" ++ render value
  | (name, value) :: rest => renderText name ++ ":" ++ render value ++ "," ++ renderFields rest

end

end NicKeeper.Json
