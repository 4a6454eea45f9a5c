import NicKeeper.Text.Bytes

/-!
# Values of firmware parameters

The firmware tool prints a value as a label with the number it stands for in parentheses, as in
`ETH(2)`, and accepts the number alone. Values are compared and written in that form.
-/

namespace NicKeeper.Nv

open Text (byteSize lastOffset? slice?)

/-- What stands between the last opening parenthesis of a value and a closing one at its end. -/
def bracketed? (value : List Char) : Option (List Char) :=
  match lastOffset? '(' value with
  | some opening =>
    if value.getLast? = some ')' then slice? (opening + 1) (byteSize value - 1) value else none
  | none => none

/-- What a value has in parentheses at its end, if that is something, and the value itself
otherwise. -/
def normalize (value : List Char) : List Char :=
  match bracketed? value with
  | some inner => if inner.isEmpty then value else inner
  | none => value

end NicKeeper.Nv
