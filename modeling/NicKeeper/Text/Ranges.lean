/-!
# Sets of code points as ranges

A set is written as the ascending list of the code points where it begins and ends, in turn: the
first is in, the second is the first one out, and so on.
-/

namespace NicKeeper.Text

abbrev Ranges := List Nat

def Ranges.contains : Ranges → Nat → Bool
  | first :: past :: rest, point => (first ≤ point && point < past) || contains rest point
  | [first], point => first ≤ point
  | [], _ => false

end NicKeeper.Text
