import NicKeeper.Text.Pieces

/-!
# Lines

A line ends at a line feed, and a carriage return right before that line feed belongs to the end
of the line. A carriage return elsewhere is text; so is one that ends a last line without a line
feed.
-/

namespace NicKeeper.Text

def dropReturn (line : List Char) : List Char :=
  if line.getLast? = some '\r' then line.dropLast else line

/-- Every piece but the last was ended by a line feed; the last one is a line unless empty. -/
def linesOfPieces : List (List Char) → List (List Char)
  | [] => []
  | [last] => if last.isEmpty then [] else [last]
  | piece :: pieces => dropReturn piece :: linesOfPieces pieces

/-- The lines of a text, without what ends them. -/
def lines (text : List Char) : List (List Char) :=
  linesOfPieces (splitWhere (· == '\n') text)

end NicKeeper.Text
