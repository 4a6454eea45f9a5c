import NicKeeper.Text.Blank

/-!
# Pieces of texts

Taking a text apart at marks, at blanks or behind a lead, and putting pieces together again.
-/

namespace NicKeeper.Text

/-- Cuts a text at every character that satisfies `isCut`, which is dropped. There is one piece
more than there are cuts. -/
def splitWhere (isCut : Char → Bool) : List Char → List (List Char)
  | [] => [[]]
  | c :: rest =>
    if isCut c then [] :: splitWhere isCut rest
    else match splitWhere isCut rest with
      | [] => [[c]]
      | piece :: pieces => (c :: piece) :: pieces

theorem splitWhere_ne_nil (isCut : Char → Bool) (text : List Char) :
    splitWhere isCut text ≠ [] := by
  cases text with
  | nil => simp [splitWhere]
  | cons c rest => grind [splitWhere]

/-- A text without cuts is one piece. -/
theorem splitWhere_eq_singleton {isCut : Char → Bool} {text : List Char}
    (whole : ∀ c ∈ text, isCut c = false) : splitWhere isCut text = [text] := by
  induction text with
  | nil => rfl
  | cons c rest ih =>
    have uncut : isCut c = false := whole c (by simp)
    have : splitWhere isCut rest = [rest] := ih fun d h => whole d (by simp [h])
    simp [splitWhere, uncut, this]

def words (text : List Char) : List (List Char) :=
  (splitWhere isBlank text).filter fun piece => !piece.isEmpty

/-- A text around its first `mark`, if it has one. -/
def cutAt (mark : Char) : List Char → Option (List Char × List Char)
  | [] => none
  | c :: rest =>
    if c = mark then some ([], rest)
    else (cutAt mark rest).map fun (before, after) => (c :: before, after)

/-- What follows `lead`, for a text that starts with it. -/
def after? (lead : List Char) (text : List Char) : Option (List Char) :=
  match lead, text with
  | [], text => some text
  | _ :: _, [] => none
  | l :: lead, c :: text => if l = c then after? lead text else none

def startsWith (lead : String) (text : List Char) : Bool := (after? lead.toList text).isSome

def join (mark : Char) : List (List Char) → List Char
  | [] => []
  | [piece] => piece
  | piece :: pieces => piece ++ mark :: join mark pieces

end NicKeeper.Text
