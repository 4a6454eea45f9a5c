/-!
# Texts by bytes

Offsets into a text count the bytes of its UTF-8 form. A text can be cut only between characters, so
an offset within a character is not one at which it has a part that begins or ends.
-/

namespace NicKeeper.Text

/-- How many bytes a text has in UTF-8. -/
def byteSize : List Char → Nat
  | [] => 0
  | c :: rest => c.utf8Size + byteSize rest

/-- The characters that make up the first `size` bytes of a text in UTF-8, if whole characters do. -/
def takeBytes? : Nat → List Char → Option (List Char)
  | 0, _ => some []
  | _ + 1, [] => none
  | size + 1, c :: rest =>
    if c.utf8Size ≤ size + 1 then (takeBytes? (size + 1 - c.utf8Size) rest).map (c :: ·) else none

/-- What comes after the first `size` bytes of a text, if whole characters make these up. -/
def dropBytes? : Nat → List Char → Option (List Char)
  | 0, text => some text
  | _ + 1, [] => none
  | size + 1, c :: rest =>
    if c.utf8Size ≤ size + 1 then dropBytes? (size + 1 - c.utf8Size) rest else none

/-- The part of a text from one offset to another. There is none if they are out of order or out of
range, or if one of them is within a character. -/
def slice? (start stop : Nat) (text : List Char) : Option (List Char) :=
  if start ≤ stop then (dropBytes? start text).bind (takeBytes? (stop - start)) else none

/-- The offset of the last `mark` in a text. -/
def lastOffset? (mark : Char) : List Char → Option Nat
  | [] => none
  | c :: rest =>
    match lastOffset? mark rest with
    | some offset => some (c.utf8Size + offset)
    | none => if c = mark then some 0 else none

end NicKeeper.Text
