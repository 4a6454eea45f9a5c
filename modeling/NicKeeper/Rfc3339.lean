import NicKeeper.Text.Lowercase
import NicKeeper.Text.Numeral
import NicKeeper.Text.Pieces
import NicKeeper.Timestamp

/-!
# Points in time as in RFC 3339

A text tells the calendar date and time of a place, with the offset of that place from UTC. Reading
moves them by the offset; as an offset is shorter than a day, the date moves by at most one day. The
second with the number 60 is a leap second. What is written is in UTC.
-/

namespace NicKeeper

namespace Rfc3339

/-- The point in time that is shown with this date and time. The 60th second is a leap second. -/
def ofShown? (year : Int) (month day hour minute second nanos : Nat) : Option Timestamp :=
  if second = 60 then Timestamp.make? year month day hour minute 59 (nanos + 1000000000)
  else Timestamp.make? year month day hour minute second nanos

def dayBefore (year : Int) (month day : Nat) : Int × Nat × Nat :=
  if 1 < day then (year, month, day - 1)
  else if 1 < month then (year, month - 1, daysInMonth year (month - 1))
  else (year - 1, 12, 31)

def dayAfter (year : Int) (month day : Nat) : Int × Nat × Nat :=
  if day < daysInMonth year month then (year, month, day + 1)
  else if month < 12 then (year, month + 1, 1)
  else (year + 1, 1, 1)

/-- The point in time at which a place, `offset` minutes ahead of UTC, has this date and time. -/
def ofLocal? (year : Int) (month day hour minute second nanos : Nat) (offset : Int) :
    Option Timestamp := do
  let here ← ofShown? year month day hour minute second nanos
  let minutes : Int := (here.hour * 60 + here.minute : Nat) - offset
  let (year, month, day) :=
    if minutes < 0 then dayBefore here.year here.month here.day
    else if minutes < 1440 then (here.year, here.month, here.day)
    else dayAfter here.year here.month here.day
  let ofDay := (minutes % 1440).toNat
  Timestamp.make? year month day (ofDay / 60) (ofDay % 60) here.second here.nanos

/-- One to `most` digits, after blanks. -/
def number? (most : Nat) (text : List Char) : Option (Nat × List Char) := do
  let text := Text.trimStart text
  let digits := (text.take most).takeWhile Char.isDigit
  if digits.isEmpty then none
  else some (← Text.digitsValue? 10 0 digits, text.drop digits.length)

/-- A year: up to four digits, or any number of them after a sign. -/
def year? (text : List Char) : Option (Int × List Char) :=
  let text := Text.trimStart text
  let signed (rest : List Char) : Option (Nat × List Char) := do
    let digits := rest.takeWhile Char.isDigit
    if digits.isEmpty then none
    else some (← Text.digitsValue? 10 0 digits, rest.drop digits.length)
  match text with
  | '-' :: rest => (signed rest).map fun (year, rest) => (-(year : Int), rest)
  | '+' :: rest => (signed rest).map fun (year, rest) => ((year : Int), rest)
  | _ => (number? 4 text).map fun (year, rest) => ((year : Int), rest)

/-- Blanks and then `mark`. -/
def mark? (mark : Char) (text : List Char) : Option (List Char) :=
  match Text.trimStart text with
  | c :: rest => if c = mark then some rest else none
  | [] => none

/-- A fraction of a second, if there is one. Digits beyond the ninth are dropped. -/
def fraction? : List Char → Option (Nat × List Char)
  | '.' :: rest => do
    let digits := rest.takeWhile Char.isDigit
    if digits.isEmpty then none
    else
      let kept := digits.take 9
      let read ← Text.digitsValue? 10 0 kept
      some (read * Nat.pow 10 (9 - kept.length), rest.drop digits.length)
  | text => some (0, text)

/-- Two digits, not above `highest`. -/
def twoDigits? (highest : Nat) : List Char → Option (Nat × List Char)
  | a :: b :: rest =>
    if a.isDigit && b.isDigit then do
      let value ← Text.digitsValue? 10 0 [a, b]
      if value ≤ highest then some (value, rest) else none
    else none
  | _ => none

/-- The sign of an offset: a hyphen or a minus sign, or a plus sign. -/
def offsetSign? : List Char → Option (Int × List Char)
  | '+' :: rest => some (1, rest)
  | '-' :: rest => some (-1, rest)
  | '−' :: rest => some (-1, rest)
  | _ => none

/-- An offset from UTC in minutes, shorter than a day: `Z`, `UTC`, or a sign, hours and minutes,
which may have colons and blanks between them. -/
def offset? (text : List Char) : Option (Int × List Char) :=
  match text with
  | 'Z' :: rest => some (0, rest)
  | 'z' :: rest => some (0, rest)
  | _ =>
    match Text.after? "utc".toList (Text.asciiLower (text.take 3)) with
    | some _ => some (0, text.drop 3)
    | none => do
      let (sign, rest) ← offsetSign? text
      let (hours, rest) ← twoDigits? 99 rest
      let (minutes, rest) ←
        twoDigits? 59 (rest.dropWhile fun c => c == ':' || Text.isBlank c)
      if hours < 24 then some (sign * (hours * 60 + minutes : Nat), rest) else none

/-- Reads a date, `T` or a space, a time with an optional fraction of a second, and an offset.
Blanks may stand around each part. -/
def read? (text : List Char) : Option Timestamp := do
  let (year, rest) ← year? text
  let (month, rest) ← number? 2 (← mark? '-' rest)
  let (day, rest) ← number? 2 (← mark? '-' rest)
  let rest ← match rest with
    | c :: rest => if c = 'T' ∨ c = 't' ∨ c = ' ' then some rest else none
    | [] => none
  let (hour, rest) ← number? 2 rest
  let (minute, rest) ← number? 2 (← mark? ':' rest)
  let (second, rest) ← number? 2 (← mark? ':' rest)
  let (nanos, rest) ← fraction? rest
  let (offset, rest) ← offset? (Text.trimStart rest)
  if (Text.trimStart rest).isEmpty then
    ofLocal? year month day hour minute second nanos offset
  else none

/-- A year in four digits, with a sign where it needs more or is before year zero. -/
def yearText (year : Int) : List Char :=
  if 0 ≤ year ∧ year ≤ 9999 then Text.padded 4 year.toNat
  else (if year < 0 then '-' else '+') :: Text.padded 4 year.natAbs

/-- A fraction of a second in the fewest of three, six or nine digits that are exact. -/
def fractionText (nanos : Nat) : List Char :=
  if nanos = 0 then []
  else if nanos % 1000000 = 0 then '.' :: Text.padded 3 (nanos / 1000000)
  else if nanos % 1000 = 0 then '.' :: Text.padded 6 (nanos / 1000)
  else '.' :: Text.padded 9 nanos

/-- The second that is shown and its fraction, where a leap second is one second more. -/
def shownSecond (t : Timestamp) : Nat × Nat :=
  if t.nanos < 1000000000 then (t.second, t.nanos) else (t.second + 1, t.nanos - 1000000000)

def text (t : Timestamp) : String :=
  String.ofList <|
    yearText t.year ++ '-' :: Text.padded 2 t.month ++ '-' :: Text.padded 2 t.day ++
    'T' :: Text.padded 2 t.hour ++ ':' :: Text.padded 2 t.minute ++
    ':' :: Text.padded 2 (shownSecond t).1 ++ fractionText (shownSecond t).2 ++ ['Z']

scoped instance format : TimeFormat where
  text := text
  read? written := read? written.toList

end Rfc3339

end NicKeeper
