import NicKeeper.Text.Lowercase
import NicKeeper.Text.Numeral

/-!
# Decimal numbers

Reads a decimal number with an optional sign, point and exponent, or one of the words `inf`,
`infinity` and `nan` in any letter case, and takes the whole part of the binary64 number nearest to
it. The nearest number can be whole although the one that was written is just below it; which
those are is decided exactly, in natural numbers.
-/

namespace NicKeeper.Text

inductive Decimal where
  /-- `digits` times ten to the power of `exponent`. -/
  | finite (negative : Bool) (digits : Nat) (exponent : Int)
  | infinite (negative : Bool)
  | notANumber
  deriving DecidableEq, Repr

namespace Decimal

/-- A text without its sign, and whether that was a minus. -/
def dropSign : List Char → Bool × List Char
  | '-' :: rest => (true, rest)
  | '+' :: rest => (false, rest)
  | text => (false, text)

def naturalOf (digits : List Char) : Nat := (digitsValue? 10 0 digits).getD 0

/-- The power of ten at the end of a number: nothing, or `e` and a whole number. -/
def exponent? : List Char → Option Int
  | [] => some 0
  | e :: rest =>
    if e ≠ 'e' ∧ e ≠ 'E' then none
    else
      let (negative, digits) := dropSign rest
      if digits.isEmpty || !digits.all Char.isDigit then none
      else some (if negative then -naturalOf digits else naturalOf digits)

/-- Reads digits around an optional point, at least one of them, and an optional exponent. -/
def unsigned? (negative : Bool) (text : List Char) : Option Decimal := do
  let whole := text.takeWhile Char.isDigit
  let (fraction, rest) := match text.dropWhile Char.isDigit with
    | '.' :: rest => (rest.takeWhile Char.isDigit, rest.dropWhile Char.isDigit)
    | rest => ([], rest)
  if whole.isEmpty && fraction.isEmpty then none
  else
    let power ← exponent? rest
    some (.finite negative (naturalOf (whole ++ fraction)) (power - fraction.length))

def read? (text : List Char) : Option Decimal :=
  let (negative, rest) := dropSign text
  match String.ofList (asciiLower rest) with
  | "inf" | "infinity" => some (.infinite negative)
  | "nan" => some .notANumber
  | _ => unsigned? negative rest

/-- The whole part of the binary64 number nearest to `num / den`, for a quotient below `2 ^ 53`.
Right below `n + 1`, half the distance between neighbours is `2 ^ (log2 n - 53)`, or `2 ^ -54` when
`n` is zero; closer than that, and at exactly that, a quotient is rounded up to `n + 1`. -/
def wholeOfNearest (num den : Nat) : Nat :=
  let whole := num / den
  let missing := den - num % den
  let bits := if whole = 0 then 54 else 53 - whole.log2
  if num % den ≠ 0 ∧ missing * Nat.pow 2 bits ≤ den then whole + 1 else whole

/-- The whole part of `digits * 10 ^ exponent` as a binary64 number, or a number above `10 ^ 10`
where the value is. -/
def wholePart (digits : Nat) (exponent : Int) : Nat :=
  let magnitude := (Nat.toDigits 10 digits).length + exponent
  if digits = 0 ∨ magnitude < 0 then 0
  else if 11 < magnitude then Nat.pow 10 11
  else if 0 ≤ exponent then digits * Nat.pow 10 exponent.toNat
  else wholeOfNearest digits (Nat.pow 10 (-exponent).toNat)

/-- The whole part, brought into the range of an unsigned 32-bit number at the nearer end. -/
def toUInt32 : Decimal → UInt32
  | .finite true _ _ | .infinite true | .notANumber => 0
  | .infinite false => 0xffffffff
  | .finite false digits exponent => UInt32.ofNat (min (wholePart digits exponent) 0xffffffff)

end Decimal

end NicKeeper.Text
