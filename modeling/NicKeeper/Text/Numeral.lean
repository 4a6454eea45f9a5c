/-!
# Unsigned numerals

A numeral is an optional plus sign and one or more digits of a base, and it has to stay below a
limit. Leading zeros are allowed; signs alone, separators and the digits of other scripts are not.
-/

namespace NicKeeper.Text

/-- The value of a digit: `0` to `9`, then letters of either case. -/
def digitValue? (base : Nat) (c : Char) : Option Nat :=
  let value? :=
    if '0' ≤ c ∧ c ≤ '9' then some (c.toNat - '0'.toNat)
    else if 'a' ≤ c ∧ c ≤ 'z' then some (c.toNat - 'a'.toNat + 10)
    else if 'A' ≤ c ∧ c ≤ 'Z' then some (c.toNat - 'A'.toNat + 10)
    else none
  value?.filter (· < base)

/-- The number that digits stand for after those that stand for `read`. -/
def digitsValue? (base : Nat) (read : Nat) : List Char → Option Nat
  | [] => some read
  | c :: rest => do digitsValue? base (read * base + (← digitValue? base c)) rest

/-- Reads an unsigned numeral below `limit`. -/
def unsigned? (base limit : Nat) (text : List Char) : Option Nat :=
  let digits := match text with
    | '+' :: rest => rest
    | _ => text
  if digits.isEmpty then none
  else (digitsValue? base 0 digits).filter (· < limit)

/-- A number in lowercase hexadecimal, at least `width` digits wide. -/
def hexadecimal (width n : Nat) : List Char :=
  let digits := Nat.toDigits 16 n
  List.replicate (width - digits.length) '0' ++ digits

def padded (width n : Nat) : List Char :=
  let digits := Nat.toDigits 10 n
  List.replicate (width - digits.length) '0' ++ digits

end NicKeeper.Text
