import NicKeeper.Text.Numeral

/-!
# Durations

A length of time in whole nanoseconds. The longest one that can be told is 2^64 - 1 seconds and
999,999,999 nanoseconds; a sum beyond it overflows.
-/

namespace NicKeeper

structure Duration where
  nanos : Nat
  deriving DecidableEq, Repr, Inhabited

namespace Duration

def ofSeconds (seconds : Nat) : Duration := ⟨seconds * 1000000000⟩
def ofMicros (micros : Nat) : Duration := ⟨micros * 1000⟩
def ofMillis (millis : Nat) : Duration := ⟨millis * 1000000⟩

def zero : Duration := ⟨0⟩

def longest : Duration := ⟨Nat.pow 2 64 * 1000000000 - 1⟩

def seconds (d : Duration) : Nat := d.nanos / 1000000000

def add (a b : Duration) : Duration := ⟨a.nanos + b.nanos⟩
def min (a b : Duration) : Duration := ⟨Nat.min a.nanos b.nanos⟩

instance : Add Duration := ⟨add⟩
instance : Min Duration := ⟨min⟩
instance : LE Duration := ⟨fun a b => a.nanos ≤ b.nanos⟩
instance : LT Duration := ⟨fun a b => a.nanos < b.nanos⟩
instance (a b : Duration) : Decidable (a ≤ b) := inferInstanceAs (Decidable (a.nanos ≤ b.nanos))
instance (a b : Duration) : Decidable (a < b) := inferInstanceAs (Decidable (a.nanos < b.nanos))

@[simp] theorem nanos_add (a b : Duration) : (a + b).nanos = a.nanos + b.nanos := rfl
@[simp] theorem nanos_min (a b : Duration) : (Min.min a b).nanos = Nat.min a.nanos b.nanos := rfl
theorem le_iff {a b : Duration} : a ≤ b ↔ a.nanos ≤ b.nanos := .rfl

/-- `count` whole units of `unit` nanoseconds each, and the rest as decimal places without zeros at
their end. -/
def inUnit (nanos unit places : Nat) (name : String) : String :=
  let digits := Text.padded places (nanos % unit)
  let kept := (digits.reverse.dropWhile (· == '0')).reverse
  let fraction := if nanos % unit = 0 then [] else '.' :: kept
  toString (nanos / unit) ++ String.ofList fraction ++ name

/-- The exact length in the largest unit of which it holds at least one. -/
def text (d : Duration) : String :=
  if 1000000000 ≤ d.nanos then inUnit d.nanos 1000000000 9 "s"
  else if 1000000 ≤ d.nanos then inUnit d.nanos 1000000 6 "ms"
  else if 1000 ≤ d.nanos then inUnit d.nanos 1000 3 "µs"
  else inUnit d.nanos 1 0 "ns"

end Duration

end NicKeeper
