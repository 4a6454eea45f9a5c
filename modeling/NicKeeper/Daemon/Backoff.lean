import NicKeeper.Dict
import NicKeeper.Duration

/-!
# Delays between retries

The delays of a series of retries are the Fibonacci numbers times a step, up to a cap. A device has
a series of its own, which starts anew when a pass over the device does not fail.
-/

namespace NicKeeper

structure Backoff where
  step : Duration
  cap : Duration
  prev : Duration
  current : Duration
  deriving DecidableEq, Repr

namespace Backoff

def start (step cap : Duration) : Backoff := ⟨step, cap, .zero, min step cap⟩

/-- Whether the sum that the next delay is made of is too long to be told. -/
def overflows (b : Backoff) : Bool := Duration.longest < b.prev + b.current

def advance (b : Backoff) : Backoff :=
  { b with prev := b.current, current := min (b.prev + b.current) b.cap }

/-- The current delay and the series after it, unless the series overflows. -/
def next? (b : Backoff) : Option (Duration × Backoff) :=
  if b.overflows then none else some (b.current, b.advance)

def reset (b : Backoff) : Backoff := start b.step b.cap

end Backoff

/-- The failures of a device since its last pass that did not fail. -/
structure Retry where
  backoff : Backoff
  failures : Nat
  deriving DecidableEq, Repr

namespace Retry

def step : Duration := .ofSeconds 30
def cap : Duration := .ofSeconds 600

def new : Retry := ⟨.start step cap, 0⟩

end Retry

/-- The retries of all devices, by a key for each. -/
abbrev Retries := Dict Retry

namespace Retries

/-- Records a failure, and answers the delay until the retry and how many failures there were. No
delay is longer than the cap, so no sum can overflow. -/
def fail (retries : Retries) (key : String) : (Duration × Nat) × Retries :=
  let retry := (retries.get? key).getD .new
  let failures := retry.failures + 1
  ((retry.backoff.current, failures), retries.insert key ⟨retry.backoff.advance, failures⟩)

def reset (retries : Retries) (key : String) : Retries :=
  match retries.get? key with
  | some retry => retries.insert key ⟨retry.backoff.reset, 0⟩
  | none => retries

end Retries

end NicKeeper
