import Mathlib.Data.Nat.Fib.Basic
import NicKeeper.Daemon.Backoff

/-!
# Delays in closed form

A series of retries keeps its last two delays, both of them capped. The next delay is made of these,
and not of the Fibonacci numbers that they stand for, so what the cap has cut off must not be missed
later on. It is not: a sum of capped terms is capped at the same value as the sum of the terms
(`advance_after`), and the delay after `n` retries is the Fibonacci number `n + 1` times the step,
up to the cap (`start_after`).

Whoever uses a series asks it for its next delay or starts it anew, in any order. All that counts is
how many delays there were since it was last started (`sinceStart`), so a list of requests is gone
through with that number in hand (`answers?_after`). The series can only fail where two delays that
follow one another are too long together, which takes a cap of more than half of the longest
duration (`answers_follow_fibonacci`).

A device's series is kept with the number of its failures. `Retries.of` is what a device has, with a
new series for one that has none yet; so a device that never failed and one whose failures are
forgotten are the same (`of_reset`).
-/

namespace NicKeeper

namespace Backoff

/-- The series with these two bounds after `n` of its delays. -/
def after (step cap : Duration) (n : Nat) : Backoff where
  step := step
  cap := cap
  prev := min ⟨Nat.fib n * step.nanos⟩ cap
  current := min ⟨Nat.fib (n + 1) * step.nanos⟩ cap

/-- The delay number `k` of a series, the first being number one. -/
def delay (step cap : Duration) (k : Nat) : Duration := min ⟨Nat.fib k * step.nanos⟩ cap

/-- What a series is asked for: its next delay, or to start anew. -/
inductive Request where
  | next
  | reset
  deriving DecidableEq, Repr

/-- What each request is answered, which for a reset is nothing, and the series after all of them.
There is none if the series overflows on the way. -/
def answers? (b : Backoff) : List Request → Option (List (Option Duration) × Backoff)
  | [] => some ([], b)
  | .next :: rest => do
    let (delay, b) ← b.next?
    let (answers, b) ← b.answers? rest
    return (some delay :: answers, b)
  | .reset :: rest => do
    let (answers, b) ← b.reset.answers? rest
    return (none :: answers, b)

/-- How many delays there were since the last start, `n` of them before the request. -/
def Request.count (n : Nat) : Request → Nat
  | .next => n + 1
  | .reset => 0

/-- How many delays a series was asked for since it was last started. -/
def sinceStart (requests : List Request) : Nat := requests.foldl Request.count 0

variable {step cap : Duration} {n : Nat}

theorem start_after (step cap : Duration) : after step cap 0 = start step cap := by
  have none : min (⟨0 * step.nanos⟩ : Duration) cap = .zero := by
    refine congrArg Duration.mk ?_
    show min (0 * step.nanos) cap.nanos = 0
    omega
  have once : (⟨1 * step.nanos⟩ : Duration) = step := congrArg Duration.mk (Nat.one_mul _)
  rw [after, start, Nat.fib_zero, Nat.fib_one, none, once]

theorem min_add_min (a b c : Nat) : min (min a c + min b c) c = min (a + b) c := by
  omega

/-- Nothing is lost by adding up delays that are capped. -/
theorem advance_after : (after step cap n).advance = after step cap (n + 1) := by
  have next : Nat.fib (n + 2) * step.nanos =
      Nat.fib n * step.nanos + Nat.fib (n + 1) * step.nanos := by
    rw [Nat.fib_add_two, Nat.add_mul]
  have sum : min ((after step cap n).prev + (after step cap n).current) cap =
      min ⟨Nat.fib (n + 2) * step.nanos⟩ cap := by
    rw [next]
    exact congrArg Duration.mk (min_add_min _ _ cap.nanos)
  exact congrArg (Backoff.mk step cap (after step cap n).current) sum

@[simp] theorem reset_after : (after step cap n).reset = after step cap 0 :=
  (start_after step cap).symm

/-- Where the longest duration holds the cap twice, no sum of delays is too long to be told. -/
theorem overflows_after (room : cap.nanos + cap.nanos ≤ Duration.longest.nanos) :
    (after step cap n).overflows = false := by
  refine decide_eq_false fun beyond => ?_
  have first : (after step cap n).prev.nanos ≤ cap.nanos := Nat.min_le_right _ _
  have second : (after step cap n).current.nanos ≤ cap.nanos := Nat.min_le_right _ _
  have tooLong : Duration.longest.nanos <
    (after step cap n).prev.nanos + (after step cap n).current.nanos := beyond
  omega

/-! ## Requests in any order -/

section Requests

variable {b : Backoff} {request : Request} {requests : List Request}
  {answers : List (Option Duration)}

theorem delay_le_cap (step cap : Duration) (k : Nat) : delay step cap k ≤ cap :=
  Nat.min_le_right _ _

theorem delay_mono {k m : Nat} (h : k ≤ m) : delay step cap k ≤ delay step cap m := by
  have terms : Nat.fib k * step.nanos ≤ Nat.fib m * step.nanos :=
    Nat.mul_le_mul_right _ (Nat.fib_mono h)
  show min (Nat.fib k * step.nanos) cap.nanos ≤ min (Nat.fib m * step.nanos) cap.nanos
  omega

theorem next?_after : (after step cap n).next? =
    if Duration.longest < delay step cap n + delay step cap (n + 1) then none
    else some (delay step cap (n + 1), after step cap (n + 1)) := by
  rw [next?, advance_after]
  by_cases beyond : Duration.longest < delay step cap n + delay step cap (n + 1)
  · have overflows : (after step cap n).overflows = true := decide_eq_true beyond
    rw [if_pos overflows, if_pos beyond]
  · have fits : ¬ (after step cap n).overflows = true := fun no => beyond (of_decide_eq_true no)
    rw [if_neg fits, if_neg beyond]
    rfl

/-- What a request is answered after `n` delays. -/
def answer (step cap : Duration) (n : Nat) : Request → Option Duration
  | .next => some (delay step cap (n + 1))
  | .reset => none

/-- One request is answered by the number of delays before it, and leaves the number after it. -/
theorem answers?_cons_after (step cap : Duration) (n : Nat) (request : Request)
    (requests : List Request) :
    (after step cap n).answers? (request :: requests) =
      if request = .next ∧ Duration.longest < delay step cap n + delay step cap (n + 1) then none
      else ((after step cap (request.count n)).answers? requests).map fun found =>
        (answer step cap n request :: found.1, found.2) := by
  cases request with
  | next =>
      rw [answers?, next?_after]
      by_cases beyond : Duration.longest < delay step cap n + delay step cap (n + 1)
      · rw [if_pos beyond, if_pos ⟨rfl, beyond⟩]
        rfl
      · rw [if_neg beyond, if_neg fun both => beyond both.2]
        exact Option.map_eq_bind.symm
  | reset =>
      rw [answers?, reset_after, if_neg fun both => nomatch both.1]
      exact Option.map_eq_bind.symm

theorem answers?_after (h : (after step cap n).answers? requests = some (answers, b)) :
    b = after step cap (requests.foldl Request.count n) ∧
      ∀ i : Nat, answers[i]? =
        requests[i]?.map (answer step cap ((requests.take i).foldl Request.count n)) := by
  induction requests generalizing n answers with
  | nil =>
      cases h
      exact ⟨rfl, fun i => rfl⟩
  | cons request requests ih =>
      rw [answers?_cons_after] at h
      split at h
      · cases h
      · obtain ⟨⟨rest, after⟩, answered, same⟩ := Option.map_eq_some_iff.1 h
        cases same
        obtain ⟨last, each⟩ := ih answered
        refine ⟨last, fun i => ?_⟩
        cases i with
        | zero => rfl
        | succ i => exact each i

/-- Where the longest duration holds the cap twice, every request is answered. -/
theorem exists_answers_after (room : cap.nanos + cap.nanos ≤ Duration.longest.nanos)
    (requests : List Request) : ∃ found, (after step cap n).answers? requests = some found := by
  induction requests generalizing n with
  | nil => exact ⟨_, rfl⟩
  | cons request requests ih =>
      have fits : ¬ (request = .next ∧
          Duration.longest < delay step cap n + delay step cap (n + 1)) :=
        fun both => of_decide_eq_false (overflows_after room) both.2
      obtain ⟨found, answered⟩ := ih (n := request.count n)
      rw [answers?_cons_after, if_neg fits, answered]
      exact ⟨_, rfl⟩

/-- As long as a series is not started anew, the number of its delays does not fall. -/
theorem sinceStart_take_mono {i j : Nat} (h : i ≤ j)
    (kept : ∀ k, i ≤ k → k < j → requests[k]? ≠ some .reset) :
    sinceStart (requests.take i) ≤ sinceStart (requests.take j) := by
  induction j, h using Nat.le_induction with
  | base => exact Nat.le_refl _
  | succ j h ih =>
      refine (ih fun k from' below => kept k from' (Nat.lt_succ_of_lt below)).trans ?_
      rw [List.take_add_one, sinceStart, sinceStart, List.foldl_append]
      match found : requests[j]? with
      | none => exact Nat.le_refl _
      | some .next => exact Nat.le_succ _
      | some .reset => exact absurd found (kept j h (Nat.lt_succ_self j))

/-- Requests are answered with the Fibonacci numbers times the step, counted from the last start and
up to the cap; so delays do not fall between two starts, and none is longer than the cap. -/
structure FollowsFibonacci (step cap : Duration) (requests : List Request)
    (answers : List (Option Duration)) : Prop where
  each : ∀ i : Nat, answers[i]? = requests[i]?.map fun
    | .next => some (min ⟨Nat.fib (sinceStart (requests.take i) + 1) * step.nanos⟩ cap)
    | .reset => none
  rising : ∀ (i j : Nat) (d e : Duration), i ≤ j → answers[i]? = some (some d) →
    answers[j]? = some (some e) → (∀ k, i ≤ k → k < j → requests[k]? ≠ some .reset) → d ≤ e
  capped : ∀ d, some d ∈ answers → d ≤ cap

theorem eq_delay_of_answer {i : Nat} {d : Duration}
    (each : ∀ i : Nat, answers[i]? =
      requests[i]?.map (answer step cap (sinceStart (requests.take i))))
    (h : answers[i]? = some (some d)) : d = delay step cap (sinceStart (requests.take i) + 1) := by
  rw [each i] at h
  obtain ⟨request, -, answered⟩ := Option.map_eq_some_iff.1 h
  cases request with
  | next => exact (Option.some.inj answered).symm
  | reset => cases answered

theorem followsFibonacci_of_answers
    (each : ∀ i : Nat, answers[i]? =
      requests[i]?.map (answer step cap (sinceStart (requests.take i)))) :
    FollowsFibonacci step cap requests answers where
  each i := by
    rw [each i]
    refine congrArg (fun read => requests[i]?.map read) (funext fun request => ?_)
    cases request with
    | next => rfl
    | reset => rfl
  rising i j d e h first second kept := by
    rw [eq_delay_of_answer each first, eq_delay_of_answer each second]
    exact delay_mono (Nat.succ_le_succ (sinceStart_take_mono h kept))
  capped d mem := by
    obtain ⟨i, found⟩ := List.mem_iff_getElem?.1 mem
    rw [eq_delay_of_answer each found]
    exact delay_le_cap step cap _

/-- What a series answers, whatever it is asked for. Its answers follow the Fibonacci numbers; after
`n` delays it fails exactly if the capped terms of the numbers `n` and `n + 1` are longer together
than the longest duration; and where the cap is at most half of that, it never fails. -/
theorem answers_follow_fibonacci (step cap : Duration) (requests : List Request) :
    (∀ answers b, (start step cap).answers? requests = some (answers, b) →
      FollowsFibonacci step cap requests answers ∧
        (b.next? = none ↔ Duration.longest.nanos <
          (min ⟨Nat.fib (sinceStart requests) * step.nanos⟩ cap : Duration).nanos +
            (min ⟨Nat.fib (sinceStart requests + 1) * step.nanos⟩ cap : Duration).nanos)) ∧
      (cap.nanos + cap.nanos ≤ Duration.longest.nanos →
        ∃ found, (start step cap).answers? requests = some found) := by
  rw [← start_after]
  refine ⟨fun answers b answered => ?_, fun room => exists_answers_after room requests⟩
  obtain ⟨rfl, each⟩ := answers?_after answered
  refine ⟨followsFibonacci_of_answers each, ?_⟩
  rw [next?_after]
  constructor
  · intro fails
    split at fails
    · next beyond => exact beyond
    · cases fails
  · exact fun beyond => if_pos beyond

/-- A series that is started anew, and one that can give the longest duration once and not twice. -/
theorem half_minute_follows_fibonacci :
    (∃ answers b, (start (.ofSeconds 30) (.ofSeconds 75)).answers?
        [.next, .next, .next, .next, .reset, .next] = some (answers, b) ∧
      answers = [some (.ofSeconds 30), some (.ofSeconds 30), some (.ofSeconds 60),
        some (.ofSeconds 75), none, some (.ofSeconds 30)] ∧
      FollowsFibonacci (.ofSeconds 30) (.ofSeconds 75)
        [.next, .next, .next, .next, .reset, .next] answers) ∧
      (∃ b, (start .longest .longest).answers? [.next] = some ([some .longest], b) ∧
        b.next? = none) ∧
      ∃ found, (start .longest (.ofSeconds 600)).answers? [.next, .next] = some found := by
  refine ⟨⟨_, _, rfl, by decide, ?_⟩, ⟨_, rfl, ?_⟩, ?_⟩
  · exact ((answers_follow_fibonacci _ _ _).1 _ _ rfl).1
  · exact ((answers_follow_fibonacci .longest .longest [.next]).1 _ _ rfl).2.2 (by decide)
  · exact (answers_follow_fibonacci .longest (.ofSeconds 600) [.next, .next]).2 (by decide)

end Requests

end Backoff

namespace Retry

/-- A device whose last `n` passes have failed. -/
def after (n : Nat) : Retry := ⟨.after step cap n, n⟩

theorem new_after : after 0 = new := by
  rw [after, Backoff.start_after, new]

/-- The delay of a device that has failed `n` times before, in seconds. -/
theorem current_after (n : Nat) :
    (after n).backoff.current = .ofSeconds (min (30 * Nat.fib (n + 1)) 600) := by
  refine congrArg Duration.mk ?_
  show min (Nat.fib (n + 1) * (30 * 1000000000)) (600 * 1000000000) =
    min (30 * Nat.fib (n + 1)) 600 * 1000000000
  omega

end Retry

namespace Retries

variable {retries : Retries} {key : String} {n : Nat}

/-- The failures of a device, of which there are none at first. -/
def of (retries : Retries) (key : String) : Retry := (retries.get? key).getD .new

theorem of_insert (retries : Retries) (key other : String) (retry : Retry) :
    Retries.of (retries.insert key retry) other =
      if key = other then retry else retries.of other := by
  rw [of, Dict.get?_insert]
  split
  · rfl
  · rfl

theorem fail_after (h : retries.of key = .after n) :
    retries.fail key =
      (((Retry.after n).backoff.current, n + 1), retries.insert key (.after (n + 1))) := by
  have same : (retries.get? key).getD .new = .after n := h
  have next : (Retry.after n).backoff.advance = (Retry.after (n + 1)).backoff :=
    Backoff.advance_after
  rw [fail, same, next]
  rfl

/-- A device whose failures are forgotten is like one that has never failed, and no other device is
concerned. -/
theorem of_reset (h : retries.of key = .after n) (other : String) :
    (retries.reset key).of other = if key = other then .after 0 else retries.of other := by
  rw [reset]
  cases found : retries.get? key with
  | none =>
      have none : retries.of key = .after 0 := by
        rw [of, found, Retry.new_after]
        rfl
      dsimp only
      split
      · next same => exact same ▸ none
      · rfl
  | some retry =>
      have same : retry = .after n := by
        rw [of, found] at h
        exact h
      have anew : (Retry.after n).backoff.reset = (Retry.after 0).backoff := Backoff.reset_after
      dsimp only
      rw [same, anew]
      exact of_insert retries key other _

end Retries

end NicKeeper
