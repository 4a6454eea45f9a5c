import NicKeeper.Daemon.Reconcile
import NicKeeper.Proofs.Delays
import NicKeeper.Proofs.Runs

/-!
# When devices are looked at again

A daemon visits devices in any order, and what it remembers between two visits are the failures of
each device. `Place.Visited` is a list of visits, the latest first, that one daemon has made, with
any answers of the manager and of the status writer; so a statement about its first visit is one
about every visit that a daemon makes.

What counts for the delays of a device is told by the visits alone: `Place.outcomes` are those of
the passes over the devices of a key that came to one, and `failuresInARow` is how many of these
have failed since the last that did not. The invariant is that a daemon remembers this number for
every key, with the series of delays that belongs to it (`of_visited`). One visit keeps it: a visit
without a pass, or with one that could not write the status, adds nothing to the outcomes and
changes nothing that is remembered (`reconcile_concluded`), and an outcome does the same to both
sides (`of_follow`).
-/

namespace NicKeeper

open Program

deriving instance DecidableEq for ManagerCall
deriving instance DecidableEq for PassCall

/-- What was asked and answered during one visit to a device, and what the visit came to. -/
structure Visit where
  device : NicDevice
  events : List (Event passService)
  answer : Except DaemonError Action

/-- What the pass of a visit came to, if there was one that could write the status. -/
def Visit.outcome? (visit : Visit) : Option Outcome :=
  ((Pass.configure visit.device).run.answer? visit.events).bind Except.toOption

theorem Visit.outcome?_of_runs {visit : Visit} {found : Except DaemonError Outcome}
    (h : (Pass.configure visit.device).run.Runs visit.events found) :
    visit.outcome? = found.toOption := by
  have told : (Pass.configure visit.device).run.answer? visit.events = some found :=
    (runs_iff_answer? (S := passService)).1 h
  rw [outcome?, told]
  rfl

/-- A pass begins with a call, so there was none if there were no calls. -/
theorem Visit.outcome?_of_quiet {visit : Visit} (quiet : visit.events = []) :
    visit.outcome? = none := by
  rw [outcome?, quiet]
  rfl

/-- How many of the outcomes, of which the latest is first, are failures without another in
between. -/
def failuresInARow (outcomes : List Outcome) : Nat :=
  (outcomes.takeWhile (· = .failed)).length

theorem failuresInARow_cons (outcome : Outcome) (outcomes : List Outcome) :
    failuresInARow (outcome :: outcomes) =
      if outcome = .failed then failuresInARow outcomes + 1 else 0 := by
  rw [failuresInARow, List.takeWhile_cons]
  cases outcome <;> rfl

/-- When a device is looked at again after a pass, the `n`-th in a row to fail if it did. -/
def Outcome.nextLook (n : Nat) : Outcome → Action
  | .applied => .requeue (.ofSeconds 600)
  | .rebootRequired => .requeue (.ofSeconds 600)
  | .specError => .awaitChange
  | .failed => .requeue (.ofSeconds (min (30 * Nat.fib n) 600))

namespace Place

variable {place : Place} {before after retries : Retries} {device : NicDevice} {key : String}

/-- A device that was found on this node, has ports and carries a configuration. -/
def Manages (place : Place) (device : NicDevice) : Prop :=
  device.spec.configuration ≠ none ∧
    ∃ status, device.status = some status ∧ status.node = place.node ∧ status.ports ≠ []

theorem isManagedBy_iff : device.isManagedBy place.node = true ↔ place.Manages device := by
  rw [NicDevice.isManagedBy, Manages, Bool.and_eq_true, Option.isSome_iff_ne_none,
    Option.any_eq_true]
  simp

/-- One daemon made these visits, the latest of which is first, and remembers `retries` after
them. -/
inductive Visited (place : Place) : List Visit → Retries → Prop where
  | nothing : Visited place [] {}
  | visit {visit : Visit} {earlier : List Visit} {before after : Retries}
      (first : Visited place earlier before)
      (run : (place.reconcile before visit.device).Runs visit.events (visit.answer, after)) :
      Visited place (visit :: earlier) after

/-- The outcomes of the passes over devices of a key. -/
def outcomes (place : Place) (key : String) (visits : List Visit) : List Outcome :=
  visits.filterMap fun visit =>
    if place.retryKey visit.device = key then visit.outcome? else none

/-! ## One visit -/

/-- What a visit to a managed device comes to, and what is remembered then. -/
def conclude (place : Place) (before : Retries) (device : NicDevice) :
    Except DaemonError Outcome → Except DaemonError Action × Retries
  | .error failure => (.error failure, before)
  | .ok outcome =>
    (.ok (follow before (place.retryKey device) outcome).1,
      (follow before (place.retryKey device) outcome).2)

/-- A visit is a pass and what follows from it, or nothing at all. -/
theorem reconcile_concluded {events : List (Event passService)}
    {answer : Except DaemonError Action}
    (h : (place.reconcile before device).Runs events (answer, after)) :
    (¬ place.Manages device ∧ events = [] ∧ answer = .ok .awaitChange ∧ after = before) ∨
      place.Manages device ∧ ∃ found, (Pass.configure device).run.Runs events found ∧
        (answer, after) = place.conclude before device found := by
  rw [reconcile] at h
  split at h
  · next foreign =>
      obtain ⟨rfl, same⟩ := runs_done_iff.1 h
      cases same
      have unmanaged : ¬ place.Manages device := fun own => by
        rw [isManagedBy_iff.2 own] at foreign
        cases foreign
      exact .inl ⟨unmanaged, rfl, rfl, rfl⟩
  · next own =>
      have managed : place.Manages device := isManagedBy_iff.1 (by simpa using own)
      obtain ⟨found, pass, last, rfl, hp, hl⟩ := runs_bind_iff.1 h
      refine .inr ⟨managed, found, ?_⟩
      cases found with
      | error failure => exact hp.then_done hl
      | ok outcome => exact hp.then_done hl

/-- What a pass comes to is remembered for its own key. -/
theorem of_follow {n : Nat} (h : retries.of key = .after n) (outcome : Outcome) (other : String) :
    (follow retries key outcome).2.of other =
      if key = other then .after (if outcome = .failed then n + 1 else 0)
      else retries.of other := by
  cases outcome with
  | applied => exact Retries.of_reset h other
  | rebootRequired => exact Retries.of_reset h other
  | specError => exact Retries.of_reset h other
  | failed =>
      have made : (follow retries key .failed).2 = retries.insert key (.after (n + 1)) := by
        rw [follow, Retries.fail_after h]
      rw [made]
      exact Retries.of_insert retries key other _

theorem follow_nextLook {n : Nat} (h : retries.of key = .after n) (outcome : Outcome) :
    (follow retries key outcome).1 =
      outcome.nextLook (if outcome = .failed then n + 1 else 0) := by
  cases outcome with
  | applied => rfl
  | rebootRequired => rfl
  | specError => rfl
  | failed =>
      rw [follow, Retries.fail_after h]
      exact congrArg Action.requeue (Retry.current_after n)

theorem outcomes_cons_of_ne {visit : Visit} {earlier : List Visit}
    (other : place.retryKey visit.device ≠ key) :
    place.outcomes key (visit :: earlier) = place.outcomes key earlier :=
  List.filterMap_cons_none (if_neg other)

theorem outcomes_cons_of_none {visit : Visit} {earlier : List Visit}
    (none : visit.outcome? = none) :
    place.outcomes key (visit :: earlier) = place.outcomes key earlier := by
  refine List.filterMap_cons_none ?_
  rw [none, ite_self]

theorem outcomes_cons_of_some {visit : Visit} {earlier : List Visit} {outcome : Outcome}
    (own : place.retryKey visit.device = key) (came : visit.outcome? = some outcome) :
    place.outcomes key (visit :: earlier) = outcome :: place.outcomes key earlier :=
  List.filterMap_cons_some ((if_pos own).trans came)

/-! ## All visits -/

/-- A daemon remembers how often the devices of each key have failed in a row. -/
theorem of_visited {visits : List Visit} (h : place.Visited visits retries) (key : String) :
    retries.of key = .after (failuresInARow (place.outcomes key visits)) := by
  induction h generalizing key with
  | nothing => exact Retry.new_after.symm
  | @visit visit earlier before after first run ih =>
      rcases reconcile_concluded run with ⟨-, quiet, -, rfl⟩ | ⟨-, found, pass, concluded⟩
      · rw [outcomes_cons_of_none (Visit.outcome?_of_quiet quiet)]
        exact ih key
      · have came := Visit.outcome?_of_runs pass
        cases found with
        | error failure =>
            obtain ⟨-, rfl⟩ := Prod.mk.inj concluded
            rw [outcomes_cons_of_none came]
            exact ih key
        | ok outcome =>
            obtain ⟨-, rfl⟩ := Prod.mk.inj concluded
            rw [of_follow (ih _) outcome key]
            split
            · next own => rw [outcomes_cons_of_some own came, failuresInARow_cons, own]
            · next other =>
                rw [outcomes_cons_of_ne other]
                exact ih key

/-- What holds of every visit of a daemon, whatever was answered during it and before. A device that
is not managed here is left alone. A pass over another is followed by the next look: after a failure
the delay is a Fibonacci number of half minutes, up to ten minutes, by how many passes over devices
of the same key have failed in a row; and a pass that could not write the status is an error. Visits
for other keys, visits without a pass and those that end in an error count for nothing. -/
theorem visited_at_cadence {visit : Visit} {earlier : List Visit}
    (h : place.Visited (visit :: earlier) retries) :
    (¬ place.Manages visit.device → visit.events = [] ∧ visit.answer = .ok .awaitChange) ∧
    (place.Manages visit.device → ∃ found,
      (Pass.configure visit.device).run.Runs visit.events found ∧
      visit.answer = found.map (Outcome.nextLook (failuresInARow
        (place.outcomes (place.retryKey visit.device) (visit :: earlier))))) ∧
    ∀ key, (place.retryKey visit.device ≠ key ∨ ¬ place.Manages visit.device ∨
        ∃ failure, visit.answer = .error failure) →
      place.outcomes key (visit :: earlier) = place.outcomes key earlier := by
  cases h with
  | visit first run =>
  rcases reconcile_concluded run with ⟨foreign, quiet, answer, -⟩ | ⟨own, found, pass, concluded⟩
  · exact ⟨fun _ => ⟨quiet, answer⟩, fun own => absurd own foreign,
      fun key _ => outcomes_cons_of_none (Visit.outcome?_of_quiet quiet)⟩
  · have came := Visit.outcome?_of_runs pass
    refine ⟨fun foreign => absurd own foreign, fun _ => ⟨found, pass, ?_⟩, ?_⟩
    · cases found with
      | error failure => exact (Prod.mk.inj concluded).1
      | ok outcome =>
          obtain ⟨answer, -⟩ := Prod.mk.inj concluded
          rw [answer, follow_nextLook (of_visited first _), outcomes_cons_of_some rfl came,
            failuresInARow_cons]
          rfl
    · rintro key (other | foreign | ⟨failure, failed⟩)
      · exact outcomes_cons_of_ne other
      · exact absurd own foreign
      · refine outcomes_cons_of_none ?_
        cases found with
        | error failure => exact came
        | ok outcome =>
            obtain ⟨answer, -⟩ := Prod.mk.inj concluded
            cases answer.symm.trans failed

/-! ## Visits of one node -/

def keeper : Place := { node := "w", nspace := "default" }

/-- A card with one port, which is to be configured. -/
def kept (name : String) : NicDevice where
  metadata := { name := some name }
  spec := { configuration := some {} }
  status := some { node := "w", ports := [{ pci := "0000:3b:00.0" }] }

/-- A visit to a card that the manager cannot reach. -/
def failingVisit (name : String) (written : Except DaemonError Unit)
    (answer : Except DaemonError Action) : Visit where
  device := kept name
  events := [
    ⟨.manager (.validateNv (kept name)), .error (.host (.notFound "port"))⟩,
    ⟨.writeStatus (kept name) (.ofError .failed "Host error: Not found: port"), written⟩]
  answer := answer

def thirdFailure : Visit := failingVisit "a" (.ok ()) (.ok (.requeue (.ofSeconds 60)))

/-- Two failures of the same card before, and after them the failure of another one, a visit to a
device that is not managed, and a status that could not be written. -/
def beforeThirdFailure : List Visit := [
  failingVisit "a" (.error (.watch "gone")) (.error (.watch "gone")),
  ⟨{}, [], .ok .awaitChange⟩,
  failingVisit "b" (.ok ()) (.ok (.requeue (.ofSeconds 30))),
  failingVisit "a" (.ok ()) (.ok (.requeue (.ofSeconds 30))),
  failingVisit "a" (.ok ()) (.ok (.requeue (.ofSeconds 30)))]

theorem thirdFailure_at_cadence :
    (∃ retries, keeper.Visited (thirdFailure :: beforeThirdFailure) retries) ∧
      keeper.Manages thirdFailure.device ∧
      failuresInARow (keeper.outcomes "default/a" (thirdFailure :: beforeThirdFailure)) = 3 ∧
      ∃ found, (Pass.configure thirdFailure.device).run.Runs thirdFailure.events found ∧
        (.ok (.requeue (.ofSeconds 60)) : Except DaemonError Action) =
          found.map (Outcome.nextLook 3) := by
  have visited : ∃ retries, keeper.Visited (thirdFailure :: beforeThirdFailure) retries :=
    ⟨_, .visit (.visit (.visit (.visit (.visit (.visit .nothing (.ask (.ask (.done _))))
      (.ask (.ask (.done _)))) (.ask (.ask (.done _)))) (.done _)) (.ask (.ask (.done _))))
      (.ask (.ask (.done _)))⟩
  have managed : keeper.Manages thirdFailure.device := ⟨nofun, _, rfl, rfl, nofun⟩
  obtain ⟨retries, run⟩ := visited
  exact ⟨⟨retries, run⟩, managed, rfl, (visited_at_cadence run).2.1 managed⟩

end Place

end NicKeeper
