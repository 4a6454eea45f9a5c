import NicKeeper.Proofs.PassRuns

/-!
# The status during a pass

Whoever watches a device sees its status, and a pass works on the device while they watch. So the
status has to be right at three moments: it says that the device is being updated before firmware
parameters are written, it says what the pass came to once the pass has an answer, and it is left
alone where it says so already.

`Pass.recorded` is the status as a pass has made it so far: the device's own, with the writes that
went through. It is told by the events alone, so what is said here holds for every manager and every
way of writing statuses, those that fail or contradict themselves included; only that a write fails
with an error of the manager, which would count as one of its answers, is left out
(`Pass.WellWritten`). `Pass.Permitted` says
which call may come after which events, and `Pass.Kept` that a list of events keeps to it. A part of
a pass is looked at together with all that came before it; what the next part needs to know of that
is whether a write failed (`Worked.kept`), which error the manager answered (`Worked.cause?_eq`) and
whether the status is still the device's own (`Worked.recorded_eq`).
-/

namespace NicKeeper

/-- A status after a report was written into it. -/
def Report.writtenTo (report : Report) (status : Option Status) : Status :=
  { status.getD {} with toReport := report }

/-- The error in an answer of a manager. -/
def ManagerCall.error? : (call : ManagerCall) → call.Answer → Option EngineError
  | .discover, .error cause => some cause
  | .validateNv _, .error cause => some cause
  | .applyNv _, .error cause => some cause
  | .applyLive _, .error cause => some cause
  | .discover, .ok _ => none
  | .validateNv _, .ok _ => none
  | .applyNv _, .ok _ => none
  | .applyLive _, .ok _ => none

/-- A report says how a pass ended: the state has the outcome's name, a boot is asked for if that is
the outcome, and the error is in the words of the one that the manager answered, which is there
exactly if the pass could not configure the device. -/
structure Report.Tells (report : Report) (outcome : Outcome) (cause : Option EngineError) :
    Prop where
  state : report.state.text = outcome.text
  reboot : report.rebootRequired = true ↔ outcome = .rebootRequired
  error : report.error = cause.map EngineError.message
  fault : cause.isSome = true ↔ outcome = .specError ∨ outcome = .failed
  spec : (∃ fault, cause = some (.incorrectSpec fault)) ↔ outcome = .specError

theorem State.eq_of_text {a b : State} (h : a.text = b.text) : a = b := by
  revert h
  cases a <;> cases b <;> decide

/-- There is one way to tell how a pass ended. -/
theorem Report.Tells.unique {a b : Report} {outcome : Outcome} {cause : Option EngineError}
    (ha : a.Tells outcome cause) (hb : b.Tells outcome cause) : a = b := by
  have state : a.state = b.state := State.eq_of_text (ha.state.trans hb.state.symm)
  have reboot : a.rebootRequired = b.rebootRequired :=
    Bool.eq_iff_iff.2 (ha.reboot.trans hb.reboot.symm)
  have error : a.error = b.error := ha.error.trans hb.error.symm
  cases a
  cases b
  cases state
  cases reboot
  cases error
  rfl

theorem Report.eq_of_matchesStatus {report : Report} {status : Option Status}
    (h : report.matchesStatus status = true) :
    ∃ found, status = some found ∧ found.toReport = report := by
  cases status with
  | none => cases h
  | some found => exact ⟨found, rfl, beq_iff_eq.1 h⟩

theorem Report.matchesStatus_some {report : Report} {status : Status}
    (h : status.toReport = report) : report.matchesStatus (some status) = true :=
  beq_iff_eq.2 h

namespace Pass

open Program

/-! ## What the events tell -/

/-- The reports whose writes went through, in their order. -/
def written (events : List (Event passService)) : List Report :=
  events.filterMap fun
    | ⟨.writeStatus _ report, .ok ()⟩ => some report
    | ⟨.writeStatus _ _, .error _⟩ => none
    | ⟨.manager _, _⟩ => none

/-- The status of a device as the events have left it. -/
def recorded (device : NicDevice) (events : List (Event passService)) : Option Status :=
  (written events).foldl (fun status report => some (report.writtenTo status)) device.status

/-- Why writes failed. -/
def failures (events : List (Event passService)) : List DaemonError :=
  events.filterMap fun
    | ⟨.writeStatus _ _, .error failure⟩ => some failure
    | ⟨.writeStatus _ _, .ok ()⟩ => none
    | ⟨.manager _, _⟩ => none

/-- No write failed with an error of the manager. -/
def WellWritten (events : List (Event passService)) : Prop :=
  ∀ failure ∈ failures events, ∀ cause, failure ≠ .manager cause

/-- What the comparison with the spec found. -/
def verdict? (events : List (Event passService)) : Option Verdict :=
  events.findSome? fun
    | ⟨.manager (.validateNv _), .ok verdict⟩ => some verdict
    | ⟨.manager (.validateNv _), .error _⟩ => none
    | ⟨.manager .discover, _⟩ => none
    | ⟨.manager (.applyNv _), _⟩ => none
    | ⟨.manager (.applyLive _), _⟩ => none
    | ⟨.writeStatus _ _, _⟩ => none

/-- The first error that the manager answered. -/
def cause? (events : List (Event passService)) : Option EngineError :=
  events.findSome? fun
    | ⟨.manager call, answer⟩ => call.error? answer
    | ⟨.writeStatus _ _, _⟩ => none

/-- Whether a pass over `device` may make a call after the events of `past`. Nothing follows a write
that failed. -/
def Permitted (device : NicDevice) (past : List (Event passService)) (call : PassCall) : Prop :=
  failures past = [] ∧
    match call with
    | .manager .discover => False
    | .manager (.validateNv target) => target = device ∧ past = []
    | .manager (.applyNv target) =>
      target = device ∧
        (∃ verdict, verdict? past = some verdict ∧ verdict.updateNeeded = true) ∧
        ∃ status, recorded device past = some status ∧
          status.toReport = { state := .updating, rebootRequired := false, error := none }
    | .manager (.applyLive target) =>
      target = device ∧
        ((∃ verdict, verdict? past = some verdict ∧ verdict.updateNeeded = false ∧
          verdict.rebootNeeded = false) ∨ ⟨.manager (.applyNv device), .ok false⟩ ∈ past)
    | .writeStatus target _ => target = device

/-- Each of the events is permitted after `past` and the events before it. -/
def Kept (device : NicDevice) (past : List (Event passService)) :
    List (Event passService) → Prop
  | [] => True
  | event :: rest => Permitted device past event.call ∧ Kept device (past ++ [event]) rest

theorem Kept.permitted {device : NicDevice} {past before after : List (Event passService)}
    {event : Event passService} (h : Kept device past (before ++ event :: after)) :
    Permitted device (past ++ before) event.call := by
  induction before generalizing past with
  | nil =>
      rw [List.append_nil]
      exact h.1
  | cons first rest ih =>
      have later := ih h.2
      rwa [List.append_assoc, List.singleton_append] at later

theorem Kept.append {device : NicDevice} {past before after : List (Event passService)}
    (first : Kept device past before) (last : Kept device (past ++ before) after) :
    Kept device past (before ++ after) := by
  induction before generalizing past with
  | nil =>
      rw [List.append_nil] at last
      exact last
  | cons event rest ih =>
      refine ⟨first.1, ih first.2 ?_⟩
      rwa [List.append_assoc, List.singleton_append]

theorem recorded_wrote (device target : NicDevice) (report : Report)
    (past : List (Event passService)) :
    recorded device (past ++ [⟨.writeStatus target report, .ok ()⟩]) =
      some (report.writtenTo (recorded device past)) := by
  rw [recorded, written, List.filterMap_append, List.foldl_append]
  rfl

theorem failures_append (before after : List (Event passService)) :
    failures (before ++ after) = failures before ++ failures after :=
  List.filterMap_append

theorem cause?_append (before after : List (Event passService)) :
    cause? (before ++ after) = (cause? before).or (cause? after) :=
  List.findSome?_append

theorem verdict?_append (before after : List (Event passService)) :
    verdict? (before ++ after) = (verdict? before).or (verdict? after) :=
  List.findSome?_append

/-! ## Results -/

def Result.cause? : Result → Option EngineError
  | .error cause => some cause
  | .applied => none
  | .rebootRequired => none

theorem isSpecError_iff {cause : EngineError} :
    cause.isSpecError = true ↔ ∃ fault, some cause = some (.incorrectSpec fault) := by
  cases cause <;> simp [EngineError.isSpecError]

theorem Result.tells (result : Result) : result.report.Tells result.outcome result.cause? := by
  cases result with
  | applied => exact ⟨rfl, by decide, rfl, by decide, by simp [cause?, outcome]⟩
  | rebootRequired => exact ⟨rfl, by decide, rfl, by decide, by simp [cause?, outcome]⟩
  | error cause =>
      rw [report, outcome, cause?]
      split
      · next spec => exact ⟨rfl, by simp [Report.ofError], rfl, by simp,
            iff_of_true (isSpecError_iff.1 spec) rfl⟩
      · next other =>
          exact ⟨rfl, by simp [Report.ofError], rfl, by simp,
            iff_of_false (fun found => other (isSpecError_iff.2 found)) (by decide)⟩

theorem Result.matchesStatus_iff (result : Result) {status : Option Status} :
    result.report.matchesStatus status = true ↔
      ∃ found, status = some found ∧ found.toReport.Tells result.outcome result.cause? := by
  constructor
  · intro told
    obtain ⟨found, same, told⟩ := Report.eq_of_matchesStatus told
    exact ⟨found, same, told ▸ result.tells⟩
  · rintro ⟨found, rfl, told⟩
    exact Report.matchesStatus_some (told.unique result.tells)

theorem Result.report_ne_updating (result : Result) : result.report ≠ .ofState .updating := by
  intro same
  have named := result.tells.state
  rw [same] at named
  revert named
  cases result.outcome <;> decide

/-! ## The part of a pass that leads to a result -/

theorem Announced.updating {device : NicDevice} {first : List (Event passService)} {written : Bool}
    (h : Announced device first written) {verdict : Verdict} :
    ∃ status,
      recorded device (⟨.manager (.validateNv device), .ok verdict⟩ :: first) = some status ∧
        status.toReport = .ofState .updating := by
  cases h with
  | said spared =>
      rw [announces, Bool.not_eq_false'] at spared
      exact Report.eq_of_matchesStatus spared
  | wrote needed => exact ⟨_, rfl, rfl⟩

theorem Announced.kept {device : NicDevice} {first : List (Event passService)} {written : Bool}
    (h : Announced device first written) {past : List (Event passService)}
    (sound : failures past = []) : Kept device past first ∧ failures (past ++ first) = [] := by
  rw [failures_append, sound]
  cases h with
  | said spared => exact ⟨trivial, rfl⟩
  | wrote needed => exact ⟨⟨⟨sound, rfl⟩, trivial⟩, rfl⟩

theorem Worked.kept {device : NicDevice} {updated written : Bool}
    {events : List (Event passService)} {result : Result}
    (h : Worked device updated written events result) :
    Kept device [] events ∧ failures events = [] := by
  cases h with
  | refuted cause => exact ⟨⟨⟨rfl, rfl, rfl⟩, trivial⟩, rfl⟩
  | waiting staged pending => exact ⟨⟨⟨rfl, rfl, rfl⟩, trivial⟩, rfl⟩
  | live staged booted set =>
      exact ⟨⟨⟨rfl, rfl, rfl⟩, ⟨rfl, rfl, .inl ⟨_, rfl, staged, booted⟩⟩, trivial⟩, rfl⟩
  | @nv verdict unstaged first written start set result stops =>
      obtain ⟨kept, sound⟩ :=
        start.kept (rfl : failures [⟨.manager (.validateNv device), .ok verdict⟩] = [])
      refine ⟨⟨⟨rfl, rfl, rfl⟩, kept.append ⟨?_, trivial⟩⟩, ?_⟩
      · exact ⟨sound, rfl, ⟨verdict, rfl, unstaged⟩, start.updating⟩
      · exact (failures_append (_ :: first) _).trans (congrArg (· ++ _) sound)
  | @nvLive verdict unstaged first written start set =>
      obtain ⟨kept, sound⟩ :=
        start.kept (rfl : failures [⟨.manager (.validateNv device), .ok verdict⟩] = [])
      have quiet (rest : List (Event passService)) :
          failures ((⟨.manager (.validateNv device), .ok verdict⟩ :: first) ++ rest) =
            failures rest := by
        rw [failures_append]
        exact congrArg (· ++ _) sound
      refine ⟨⟨⟨rfl, rfl, rfl⟩, kept.append ⟨?_, ?_, trivial⟩⟩, quiet _⟩
      · exact ⟨sound, rfl, ⟨verdict, rfl, unstaged⟩, start.updating⟩
      · exact ⟨quiet _, rfl, .inr (List.mem_append_right _ (List.mem_singleton.2 rfl))⟩

theorem Announced.cause?_eq {device : NicDevice} {first : List (Event passService)} {written : Bool}
    (h : Announced device first written) : cause? first = none := by
  cases h with
  | said spared => rfl
  | wrote needed => rfl

theorem cause?_ofLive {device : NicDevice} (set : Except EngineError Unit) :
    cause? [⟨.manager (.applyLive device), set⟩] = (Result.ofLive set).cause? := by
  cases set with
  | error cause => rfl
  | ok _ => rfl

/-- A result is an error exactly if the manager answered one, and then it is that one. -/
theorem Worked.cause?_eq {device : NicDevice} {updated written : Bool}
    {events : List (Event passService)} {result : Result}
    (h : Worked device updated written events result) : cause? events = result.cause? := by
  cases h with
  | refuted cause => rfl
  | waiting staged pending => rfl
  | live staged booted set => exact cause?_ofLive set
  | @nv verdict unstaged first written start set result stops =>
      refine (cause?_append first _).trans ?_
      rw [start.cause?_eq, Option.none_or]
      match set, stops with
      | .error cause, rfl => rfl
      | .ok true, rfl => rfl
  | @nvLive verdict unstaged first written start set =>
      refine (cause?_append first _).trans ?_
      rw [start.cause?_eq, Option.none_or]
      exact cause?_ofLive set

/-- Before a pass has written to the status, the status is what it was. -/
theorem Worked.recorded_eq {device : NicDevice} {updated : Bool}
    {events : List (Event passService)} {result : Result}
    (h : Worked device updated false events result) : recorded device events = device.status := by
  cases h with
  | refuted cause => rfl
  | waiting staged pending => rfl
  | live staged booted set => rfl
  | nv unstaged start stops =>
      cases start
      rfl
  | nvLive unstaged start set =>
      cases start
      rfl

theorem Worked.updated_iff {device : NicDevice} {updated written : Bool}
    {events : List (Event passService)} {result : Result}
    (h : Worked device updated written events result) :
    updated = true ↔ ∃ verdict, verdict? events = some verdict ∧ verdict.updateNeeded = true := by
  cases h with
  | refuted cause => simp [verdict?]
  | waiting staged pending => simp [verdict?, staged]
  | live staged booted set => simp [verdict?, staged]
  | nv unstaged start stops => exact ⟨fun _ => ⟨_, rfl, unstaged⟩, fun _ => rfl⟩
  | nvLive unstaged start set => exact ⟨fun _ => ⟨_, rfl, unstaged⟩, fun _ => rfl⟩

/-! ## The end of a pass -/

section Settled

variable {device : NicDevice} {updated written : Bool} {before last : List (Event passService)}
  {result : Result} {answer : Except DaemonError Outcome}

theorem Settled.kept (h : Settled device written result last answer)
    {past : List (Event passService)} (sound : failures past = []) : Kept device past last := by
  cases h with
  | said spared => trivial
  | wrote needed => exact ⟨⟨sound, rfl⟩, trivial⟩
  | failed needed failure => exact ⟨⟨sound, rfl⟩, trivial⟩

theorem Settled.failure_iff (h : Settled device written result last answer)
    (failure : DaemonError) : answer = .error failure ↔ failures last = [failure] := by
  cases h with
  | said spared => simp [failures]
  | wrote needed => simp [failures]
  | failed needed failure => simp [failures]

theorem Settled.verdict?_eq (h : Settled device written result last answer) :
    verdict? last = none := by
  cases h with
  | said spared => rfl
  | wrote needed => rfl
  | failed needed failure => rfl

theorem Settled.cause?_eq (h : Settled device written result last answer) : cause? last = none := by
  cases h with
  | said spared => rfl
  | wrote needed => rfl
  | failed needed failure => rfl

/-- A pass with an answer leaves a status that tells it. -/
theorem Settled.recorded_tells {outcome : Outcome}
    (h : Settled device written result last (.ok outcome))
    (worked : Worked device updated written before result) :
    ∃ status, recorded device (before ++ last) = some status ∧
      status.toReport = result.report := by
  cases h with
  | said spared =>
      rw [Bool.or_eq_false_iff, Bool.not_eq_false'] at spared
      obtain ⟨rfl, said⟩ := spared
      rw [List.append_nil, worked.recorded_eq]
      exact Report.eq_of_matchesStatus said
  | wrote needed =>
      rw [recorded_wrote]
      exact ⟨_, rfl, rfl⟩

end Settled

/-- A pass has nothing to write exactly if it does not write firmware parameters and the status
tells what it comes to already. -/
theorem reports_eq_nil_iff {device : NicDevice} {updated : Bool} {result : Result} :
    reports device updated result = [] ↔
      updated = false ∧ result.report.matchesStatus device.status = true := by
  cases updated with
  | false => simp [reports, lastReports]
  | true =>
      cases said : announces device with
      | true => simp [reports, said]
      | false =>
          -- The status says that the device is being updated, which is no result.
          rw [announces, Bool.not_eq_false'] at said
          obtain ⟨status, own, updating⟩ := Report.eq_of_matchesStatus said
          have unsaid : result.report.matchesStatus device.status ≠ true := by
            intro told
            obtain ⟨_, same, result_told⟩ := Report.eq_of_matchesStatus told
            cases own.symm.trans same
            exact result.report_ne_updating (result_told.symm.trans updating)
          simp [reports, lastReports, announces, said, unsaid]

/-- What holds of every run of a pass, whatever the manager answers and whichever writes fail, with
errors that are not of the manager: an answer is told by the status as it is then; every call is
permitted by what came before it; the pass fails with a write that fails, and only so; and it writes
nothing exactly if no firmware parameters had to be written and the status told the answer already.
-/
theorem configure_status_protocol {device : NicDevice} {events : List (Event passService)}
    {answer : Except DaemonError Outcome} (h : (configure device).run.Runs events answer)
    (plain : WellWritten events) :
    (∀ outcome, answer = .ok outcome → ∃ status, recorded device events = some status ∧
      status.toReport.Tells outcome (cause? events)) ∧
    (∀ before event after, events = before ++ event :: after →
      Permitted device before event.call) ∧
    (∀ failure, answer = .error failure ↔ failures events = [failure]) ∧
    ∀ outcome, answer = .ok outcome → (statusWrites events = [] ↔
      (¬ ∃ verdict, verdict? events = some verdict ∧ verdict.updateNeeded = true) ∧
        ∃ status, device.status = some status ∧
          status.toReport.Tells outcome (cause? events)) := by
  cases configure_configured h with
  | @unannounced verdict unstaged needed failure foreign =>
      refine ⟨nofun, ?_, ?_, nofun⟩
      · rintro before event after whole
        have all : Kept device [] (unannounced device verdict failure) :=
          ⟨⟨rfl, rfl, rfl⟩, ⟨rfl, rfl⟩, trivial⟩
        rw [whole] at all
        exact all.permitted
      · intro found
        simp [failures, unannounced]
  | @refused verdict unstaged needed cause last answer settled =>
      exact absurd rfl (plain (.manager cause) List.mem_cons_self cause)
  | @worked updated written before last result _ worked settled =>
      obtain ⟨kept, sound⟩ := worked.kept
      have causes : cause? (before ++ last) = result.cause? := by
        rw [cause?_append, worked.cause?_eq, settled.cause?_eq, Option.or_none]
      refine ⟨?_, ?_, ?_, ?_⟩
      · rintro outcome rfl
        obtain ⟨rfl, -⟩ := settled.answered
        obtain ⟨status, now, told⟩ := settled.recorded_tells worked
        rw [now, causes]
        exact ⟨status, rfl, told ▸ result.tells⟩
      · rintro first event rest whole
        have all : Kept device [] (before ++ last) := kept.append (settled.kept sound)
        rw [whole] at all
        exact all.permitted
      · intro failure
        rw [failures_append, sound]
        exact settled.failure_iff failure
      · rintro outcome rfl
        obtain ⟨rfl, writes⟩ := settled.answered
        rw [statusWrites_append, writes, worked.reports, List.map_eq_nil_iff, reports_eq_nil_iff,
          causes, verdict?_append, settled.verdict?_eq, Option.or_none, ← worked.updated_iff,
          Bool.not_eq_true]
        exact and_congr_right fun _ => result.matchesStatus_iff

/-- A pass whose firmware parameters are in place without a boot, and whose live settings fail. -/
def halfConfigured : List (Event passService) :=
  [⟨.manager (.validateNv {}), .ok ⟨true, true⟩⟩, ⟨.writeStatus {} (.ofState .updating), .ok ()⟩,
    ⟨.manager (.applyNv {}), .ok false⟩,
    ⟨.manager (.applyLive {}), .error (.host (.notFound "port"))⟩,
    ⟨.writeStatus {} (.ofError .failed "Host error: Not found: port"), .ok ()⟩]

theorem halfConfigured_told :
    (configure {}).run.Runs halfConfigured (.ok .failed) ∧
      (∃ status, recorded {} halfConfigured = some status ∧ status.state = .failed ∧
        status.error = some "Host error: Not found: port") ∧
      (∃ status, recorded {} (halfConfigured.take 2) = some status ∧ status.state = .updating) := by
  have runs : (configure {}).run.Runs halfConfigured (.ok .failed) :=
    .ask (.ask (.ask (.ask (.ask (.done _)))))
  obtain ⟨told, permitted, -, -⟩ := configure_status_protocol runs nofun
  obtain ⟨status, last, tells⟩ := told _ rfl
  obtain ⟨-, -, -, updating, seen, shown⟩ := permitted (halfConfigured.take 2) _ _ rfl
  exact ⟨runs, ⟨status, last, State.eq_of_text tells.state, tells.error⟩,
    ⟨updating, seen, congrArg Report.state shown⟩⟩

end Pass

end NicKeeper
