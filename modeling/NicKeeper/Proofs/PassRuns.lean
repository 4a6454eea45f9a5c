import NicKeeper.Daemon.Pass
import NicKeeper.Proofs.Runs

/-!
# Runs of a pass

A pass asks a manager to work on a device and writes down what that came to. `Pass.Configured` says
how a pass can go, call by call, with the writes that fail: it is worked on in one of five ways
(`Pass.Worked`), told by what was answered, and then there is at most one write left
(`Pass.Settled`). What else is to be known about the runs of a pass is read off these.

The writes have no influence on the work, except that one that fails ends the pass. So a pass can be
taken apart: `Pass.work` is what it asks of the manager, and `Pass.reports` is what it writes, which
depends on the device and on what the work came to. `configure_ended` says that every run of a pass
is a run of its work with just these writes in between, unless a write fails. It tells apart two
kinds of failure. Most are what the pass answers. But an update that cannot be announced with an
error of the manager is settled like one that the manager has answered, before any work was done.
-/

namespace NicKeeper

namespace Pass

open Program

theorem Result.outcome_error_ne (cause : EngineError) :
    (Result.error cause).outcome ≠ .applied ∧ (Result.error cause).outcome ≠ .rebootRequired := by
  rw [outcome]
  split
  · exact ⟨nofun, nofun⟩
  · exact ⟨nofun, nofun⟩

/-! ## The work of a pass -/

def liveWork (device : NicDevice) : Program managerService Result :=
  .ask (.applyLive device) fun
    | .error cause => .done (.error cause)
    | .ok () => .done .applied

def nvWork (device : NicDevice) : Program managerService Result :=
  .ask (.applyNv device) fun
    | .error cause => .done (.error cause)
    | .ok true => .done .rebootRequired
    | .ok false => liveWork device

/-- What the comparison with the spec leads to: whether firmware parameters are written, and the
work that is left. -/
def workAfter (device : NicDevice) :
    Except EngineError Verdict → Bool × Program managerService Result
  | .error cause => (false, .done (.error cause))
  | .ok verdict =>
    if verdict.updateNeeded then (true, nvWork device)
    else if verdict.rebootNeeded then (false, .done .rebootRequired)
    else (false, liveWork device)

/-- What a pass asks of the manager, and what that comes to: whether firmware parameters are
written, and the result. -/
def work (device : NicDevice) : Program managerService (Bool × Result) :=
  .ask (.validateNv device) fun answer =>
    (workAfter device answer).2.bind fun result => .done ((workAfter device answer).1, result)

/-! ## The writes of a pass -/

/-- Whether a pass that has firmware parameters written says so first. -/
def announces (device : NicDevice) : Bool :=
  !(Report.ofState .updating).matchesStatus device.status

/-- The report at the end of a pass, if it has to be written. -/
def lastReports (device : NicDevice) (written : Bool) (result : Result) : List Report :=
  if written || !result.report.matchesStatus device.status then [result.report] else []

def reports (device : NicDevice) (updated : Bool) (result : Result) : List Report :=
  if updated && announces device then .ofState .updating :: lastReports device true result
  else lastReports device false result

/-! ## Every way for a pass to go -/

def Result.ofLive : Except EngineError Unit → Result
  | .error cause => .error cause
  | .ok () => .applied

/-- What a write of firmware parameters comes to, unless the live settings are next. -/
def Result.ofNv? : Except EngineError Bool → Option Result
  | .error cause => some (.error cause)
  | .ok true => some .rebootRequired
  | .ok false => none

/-- How a pass ends once its result is known: silently where the status says so already, and with a
write otherwise. A write that fails is what the pass answers. -/
inductive Settled (device : NicDevice) (written : Bool) (result : Result) :
    List (Event passService) → Except DaemonError Outcome → Prop where
  | said (spared : (written || !result.report.matchesStatus device.status) = false) :
      Settled device written result [] (.ok result.outcome)
  | wrote (needed : (written || !result.report.matchesStatus device.status) = true) :
      Settled device written result [⟨.writeStatus device result.report, .ok ()⟩]
        (.ok result.outcome)
  | failed (needed : (written || !result.report.matchesStatus device.status) = true)
      (failure : DaemonError) :
      Settled device written result [⟨.writeStatus device result.report, .error failure⟩]
        (.error failure)

/-- How an update is announced, with whether it took a write. -/
inductive Announced (device : NicDevice) : List (Event passService) → Bool → Prop where
  | said (spared : announces device = false) : Announced device [] false
  | wrote (needed : announces device = true) :
      Announced device [⟨.writeStatus device (.ofState .updating), .ok ()⟩] true

/-- What happens when an update cannot be announced. -/
def unannounced (device : NicDevice) (verdict : Verdict) (failure : DaemonError) :
    List (Event passService) :=
  [⟨.manager (.validateNv device), .ok verdict⟩,
    ⟨.writeStatus device (.ofState .updating), .error failure⟩]

/-- The part of a pass that leads to a result, by what is answered to it: whether firmware
parameters are written, and whether a write to the status came first. -/
inductive Worked (device : NicDevice) :
    (updated written : Bool) → List (Event passService) → Result → Prop where
  | refuted (cause : EngineError) :
      Worked device false false [⟨.manager (.validateNv device), .error cause⟩] (.error cause)
  | waiting {verdict : Verdict} (staged : verdict.updateNeeded = false)
      (pending : verdict.rebootNeeded = true) :
      Worked device false false [⟨.manager (.validateNv device), .ok verdict⟩] .rebootRequired
  | live {verdict : Verdict} (staged : verdict.updateNeeded = false)
      (booted : verdict.rebootNeeded = false) (set : Except EngineError Unit) :
      Worked device false false
        [⟨.manager (.validateNv device), .ok verdict⟩, ⟨.manager (.applyLive device), set⟩]
        (.ofLive set)
  | nv {verdict : Verdict} (unstaged : verdict.updateNeeded = true)
      {first : List (Event passService)} {written : Bool} (start : Announced device first written)
      {set : Except EngineError Bool} {result : Result} (stops : Result.ofNv? set = some result) :
      Worked device true written
        (⟨.manager (.validateNv device), .ok verdict⟩ ::
          (first ++ [⟨.manager (.applyNv device), set⟩])) result
  | nvLive {verdict : Verdict} (unstaged : verdict.updateNeeded = true)
      {first : List (Event passService)} {written : Bool} (start : Announced device first written)
      (set : Except EngineError Unit) :
      Worked device true written
        (⟨.manager (.validateNv device), .ok verdict⟩ ::
          (first ++ [⟨.manager (.applyNv device), .ok false⟩,
            ⟨.manager (.applyLive device), set⟩])) (.ofLive set)

/-- What a pass does and answers. Only one that cannot announce an update comes to no result of its
work: it answers what the write failed with, or settles it if it is an error of the manager. -/
inductive Configured (device : NicDevice) :
    List (Event passService) → Except DaemonError Outcome → Prop where
  | unannounced {verdict : Verdict} (unstaged : verdict.updateNeeded = true)
      (needed : announces device = true) {failure : DaemonError}
      (foreign : ∀ cause, failure ≠ .manager cause) :
      Configured device (unannounced device verdict failure) (.error failure)
  | refused {verdict : Verdict} (unstaged : verdict.updateNeeded = true)
      (needed : announces device = true) {cause : EngineError} {last : List (Event passService)}
      {answer : Except DaemonError Outcome}
      (settled : Settled device false (.error cause) last answer) :
      Configured device (Pass.unannounced device verdict (.manager cause) ++ last) answer
  | worked {updated written : Bool} {before last : List (Event passService)} {result : Result}
      {answer : Except DaemonError Outcome} (worked : Worked device updated written before result)
      (settled : Settled device written result last answer) :
      Configured device (before ++ last) answer

theorem runs_writeStatus {device : NicDevice} {report : Report} {events : List (Event passService)}
    {answer : Except DaemonError Unit} (h : (writeStatus device report).run.Runs events answer) :
    events = [⟨.writeStatus device report, answer⟩] := by
  obtain ⟨_, rfl, rfl⟩ := runs_ask_done_iff.1 h
  rfl

/-- The manager always answers, and what follows begins with its answer. -/
theorem runs_manager_bind {α : Type} {call : ManagerCall} {next : call.Answer → Pass α}
    {events : List (Event passService)} {answer : Except DaemonError α}
    (h : (manager call >>= next).run.Runs events answer) :
    ∃ value last, events = ⟨.manager call, value⟩ :: last ∧ (next value).run.Runs last answer :=
  runs_ask_iff.1 h

theorem settle_settled {device : NicDevice} {written : Bool} {result : Result}
    {events : List (Event passService)} {answer : Except DaemonError Outcome}
    (h : (settle device written result).run.Runs events answer) :
    Settled device written result events answer := by
  rw [settle] at h
  split at h
  · next needed =>
      rcases runs_bindT_iff.1 h with ⟨failure, rfl, hw⟩ | ⟨_, first, last, rfl, hw, hl⟩
      · obtain rfl := runs_writeStatus hw
        exact .failed needed failure
      · obtain rfl := runs_writeStatus hw
        obtain ⟨rfl, rfl⟩ := runs_pureT_iff.1 hl
        exact .wrote needed
  · next spared =>
      obtain ⟨rfl, rfl⟩ := runs_pureT_iff.1 h
      exact .said (Bool.eq_false_iff.2 spared)

theorem applyLive_settled {device : NicDevice} {written : Bool}
    {events : List (Event passService)} {answer : Except DaemonError Outcome}
    (h : (applyLive device written).run.Runs events answer) :
    ∃ set last, events = ⟨.manager (.applyLive device), set⟩ :: last ∧
      Settled device written (.ofLive set) last answer := by
  obtain ⟨set, last, rfl, hl⟩ := runs_manager_bind h
  cases set with
  | error cause => exact ⟨_, last, rfl, settle_settled hl⟩
  | ok _ => exact ⟨_, last, rfl, settle_settled hl⟩

theorem announce_announced {device : NicDevice} {events : List (Event passService)}
    {answer : Except DaemonError (Except EngineError Bool)}
    (h : (announce device).run.Runs events answer) :
    (∃ failure, announces device = true ∧
      events = [⟨.writeStatus device (.ofState .updating), .error failure⟩] ∧
      ((∀ cause, failure ≠ .manager cause) ∧ answer = .error failure ∨
        ∃ cause, failure = .manager cause ∧ answer = .ok (.error cause))) ∨
      ∃ written, answer = .ok (.ok written) ∧ Announced device events written := by
  rw [announce] at h
  split at h
  · next said =>
      obtain ⟨rfl, rfl⟩ := runs_pureT_iff.1 h
      exact .inr ⟨false, rfl, .said (by rw [announces, said]; rfl)⟩
  · next unsaid =>
      have needed : announces device = true := by
        rw [announces, Bool.eq_false_iff.2 unsaid]
        rfl
      obtain ⟨found, last, rfl, done⟩ := runs_ask_iff.1 h
      match found with
      | .ok () =>
          obtain ⟨rfl, rfl⟩ := runs_done_iff.1 done
          exact .inr ⟨true, rfl, .wrote needed⟩
      | .error (.manager cause) =>
          obtain ⟨rfl, rfl⟩ := runs_done_iff.1 done
          exact .inl ⟨_, needed, rfl, .inr ⟨cause, rfl, rfl⟩⟩
      | .error (.api failure) =>
          obtain ⟨rfl, rfl⟩ := runs_done_iff.1 done
          exact .inl ⟨_, needed, rfl, .inl ⟨nofun, rfl⟩⟩
      | .error (.settings fault) =>
          obtain ⟨rfl, rfl⟩ := runs_done_iff.1 done
          exact .inl ⟨_, needed, rfl, .inl ⟨nofun, rfl⟩⟩
      | .error (.watch message) =>
          obtain ⟨rfl, rfl⟩ := runs_done_iff.1 done
          exact .inl ⟨_, needed, rfl, .inl ⟨nofun, rfl⟩⟩

theorem stageNv_configured {device : NicDevice} {verdict : Verdict}
    (unstaged : verdict.updateNeeded = true) {first : List (Event passService)} {written : Bool}
    (start : Announced device first written) {events : List (Event passService)}
    {answer : Except DaemonError Outcome} (h : (stageNv device written).run.Runs events answer) :
    Configured device (⟨.manager (.validateNv device), .ok verdict⟩ :: (first ++ events))
      answer := by
  obtain ⟨set, last, rfl, hl⟩ := runs_manager_bind h
  rw [List.append_cons, ← List.cons_append]
  match set with
  | .error cause => exact .worked (.nv unstaged start rfl) (settle_settled hl)
  | .ok true => exact .worked (.nv unstaged start rfl) (settle_settled hl)
  | .ok false =>
      obtain ⟨set, last, rfl, settled⟩ := applyLive_settled hl
      rw [List.append_cons, List.cons_append, List.append_assoc]
      exact .worked (.nvLive unstaged start set) settled

theorem applyNv_configured {device : NicDevice} {verdict : Verdict}
    (unstaged : verdict.updateNeeded = true) {events : List (Event passService)}
    {answer : Except DaemonError Outcome} (h : (applyNv device).run.Runs events answer) :
    Configured device (⟨.manager (.validateNv device), .ok verdict⟩ :: events) answer := by
  rcases runs_bindT_iff.1 h with ⟨failure, rfl, ha⟩ | ⟨announced, first, rest, rfl, ha, hr⟩
  · rcases announce_announced ha with
      ⟨_, needed, rfl, ⟨foreign, same⟩ | ⟨_, -, no⟩⟩ | ⟨_, no, -⟩
    · cases same
      exact .unannounced unstaged needed foreign
    · cases no
    · cases no
  · rcases announce_announced ha with
      ⟨_, needed, rfl, ⟨-, no⟩ | ⟨cause, rfl, same⟩⟩ | ⟨written, same, start⟩
    · cases no
    · cases same
      exact .refused unstaged needed (settle_settled hr)
    · cases same
      exact stageNv_configured unstaged start hr

/-- Every run of a pass goes one of these ways. -/
theorem configure_configured {device : NicDevice} {events : List (Event passService)}
    {answer : Except DaemonError Outcome} (h : (configure device).run.Runs events answer) :
    Configured device events answer := by
  obtain ⟨value, last, rfl, hl⟩ := runs_manager_bind h
  cases value with
  | error cause => exact .worked (.refuted cause) (settle_settled hl)
  | ok verdict =>
      dsimp only at hl
      split at hl
      · next unstaged => exact applyNv_configured unstaged hl
      · next staged =>
          have staged := Bool.eq_false_iff.2 staged
          split at hl
          · next pending => exact .worked (.waiting staged pending) (settle_settled hl)
          · next booted =>
              obtain ⟨set, last, rfl, settled⟩ := applyLive_settled hl
              exact .worked (.live staged (Bool.eq_false_iff.2 booted) set) settled

/-! ## The work and the writes in the events of a run -/

def managerEvents (events : List (Event passService)) : List (Event managerService) :=
  events.filterMap fun
    | ⟨.manager call, answer⟩ => some ⟨call, answer⟩
    | ⟨.writeStatus _ _, _⟩ => none

/-- The reports that were to be written, each with its device. -/
def statusWrites (events : List (Event passService)) : List (NicDevice × Report) :=
  events.filterMap fun
    | ⟨.manager _, _⟩ => none
    | ⟨.writeStatus device report, _⟩ => some (device, report)

@[simp] theorem managerEvents_append (first last : List (Event passService)) :
    managerEvents (first ++ last) = managerEvents first ++ managerEvents last :=
  List.filterMap_append

@[simp] theorem statusWrites_append (first last : List (Event passService)) :
    statusWrites (first ++ last) = statusWrites first ++ statusWrites last :=
  List.filterMap_append

@[simp] theorem managerEvents_manager (call : ManagerCall) (answer : call.Answer)
    (rest : List (Event passService)) :
    managerEvents (⟨.manager call, answer⟩ :: rest) = ⟨call, answer⟩ :: managerEvents rest := rfl

@[simp] theorem statusWrites_manager (call : ManagerCall) (answer : call.Answer)
    (rest : List (Event passService)) :
    statusWrites (⟨.manager call, answer⟩ :: rest) = statusWrites rest := rfl

def WriteFailed (events : List (Event passService)) (failure : DaemonError) : Prop :=
  ∃ device report, ⟨.writeStatus device report, .error failure⟩ ∈ events

theorem workAfter_unstaged (device : NicDevice) {verdict : Verdict}
    (unstaged : verdict.updateNeeded = true) :
    workAfter device (.ok verdict) = (true, nvWork device) := by
  rw [workAfter, if_pos unstaged]

theorem workAfter_pending (device : NicDevice) {verdict : Verdict}
    (staged : verdict.updateNeeded = false) (pending : verdict.rebootNeeded = true) :
    workAfter device (.ok verdict) = (false, .done .rebootRequired) := by
  rw [workAfter, if_neg (Bool.eq_false_iff.1 staged), if_pos pending]

theorem workAfter_booted (device : NicDevice) {verdict : Verdict}
    (staged : verdict.updateNeeded = false) (booted : verdict.rebootNeeded = false) :
    workAfter device (.ok verdict) = (false, liveWork device) := by
  rw [workAfter, if_neg (Bool.eq_false_iff.1 staged), if_neg (Bool.eq_false_iff.1 booted)]

theorem work_runs {device : NicDevice} {verdict : Except EngineError Verdict} {updated : Bool}
    {part : Program managerService Result} {events : List (Event managerService)} {result : Result}
    (after : workAfter device verdict = (updated, part)) (h : part.Runs events result) :
    (work device).Runs (⟨.validateNv device, verdict⟩ :: events) (updated, result) := by
  refine .ask (runs_bind_iff.2 ⟨result, events, [], (List.append_nil _).symm, ?_, ?_⟩)
  · rw [after]
    exact h
  · rw [after]
    exact .done _

theorem liveWork_runs (device : NicDevice) (set : Except EngineError Unit) :
    (liveWork device).Runs [⟨.applyLive device, set⟩] (.ofLive set) := by
  refine .ask ?_
  cases set with
  | error cause => exact .done _
  | ok _ => exact .done _

theorem nvWork_runs (device : NicDevice) {set : Except EngineError Bool} {result : Result}
    (stops : Result.ofNv? set = some result) :
    (nvWork device).Runs [⟨.applyNv device, set⟩] result := by
  refine .ask ?_
  match set with
  | .error cause =>
      cases stops
      exact .done _
  | .ok true =>
      cases stops
      exact .done _

theorem Announced.quiet {device : NicDevice} {events : List (Event passService)} {written : Bool}
    (h : Announced device events written) : managerEvents events = [] := by
  cases h with
  | said spared => rfl
  | wrote needed => rfl

theorem Worked.runs {device : NicDevice} {updated written : Bool}
    {events : List (Event passService)} {result : Result}
    (h : Worked device updated written events result) :
    (work device).Runs (managerEvents events) (updated, result) := by
  cases h with
  | refuted cause => exact work_runs rfl (.done _)
  | waiting staged pending => exact work_runs (workAfter_pending device staged pending) (.done _)
  | live staged booted set =>
      exact work_runs (workAfter_booted device staged booted) (liveWork_runs device set)
  | nv unstaged start stops =>
      rw [managerEvents_manager, managerEvents_append, start.quiet]
      exact work_runs (workAfter_unstaged device unstaged) (nvWork_runs device stops)
  | nvLive unstaged start set =>
      rw [managerEvents_manager, managerEvents_append, start.quiet]
      exact work_runs (workAfter_unstaged device unstaged) (.ask (liveWork_runs device set))

theorem Announced.reports {device : NicDevice} {events : List (Event passService)} {written : Bool}
    (h : Announced device events written) (result : Result) :
    statusWrites events ++ (lastReports device written result).map (device, ·) =
      (reports device true result).map (device, ·) := by
  rw [Pass.reports, Bool.true_and]
  cases h with
  | said spared =>
      rw [spared]
      rfl
  | wrote needed =>
      rw [needed]
      rfl

/-- The writes of a pass are the one before its work, if there was any, and the one after it. -/
theorem Worked.reports {device : NicDevice} {updated written : Bool}
    {events : List (Event passService)} {result : Result}
    (h : Worked device updated written events result) :
    statusWrites events ++ (lastReports device written result).map (device, ·) =
      (reports device updated result).map (device, ·) := by
  cases h with
  | refuted cause => rfl
  | waiting staged pending => rfl
  | live staged booted set => rfl
  | nv unstaged start stops =>
      rw [statusWrites_manager, statusWrites_append, ← start.reports]
      exact congrArg (· ++ _) (List.append_nil _)
  | nvLive unstaged start set =>
      rw [statusWrites_manager, statusWrites_append, ← start.reports]
      exact congrArg (· ++ _) (List.append_nil _)

theorem Settled.quiet {device : NicDevice} {written : Bool} {result : Result}
    {events : List (Event passService)} {answer : Except DaemonError Outcome}
    (h : Settled device written result events answer) : managerEvents events = [] := by
  cases h with
  | said spared => rfl
  | wrote needed => rfl
  | failed needed failure => rfl

/-- An end with an answer has written what was due. -/
theorem Settled.answered {device : NicDevice} {written : Bool} {result : Result}
    {events : List (Event passService)} {outcome : Outcome}
    (h : Settled device written result events (.ok outcome)) :
    outcome = result.outcome ∧
      statusWrites events = (lastReports device written result).map (device, ·) := by
  cases h with
  | said spared =>
      rw [lastReports, spared]
      exact ⟨rfl, rfl⟩
  | wrote needed =>
      rw [lastReports, if_pos needed]
      exact ⟨rfl, rfl⟩

theorem Settled.writeFailed {device : NicDevice} {written : Bool} {result : Result}
    {events : List (Event passService)} {failure : DaemonError}
    (h : Settled device written result events (.error failure)) : WriteFailed events failure := by
  cases h with
  | failed needed => exact ⟨device, _, List.mem_singleton.2 rfl⟩

/-- A pass ends because a write failed, or it does its work and writes the reports that belong to
what the work came to. Where the write failed with an error of the manager before any work was done,
the pass ends like one that the manager has answered so. -/
theorem configure_ended {device : NicDevice} {events : List (Event passService)}
    {answer : Except DaemonError Outcome} (h : (configure device).run.Runs events answer) :
    (∃ failure, answer = .error failure ∧ WriteFailed events failure) ∨
      (∃ verdict cause, answer = .ok (Result.error cause).outcome ∧
        managerEvents events = [⟨.validateNv device, .ok verdict⟩] ∧
        WriteFailed events (.manager cause)) ∨
      ∃ updated result, (work device).Runs (managerEvents events) (updated, result) ∧
        answer = .ok result.outcome ∧
        statusWrites events = (reports device updated result).map (device, ·) := by
  cases configure_configured h with
  | @unannounced verdict unstaged needed failure foreign =>
      exact .inl ⟨failure, rfl, device, _, List.mem_cons_of_mem _ (List.mem_singleton.2 rfl)⟩
  | @refused verdict unstaged needed cause last answer settled =>
      cases answer with
      | error failure =>
          obtain ⟨target, report, mem⟩ := settled.writeFailed
          exact .inl ⟨failure, rfl, target, report, List.mem_append_right _ mem⟩
      | ok outcome =>
          obtain ⟨rfl, -⟩ := settled.answered
          refine .inr (.inl ⟨verdict, cause, rfl, ?_, device, .ofState .updating, ?_⟩)
          · rw [managerEvents_append, settled.quiet, List.append_nil]
            rfl
          · exact List.mem_append_left _ (List.mem_cons_of_mem _ (List.mem_singleton.2 rfl))
  | @worked updated written before last result _ worked settled =>
      cases answer with
      | error failure =>
          obtain ⟨target, report, mem⟩ := settled.writeFailed
          exact .inl ⟨failure, rfl, target, report, List.mem_append_right _ mem⟩
      | ok outcome =>
          obtain ⟨rfl, writes⟩ := settled.answered
          refine .inr (.inr ⟨updated, result, ?_, rfl, ?_⟩)
          · rw [managerEvents_append, settled.quiet, List.append_nil]
            exact worked.runs
          · rw [statusWrites_append, writes]
            exact worked.reports

/-! ## What a pass asks of its manager -/

/-- What a pass can have asked of the manager, whether it came to its end or a write failed. -/
inductive Asked (device : NicDevice) : List (Event managerService) → Prop where
  | compared (answer : Except EngineError Verdict) : Asked device [⟨.validateNv device, answer⟩]
  | live (answer : Except EngineError Verdict) (set : Except EngineError Unit) :
      Asked device [⟨.validateNv device, answer⟩, ⟨.applyLive device, set⟩]
  | staged {verdict : Verdict} (needed : verdict.updateNeeded = true)
      (answer : Except EngineError Bool) :
      Asked device [⟨.validateNv device, .ok verdict⟩, ⟨.applyNv device, answer⟩]
  | stagedLive {verdict : Verdict} (needed : verdict.updateNeeded = true)
      (set : Except EngineError Unit) :
      Asked device [⟨.validateNv device, .ok verdict⟩, ⟨.applyNv device, .ok false⟩,
        ⟨.applyLive device, set⟩]

theorem Worked.asked {device : NicDevice} {updated written : Bool}
    {events : List (Event passService)} {result : Result}
    (h : Worked device updated written events result) : Asked device (managerEvents events) := by
  cases h with
  | refuted cause => exact .compared _
  | waiting staged pending => exact .compared _
  | live staged booted set => exact .live _ set
  | nv unstaged start stops =>
      rw [managerEvents_manager, managerEvents_append, start.quiet]
      exact .staged unstaged _
  | nvLive unstaged start set =>
      rw [managerEvents_manager, managerEvents_append, start.quiet]
      exact .stagedLive unstaged set

theorem configure_asked {device : NicDevice} {events : List (Event passService)}
    {answer : Except DaemonError Outcome} (h : (configure device).run.Runs events answer) :
    Asked device (managerEvents events) := by
  cases configure_configured h with
  | unannounced unstaged needed foreign => exact .compared _
  | refused unstaged needed settled =>
      rw [managerEvents_append, settled.quiet, List.append_nil]
      exact .compared _
  | worked worked settled =>
      rw [managerEvents_append, settled.quiet, List.append_nil]
      exact worked.asked

end Pass

end NicKeeper
