import NicKeeper.Host.Memory
import NicKeeper.Proofs.PassRuns

/-!
# Passes on a node

On a node the manager is the engine, so a pass comes down to calls to the host and to status writes.
`Engine.pass` is a pass by these calls, one by one, and `Engine.work` is the same without the
writes. A pass ends because a write failed, or it does its work on the host (`pass_ended`). Any
error can be what a write fails with; one of the manager is settled as if the host had caused it,
when nothing but the comparison with the spec was asked of the host.

`onHost` runs passes on a host in memory, with any way of writing statuses beside it. The host knows
nothing of the writes: what a pass leaves behind on it is what its work leaves (`run_pass_ok`), and
where no write can fail that is all there is to it (`run_pass_accepting`).
-/

namespace NicKeeper

inductive NodeCall where
  | host (call : HostCall)
  | writeStatus (device : NicDevice) (report : Report)

abbrev NodeCall.Answer : NodeCall → Type
  | .host call => call.Answer
  | .writeStatus _ _ => Except DaemonError Unit

abbrev nodeService : Service := ⟨NodeCall, NodeCall.Answer⟩

def hostEvents (events : List (Event nodeService)) : List (Event hostService) :=
  events.filterMap fun
    | ⟨.host call, answer⟩ => some ⟨call, answer⟩
    | ⟨.writeStatus _ _, _⟩ => none

/-- The reports among the events of a node, each with its device. -/
def reportsOf (events : List (Event nodeService)) : List (NicDevice × Report) :=
  events.filterMap fun
    | ⟨.host _, _⟩ => none
    | ⟨.writeStatus device report, _⟩ => some (device, report)

@[simp] theorem hostEvents_append (first last : List (Event nodeService)) :
    hostEvents (first ++ last) = hostEvents first ++ hostEvents last :=
  List.filterMap_append

@[simp] theorem reportsOf_append (first last : List (Event nodeService)) :
    reportsOf (first ++ last) = reportsOf first ++ reportsOf last :=
  List.filterMap_append

namespace Engine

open Program

variable {α ω : Type}

def onNode (program : Program hostService α) : Program nodeService α :=
  program.interpret fun call => .ask (.host call) .done

def serve (engine : Engine) : (call : PassCall) → Program nodeService call.Answer
  | .manager call => onNode (engine.manage call)
  | .writeStatus device report => .ask (.writeStatus device report) .done

def pass (engine : Engine) (device : NicDevice) :
    Program nodeService (Except DaemonError Outcome) :=
  (Pass.configure device).run.interpret engine.serve

/-- What a pass does to the host. -/
def work (engine : Engine) (device : NicDevice) : Program hostService (Bool × Pass.Result) :=
  (Pass.work device).interpret engine.manage

theorem runs_onNode {program : Program hostService α} {events : List (Event nodeService)}
    {value : α} (h : (onNode program).Runs events value) :
    program.Runs (hostEvents events) value ∧ reportsOf events = [] := by
  induction program generalizing events with
  | done result =>
      obtain ⟨rfl, rfl⟩ := runs_done_iff.1 h
      exact ⟨.done _, rfl⟩
  | ask call next ih =>
      obtain ⟨answer, rest, rfl, hr⟩ := runs_ask_iff.1 h
      obtain ⟨runs, none⟩ := ih answer hr
      exact ⟨.ask runs, none⟩

theorem runs_writeStatus {device : NicDevice} {report : Report} {events : List (Event nodeService)}
    {answer : Except DaemonError Unit}
    (h : (Program.ask (S := nodeService) (.writeStatus device report) .done).Runs events answer) :
    events = [⟨.writeStatus device report, answer⟩] := by
  obtain ⟨_, rfl, rfl⟩ := runs_ask_done_iff.1 h
  rfl

/-- The steps of a pass on a node: its calls to the manager, each with what the engine did on the
host, and its writes. -/
theorem exists_manager_steps {engine : Engine}
    {steps : List (Event passService × List (Event nodeService))}
    (h : ∀ step ∈ steps, (engine.serve step.1.call).Runs step.2 step.1.answer) :
    (∃ inner : List (Event managerService × List (Event hostService)),
      inner.map Prod.fst = Pass.managerEvents (steps.map Prod.fst) ∧
        (inner.map Prod.snd).flatten = hostEvents (steps.map Prod.snd).flatten ∧
        ∀ step ∈ inner, (engine.manage step.1.call).Runs step.2 step.1.answer) ∧
      reportsOf (steps.map Prod.snd).flatten = Pass.statusWrites (steps.map Prod.fst) := by
  induction steps with
  | nil => exact ⟨⟨[], rfl, rfl, by simp⟩, rfl⟩
  | cons step rest ih =>
      obtain ⟨⟨inner, calls, events, all⟩, writes⟩ :=
        ih fun step mem => h step (List.mem_cons_of_mem _ mem)
      obtain ⟨⟨call, answer⟩, own⟩ := step
      have runs : (engine.serve call).Runs own answer := h _ List.mem_cons_self
      rw [List.map_cons, List.map_cons, List.flatten_cons, hostEvents_append, reportsOf_append,
        writes]
      cases call with
      | manager call =>
          obtain ⟨runs, none⟩ := runs_onNode runs
          refine ⟨⟨(⟨call, answer⟩, hostEvents own) :: inner, ?_, ?_, ?_⟩, ?_⟩
          · rw [List.map_cons, calls]
            rfl
          · rw [List.map_cons, List.flatten_cons, events]
          · intro step mem
            rcases List.mem_cons.1 mem with rfl | mem
            · exact runs
            · exact all step mem
          · rw [none]
            rfl
      | writeStatus device report =>
          obtain rfl : own = [⟨.writeStatus device report, answer⟩] := runs_writeStatus runs
          exact ⟨⟨inner, calls, events, all⟩, rfl⟩

theorem mem_of_write_failed {engine : Engine}
    {steps : List (Event passService × List (Event nodeService))} {failure : DaemonError}
    (h : ∀ step ∈ steps, (engine.serve step.1.call).Runs step.2 step.1.answer)
    (failed : Pass.WriteFailed (steps.map Prod.fst) failure) :
    ∃ device report,
      ⟨.writeStatus device report, .error failure⟩ ∈ (steps.map Prod.snd).flatten := by
  obtain ⟨device, report, mem⟩ := failed
  obtain ⟨⟨event, own⟩, mem, rfl⟩ := List.mem_map.1 mem
  obtain rfl : own = [⟨.writeStatus device report, .error failure⟩] := runs_writeStatus (h _ mem)
  exact ⟨device, report, List.mem_flatten.2 ⟨_, List.mem_map_of_mem mem, List.mem_singleton.2 rfl⟩⟩

/-- A pass on a node ends because a write failed, or it does its work on the host and writes the
reports that belong to what the work came to. -/
theorem pass_ended {engine : Engine} {device : NicDevice} {events : List (Event nodeService)}
    {answer : Except DaemonError Outcome} (h : (engine.pass device).Runs events answer) :
    (∃ failure, answer = .error failure ∧
      ∃ device report, ⟨.writeStatus device report, .error failure⟩ ∈ events) ∨
      (∃ verdict cause, answer = .ok (Pass.Result.error cause).outcome ∧
        (engine.validateNv device).run.Runs (hostEvents events) (.ok verdict) ∧
        ∃ device report, ⟨.writeStatus device report, .error (.manager cause)⟩ ∈ events) ∨
      ∃ updated result, (engine.work device).Runs (hostEvents events) (updated, result) ∧
        answer = .ok result.outcome ∧
        reportsOf events = (Pass.reports device updated result).map (device, ·) := by
  obtain ⟨steps, runs, rfl, all⟩ := runs_interpret_iff.1 h
  obtain ⟨⟨inner, calls, events, each⟩, same⟩ := exists_manager_steps all
  rcases Pass.configure_ended runs with
    ⟨failure, rfl, failed⟩ | ⟨verdict, cause, rfl, asked, failed⟩ |
      ⟨updated, result, work, rfl, writes⟩
  · exact .inl ⟨failure, rfl, mem_of_write_failed all failed⟩
  · refine .inr (.inl ⟨verdict, cause, rfl, ?_, mem_of_write_failed all failed⟩)
    obtain ⟨⟨_, own⟩, rfl, rfl⟩ := List.map_eq_singleton_iff.1 (calls.trans asked)
    have compared := each _ List.mem_cons_self
    rw [← events, List.map_singleton, List.flatten_singleton]
    exact compared
  · refine .inr (.inr ⟨updated, result, ?_, rfl, same.trans writes⟩)
    exact runs_interpret_iff.2 ⟨inner, calls ▸ work, events.symm, each⟩

/-! ## On a host in memory -/

abbrev StatusWriter (ω : Type) := NicDevice → Report → ω → Except DaemonError Unit × ω

/-- A writer that is never refused. -/
def accepting (keep : NicDevice → Report → ω → ω) : StatusWriter ω :=
  fun device report log => (.ok (), keep device report log)

def onHost (writer : StatusWriter ω) : Handler nodeService (MemoryHost × ω)
  | .host call, (host, log) =>
    let (answer, host) := MemoryHost.handle call host
    (answer, host, log)
  | .writeStatus device report, (host, log) =>
    let (answer, log) := writer device report log
    (answer, host, log)

theorem follows_host {writer : StatusWriter ω} {events : List (Event nodeService)}
    {before after : MemoryHost × ω} (h : Follows (onHost writer) before events after) :
    Follows MemoryHost.handle before.1 (hostEvents events) after.1 := by
  induction events generalizing before with
  | nil => exact congrArg Prod.fst h
  | cons event rest ih =>
      obtain ⟨call | ⟨device, report⟩, answer⟩ := event
      · exact ⟨h.1, ih h.2⟩
      · have same : (onHost writer (.writeStatus device report) before).2.1 = before.1 := rfl
        have rest := ih h.2
        rw [same] at rest
        exact rest

theorem follows_accepting {keep : NicDevice → Report → ω → ω} {events : List (Event nodeService)}
    {before after : MemoryHost × ω} (h : Follows (onHost (accepting keep)) before events after) :
    after.2 = (reportsOf events).foldl (fun log write => keep write.1 write.2 log) before.2 ∧
      ∀ device report answer, ⟨.writeStatus device report, answer⟩ ∈ events → answer = .ok () := by
  induction events generalizing before with
  | nil => exact ⟨congrArg Prod.snd h, by simp⟩
  | cons event rest ih =>
      obtain ⟨same, all⟩ := ih h.2
      obtain ⟨call | ⟨target, written⟩, answer⟩ := event
      · refine ⟨same, fun device report answer mem => ?_⟩
        rcases List.mem_cons.1 mem with no | mem
        · cases no
        · exact all device report answer mem
      · refine ⟨same, fun device report answer' mem => ?_⟩
        rcases List.mem_cons.1 mem with eq | mem
        · cases eq
          exact h.1
        · exact all device report answer' mem

/-- After a pass that ended without an error the host is as its work leaves it. -/
theorem run_pass_ok {engine : Engine} {device : NicDevice} {writer : StatusWriter ω}
    {host : MemoryHost} {log : ω} {outcome : Outcome} {after : MemoryHost × ω}
    (h : (engine.pass device).run (onHost writer) (host, log) = (.ok outcome, after))
    (sound : outcome = .applied ∨ outcome = .rebootRequired) :
    ∃ updated result,
      (engine.work device).run MemoryHost.handle host = ((updated, result), after.1) ∧
        outcome = result.outcome := by
  have runs := runs_trace (onHost writer) (engine.pass device) (host, log)
  have follows := follows_trace (onHost writer) (engine.pass device) (host, log)
  rw [h] at runs follows
  rcases pass_ended runs with
    ⟨_, no, -⟩ | ⟨_, cause, same, -⟩ | ⟨updated, result, work, same, -⟩
  · cases no
  · cases same
    obtain ⟨unapplied, unstaged⟩ := Pass.Result.outcome_error_ne cause
    exact absurd sound (not_or.2 ⟨unapplied, unstaged⟩)
  · cases same
    exact ⟨updated, result, run_eq_of_runs work (follows_host follows), rfl⟩

/-- Where no write can fail a pass is its work and its reports. -/
theorem run_pass_accepting (engine : Engine) (device : NicDevice)
    (keep : NicDevice → Report → ω → ω) (host : MemoryHost) (log : ω) :
    (engine.pass device).run (onHost (accepting keep)) (host, log) =
      let ((updated, result), after) := (engine.work device).run MemoryHost.handle host
      (.ok result.outcome, after, (Pass.reports device updated result).foldl
        (fun log report => keep device report log) log) := by
  have runs := runs_trace (onHost (accepting keep)) (engine.pass device) (host, log)
  have follows := follows_trace (onHost (accepting keep)) (engine.pass device) (host, log)
  obtain ⟨written, accepted⟩ := follows_accepting follows
  rcases pass_ended runs with
    ⟨failure, -, target, report, mem⟩ | ⟨_, _, -, -, target, report, mem⟩ |
      ⟨updated, result, work, same, writes⟩
  · cases accepted _ _ _ mem
  · cases accepted _ _ _ mem
  · rw [run_eq_of_runs work (follows_host follows)]
    rw [writes, List.foldl_map] at written
    exact Prod.ext same (Prod.ext rfl written)

end Engine

/-! ## A small node -/

namespace Sample

open Engine

def engine : Engine := { node := "n0" }

def ports : NicDevice.Ports := ⟨{ pci := "p0", networkInterface := "e0" }, []⟩

/-- A device that asks for four virtual functions, and for raw parameters. -/
def device (raw : List NvParam) : NicDevice :=
  { metadata := { name := some "d0" }
    spec := { configuration := some { template := { numVfs := 4, rawNv := raw } } }
    status := some { ports := ports.all } }

/-- A device that asks for its factory defaults. -/
def resetDevice : NicDevice :=
  { metadata := { name := some "d0" }
    spec := { configuration := some { resetToDefault := true } }
    status := some { ports := ports.all } }

/-- A host on which four virtual functions are staged, while `count` are in effect. Their number is
an advanced parameter. The gate has the value `gate` and is staged as off, and there is a parameter
that has no value but its default. -/
def host (gate count : String) : MemoryHost :=
  (((({} : MemoryHost).updateNv
    "p0" (·.addParameter gateParameter offValue gate offValue)).updateNv
    "p0" (·.addParameter "SRIOV_EN" offValue onValue onValue)).updateNv
    "p0" (·.addAdvanced "NUM_OF_VFS" "0" count "4")).updateNv
    "p0" (·.addDefault "ATS_ENABLED" onValue)

/-- A host on which `count` virtual functions are in effect and staged, the gate has the value
`gate`, and there is nothing else. -/
def advancedHost (gate count : String) : MemoryHost :=
  (({} : MemoryHost).updateNv
    "p0" (·.addParameter gateParameter offValue gate gate)).updateNv
    "p0" (·.addAdvanced "NUM_OF_VFS" "0" count count)

/-- A pass that writes its reports nowhere. -/
def pass (device : NicDevice) (host : MemoryHost) :
    Except DaemonError Outcome × MemoryHost × Unit :=
  (engine.pass device).run (onHost (accepting fun _ _ log => log)) (host, ())

end Sample

end NicKeeper
