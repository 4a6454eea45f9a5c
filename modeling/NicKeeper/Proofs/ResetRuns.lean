import NicKeeper.Proofs.CallsMade
import NicKeeper.Proofs.FirmwareOnMemory

/-!
# Passes that may reset a device

A device may ask for nothing but its factory defaults. What a pass can then do to its firmware
parameters, whatever the host answers and whether a status write ends the pass early, is little: no
change at all, a reset that fails, or a reset after which the gate is to be switched on. `Resetting`
lists these ways. The pass has looked at the parameters before it resets them, and saw that they
differ from the defaults both in effect and as staged.

Live settings are brought about by other calls, so they can be left out of account
(`applyLive_spares`).
-/

namespace NicKeeper

open Program

theorem HostCall.mutates_of_changesNv {call : HostCall} (h : call.changesNv = true) :
    call.mutates = true := by
  cases call with
  | setNv | resetNv | resetFirmware => rfl
  | _ => cases h

/-- No call among the events changes firmware parameters. -/
def SparesNv (events : List (Event hostService)) : Prop :=
  ∀ event ∈ events, event.call.changesNv = false

theorem sparesNv_append {first last : List (Event hostService)} :
    SparesNv (first ++ last) ↔ SparesNv first ∧ SparesNv last :=
  List.forall_mem_append

theorem sparesNv_of_changes {events : List (Event hostService)} (none : changes events = []) :
    SparesNv events := by
  intro event mem
  cases changed : event.call.changesNv with
  | false => rfl
  | true =>
      have made : event.call ∈ changes events :=
        List.mem_filter.2 ⟨List.mem_map_of_mem mem, HostCall.mutates_of_changesNv changed⟩
      rw [none] at made
      cases made

namespace Engine

variable {engine : Engine} {device : NicDevice} {configuration : Configuration}
  {ports : NicDevice.Ports} {events : List (Event hostService)}

/-- Live settings are brought about by calls that are not about firmware parameters. -/
theorem applyLive_spares {answer : Except EngineError Unit}
    (h : (applyLive device).run.Runs events answer) : SparesNv events :=
  fun event mem => (applyLive_live device _ _ h event mem).2

/-! ## A device that asks for its defaults -/

theorem validateNv_of_reset (engine : Engine) (hc : device.configuration = .ok configuration)
    (hp : device.ports = .ok ports) (reset : configuration.resetToDefault = true) :
    engine.validateNv device = (do
      let snapshot ← engine.queryNv ports.first.pci
      return snapshot.resetVerdict) := by
  rw [validateNv, hc, hp]
  show (do
    let snapshot ← engine.queryNv ports.first.pci
    if configuration.resetToDefault then _ else _) = _
  rw [reset]
  rfl

/-- How staging a reset can go, and what it comes to. -/
inductive StagedReset (pci : String) :
    List (Event hostService) → Except EngineError Bool → Prop where
  | refused (cause : HostError) :
      StagedReset pci [⟨.resetNv pci, .error cause⟩] (.error (.host cause))
  | ungated (cause : HostError) :
      StagedReset pci
        [⟨.resetNv pci, .ok ()⟩, ⟨.setNv pci gateParameter onValue, .error cause⟩]
        (.error (.host cause))
  | reset :
      StagedReset pci [⟨.resetNv pci, .ok ()⟩, ⟨.setNv pci gateParameter onValue, .ok ()⟩]
        (.ok true)

theorem stagedReset_of_runs {answer : Except EngineError Bool}
    (hc : device.configuration = .ok configuration) (hp : device.ports = .ok ports)
    (reset : configuration.resetToDefault = true)
    (h : (engine.applyNv device).run.Runs events answer) :
    StagedReset ports.first.pci events answer := by
  rw [engine.applyNv_of_reset hc hp reset] at h
  rcases runs_bindT_iff.1 h with ⟨e, rfl, hr⟩ | ⟨_, first, rest, rfl, hr, hg⟩
  · obtain ⟨found, rfl, eq⟩ := Work.runs_call hr
    match found with
    | .error cause =>
        cases eq
        exact .refused cause
    | .ok () => cases eq
  obtain ⟨found, rfl, eq⟩ := Work.runs_call hr
  match found with
  | .error cause => cases eq
  | .ok () =>
  rcases runs_bindT_iff.1 hg with ⟨e, rfl, hs⟩ | ⟨_, first, last, rfl, hs, hl⟩
  · obtain ⟨found, rfl, eq⟩ := Work.runs_call hs
    match found with
    | .error cause =>
        cases eq
        exact .ungated cause
    | .ok () => cases eq
  · obtain rfl := runs_setNv_ok hs
    obtain ⟨rfl, rfl⟩ := runs_pureT_iff.1 hl
    exact .reset

/-- What a pass over a device that asks for its defaults can have done: nothing to its firmware
parameters, or staging a reset after it has seen a snapshot that is not of the defaults. -/
inductive Resetting (engine : Engine) (pci : String) : List (Event hostService) → Prop where
  | spared {events : List (Event hostService)} (spares : SparesNv events) :
      Resetting engine pci events
  | staged {snapshot : NvSnapshot} {events : List (Event hostService)}
      {answer : Except EngineError Bool} (needed : snapshot.resetVerdict.updateNeeded = true)
      (staged : StagedReset pci events answer) :
      Resetting engine pci
        (⟨.queryNv pci (some engine.limits.query), some (.ok snapshot)⟩ :: events)

theorem runs_validateNv_of_reset (hc : device.configuration = .ok configuration)
    (hp : device.ports = .ok ports) (reset : configuration.resetToDefault = true)
    {verdict : Verdict} (h : (engine.validateNv device).run.Runs events (.ok verdict)) :
    ∃ snapshot : NvSnapshot, verdict = snapshot.resetVerdict ∧
      events = [⟨.queryNv ports.first.pci (some engine.limits.query), some (.ok snapshot)⟩] := by
  rw [engine.validateNv_of_reset hc hp reset] at h
  obtain ⟨snapshot, first, last, rfl, hq, hl⟩ := runs_bindT_ok h
  obtain rfl := runs_queryNv_ok hq
  obtain ⟨rfl, same⟩ := runs_pureT_iff.1 hl
  exact ⟨snapshot, Except.ok.inj same, rfl⟩

theorem Begun.resetting (h : Begun engine device events)
    (hc : device.configuration = .ok configuration) (hp : device.ports = .ok ports)
    (reset : configuration.resetToDefault = true) : Resetting engine ports.first.pci events := by
  cases h with
  | compared compared => exact .spared (sparesNv_of_changes (runs_validateNv compared).1)
  | live compared live =>
      refine .spared (sparesNv_append.2 ⟨sparesNv_of_changes (runs_validateNv compared).1, ?_⟩)
      exact applyLive_spares live
  | staged compared needed staged =>
      obtain ⟨snapshot, rfl, rfl⟩ := runs_validateNv_of_reset hc hp reset compared
      exact .staged needed (stagedReset_of_runs hc hp reset staged)

end Engine

end NicKeeper
