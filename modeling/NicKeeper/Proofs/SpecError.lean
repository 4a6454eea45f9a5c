import NicKeeper.Proofs.EngineRuns

/-!
# A wrong spec leaves the device alone

A pass that reports a wrong spec has written nothing of it. At most the gate was opened, because the
parameters that the spec asks for could not be seen before that. Where it was a status write that
failed with such an error, nothing at all was done.
-/

namespace NicKeeper

open Program

theorem isSpecError_of_outcome {cause : EngineError}
    (h : (Pass.Result.error cause).outcome = .specError) : cause.isSpecError = true := by
  rw [Pass.Result.outcome] at h
  split at h
  · assumption
  · cases h

namespace Engine

/-- The host is as it was, or the gate was opened after it had been seen to be off: by the second
reading of the configuration, the one before staging. -/
def Spared (engine : Engine) (device : NicDevice) (events : List (Event hostService)) : Prop :=
  changes events = [] ∨
    ∃ ports seen before after, device.ports = .ok ports ∧
      events = before ++ engine.opening ports.first.pci seen ++ after ∧
      gateOn seen.current = false ∧
      queries before = [.queryNv ports.first.pci (some engine.limits.query)] ∧
      changes before = [] ∧ changes after = []

theorem Worked.spared {engine : Engine} {device : NicDevice} {events : List (Event hostService)}
    {updated : Bool} {result : Pass.Result} (h : Worked engine device events updated result)
    (outcome : result.outcome = .specError) : engine.Spared device events := by
  cases h with
  | invalid compared => exact .inl (runs_validateNv compared).1
  | waiting compared => cases outcome
  | @live first last verdict answer compared set =>
      cases answer with
      | ok _ => cases outcome
      | error cause =>
          obtain rfl := runs_applyLive_specError set (isSpecError_of_outcome outcome)
          rw [List.append_nil]
          exact .inl (runs_validateNv compared).1
  | @staged first last verdict answer compared staged =>
      cases answer with
      | ok _ => cases outcome
      | error cause =>
          obtain ⟨quiet, read⟩ := runs_validateNv compared
          obtain ⟨ports, hports, query⟩ := read verdict rfl
          rcases runs_applyNv_specError staged (isSpecError_of_outcome outcome) with
            none | ⟨ports', seen, rest, hports', rfl, off, none⟩
          · exact .inl (by rw [changes_append, quiet, none]; rfl)
          · cases hports.symm.trans hports'
            exact .inr ⟨ports, seen, first, rest, hports, (List.append_assoc _ _ _).symm, off,
              query, quiet, none⟩

/-- The only calls by which a pass that reports a wrong spec can have changed the host are the two
that open the gate, and only where it was seen to be off before staging. -/
theorem specError_pass_spares_device {engine : Engine} {device : NicDevice}
    {events : List (Event nodeService)}
    (h : (engine.pass device).Runs events (.ok .specError)) :
    changes (hostEvents events) = [] ∨
      ∃ ports seen before after, device.ports = .ok ports ∧
        changes (hostEvents events) =
          [.setNv ports.first.pci gateParameter onValue,
            .resetFirmware ports.first.pci (some engine.limits.reset)] ∧
        hostEvents events = before ++ engine.opening ports.first.pci seen ++ after ∧
        gateOn seen.current = false ∧
        queries before = [.queryNv ports.first.pci (some engine.limits.query)] := by
  rcases pass_ended h with ⟨_, no, -⟩ | ⟨_, _, -, compared, -⟩ | ⟨updated, result, runs, same, -⟩
  · cases no
  · exact .inl (runs_validateNv compared).1
  have outcome : result.outcome = .specError := (Except.ok.inj same).symm
  rcases (worked_of_runs runs).spared outcome with none |
    ⟨ports, seen, before, after, hports, eq, off, query, quiet, none⟩
  · exact .inl none
  · refine .inr ⟨ports, seen, before, after, hports, ?_, eq, off, query⟩
    rw [eq, changes_append, changes_append, quiet, none]
    rfl

/-- What happens when the device is asked for a parameter that has no value but its default. -/
def wrongEvents : List (Event nodeService) :=
  (Sample.engine.pass (Sample.device [⟨"ATS_ENABLED", "1"⟩])).trace
    (onHost (accepting fun _ _ log => log)) (Sample.host offValue "0", ())

theorem wrongEvents_open_gate :
    (Sample.engine.pass (Sample.device [⟨"ATS_ENABLED", "1"⟩])).Runs wrongEvents (.ok .specError) ∧
      changes (hostEvents wrongEvents) =
        [.setNv "p0" gateParameter onValue,
          .resetFirmware "p0" (some Sample.engine.limits.reset)] := by
  have runs : (Sample.engine.pass (Sample.device [⟨"ATS_ENABLED", "1"⟩])).Runs wrongEvents
    (.ok .specError) := runs_trace _ _ _
  refine ⟨runs, ?_⟩
  rcases specError_pass_spares_device runs with none | ⟨ports, _, _, _, hp, changed, -⟩
  · exact absurd none (by decide)
  · cases hp
    exact changed

end Engine

end NicKeeper
