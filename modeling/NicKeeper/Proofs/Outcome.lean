import NicKeeper.Proofs.WorkOnMemory

/-!
# What an outcome says about the host

A pass sees a host through several readings, some before its own changes and some after, and the
gate may hide part of each. Still its outcome is true of the host that it leaves, whatever fails on
the way: a device that is reported as applied has all that its template asks for, and one that waits
for a boot has its firmware parameters staged.

Where a device asks for its defaults and nothing else, less is true. The comparison takes what it
cannot see for the default, so what the gate hides may be anything.
-/

namespace NicKeeper

open Program

namespace MemoryHost

/-- The device has these defaults, and the parameters that it asks for are staged. -/
def Staged (host : MemoryHost) (device : NicDevice) (ports : NicDevice.Ports)
    (defaults : Dict String) : Prop :=
  ∃ nv desired, host.nv.get? ports.first.pci = some nv ∧ nv.stored.default = defaults ∧
    (device.desiredNv defaults).on host = (.ok desired, host) ∧ desired ⊆ nv.stored.nextBoot

/-- The device has these defaults, and the parameters that it asks for are in effect, also after a
boot. -/
def InEffect (host : MemoryHost) (device : NicDevice) (ports : NicDevice.Ports)
    (defaults : Dict String) : Prop :=
  ∃ nv desired, host.nv.get? ports.first.pci = some nv ∧ nv.stored.default = defaults ∧
    (device.desiredNv defaults).on host = (.ok desired, host) ∧ desired ⊆ nv.stored.current ∧
      desired ⊆ nv.stored.nextBoot

/-- The ports that take part have the live settings that the device asks for. -/
def IsLive (host : MemoryHost) (device : NicDevice) (ports : NicDevice.Ports) : Prop :=
  ∃ settings, device.liveSettings = .ok settings ∧ ∀ port ∈ ports.configured,
    host.qos.get? port.networkInterface = some (settings.trust, settings.pfc) ∧
      (settings.readRequest ≠ 0 →
        host.readRequests.get? port.pci = some settings.readRequest)

end MemoryHost

namespace NvMemory

variable {nv nv' : NvMemory} {device : String} {desired : Except EngineError (Dict String)}

theorem judge_ok {verdict : Verdict} (h : nv.judge false device desired = .ok verdict) :
    ∃ parameters, desired = .ok parameters ∧
      (verdict.updateNeeded = false → parameters ⊆ nv.stored.nextBoot) ∧
        (verdict.rebootNeeded = false → parameters ⊆ nv.stored.current) := by
  cases desired with
  | error e => cases h
  | ok parameters =>
      rcases nv.judge_cases device parameters with
        ⟨_, -, -, wrong⟩ | ⟨-, found, right, update, reboot⟩
      · cases wrong.symm.trans h
      · cases right.symm.trans h
        refine ⟨parameters, rfl, fun no => ?_, fun no => ?_⟩
        · exact Dict.subset_trans (update.1 no) shown_nextBoot_subset
        · exact Dict.subset_trans (reboot.1 no).2 shown_current_subset

theorem Staging.of_ok {reboot : Bool} (h : Staging nv device desired false (.ok reboot) nv') :
    ∃ parameters, desired = .ok parameters ∧ parameters ⊆ nv'.stored.nextBoot := by
  cases h with
  | staged _ wanted _ => exact ⟨_, wanted, subset_stageDesired _ _⟩

end NvMemory

namespace Engine

open MemoryHost Work

variable {engine : Engine} {device : NicDevice} {configuration : Configuration}
  {ports : NicDevice.Ports} {host after : MemoryHost}

/-- A comparison that comes to a verdict has seen the parameters of the device, and only looked. -/
theorem judged_of_compared (hc : device.configuration = .ok configuration)
    (hp : device.ports = .ok ports) {verdict : Verdict}
    (h : (engine.validateNv device).on host = (.ok verdict, after)) :
    ∃ nv, host.nv.get? ports.first.pci = some nv ∧
      nv.judge configuration.resetToDefault device.name (host.desiredNv device nv.stored.default) =
        .ok verdict ∧
      after = host.withNv ports.first.pci nv
        [.queryNv ports.first.pci (some engine.limits.query)] := by
  cases found : host.nv.get? ports.first.pci with
  | none =>
      obtain ⟨e, no⟩ := engine.validateNv_absent hc hp found
      cases no.symm.trans h
  | some nv =>
      obtain ⟨judged, left⟩ := (engine.validateNv_yields hc hp found).of_ok h
      exact ⟨nv, rfl, judged, left.symm⟩

theorem compared_ok (hc : device.configuration = .ok configuration)
    (template : configuration.resetToDefault = false) (hp : device.ports = .ok ports)
    {verdict : Verdict} (h : (engine.validateNv device).on host = (.ok verdict, after)) :
    ∃ nv parameters, host.nv.get? ports.first.pci = some nv ∧
      after = host.withNv ports.first.pci nv [.queryNv ports.first.pci (some engine.limits.query)] ∧
      (∀ later : MemoryHost, later.failingOperations = host.failingOperations →
        later.linkSpeeds = host.linkSpeeds →
        (device.desiredNv nv.stored.default).on later = (.ok parameters, later)) ∧
      (verdict.updateNeeded = false → parameters ⊆ nv.stored.nextBoot) ∧
        (verdict.rebootNeeded = false → parameters ⊆ nv.stored.current) := by
  obtain ⟨nv, found, judged, rfl⟩ := judged_of_compared hc hp h
  rw [template] at judged
  obtain ⟨parameters, wanted, staged, current⟩ := NvMemory.judge_ok judged
  refine ⟨nv, parameters, found, rfl, fun later failing speeds => ?_, staged, current⟩
  rw [on_desiredNv hc hp, desiredNv_congr hc hp failing speeds, wanted]

theorem staged_of_applyNv (hc : device.configuration = .ok configuration)
    (template : configuration.resetToDefault = false) (hp : device.ports = .ok ports)
    {nv : NvMemory} (found : host.nv.get? ports.first.pci = some nv) {reboot : Bool}
    (h : (engine.applyNv device).on host = (.ok reboot, after)) :
    after.Staged device ports nv.stored.default := by
  obtain ⟨answer, nv', staging, calls, yields⟩ := engine.applyNv_leaves hc hp found
  obtain ⟨rfl, rfl⟩ := yields.of_ok h
  rw [template] at staging
  obtain ⟨parameters, wanted, staged⟩ := staging.of_ok
  refine ⟨nv', parameters, get?_withNv, staging.default_eq, ?_, staged⟩
  rw [on_desiredNv hc hp, desiredNv_withNv hc hp, wanted]

/-- The result of a pass's work is true of the host that the work leaves. -/
theorem work_sound (hc : device.configuration = .ok configuration)
    (template : configuration.resetToDefault = false) (hp : device.ports = .ok ports)
    {updated : Bool} {result : Pass.Result}
    (h : (engine.work device).run MemoryHost.handle host = ((updated, result), after)) :
    (result.outcome = .applied → ∃ nv, host.nv.get? ports.first.pci = some nv ∧
        after.InEffect device ports nv.stored.default ∧ after.IsLive device ports) ∧
      (result.outcome = .rebootRequired → ∃ nv, host.nv.get? ports.first.pci = some nv ∧
        after.Staged device ports nv.stored.default) := by
  cases workedOn_of_run h with
  | @invalid e mid compared =>
      have not_error := Pass.Result.outcome_error_ne e
      exact ⟨fun no => absurd no not_error.1, fun no => absurd no not_error.2⟩
  | waiting compared spared waits =>
      obtain ⟨nv, parameters, found, rfl, asked, staged, -⟩ :=
        compared_ok hc template hp compared
      refine ⟨nofun, fun _ => ⟨nv, found, nv, parameters, get?_withNv, rfl, ?_, staged spared⟩⟩
      exact asked _ rfl rfl
  | @live verdict mid after answer compared spared settled set =>
      obtain ⟨nv, parameters, found, rfl, asked, staged, current⟩ :=
        compared_ok hc template hp compared
      cases answer with
      | error e =>
          have not_error := Pass.Result.outcome_error_ne e
          exact ⟨fun no => absurd no not_error.1, fun no => absurd no not_error.2⟩
      | ok _ =>
          obtain ⟨settings, hs, has, readRequests, qos, calls, rfl⟩ := applyLive_ok hp set
          have live : ((host.withNv ports.first.pci nv _).withLive readRequests qos calls).IsLive
              device ports := ⟨settings, hs, fun port mem => (has port mem).2.symm⟩
          refine ⟨fun _ => ⟨nv, found, ?_, live⟩, nofun⟩
          exact ⟨nv, parameters, Dict.get?_insert_self _ _ _, rfl, asked _ rfl rfl, current settled,
            staged spared⟩
  | @staged verdict mid after answer compared needed staged =>
      obtain ⟨nv, parameters, found, rfl, -⟩ := compared_ok hc template hp compared
      cases answer with
      | error e =>
          have not_error := Pass.Result.outcome_error_ne e
          exact ⟨fun no => absurd no not_error.1, fun no => absurd no not_error.2⟩
      | ok reboot =>
          exact ⟨nofun, fun _ => ⟨nv, found, staged_of_applyNv hc template hp get?_withNv staged⟩⟩

/-- The outcome of a pass is true of the host that the pass leaves. -/
theorem pass_outcome_sound {ω : Type} {writer : StatusWriter ω} {log : ω} {outcome : Outcome}
    {after : MemoryHost × ω} (hc : device.configuration = .ok configuration)
    (template : configuration.resetToDefault = false) (hp : device.ports = .ok ports)
    (h : (engine.pass device).run (onHost writer) (host, log) = (.ok outcome, after)) :
    (outcome = .applied → ∃ nv, host.nv.get? ports.first.pci = some nv ∧
        after.1.InEffect device ports nv.stored.default ∧ after.1.IsLive device ports) ∧
      (outcome = .rebootRequired → ∃ nv, host.nv.get? ports.first.pci = some nv ∧
        after.1.Staged device ports nv.stored.default) := by
  constructor
  · rintro rfl
    obtain ⟨updated, result, ran, applied⟩ := run_pass_ok h (.inl rfl)
    exact (work_sound hc template hp ran).1 applied.symm
  · rintro rfl
    obtain ⟨updated, result, ran, waits⟩ := run_pass_ok h (.inr rfl)
    exact (work_sound hc template hp ran).2 waits.symm

theorem sample_outcomes_sound :
    (∃ nv, (Sample.host onValue "4").nv.get? "p0" = some nv ∧
        (Sample.pass (Sample.device []) (Sample.host onValue "4")).2.1.InEffect (Sample.device [])
          Sample.ports nv.stored.default ∧
        (Sample.pass (Sample.device []) (Sample.host onValue "4")).2.1.IsLive (Sample.device [])
          Sample.ports) ∧
      ∃ nv, (Sample.host offValue "0").nv.get? "p0" = some nv ∧
        (Sample.pass (Sample.device []) (Sample.host offValue "0")).2.1.Staged (Sample.device [])
          Sample.ports nv.stored.default := by
  have applied : Sample.pass (Sample.device []) (Sample.host onValue "4") =
    (.ok .applied, (Sample.pass (Sample.device []) (Sample.host onValue "4")).2) := rfl
  have waits : Sample.pass (Sample.device []) (Sample.host offValue "0") =
    (.ok .rebootRequired, (Sample.pass (Sample.device []) (Sample.host offValue "0")).2) := rfl
  exact ⟨(pass_outcome_sound rfl rfl rfl applied).1 rfl,
    (pass_outcome_sound rfl rfl rfl waits).2 rfl⟩

/-! ## Factory defaults -/

/-- A pass that ends in applied over a device that asks for its defaults has seen no value in effect
that is another. -/
theorem work_defaults (hc : device.configuration = .ok configuration)
    (reset : configuration.resetToDefault = true) (hp : device.ports = .ok ports)
    {updated : Bool} {result : Pass.Result} (applied : result.outcome = .applied)
    (h : (engine.work device).run MemoryHost.handle host = ((updated, result), after)) :
    ∃ nv, host.nv.get? ports.first.pci = some nv ∧ after.nv.get? ports.first.pci = some nv ∧
      nv.shown.isDefault nv.shown.current = true := by
  cases workedOn_of_run h with
  | @invalid e mid compared => exact absurd applied (Pass.Result.outcome_error_ne e).1
  | waiting compared spared waits => cases applied
  | @staged verdict mid after answer compared needed staged =>
      cases answer with
      | error e => exact absurd applied (Pass.Result.outcome_error_ne e).1
      | ok reboot => cases applied
  | @live verdict mid after answer compared spared settled set =>
      cases answer with
      | error e => exact absurd applied (Pass.Result.outcome_error_ne e).1
      | ok _ =>
          obtain ⟨nv, found, judged, rfl⟩ := judged_of_compared hc hp compared
          rw [reset] at judged
          obtain rfl : nv.shown.resetVerdict = verdict := Except.ok.inj judged
          obtain ⟨-, -, -, readRequests, qos, calls, rfl⟩ := applyLive_ok hp set
          have kept := host.nv.get?_insert_self ports.first.pci nv
          exact ⟨nv, found, kept, NvSnapshot.isDefault_of_settled settled⟩

/-- A device that asks for its defaults and is reported as applied has them in effect, but for the
gate and for what the closed gate hides. -/
theorem applied_means_reset {ω : Type} {writer : StatusWriter ω} {log : ω}
    {after : MemoryHost × ω} (hc : device.configuration = .ok configuration)
    (reset : configuration.resetToDefault = true) (hp : device.ports = .ok ports)
    (h : (engine.pass device).run (onHost writer) (host, log) = (.ok .applied, after)) :
    ∃ nv, after.1.nv.get? ports.first.pci = some nv ∧ ∀ name value default,
      name ≠ gateParameter → after.1.currentValue? ports.first.pci name = some value →
        nv.stored.default.get? name = some default →
          value = default ∨ gateOn nv.stored.current = false ∧ name ∈ nv.advanced := by
  obtain ⟨updated, result, ran, applied⟩ := run_pass_ok h (.inl rfl)
  obtain ⟨nv, -, left, seen⟩ := work_defaults hc reset hp applied.symm ran
  refine ⟨nv, left, fun name value default other current known => ?_⟩
  rw [currentValue?, left] at current
  by_cases hidden : gateOn nv.stored.current = false ∧ name ∈ nv.advanced
  · exact .inr hidden
  · refine .inl (NvSnapshot.isDefault_iff.1 seen name default known other value ?_)
    exact (NvMemory.get?_visible hidden _).trans current

/-- Four virtual functions are in effect, and a gate that is off hides them: the device is reported
as applied as if it had its defaults. -/
theorem hidden_value_is_not_reset :
    (Sample.pass Sample.resetDevice (Sample.advancedHost offValue "4")).1 = .ok .applied ∧
      (Sample.pass Sample.resetDevice (Sample.advancedHost offValue "4")).2.1.currentValue? "p0"
        "NUM_OF_VFS" = some "4" ∧
      ((Sample.advancedHost offValue "4").nv.get? "p0").bind
        (·.stored.default.get? "NUM_OF_VFS") = some "0" :=
  ⟨rfl, rfl, rfl⟩

theorem sample_applied_means_reset :
    ∃ nv, (Sample.pass Sample.resetDevice (Sample.advancedHost onValue "0")).2.1.nv.get? "p0" =
        some nv ∧ ∀ name value default, name ≠ gateParameter →
      (Sample.pass Sample.resetDevice (Sample.advancedHost onValue "0")).2.1.currentValue? "p0"
        name = some value → nv.stored.default.get? name = some default →
          value = default ∨ gateOn nv.stored.current = false ∧ name ∈ nv.advanced := by
  have applied : Sample.pass Sample.resetDevice (Sample.advancedHost onValue "0") =
    (.ok .applied, (Sample.pass Sample.resetDevice (Sample.advancedHost onValue "0")).2) := rfl
  have hp : Sample.resetDevice.ports = .ok Sample.ports := rfl
  exact applied_means_reset rfl rfl hp applied

end Engine

end NicKeeper
