import NicKeeper.Proofs.Reboots
import NicKeeper.Proofs.Resumption

/-!
# The gate after a boot

What is staged with the gate on can be seen after a boot only if the gate is on then, too: if it is
staged as on. Staging looks at the value of the gate in effect alone. It stages the gate as on after
a reset and when it has to open it; a template may ask for another value; and otherwise the gate
stays staged as it was. So after a staging that succeeded the gate is on across the boot where the
template does not ask for another value and the gate was either off or staged as on before.

A template that asks for the gate by a raw parameter has its way, also if that hides what it asks
for beside.
-/

namespace NicKeeper

open Program

namespace NvMemory

variable {nv : NvMemory}

/-- With the gate staged as on, a boot makes everything that is staged seen. -/
theorem shown_activate (on : nv.stored.nextBoot.get? gateParameter = some onValue) :
    nv.activate.shown.current = nv.stored.nextBoot := by
  have open' : gateOn nv.activate.stored.current = true := by
    show (nv.stored.nextBoot.get? gateParameter == some onValue) = true
    rw [on]
    rfl
  rw [shown_of_gateOn open']
  rfl

/-- Opening the gate stages it as on, and where it is open already it stays staged as it was. -/
theorem get?_gate_withGate (kept : gateOn nv.stored.current = false ∨
    nv.stored.nextBoot.get? gateParameter = some onValue) :
    nv.withGate.stored.nextBoot.get? gateParameter = some onValue := by
  cases on : gateOn nv.stored.current with
  | false =>
      rw [withGate_of_off on]
      exact Dict.get?_insert_self _ _ _
  | true =>
      rw [withGate_of_on on]
      rcases kept with off | kept
      · cases on.symm.trans off
      · exact kept

end NvMemory

namespace MemoryHost

variable {host : MemoryHost} {pci : String} {nv : NvMemory}

theorem nextBootValue?_of_found (found : host.nv.get? pci = some nv) (name : String) :
    host.nextBootValue? pci name = nv.stored.nextBoot.get? name := by
  rw [nextBootValue?, found]
  rfl

theorem currentValue?_of_found (found : host.nv.get? pci = some nv) (name : String) :
    host.currentValue? pci name = nv.stored.current.get? name := by
  rw [currentValue?, found]
  rfl

/-- With the gate staged as on, a boot hides nothing that was staged. -/
theorem visible_boot (found : host.nv.get? pci = some nv)
    (on : host.nextBootValue? pci gateParameter = some onValue) :
    ∃ booted, (host.boot pci).nv.get? pci = some booted ∧ ∀ name value,
      host.nextBootValue? pci name = some value →
        booted.shown.current.get? name = some value := by
  have staged := nextBootValue?_of_found found
  rw [staged] at on
  rw [boot_eq_withNv found]
  refine ⟨_, get?_withNv, fun name value own => ?_⟩
  rw [NvMemory.shown_activate on, ← staged]
  exact own

end MemoryHost

namespace Engine

open MemoryHost Work

variable {engine : Engine} {device : NicDevice} {host after : MemoryHost}
  {configuration : Configuration} {ports : NicDevice.Ports} {nv : NvMemory}

/-- What is staged after staging has succeeded, the gate above all, and what can be seen of it after
a boot. -/
structure GateKept (device : NicDevice) (configuration : Configuration) (pci : String)
    (host after : MemoryHost) : Prop where
  reset : configuration.resetToDefault = true →
    after.nextBootValue? pci gateParameter = some onValue
  /-- The template asks for the gate. -/
  asked : configuration.resetToDefault = false → ∀ value,
    configuration.template.rawValue? gateParameter = some value →
      after.nextBootValue? pci gateParameter = some value
  /-- The template leaves the gate alone, and it was off or staged as on. -/
  kept : configuration.resetToDefault = false →
    configuration.template.rawValue? gateParameter = none →
      host.currentValue? pci gateParameter ≠ some onValue ∨
          host.nextBootValue? pci gateParameter = some onValue →
        after.nextBootValue? pci gateParameter = some onValue
  /-- All that the template asks for is staged. -/
  whole : configuration.resetToDefault = false →
    ∃ nv desired, host.nv.get? pci = some nv ∧
      host.desiredNv device nv.stored.default = .ok desired ∧
        ∀ name value, desired.get? name = some value →
          after.nextBootValue? pci name = some value
  /-- With the gate staged as on, a boot hides nothing. -/
  visible : after.nextBootValue? pci gateParameter = some onValue →
    ∃ booted, (after.boot pci).nv.get? pci = some booted ∧ ∀ name value,
      after.nextBootValue? pci name = some value → booted.shown.current.get? name = some value

theorem gateKept_of_reset (engine : Engine) (hc : device.configuration = .ok configuration)
    (hp : device.ports = .ok ports) (reset : configuration.resetToDefault = true)
    (found : host.nv.get? ports.first.pci = some nv) {reboot : Bool}
    (applied : (engine.applyNv device).on host = (.ok reboot, after)) :
    GateKept device configuration ports.first.pci host after := by
  have template := ne_false_of_eq_true reset
  obtain ⟨answer, nv', staging, calls, yields⟩ := engine.stageDefaults_leaves hc hp reset found
  obtain ⟨rfl, rfl⟩ := yields.of_ok applied
  refine ⟨fun _ => ?_, fun no => absurd no template, fun no => absurd no template,
    fun no => absurd no template, visible_boot get?_withNv⟩
  cases staging with
  | reset known =>
      rw [nextBootValue?_of_found get?_withNv]
      exact Dict.get?_insert_self _ _ _

theorem gateKept_of_template (engine : Engine) (hc : device.configuration = .ok configuration)
    (hp : device.ports = .ok ports) (template : configuration.resetToDefault = false)
    (found : host.nv.get? ports.first.pci = some nv) {reboot : Bool}
    (applied : (engine.applyNv device).on host = (.ok reboot, after)) :
    GateKept device configuration ports.first.pci host after := by
  obtain ⟨answer, nv', staging, calls, yields⟩ := engine.stageTemplate_leaves hc hp template found
  obtain ⟨rfl, rfl⟩ := yields.of_ok applied
  cases staging with
  | @staged desired gated wanted complete =>
  obtain ⟨speed, known⟩ := desired_of_desiredNv hc hp wanted
  have staged : ∀ name, (host.withNv ports.first.pci _ calls).nextBootValue? ports.first.pci name =
      (nv.withGate.stageDesired desired).stored.nextBoot.get? name :=
    nextBootValue?_of_found get?_withNv
  have gate := NvMemory.get?_stageDesired nv.gateOn_withGate desired gateParameter
  rw [Template.get?_gate_of_desired known] at gate
  refine ⟨fun reset => ?_, fun _ value asked => ?_, fun _ none kept => ?_, fun _ => ?_,
    visible_boot get?_withNv⟩
  · cases template.symm.trans reset
  · rw [staged, gate, asked]
    rfl
  · rw [staged, gate, none, Option.none_or]
    rw [nextBootValue?_of_found found, currentValue?_of_found found] at kept
    refine NvMemory.get?_gate_withGate (kept.imp_left fun off => ?_)
    exact beq_eq_false_iff_ne.2 off
  · refine ⟨nv, desired, found, wanted, fun name value own => ?_⟩
    rw [staged]
    exact nv.withGate.subset_stageDesired desired name value own

/-- Staging that succeeds stages the gate as on after a reset, as the template asks, or, where the
gate was off or staged as on, as on; and then all that was staged can be seen after a boot. -/
theorem staging_keeps_gate (engine : Engine) (hc : device.configuration = .ok configuration)
    (hp : device.ports = .ok ports) {reboot : Bool}
    (applied : (engine.applyNv device).on host = (.ok reboot, after)) :
    GateKept device configuration ports.first.pci host after := by
  cases found : host.nv.get? ports.first.pci with
  | none =>
      obtain ⟨cause, call, failed, -⟩ := engine.applyNv_absent hc hp found
      cases failed.symm.trans applied
  | some nv =>
      cases reset : configuration.resetToDefault with
      | true => exact engine.gateKept_of_reset hc hp reset found applied
      | false => exact engine.gateKept_of_template hc hp reset found applied

end Engine

namespace Sample

/-- A host on which the gate is on and staged as off, and on which nothing else differs from the
defaults. The number of virtual functions can be seen only with the gate on. -/
def closingHost : MemoryHost :=
  ((({} : MemoryHost).updateNv
    "p0" (·.addParameter gateParameter offValue onValue offValue)).updateNv
    "p0" (·.addParameter "SRIOV_EN" offValue offValue offValue)).updateNv
    "p0" (·.addAdvanced "NUM_OF_VFS" "0" "0" "0")

end Sample

namespace Engine

/-- The gate is opened, and what is behind it can be seen after the boot. -/
theorem opened_gate_is_kept :
    ∃ after configuration booted,
      (Sample.engine.applyNv (Sample.device [])).on (Sample.host offValue "0") = (.ok true, after) ∧
        GateKept (Sample.device []) configuration "p0" (Sample.host offValue "0") after ∧
        (after.boot "p0").nv.get? "p0" = some booted ∧
          booted.shown.current.get? "NUM_OF_VFS" = some "4" := by
  have hp : (Sample.device []).ports = .ok Sample.ports := rfl
  have applied : ∃ after,
      (Sample.engine.applyNv (Sample.device [])).on (Sample.host offValue "0") = (.ok true, after) ∧
        after.nextBootValue? "p0" gateParameter = some onValue ∧
        after.nextBootValue? "p0" "NUM_OF_VFS" = some "4" := ⟨_, rfl, rfl, rfl⟩
  obtain ⟨after, applied, on, four⟩ := applied
  have kept := staging_keeps_gate Sample.engine rfl hp applied
  obtain ⟨booted, boots, seen⟩ := kept.visible on
  exact ⟨after, _, booted, applied, kept, boots, seen _ _ four⟩

/-- The gate is lost where the template asks for it to be off, and where it is on but staged as
off. What was staged behind it cannot be seen after the boot. -/
theorem gate_is_lost :
    let closed := (Sample.engine.applyNv (Sample.device [⟨gateParameter, offValue⟩])).on
      Sample.closingHost
    let left := (Sample.engine.applyNv (Sample.device [])).on Sample.closingHost
    closed.1 = .ok true ∧ closed.2.nextBootValue? "p0" gateParameter = some offValue ∧
      left.1 = .ok true ∧ left.2.nextBootValue? "p0" gateParameter = some offValue ∧
      left.2.nextBootValue? "p0" "NUM_OF_VFS" = some "4" ∧
      ((left.2.boot "p0").nv.get? "p0").map (·.shown.current.get? "NUM_OF_VFS") = some none :=
  ⟨rfl, rfl, rfl, rfl, rfl, rfl⟩

end Engine

end NicKeeper
