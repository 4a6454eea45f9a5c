import NicKeeper.Proofs.FirmwareOnMemory
import NicKeeper.Proofs.SetUp

/-!
# Parameters that a device does not support

With the gate on, comparing a device with its spec and staging the spec both refuse a parameter that
the device does not support. They do not look for it in the same place, though: to the comparison it
is one without a value in effect, to staging one without a staged value. A parameter that has
neither is refused by both. One that has lost its value in effect is refused by the comparison
alone, and staging writes it.

All of this is about hosts that are not made to fail. How long a firmware reset takes is left open,
as with the gate on there is none.
-/

namespace NicKeeper

open Program

namespace Engine

open MemoryHost Work

variable {engine : Engine} {device : NicDevice} {host : MemoryHost}
  {configuration : Configuration} {ports : NicDevice.Ports} {pci : String} {nv : NvMemory}
  {desired : Dict String}

/-- The engine with enough patience for the firmware resets of a host. -/
def patientWith (engine : Engine) (host : MemoryHost) : Engine :=
  { engine with
    limits := { engine.limits with reset := host.resetDelay.getD engine.limits.reset } }

theorem healthy_patientWith (engine : Engine) (operations : host.failingOperations = [])
    (parameters : host.failingParameters = []) : host.Healthy (engine.patientWith host).limits := by
  refine ⟨operations, parameters, fun delay slow => ?_⟩
  show delay ≤ host.resetDelay.getD engine.limits.reset
  rw [slow]
  exact Nat.le_refl _

/-- The host after its firmware configuration was read. -/
def asked (engine : Engine) (host : MemoryHost) (pci : String) : MemoryHost :=
  host.record (.queryNv pci (some engine.limits.query))

/-- Reading the configuration with the gate on needs no patience. -/
theorem queryWithGate_of_on (engine : Engine) (operations : host.failingOperations = [])
    (parameters : host.failingParameters = []) (found : host.nv.get? pci = some nv)
    (on : gateOn nv.stored.current = true) :
    (engine.queryWithGate pci).on host = (.ok nv.stored, engine.asked host pci) := by
  have yields : Yields (engine.patientWith host).limits (engine.queryNv pci) host (.ok nv.shown)
      (host.withNv pci nv [.queryNv pci (some engine.limits.query)]) := queryNv_yields found
  have read := yields.of_healthy (engine.healthy_patientWith operations parameters)
  rw [queryWithGate, on_bind_ok read, NvMemory.gateOn_shown, on, NvMemory.shown_of_gateOn on,
    ← record_eq_withNv found]
  rfl

/-- Staging with the gate on, once the template is known. -/
theorem applyNv_of_on (engine : Engine) (hc : device.configuration = .ok configuration)
    (hp : device.ports = .ok ports) (template : configuration.resetToDefault = false)
    (operations : host.failingOperations = []) (parameters : host.failingParameters = [])
    (found : host.nv.get? ports.first.pci = some nv) (on : gateOn nv.stored.current = true)
    (wanted : host.desiredNv device nv.stored.default = .ok desired) :
    (engine.applyNv device).on host =
      (writeMissing device ports.first.pci nv.stored desired).on
        (engine.asked host ports.first.pci) := by
  have worked := on_desiredNv hc hp nv.stored.default (engine.asked host ports.first.pci)
  have same : (engine.asked host ports.first.pci).desiredNv device nv.stored.default =
      host.desiredNv device nv.stored.default := desiredNv_congr hc hp rfl rfl
  rw [same, wanted] at worked
  rw [engine.applyNv_of_template hc hp template,
    on_bind_ok (engine.queryWithGate_of_on operations parameters found on), on_bind_ok worked]

/-- A desired parameter without a value in effect is refused by the comparison. Staging refuses the
spec if there is one without a staged value, and stages it otherwise. What is refused changes
nothing. -/
theorem unsupported_parameters (engine : Engine) (hc : device.configuration = .ok configuration)
    (hp : device.ports = .ok ports) (template : configuration.resetToDefault = false)
    (operations : host.failingOperations = []) (parameters : host.failingParameters = [])
    (found : host.nv.get? ports.first.pci = some nv) (on : gateOn nv.stored.current = true)
    (wanted : host.desiredNv device nv.stored.default = .ok desired) {name : String}
    (own : desired.contains name = true) (lacking : nv.shown.current.contains name = false) :
    (∃ least, desired.LeastMissing nv.shown.current least ∧ (engine.validateNv device).on host =
        (.error (.incorrectSpec (.unsupported least device.name)),
          engine.asked host ports.first.pci)) ∧
      ((∃ other, desired.contains other = true ∧ nv.shown.nextBoot.contains other = false) →
        ∃ least, desired.LeastMissing nv.shown.nextBoot least ∧ (engine.applyNv device).on host =
          (.error (.incorrectSpec (.unsupported least device.name)),
            engine.asked host ports.first.pci)) ∧
      ((∀ other, desired.contains other = true → nv.shown.nextBoot.contains other = true) →
        ∃ nv' calls, (engine.applyNv device).on host =
            (.ok true, (engine.asked host ports.first.pci).withNv ports.first.pci nv' calls) ∧
          desired ⊆ nv'.stored.nextBoot) := by
  have healthy := engine.healthy_patientWith operations parameters
  have staging := engine.applyNv_of_on hc hp template operations parameters found on wanted
  rw [NvMemory.shown_of_gateOn on] at lacking ⊢
  refine ⟨?_, ?_, fun complete => ?_⟩
  · obtain ⟨least, missing⟩ := Dict.exists_missing? own lacking
    refine ⟨least, Dict.leastMissing_of_missing? missing, ?_⟩
    have compared : (engine.validateNv device).on host = _ :=
      ((engine.patientWith host).validateNv_yields hc hp found).of_healthy healthy
    rw [compared, template, wanted, NvMemory.judge_of_missing on missing,
      ← record_eq_withNv found]
    rfl
  · rintro ⟨other, own, lacking⟩
    obtain ⟨least, missing⟩ := Dict.exists_missing? own lacking
    refine ⟨least, Dict.leastMissing_of_missing? missing, ?_⟩
    rw [staging, writeMissing_on_unsupported missing]
  · obtain ⟨speed, known⟩ := desired_of_desiredNv hc hp wanted
    have found' : (engine.asked host ports.first.pci).nv.get? ports.first.pci = some nv := found
    have written : Leaves (engine.patientWith host).limits
        (writeMissing device ports.first.pci nv.stored desired) (engine.asked host ports.first.pci)
        ports.first.pci (.ok true) (nv.stageDesired desired) :=
      writeMissing_leaves found' on (Dict.missing?_eq_none_iff.2 complete)
        fun name asked => Template.contains_of_desired known asked
    obtain ⟨calls, written⟩ := written
    have healthy' : (engine.asked host ports.first.pci).Healthy (engine.patientWith host).limits :=
      healthy
    refine ⟨nv.stageDesired desired, calls, ?_, nv.subset_stageDesired desired⟩
    rw [staging, written.of_healthy healthy']

end Engine

namespace Sample

/-- A host with the gate on, on which the number of virtual functions is staged but, for once, has
no value in effect. -/
def lapsedHost : MemoryHost :=
  (((({} : MemoryHost).updateNv
    "p0" (·.addParameter gateParameter offValue onValue onValue)).updateNv
    "p0" (·.addParameter "SRIOV_EN" offValue onValue onValue)).updateNv
    "p0" (·.addParameter "NUM_OF_VFS" "0" "0" "0")).removeCurrentNv "p0" "NUM_OF_VFS"

/-- A host with the gate on, on which the number of virtual functions has no value but its
default. -/
def bareHost : MemoryHost :=
  ((({} : MemoryHost).updateNv
    "p0" (·.addParameter gateParameter offValue onValue onValue)).updateNv
    "p0" (·.addParameter "SRIOV_EN" offValue onValue onValue)).updateNv
    "p0" (·.addDefault "NUM_OF_VFS" "0")

end Sample

namespace Engine

/-- What has no value but its default is refused by both. -/
theorem bare_is_refused :
    ∃ compared staged,
      ((Sample.engine.validateNv (Sample.device [])).on Sample.bareHost).1 =
          .error (.incorrectSpec (.unsupported compared "d0")) ∧
        ((Sample.engine.applyNv (Sample.device [])).on Sample.bareHost).1 =
          .error (.incorrectSpec (.unsupported staged "d0")) := by
  have hp : (Sample.device []).ports = .ok Sample.ports := rfl
  have bare : ∃ nv, Sample.bareHost.nv.get? "p0" = some nv ∧ gateOn nv.stored.current = true ∧
      nv.shown.current.contains "NUM_OF_VFS" = false ∧
      nv.shown.nextBoot.contains "NUM_OF_VFS" = false ∧
      Sample.bareHost.desiredNv (Sample.device []) nv.stored.default =
        .ok (.ofList [("SRIOV_EN", onValue), ("NUM_OF_VFS", "4")]) := ⟨_, rfl, rfl, rfl, rfl, rfl⟩
  obtain ⟨nv, found, on, current, staged, wanted⟩ := bare
  have own : (Dict.ofList [("SRIOV_EN", onValue), ("NUM_OF_VFS", "4")]).contains "NUM_OF_VFS" =
    true := rfl
  obtain ⟨⟨_, -, compared⟩, refused, -⟩ :=
    unsupported_parameters Sample.engine rfl hp rfl rfl rfl found on wanted own current
  obtain ⟨_, -, applied⟩ := refused ⟨_, own, staged⟩
  exact ⟨_, _, congrArg Prod.fst compared, congrArg Prod.fst applied⟩

/-- The comparison says that the parameter is not supported, and staging writes it. -/
theorem lapsed_is_staged :
    Sample.lapsedHost.SetUp ∧ Sample.lapsedHost.failingOperations = [] ∧
      Sample.lapsedHost.failingParameters = [] ∧
      Sample.lapsedHost.currentValue? "p0" gateParameter = some onValue ∧
      Sample.lapsedHost.currentValue? "p0" "NUM_OF_VFS" = none ∧
      ((Sample.engine.validateNv (Sample.device [])).on Sample.lapsedHost).1 =
        .error (.incorrectSpec (.unsupported "NUM_OF_VFS" "d0")) ∧
      ((Sample.engine.applyNv (Sample.device [])).on Sample.lapsedHost).1 = .ok true ∧
      ((Sample.engine.applyNv (Sample.device [])).on Sample.lapsedHost).2.mutatingCalls =
        [.setNv "p0" "NUM_OF_VFS" "4"] := by
  have gate := MemoryHost.SetUp.new.addParameter "p0" gateParameter offValue onValue onValue
  have switch := gate.addParameter "p0" "SRIOV_EN" offValue onValue onValue
  have count := switch.addParameter "p0" "NUM_OF_VFS" "0" "0" "0"
  exact ⟨count.removeCurrentNv "p0" "NUM_OF_VFS", rfl, rfl, rfl, rfl, rfl, rfl, rfl⟩

end Engine

end NicKeeper
