import NicKeeper.Proofs.OnMemory
import NicKeeper.Proofs.TemplateEntries

/-!
# Firmware parameters on a host in memory

Comparing and staging on a host in memory, told by the parameters of the device alone. `judge` is
the comparison. `Staging` lists how staging can end where nothing is made to fail: the gate can be
no parameter of the device, the template can be wrong, a desired parameter can have no staged value,
or everything that differs is staged. In each case it says what the parameters are afterwards.
-/

namespace NicKeeper

open Program

namespace MemoryHost

variable {host host' : MemoryHost} {device : NicDevice} {defaults : Dict String}
  {configuration : Configuration} {ports : NicDevice.Ports}

/-- The parameters that a device asks for on a host with these defaults. -/
def desiredNv (host : MemoryHost) (device : NicDevice) (defaults : Dict String) :
    Except EngineError (Dict String) :=
  ((device.desiredNv defaults).on host).1

/-- The speed of a link, where a template needs to know it. -/
def speedFor (host : MemoryHost) (template : Template) (pci : String) :
    Except EngineError (Option UInt32) :=
  if template.needsLinkSpeed then
    (Work.ofHost (host.readTable .linkSpeed host.linkSpeeds "link speed" pci)).map some
  else .ok none

theorem on_desiredNv_eq (hc : device.configuration = .ok configuration)
    (hp : device.ports = .ok ports) (defaults : Dict String) (host : MemoryHost) :
    (device.desiredNv defaults).on host =
      ((host.speedFor configuration.template ports.first.pci).bind fun speed =>
        Work.ofSpec
          (configuration.template.desired ports.isDual speed defaults device.name), host) := by
  rw [NicDevice.desiredNv, hc, hp, Work.on_ofExcept_bind, Work.on_ofExcept_bind, speedFor]
  dsimp only
  split
  · have asked : (Engine.linkSpeed ports.first.pci).on host = (Work.ofHost
        (host.readTable .linkSpeed host.linkSpeeds "link speed" ports.first.pci), host) := rfl
    cases found : host.readTable .linkSpeed host.linkSpeeds "link speed" ports.first.pci with
    | error e =>
        rw [found] at asked
        exact Work.on_bind_error (Work.on_bind_error asked)
    | ok speed =>
        rw [found] at asked
        rw [Work.on_bind_ok (Work.on_bind_ok asked)]
        rfl
  · rfl

theorem desiredNv_eq (hc : device.configuration = .ok configuration)
    (hp : device.ports = .ok ports) (defaults : Dict String) (host : MemoryHost) :
    host.desiredNv device defaults =
      (host.speedFor configuration.template ports.first.pci).bind fun speed =>
        Work.ofSpec
          (configuration.template.desired ports.isDual speed defaults device.name) :=
  congrArg Prod.fst (on_desiredNv_eq hc hp defaults host)

/-- Working out the parameters leaves the host as it is. -/
theorem on_desiredNv (hc : device.configuration = .ok configuration)
    (hp : device.ports = .ok ports) (defaults : Dict String) (host : MemoryHost) :
    (device.desiredNv defaults).on host = (host.desiredNv device defaults, host) := by
  rw [desiredNv_eq hc hp]
  exact on_desiredNv_eq hc hp defaults host

/-- The parameters do not depend on what a pass changes. -/
theorem desiredNv_congr (hc : device.configuration = .ok configuration)
    (hp : device.ports = .ok ports) (failing : host'.failingOperations = host.failingOperations)
    (speeds : host'.linkSpeeds = host.linkSpeeds) :
    host'.desiredNv device defaults = host.desiredNv device defaults := by
  rw [desiredNv_eq hc hp, desiredNv_eq hc hp, speedFor, speedFor, readTable, readTable, check,
    check, failing, speeds]

theorem desiredNv_withNv (hc : device.configuration = .ok configuration)
    (hp : device.ports = .ok ports) {pci : String} {nv : NvMemory} {calls : List HostCall} :
    (host.withNv pci nv calls).desiredNv device defaults = host.desiredNv device defaults :=
  desiredNv_congr hc hp rfl rfl

theorem desired_of_desiredNv (hc : device.configuration = .ok configuration)
    (hp : device.ports = .ok ports) {desired : Dict String}
    (h : host.desiredNv device defaults = .ok desired) :
    ∃ speed, configuration.template.desired ports.isDual speed defaults device.name =
      .ok desired := by
  rw [desiredNv_eq hc hp] at h
  cases found : host.speedFor configuration.template ports.first.pci with
  | error e =>
      rw [found] at h
      cases h
  | ok speed =>
      rw [found] at h
      change Work.ofSpec (configuration.template.desired _ _ _ _) = _ at h
      refine ⟨speed, ?_⟩
      cases wanted : configuration.template.desired ports.isDual speed defaults device.name with
      | error fault =>
          rw [wanted] at h
          cases h
      | ok parameters =>
          rw [wanted] at h
          cases h
          rfl

end MemoryHost

/-! ## Comparing -/

namespace NvMemory

variable {nv nv' : NvMemory} {reset : Bool} {device : String}
  {desired : Except EngineError (Dict String)}

/-- The verdict on a device whose template comes to `desired`. -/
def judge (nv : NvMemory) (reset : Bool) (device : String)
    (desired : Except EngineError (Dict String)) : Except EngineError Verdict :=
  if reset then .ok nv.shown.resetVerdict
  else desired.bind fun desired => Work.ofSpec (nv.shown.verdict desired device)

/-- How the comparison with a template can end. -/
theorem judge_cases (nv : NvMemory) (device : String) (parameters : Dict String) :
    (∃ name, gateOn nv.stored.current = true ∧ parameters.missing? nv.stored.current = some name ∧
        nv.judge false device (.ok parameters) =
          .error (.incorrectSpec (.unsupported name device))) ∨
      (gateOn nv.stored.current = true → parameters.missing? nv.stored.current = none) ∧
        ∃ verdict, nv.judge false device (.ok parameters) = .ok verdict ∧
          (verdict.updateNeeded = false ↔ parameters ⊆ nv.shown.nextBoot) ∧
          (verdict.rebootNeeded = false ↔
            parameters ⊆ nv.shown.nextBoot ∧ parameters ⊆ nv.shown.current) := by
  have same : nv.judge false device (.ok parameters) =
    Work.ofSpec (nv.shown.verdict parameters device) := rfl
  rw [same]
  rcases nv.shown.verdict_cases parameters device with
    ⟨name, on, missing, eq⟩ | ⟨complete, verdict, eq, update, reboot⟩
  · rw [gateOn_shown] at on
    rw [shown_of_gateOn on] at missing
    exact .inl ⟨name, on, missing, by rw [eq]; rfl⟩
  · refine .inr ⟨fun on => ?_, verdict, by rw [eq]; rfl, update, reboot⟩
    have none := complete (gateOn_shown.trans on)
    rw [shown_of_gateOn on] at none
    exact none

/-- With the gate on, a desired parameter without a value in effect is an error. -/
theorem judge_of_missing {parameters : Dict String} (on : gateOn nv.stored.current = true)
    {name : String} (missing : parameters.missing? nv.stored.current = some name) :
    nv.judge false device (.ok parameters) =
      .error (.incorrectSpec (.unsupported name device)) := by
  rcases nv.judge_cases device parameters with ⟨other, -, found, wrong⟩ | ⟨complete, -⟩
  · cases missing.symm.trans found
    exact wrong
  · cases missing.symm.trans (complete on)

/-- The parameters with the gate on, which may have taken a firmware reset. -/
def withGate (nv : NvMemory) : NvMemory :=
  if gateOn nv.stored.current then nv else (nv.stage gateParameter onValue).activate

theorem withGate_of_on (on : gateOn nv.stored.current = true) : nv.withGate = nv := by
  rw [withGate, if_pos on]

theorem withGate_of_off (off : gateOn nv.stored.current = false) :
    nv.withGate = (nv.stage gateParameter onValue).activate := by
  rw [withGate, off]
  rfl

theorem default_withGate : nv.withGate.stored.default = nv.stored.default := by
  rw [withGate]
  split
  · rfl
  · rfl

theorem gateOn_withGate (nv : NvMemory) : gateOn nv.withGate.stored.current = true := by
  rw [withGate]
  split
  · assumption
  · show ((nv.stored.nextBoot.insert gateParameter onValue).get? gateParameter == some onValue) =
      true
    rw [Dict.get?_insert_self]
    rfl

/-- The gate is on, or is a parameter that can be switched on. -/
def Gated (nv : NvMemory) : Prop :=
  gateOn nv.stored.current = true ∨ nv.stored.default.contains gateParameter = true

/-- How staging can end where nothing is made to fail, and the parameters that it leaves. -/
inductive Staging (nv : NvMemory) (device : String) (desired : Except EngineError (Dict String)) :
    Bool → Except EngineError Bool → NvMemory → Prop where
  | ungated (closed : ¬ nv.Gated) :
      Staging nv device desired false
        (.error (.host (.invalidArgument (.unknownParameter gateParameter)))) nv
  | invalid {e : EngineError} (gated : nv.Gated) (wanted : desired = .error e) :
      Staging nv device desired false (.error e) nv.withGate
  | unsupported {parameters : Dict String} {name : String} (gated : nv.Gated)
      (wanted : desired = .ok parameters)
      (missing : parameters.missing? nv.withGate.stored.nextBoot = some name) :
      Staging nv device desired false (.error (.incorrectSpec (.unsupported name device)))
        nv.withGate
  | staged {parameters : Dict String} (gated : nv.Gated) (wanted : desired = .ok parameters)
      (complete : parameters.missing? nv.withGate.stored.nextBoot = none) :
      Staging nv device desired false (.ok true) (nv.withGate.stageDesired parameters)
  | reset (known : nv.stored.default.contains gateParameter = true) :
      Staging nv device desired true (.ok true) (nv.stageDefaults.stage gateParameter onValue)
  | resetUngated (unknown : nv.stored.default.contains gateParameter = false) :
      Staging nv device desired true
        (.error (.host (.invalidArgument (.unknownParameter gateParameter)))) nv.stageDefaults

theorem Staging.default_eq {reset : Bool} {answer : Except EngineError Bool}
    (h : Staging nv device desired reset answer nv') : nv'.stored.default = nv.stored.default := by
  cases h with
  | ungated => rfl
  | invalid => exact default_withGate
  | unsupported => exact default_withGate
  | staged => exact default_withGate
  | reset => rfl
  | resetUngated => rfl

end NvMemory

namespace Engine

open MemoryHost Work

variable {engine : Engine} {limits : Limits} {device : NicDevice} {host : MemoryHost}
  {configuration : Configuration} {ports : NicDevice.Ports} {pci name : String} {nv : NvMemory}

theorem validateNv_yields (engine : Engine) (hc : device.configuration = .ok configuration)
    (hp : device.ports = .ok ports) (found : host.nv.get? ports.first.pci = some nv) :
    Yields engine.limits (engine.validateNv device) host
      (nv.judge configuration.resetToDefault device.name
        (host.desiredNv device nv.stored.default))
      (host.withNv ports.first.pci nv [.queryNv ports.first.pci (some engine.limits.query)]) := by
  rw [validateNv, hc, hp]
  refine Yields.ofExcept_bind (Yields.ofExcept_bind (Yields.bind (queryNv_yields found) ?_ id))
  rw [NvMemory.judge]
  split
  · exact yields_pure _
  · have asked := on_desiredNv hc hp nv.stored.default
      (host.withNv ports.first.pci nv [.queryNv ports.first.pci (some engine.limits.query)])
    rw [desiredNv_withNv hc hp] at asked
    refine .inl ?_
    cases wanted : host.desiredNv device nv.stored.default with
    | error e =>
        rw [wanted] at asked
        exact on_bind_error asked
    | ok desired =>
        rw [wanted] at asked
        exact on_bind_ok asked

/-! ## Staging -/

/-- With the gate on, or with a gate to switch on, the configuration is read with the gate on. -/
theorem queryWithGate_leaves (engine : Engine) (found : host.nv.get? pci = some nv)
    (gated : nv.Gated) :
    Leaves engine.limits (engine.queryWithGate pci) host pci (.ok nv.withGate.stored)
      nv.withGate := by
  refine Leaves.bind ⟨_, queryNv_yields found⟩ fun calls => ?_
  rw [NvMemory.gateOn_shown]
  cases on : gateOn nv.stored.current with
  | true =>
      rw [NvMemory.withGate_of_on on, NvMemory.shown_of_gateOn on]
      exact leaves_pure get?_withNv _
  | false =>
      have known : nv.stored.default.contains gateParameter = true := by
        rcases gated with no | known
        · cases on.symm.trans no
        · exact known
      have opened := nv.gateOn_withGate
      rw [← NvMemory.shown_of_gateOn opened, NvMemory.withGate_of_off on]
      refine Leaves.bind ⟨_, setNv_known get?_withNv known⟩ fun calls => ?_
      refine Leaves.bind ⟨_, resetFirmware_yields get?_withNv⟩ fun calls => ?_
      exact ⟨_, queryNv_yields get?_withNv⟩

theorem queryWithGate_ungated (found : host.nv.get? pci = some nv) (closed : ¬ nv.Gated) :
    Leaves engine.limits (engine.queryWithGate pci) host pci
      (.error (.host (.invalidArgument (.unknownParameter gateParameter)))) nv := by
  rw [NvMemory.Gated, not_or, Bool.not_eq_true, Bool.not_eq_true] at closed
  obtain ⟨off, unknown⟩ := closed
  refine Leaves.bind ⟨_, queryNv_yields found⟩ fun calls => ?_
  rw [NvMemory.gateOn_shown, off]
  exact Leaves.bind_error ⟨_, setNv_unknown get?_withNv unknown⟩

theorem writeAll_leaves (found : host.nv.get? pci = some nv) {entries : List (String × String)}
    (known : ∀ entry ∈ entries, nv.stored.default.contains entry.1 = true) :
    Leaves limits (writeAll pci entries) host pci (.ok ()) (nv.stageAll entries) := by
  induction entries generalizing host nv with
  | nil => exact leaves_pure found ()
  | cons entry rest ih =>
      rw [NvMemory.stageAll_cons]
      refine Leaves.bind ⟨_, setNv_known found (known entry List.mem_cons_self)⟩ fun calls => ?_
      exact ih get?_withNv fun other mem => known other (List.mem_cons_of_mem _ mem)

theorem desiredNv_leaves (limits : Limits) (hc : device.configuration = .ok configuration)
    (hp : device.ports = .ok ports) (found : host.nv.get? pci = some nv) (defaults : Dict String) :
    Leaves limits (device.desiredNv defaults) host pci (host.desiredNv device defaults) nv := by
  refine ⟨[], .inl ?_⟩
  rw [withNv_self found]
  exact on_desiredNv hc hp defaults host

theorem ofExcept_leaves (found : host.nv.get? pci = some nv) {α : Type}
    (result : Except EngineError α) :
    Leaves limits (Work.ofExcept result) host pci result nv := by
  refine ⟨[], .inl ?_⟩
  rw [withNv_self found]
  rfl

/-- Writes what is not staged, once the gate is on and the template is known. -/
def writeMissing (device : NicDevice) (pci : String) (snapshot : NvSnapshot)
    (desired : Dict String) : Work Bool := do
  writeAll pci (← Work.ofExcept (Work.ofSpec (snapshot.missing desired device.name)))
  return true

theorem writeMissing_on_unsupported {desired : Dict String}
    (missing : desired.missing? nv.stored.nextBoot = some name) :
    (writeMissing device pci nv.stored desired).on host =
      (.error (.incorrectSpec (.unsupported name device.name)), host) := by
  rcases nv.stored.missing_cases desired device.name with ⟨other, same, eq⟩ | ⟨complete, -⟩
  · cases missing.symm.trans same
    rw [writeMissing, eq]
    rfl
  · cases missing.symm.trans complete

theorem writeMissing_unsupported (found : host.nv.get? pci = some nv) {desired : Dict String}
    (missing : desired.missing? nv.stored.nextBoot = some name) :
    Leaves limits (writeMissing device pci nv.stored desired) host pci
      (.error (.incorrectSpec (.unsupported name device.name))) nv := by
  refine ⟨[], .inl ?_⟩
  rw [withNv_self found]
  exact writeMissing_on_unsupported missing

/-- With the gate on everything that differs is seen to differ. -/
theorem writeMissing_leaves (found : host.nv.get? pci = some nv)
    (on : gateOn nv.stored.current = true) {desired : Dict String}
    (complete : desired.missing? nv.stored.nextBoot = none)
    (known : ∀ name, desired.contains name = true → nv.stored.default.contains name = true) :
    Leaves limits (writeMissing device pci nv.stored desired) host pci (.ok true)
      (nv.stageDesired desired) := by
  rcases nv.stored.missing_cases desired device.name with ⟨name, missing, -⟩ | ⟨-, eq⟩
  · cases complete.symm.trans missing
  · rw [writeMissing, eq, NvMemory.stageDesired, NvMemory.shown_of_gateOn on]
    refine Leaves.bind (ofExcept_leaves found (.ok _)) fun calls => ?_
    refine Leaves.bind (writeAll_leaves get?_withNv fun entry mem => ?_) fun calls => ?_
    · have asked := Dict.mem_entries_iff.1 (List.mem_filter.1 mem).1
      exact known entry.1 (Dict.contains_of_get? asked)
    · exact leaves_pure get?_withNv true

theorem applyNv_of_template (engine : Engine) (hc : device.configuration = .ok configuration)
    (hp : device.ports = .ok ports) (template : configuration.resetToDefault = false) :
    engine.applyNv device = (do
      let snapshot ← engine.queryWithGate ports.first.pci
      let desired ← device.desiredNv snapshot.default
      writeMissing device ports.first.pci snapshot desired) := by
  rw [applyNv, hc, hp]
  show (if configuration.resetToDefault then _ else _) = _
  rw [template]
  rfl

theorem stageTemplate_leaves (engine : Engine) (hc : device.configuration = .ok configuration)
    (hp : device.ports = .ok ports) (template : configuration.resetToDefault = false)
    (found : host.nv.get? ports.first.pci = some nv) :
    ∃ answer nv', NvMemory.Staging nv device.name (host.desiredNv device nv.stored.default)
        false answer nv' ∧
      Leaves engine.limits (engine.applyNv device) host ports.first.pci answer nv' := by
  rw [engine.applyNv_of_template hc hp template]
  by_cases gated : nv.Gated
  · have opened := engine.queryWithGate_leaves found gated
    -- Opening the gate changes no default, so the template comes to the same as in the comparison.
    have asked : ∀ calls, Leaves engine.limits (device.desiredNv nv.withGate.stored.default)
        (host.withNv ports.first.pci nv.withGate calls) ports.first.pci
        (host.desiredNv device nv.stored.default) nv.withGate := by
      intro calls
      have found' : (host.withNv ports.first.pci nv.withGate calls).nv.get? ports.first.pci =
        some nv.withGate := get?_withNv
      have asked := desiredNv_leaves engine.limits hc hp found' nv.stored.default
      rw [desiredNv_withNv hc hp] at asked
      rw [NvMemory.default_withGate]
      exact asked
    cases wanted : host.desiredNv device nv.stored.default with
    | error e =>
        rw [wanted] at asked
        refine ⟨_, _, .invalid gated rfl, Leaves.bind opened fun calls => ?_⟩
        exact Leaves.bind_error (asked calls)
    | ok desired =>
        rw [wanted] at asked
        cases missing : desired.missing? nv.withGate.stored.nextBoot with
        | some name =>
            refine ⟨_, _, .unsupported gated rfl missing, Leaves.bind opened fun calls => ?_⟩
            refine Leaves.bind (asked calls) fun calls => ?_
            exact writeMissing_unsupported get?_withNv missing
        | none =>
            refine ⟨_, _, .staged gated rfl missing, Leaves.bind opened fun calls => ?_⟩
            refine Leaves.bind (asked calls) fun calls => ?_
            refine writeMissing_leaves get?_withNv nv.gateOn_withGate missing fun name known => ?_
            rw [NvMemory.default_withGate]
            obtain ⟨speed, wanted⟩ := desired_of_desiredNv hc hp wanted
            exact Template.contains_of_desired wanted known
  · exact ⟨_, _, .ungated gated, Leaves.bind_error (queryWithGate_ungated found gated)⟩

theorem applyNv_of_reset (engine : Engine) (hc : device.configuration = .ok configuration)
    (hp : device.ports = .ok ports) (reset : configuration.resetToDefault = true) :
    engine.applyNv device = (do
      resetNv ports.first.pci
      openGate ports.first.pci
      return true) := by
  rw [applyNv, hc, hp]
  show (if configuration.resetToDefault then _ else _) = _
  rw [reset]
  rfl

theorem stageDefaults_leaves (engine : Engine) (hc : device.configuration = .ok configuration)
    (hp : device.ports = .ok ports) (reset : configuration.resetToDefault = true)
    (found : host.nv.get? ports.first.pci = some nv) :
    ∃ answer nv', NvMemory.Staging nv device.name (host.desiredNv device nv.stored.default)
        true answer nv' ∧
      Leaves engine.limits (engine.applyNv device) host ports.first.pci answer nv' := by
  rw [engine.applyNv_of_reset hc hp reset]
  cases known : nv.stored.default.contains gateParameter with
  | true =>
      refine ⟨_, _, .reset known, Leaves.bind ⟨_, resetNv_yields found⟩ fun calls => ?_⟩
      refine Leaves.bind ⟨_, setNv_known get?_withNv known⟩ fun calls => ?_
      exact leaves_pure get?_withNv true
  | false =>
      refine ⟨_, _, .resetUngated known, Leaves.bind ⟨_, resetNv_yields found⟩ fun calls => ?_⟩
      exact Leaves.bind_error ⟨_, setNv_unknown get?_withNv known⟩

theorem applyNv_leaves (engine : Engine) (hc : device.configuration = .ok configuration)
    (hp : device.ports = .ok ports) (found : host.nv.get? ports.first.pci = some nv) :
    ∃ answer nv', NvMemory.Staging nv device.name (host.desiredNv device nv.stored.default)
        configuration.resetToDefault answer nv' ∧
      Leaves engine.limits (engine.applyNv device) host ports.first.pci answer nv' := by
  cases reset : configuration.resetToDefault with
  | true => exact engine.stageDefaults_leaves hc hp reset found
  | false => exact engine.stageTemplate_leaves hc hp reset found

end Engine

end NicKeeper
