import NicKeeper.Proofs.FirmwareOnMemory
import NicKeeper.Proofs.LiveOnMemory

/-!
# The work of a pass on a host in memory

The work of a pass is the comparison with the spec and what follows from the verdict. `WorkedOn`
lists the ways that this can go on a host in memory, each with what its parts come to there.
-/

namespace NicKeeper

open Program

namespace Engine

open MemoryHost Work

variable {engine : Engine} {device : NicDevice} {configuration : Configuration}
  {ports : NicDevice.Ports} {host after : MemoryHost}

/-- How the work of a pass can go on a host in memory. -/
inductive WorkedOn (engine : Engine) (device : NicDevice) (host : MemoryHost) :
    Bool → Pass.Result → MemoryHost → Prop where
  | invalid {e : EngineError} {mid : MemoryHost}
      (compared : (engine.validateNv device).on host = (.error e, mid)) :
      WorkedOn engine device host false (.error e) mid
  | waiting {verdict : Verdict} {mid : MemoryHost}
      (compared : (engine.validateNv device).on host = (.ok verdict, mid))
      (spared : verdict.updateNeeded = false) (waits : verdict.rebootNeeded = true) :
      WorkedOn engine device host false .rebootRequired mid
  | live {verdict : Verdict} {mid after : MemoryHost} {answer : Except EngineError Unit}
      (compared : (engine.validateNv device).on host = (.ok verdict, mid))
      (spared : verdict.updateNeeded = false) (settled : verdict.rebootNeeded = false)
      (set : (applyLive device).on mid = (answer, after)) :
      WorkedOn engine device host false (ofLive answer) after
  | staged {verdict : Verdict} {mid after : MemoryHost} {answer : Except EngineError Bool}
      (compared : (engine.validateNv device).on host = (.ok verdict, mid))
      (needed : verdict.updateNeeded = true)
      (staged : (engine.applyNv device).on mid = (answer, after)) :
      WorkedOn engine device host true (ofStaging answer) after

theorem applyNv_on_ok {reboot : Bool}
    (h : (engine.applyNv device).on host = (.ok reboot, after)) : reboot = true := by
  have runs := runs_trace MemoryHost.handle (engine.applyNv device).run host
  rw [show (engine.applyNv device).run.run MemoryHost.handle host = _ from h] at runs
  exact runs_applyNv_ok runs

theorem run_nvWork (mid : MemoryHost) :
    (Pass.nvWork device).run (fun call => (engine.manage call).run MemoryHost.handle) mid =
      (ofStaging ((engine.applyNv device).on mid).1, ((engine.applyNv device).on mid).2) := by
  match staged : (engine.applyNv device).on mid with
  | (answer, after) =>
      have ran : (engine.manage (.applyNv device)).run MemoryHost.handle mid = (answer, after) :=
        staged
      rw [Pass.nvWork, run_ask, ran]
      match answer with
      | .error e => rfl
      | .ok true => rfl
      | .ok false => cases applyNv_on_ok staged

theorem run_liveWork (mid : MemoryHost) :
    (Pass.liveWork device).run (fun call => (engine.manage call).run MemoryHost.handle) mid =
      (ofLive ((applyLive device).on mid).1, ((applyLive device).on mid).2) := by
  match set : (applyLive device).on mid with
  | (answer, after) =>
      have ran : (engine.manage (.applyLive device)).run MemoryHost.handle mid = (answer, after) :=
        set
      rw [Pass.liveWork, run_ask, ran]
      match answer with
      | .error e => rfl
      | .ok () => rfl

/-- What follows from a comparison that leaves the host as `mid`. -/
def followed (engine : Engine) (device : NicDevice) (mid : MemoryHost) :
    Except EngineError Verdict → (Bool × Pass.Result) × MemoryHost
  | .error e => ((false, .error e), mid)
  | .ok verdict =>
    if verdict.updateNeeded then
      ((true, ofStaging ((engine.applyNv device).on mid).1), ((engine.applyNv device).on mid).2)
    else if verdict.rebootNeeded then ((false, .rebootRequired), mid)
    else ((false, ofLive ((applyLive device).on mid).1), ((applyLive device).on mid).2)

theorem run_work {answer : Except EngineError Verdict} {mid : MemoryHost}
    (compared : (engine.validateNv device).on host = (answer, mid)) :
    (engine.work device).run MemoryHost.handle host = engine.followed device mid answer := by
  have ran : (engine.manage (.validateNv device)).run MemoryHost.handle host = (answer, mid) :=
    compared
  rw [work, run_interpret, Pass.work, run_ask, run_bind, ran]
  cases answer with
  | error e => rfl
  | ok verdict =>
      rw [Pass.workAfter, followed]
      split
      · rw [run_nvWork]
        rfl
      · split
        · rfl
        · rw [run_liveWork]
          rfl

theorem workedOn_of_run {updated : Bool} {result : Pass.Result}
    (h : (engine.work device).run MemoryHost.handle host = ((updated, result), after)) :
    WorkedOn engine device host updated result after := by
  match compared : (engine.validateNv device).on host with
  | (.error e, mid) =>
      rw [run_work compared] at h
      cases h
      exact .invalid compared
  | (.ok verdict, mid) =>
      rw [run_work compared, followed] at h
      split at h
      · next needed =>
          cases h
          exact .staged compared needed rfl
      · next spared =>
          rw [Bool.not_eq_true] at spared
          split at h
          · next waits =>
              cases h
              exact .waiting compared spared waits
          · next settled =>
              rw [Bool.not_eq_true] at settled
              cases h
              exact .live compared spared settled rfl

theorem validateNv_absent (engine : Engine) (hc : device.configuration = .ok configuration)
    (hp : device.ports = .ok ports) (absent : host.nv.get? ports.first.pci = none) :
    ∃ cause, (engine.validateNv device).on host = (.error (.host cause),
      host.record (.queryNv ports.first.pci (some engine.limits.query))) := by
  obtain ⟨cause, read, -⟩ := engine.queryNv_absent absent
  refine ⟨cause, ?_⟩
  rw [validateNv, hc, hp, on_ofExcept_bind, on_ofExcept_bind]
  exact on_bind_error read

/-- A device without firmware parameters cannot be compared with its spec. -/
theorem WorkedOn.absent {updated : Bool} {result : Pass.Result}
    (h : WorkedOn engine device host updated result after)
    (hc : device.configuration = .ok configuration) (hp : device.ports = .ok ports)
    (absent : host.nv.get? ports.first.pci = none) :
    result.outcome = .failed ∧
      after = host.record (.queryNv ports.first.pci (some engine.limits.query)) := by
  obtain ⟨cause, compared'⟩ := engine.validateNv_absent hc hp absent
  cases h with
  | invalid compared =>
      cases compared'.symm.trans compared
      exact ⟨rfl, rfl⟩
  | waiting compared => cases compared'.symm.trans compared
  | live compared => cases compared'.symm.trans compared
  | staged compared => cases compared'.symm.trans compared

/-! ## A host that is not made to fail -/

/-- A healthy host has `nv` as the parameters of a device, and `desired` is what the device's
template comes to there. -/
structure Hosts (engine : Engine) (device : NicDevice) (ports : NicDevice.Ports)
    (desired : Except EngineError (Dict String)) (host : MemoryHost) (nv : NvMemory) : Prop where
  healthy : host.Healthy engine.limits
  found : host.nv.get? ports.first.pci = some nv
  asked : host.desiredNv device nv.stored.default = desired

namespace Hosts

variable {desired : Except EngineError (Dict String)} {nv nv' : NvMemory}

theorem withNv (h : Hosts engine device ports desired host nv)
    (hc : device.configuration = .ok configuration) (hp : device.ports = .ok ports)
    (nv' : NvMemory) (same : nv'.stored.default = nv.stored.default) (calls : List HostCall) :
    Hosts engine device ports desired (host.withNv ports.first.pci nv' calls) nv' := by
  refine ⟨h.healthy, get?_withNv, ?_⟩
  rw [desiredNv_withNv hc hp, same, h.asked]

theorem withLive (h : Hosts engine device ports desired host nv)
    (hc : device.configuration = .ok configuration) (hp : device.ports = .ok ports)
    (readRequests : Dict UInt32) (qos : Dict (Trust × Pfc)) (calls : List HostCall) :
    Hosts engine device ports desired (host.withLive readRequests qos calls) nv := by
  have same : (host.withLive readRequests qos calls).desiredNv device nv.stored.default =
    host.desiredNv device nv.stored.default := desiredNv_congr hc hp rfl rfl
  exact ⟨h.healthy, h.found, same.trans h.asked⟩

/-- The comparison is with the parameters that the host has, and only the query is recorded. -/
theorem validateNv_on (h : Hosts engine device ports desired host nv)
    (hc : device.configuration = .ok configuration) (hp : device.ports = .ok ports) :
    (engine.validateNv device).on host =
      (nv.judge configuration.resetToDefault device.name desired,
        host.withNv ports.first.pci nv [.queryNv ports.first.pci (some engine.limits.query)]) := by
  have yields := engine.validateNv_yields hc hp h.found
  rw [h.asked] at yields
  exact yields.of_healthy h.healthy

theorem run_work_invalid (h : Hosts engine device ports desired host nv)
    (hc : device.configuration = .ok configuration) (hp : device.ports = .ok ports)
    {e : EngineError}
    (judged : nv.judge configuration.resetToDefault device.name desired = .error e) :
    (engine.work device).run MemoryHost.handle host = ((false, .error e),
      host.withNv ports.first.pci nv [.queryNv ports.first.pci (some engine.limits.query)]) := by
  rw [run_work (h.validateNv_on hc hp), judged]
  rfl

theorem run_work_spared (h : Hosts engine device ports desired host nv)
    (hc : device.configuration = .ok configuration) (hp : device.ports = .ok ports)
    {verdict : Verdict}
    (judged : nv.judge configuration.resetToDefault device.name desired = .ok verdict)
    (spared : verdict.updateNeeded = false) :
    (engine.work device).run MemoryHost.handle host =
      let mid := host.withNv ports.first.pci nv
        [.queryNv ports.first.pci (some engine.limits.query)]
      if verdict.rebootNeeded then ((false, .rebootRequired), mid)
      else ((false, ofLive ((applyLive device).on mid).1), ((applyLive device).on mid).2) := by
  rw [run_work (h.validateNv_on hc hp), judged, followed, spared]
  rfl

theorem applyNv_on (h : Hosts engine device ports desired host nv)
    (hc : device.configuration = .ok configuration) (hp : device.ports = .ok ports) :
    ∃ answer nv' calls,
      nv.Staging device.name desired configuration.resetToDefault answer nv' ∧
        (engine.applyNv device).on host = (answer, host.withNv ports.first.pci nv' calls) := by
  obtain ⟨answer, nv', staging, calls, yields⟩ := engine.applyNv_leaves hc hp h.found
  rw [h.asked] at staging
  exact ⟨answer, nv', calls, staging, yields.of_healthy h.healthy⟩

end Hosts

/-- Live settings have no influence on firmware parameters. -/
theorem applyLive_withLive {limits : Limits} (hp : device.ports = .ok ports)
    (healthy : host.Healthy limits) :
    ∃ answer readRequests qos calls,
      (applyLive device).on host = (answer, host.withLive readRequests qos calls) := by
  have kept := (withLive_self host).symm
  cases hs : device.liveSettings with
  | error e =>
      exact ⟨.error e, _, _, _, (applyLive_wrong hs).trans (Prod.ext rfl kept)⟩
  | ok settings =>
      rcases applyLive_cases hs hp limits host with ⟨-, same⟩ | ⟨-, same⟩
      · exact ⟨.ok (), _, _, _, same.trans (Prod.ext rfl kept)⟩
      · obtain ⟨answer, after, ended, yields⟩ := setLive_yields limits host hs hp
        rw [same, yields.of_healthy healthy]
        cases ended with
        | set => exact ⟨_, _, _, _, rfl⟩
        | noInterface => exact ⟨_, _, _, _, rfl⟩

end Engine

/-- What the work of a pass makes of the parameters of a device. -/
inductive NvMemory.Step (nv : NvMemory) (reset : Bool) (device : String)
    (desired : Except EngineError (Dict String)) : Pass.Result → NvMemory → Prop where
  | invalid {e : EngineError} (judged : nv.judge reset device desired = .error e) :
      Step nv reset device desired (.error e) nv
  | waiting {verdict : Verdict} (judged : nv.judge reset device desired = .ok verdict)
      (spared : verdict.updateNeeded = false) (waits : verdict.rebootNeeded = true) :
      Step nv reset device desired .rebootRequired nv
  | live {verdict : Verdict} (judged : nv.judge reset device desired = .ok verdict)
      (spared : verdict.updateNeeded = false) (settled : verdict.rebootNeeded = false)
      (answer : Except EngineError Unit) :
      Step nv reset device desired (Engine.ofLive answer) nv
  | staged {verdict : Verdict} (judged : nv.judge reset device desired = .ok verdict)
      (needed : verdict.updateNeeded = true) {answer : Except EngineError Bool} {nv' : NvMemory}
      (staging : nv.Staging device desired reset answer nv') :
      Step nv reset device desired (Engine.ofStaging answer) nv'

/-- Without a gate to open, values that have to be staged never are. -/
theorem NvMemory.Step.of_ungated {nv nv' : NvMemory} {device : String}
    {desired : Except EngineError (Dict String)} {result : Pass.Result}
    (h : nv.Step false device desired result nv') (closed : ¬ nv.Gated) {verdict : Verdict}
    (judged : nv.judge false device desired = .ok verdict) (needed : verdict.updateNeeded = true) :
    result = .error (.host (.invalidArgument (.unknownParameter gateParameter))) ∧ nv' = nv := by
  cases h with
  | invalid wrong => cases judged.symm.trans wrong
  | waiting same spared =>
      cases judged.symm.trans same
      cases spared.symm.trans needed
  | live same spared =>
      cases judged.symm.trans same
      cases spared.symm.trans needed
  | staged _ _ staging =>
      cases staging with
      | ungated => exact ⟨rfl, rfl⟩
      | invalid gated => exact absurd gated closed
      | unsupported gated => exact absurd gated closed
      | staged gated => exact absurd gated closed

namespace Engine

open MemoryHost Work

variable {engine : Engine} {device : NicDevice} {configuration : Configuration}
  {ports : NicDevice.Ports} {host after : MemoryHost} {updated : Bool} {result : Pass.Result}
  {desired : Except EngineError (Dict String)} {nv : NvMemory}

theorem WorkedOn.step (h : WorkedOn engine device host updated result after)
    (hc : device.configuration = .ok configuration) (hp : device.ports = .ok ports)
    (hosts : Hosts engine device ports desired host nv) :
    ∃ nv', nv.Step configuration.resetToDefault device.name desired result nv' ∧
      Hosts engine device ports desired after nv' := by
  have compared' := hosts.validateNv_on hc hp
  cases h with
  | invalid compared =>
      obtain ⟨judged, rfl⟩ := Prod.mk.inj (compared'.symm.trans compared)
      exact ⟨nv, .invalid judged, hosts.withNv hc hp _ rfl _⟩
  | waiting compared spared waits =>
      obtain ⟨judged, rfl⟩ := Prod.mk.inj (compared'.symm.trans compared)
      exact ⟨nv, .waiting judged spared waits, hosts.withNv hc hp _ rfl _⟩
  | live compared spared settled set =>
      obtain ⟨judged, rfl⟩ := Prod.mk.inj (compared'.symm.trans compared)
      have mid := hosts.withNv hc hp nv rfl
        [.queryNv ports.first.pci (some engine.limits.query)]
      obtain ⟨answer, readRequests, qos, calls, same⟩ := applyLive_withLive hp mid.healthy
      cases same.symm.trans set
      exact ⟨nv, .live judged spared settled _, mid.withLive hc hp _ _ _⟩
  | staged compared needed staged =>
      obtain ⟨judged, rfl⟩ := Prod.mk.inj (compared'.symm.trans compared)
      have mid := hosts.withNv hc hp nv rfl
        [.queryNv ports.first.pci (some engine.limits.query)]
      obtain ⟨answer, nv', calls, staging, same⟩ := mid.applyNv_on hc hp
      cases same.symm.trans staged
      exact ⟨nv', .staged judged needed staging, mid.withNv hc hp _ staging.default_eq _⟩

end Engine

/-! ## The report in a device's status -/

/-- The same device to a manager: only what its status reports may be another. -/
structure NicDevice.Agrees (device other : NicDevice) : Prop where
  name : device.name = other.name
  spec : device.spec = other.spec
  ports : device.ports = other.ports

namespace NicDevice.Agrees

open Engine

variable {device other third : NicDevice}

theorem refl (device : NicDevice) : device.Agrees device := ⟨rfl, rfl, rfl⟩

theorem trans (h : device.Agrees other) (h' : other.Agrees third) : device.Agrees third :=
  ⟨h.name.trans h'.name, h.spec.trans h'.spec, h.ports.trans h'.ports⟩

theorem configuration_eq (same : device.Agrees other) :
    device.configuration = other.configuration := by
  rw [NicDevice.configuration, NicDevice.configuration, same.spec, same.name]

theorem liveSettings_eq (same : device.Agrees other) :
    device.liveSettings = other.liveSettings := by
  rw [NicDevice.liveSettings, NicDevice.liveSettings, same.configuration_eq]

theorem desiredNv_eq (same : device.Agrees other) : device.desiredNv = other.desiredNv := by
  funext defaults
  rw [NicDevice.desiredNv, NicDevice.desiredNv, same.configuration_eq, same.ports, same.name]

theorem interfaceOf_eq (same : device.Agrees other) : interfaceOf device = interfaceOf other := by
  funext port
  rw [interfaceOf, interfaceOf, same.name]

theorem portsAreSet_eq (same : device.Agrees other) (settings : LiveSettings)
    (ports : List Port) : portsAreSet device settings ports = portsAreSet other settings ports := by
  induction ports with
  | nil => rfl
  | cons port rest ih =>
      rw [portsAreSet, portsAreSet, ih, portIsSet, portIsSet, same.interfaceOf_eq]

theorem setQosOfAll_eq (same : device.Agrees other) (settings : LiveSettings)
    (ports : List Port) : setQosOfAll device settings ports = setQosOfAll other settings ports := by
  induction ports with
  | nil => rfl
  | cons port rest ih => rw [setQosOfAll, setQosOfAll, ih, same.interfaceOf_eq]

theorem applyLive_eq (same : device.Agrees other) : applyLive device = applyLive other := by
  have read : hasLiveSettings device = hasLiveSettings other := by
    rw [hasLiveSettings, hasLiveSettings, same.liveSettings_eq, same.ports]
    simp only [same.portsAreSet_eq]
  have set : setLive device = setLive other := by
    rw [setLive, setLive, same.liveSettings_eq, same.ports]
    simp only [same.setQosOfAll_eq]
  rw [applyLive, applyLive, read, set]

theorem liveWork_eq (same : device.Agrees other) (engine : Engine) :
    (Pass.liveWork device).interpret engine.manage =
      (Pass.liveWork other).interpret engine.manage := by
  show (applyLive device).run.bind _ = (applyLive other).run.bind _
  rw [same.applyLive_eq]
  congr 1
  funext answer
  cases answer with
  | error e => rfl
  | ok _ => rfl

theorem nvWork_eq (same : device.Agrees other) (engine : Engine) :
    (Pass.nvWork device).interpret engine.manage = (Pass.nvWork other).interpret engine.manage := by
  have apply : engine.applyNv device = engine.applyNv other := by
    rw [applyNv, applyNv, same.configuration_eq, same.ports, same.desiredNv_eq, same.name]
  show (engine.applyNv device).run.bind _ = (engine.applyNv other).run.bind _
  rw [apply]
  congr 1
  funext answer
  cases answer with
  | error e => rfl
  | ok reboot =>
      cases reboot with
      | true => rfl
      | false => exact same.liveWork_eq engine

/-- What a pass does to the host does not depend on what the device's status reports. -/
theorem work_eq (same : device.Agrees other) (engine : Engine) :
    engine.work device = engine.work other := by
  have validate : engine.validateNv device = engine.validateNv other := by
    rw [validateNv, validateNv, same.configuration_eq, same.ports, same.desiredNv_eq, same.name]
  show (engine.validateNv device).run.bind _ = (engine.validateNv other).run.bind _
  rw [validate]
  congr 1
  funext answer
  cases answer with
  | error e => rfl
  | ok verdict =>
      rw [interpret_bind, interpret_bind, Pass.workAfter, Pass.workAfter]
      split
      · rw [same.nvWork_eq engine]
      · split
        · rfl
        · rw [same.liveWork_eq engine]

end NicDevice.Agrees

end NicKeeper
