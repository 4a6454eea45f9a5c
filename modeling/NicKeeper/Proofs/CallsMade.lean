import NicKeeper.Proofs.Node

/-!
# The calls of a device's pass

A pass over a device asks the host about the ports of that device and about nothing else: its calls
name the PCI addresses and the network interfaces of the ports (`pass_covered`). The calls that live
settings are brought about by are a part of these, none of which is about firmware parameters
(`applyLive_live`).
-/

namespace NicKeeper

open Program

/-- Some PCI addresses and network interfaces. -/
structure Footprint where
  address : String → Bool
  interface : String → Bool

namespace Footprint

def ofPorts (ports : List Port) : Footprint where
  address pci := ports.any (·.pci == pci)
  interface name := ports.any (·.networkInterface == name)

/-- The calls on settings of these addresses and interfaces, and on the speed of their links. -/
def Covers (footprint : Footprint) : HostCall → Prop
  | .linkSpeed pci | .queryNv pci _ | .setNv pci _ _ | .resetNv pci | .resetFirmware pci _
  | .readRequest pci | .setReadRequest pci _ => footprint.address pci = true
  | .qos name | .setQos name _ _ => footprint.interface name = true
  | _ => False

theorem address_ofPorts {ports : List Port} {port : Port} (mem : port ∈ ports) :
    (ofPorts ports).address port.pci = true :=
  List.any_eq_true.2 ⟨port, mem, beq_self_eq_true _⟩

theorem interface_ofPorts {ports : List Port} {port : Port} (mem : port ∈ ports) :
    (ofPorts ports).interface port.networkInterface = true :=
  List.any_eq_true.2 ⟨port, mem, beq_self_eq_true _⟩

end Footprint

/-- The calls that change firmware parameters, staged or in effect. -/
def HostCall.changesNv : HostCall → Bool
  | .setNv .. | .resetNv .. | .resetFirmware .. => true
  | _ => false

namespace NicDevice

/-- The ports of a device, of which there are none before it has been discovered. -/
def knownPorts (device : NicDevice) : List Port := device.status.elim [] (·.ports)

def footprint (device : NicDevice) : Footprint := .ofPorts device.knownPorts

theorem knownPorts_eq {device : NicDevice} {ports : Ports} (hp : device.ports = .ok ports) :
    device.knownPorts = ports.all := by
  obtain ⟨metadata, spec, status⟩ := device
  match status with
  | none => cases hp
  | some { ports := [], .. } => cases hp
  | some { ports := _ :: _, .. } =>
      cases hp
      rfl

end NicDevice

namespace Engine

variable {α : Type} {allowed : HostCall → Prop} {engine : Engine} {device : NicDevice}
  {ports : List Port} {pci : String}

/-- Work that makes only allowed calls. -/
abbrev Makes (allowed : HostCall → Prop) (work : Work α) : Prop :=
  Only (fun call : hostService.Call => allowed call) work.run

theorem makes_pure (value : α) : Makes allowed (pure value) := only_done _

theorem makes_ofExcept (result : Except EngineError α) : Makes allowed (Work.ofExcept result) :=
  only_done _

theorem makes_call {call : HostCall} (own : allowed call)
    (read : call.Answer → Except EngineError α) :
    Makes allowed (Work.ask call >>= fun found => Work.ofExcept (read found)) :=
  Only.bindT (only_ask own fun _ => only_done _) fun _ => only_done _

/-- What follows from a known result has to make allowed calls only where there is a result. -/
theorem makes_ofExcept_bind {β : Type} {result : Except EngineError α} {next : α → Work β}
    (rest : ∀ value, result = .ok value → Makes allowed (next value)) :
    Makes allowed (Work.ofExcept result >>= next) := by
  cases result with
  | error e => exact only_done _
  | ok value => exact rest value rfl

/-! ## Live settings -/

/-- The calls on live settings of these ports. -/
def Live (ports : List Port) (call : HostCall) : Prop :=
  (Footprint.ofPorts ports).Covers call ∧ call.changesNv = false

/-- Reading the settings of a port back takes two calls at most. -/
theorem portIsSet_makes (settings : LiveSettings) {port : Port}
    (own : allowed (.readRequest port.pci) ∧ allowed (.qos port.networkInterface)) :
    Makes allowed (portIsSet device settings port) := by
  refine Only.bindT ?_ fun has => ?_
  · rw [hasReadRequest]
    split
    · exact makes_pure true
    · exact Only.bindT (makes_call own.1 _) fun _ => makes_pure _
  · split
    · refine makes_ofExcept_bind fun interface found => ?_
      rw [interfaceOf] at found
      split at found
      · cases found
      · cases found
        exact Only.bindT (makes_call own.2 _) fun _ => makes_pure _
    · exact makes_pure false

theorem portsAreSet_makes (settings : LiveSettings)
    (own : ∀ port ∈ ports,
      allowed (.readRequest port.pci) ∧ allowed (.qos port.networkInterface)) :
    Makes allowed (portsAreSet device settings ports) := by
  induction ports with
  | nil => exact makes_pure true
  | cons port rest ih =>
      obtain ⟨first, others⟩ := List.forall_mem_cons.1 own
      refine Only.bindT (portIsSet_makes settings first) fun set => ?_
      split
      · exact ih others
      · exact makes_pure false

theorem hasLiveSettings_makes
    (own : ∀ known, device.ports = .ok known → ∀ port ∈ known.configured,
      allowed (.readRequest port.pci) ∧ allowed (.qos port.networkInterface)) :
    Makes allowed (hasLiveSettings device) :=
  makes_ofExcept_bind fun settings _ => makes_ofExcept_bind fun known hp =>
    portsAreSet_makes settings (own known hp)

theorem setReadRequests_live (size : UInt32) {some : List Port} (sub : some ⊆ ports) :
    Makes (Live ports) (setReadRequests size some) := by
  induction some with
  | nil => exact makes_pure ()
  | cons port rest ih =>
      obtain ⟨mem, sub⟩ := List.cons_subset.1 sub
      exact Only.bindT (makes_call ⟨Footprint.address_ofPorts mem, rfl⟩ _) fun _ => ih sub

theorem setQosOfAll_live (settings : LiveSettings) {some : List Port} (sub : some ⊆ ports) :
    Makes (Live ports) (setQosOfAll device settings some) := by
  induction some with
  | nil => exact makes_pure ()
  | cons port rest ih =>
      obtain ⟨mem, sub⟩ := List.cons_subset.1 sub
      refine makes_ofExcept_bind fun interface found => ?_
      rw [interfaceOf] at found
      split at found
      · cases found
      · cases found
        exact Only.bindT (makes_call ⟨Footprint.interface_ofPorts mem, rfl⟩ _) fun _ => ih sub

section Configured

variable (own : ∀ known, device.ports = .ok known → known.configured ⊆ ports)
include own

theorem setLive_of_configured : Makes (Live ports) (setLive device) := by
  refine makes_ofExcept_bind fun settings _ => makes_ofExcept_bind fun known hp => ?_
  have sub := own known hp
  dsimp only
  split
  · exact Only.bindT (setReadRequests_live _ sub) fun _ => setQosOfAll_live settings sub
  · exact setQosOfAll_live settings sub

theorem applyLive_of_configured : Makes (Live ports) (applyLive device) := by
  refine Only.bind (hasLiveSettings_makes fun known hp port mem => ?_) fun found => ?_
  · have mem := own known hp mem
    exact ⟨⟨Footprint.address_ofPorts mem, rfl⟩, ⟨Footprint.interface_ofPorts mem, rfl⟩⟩
  match found with
  | .ok true => exact only_done _
  | .ok false => exact setLive_of_configured own
  | .error e =>
      dsimp only
      split
      · exact only_done _
      · exact setLive_of_configured own

end Configured

theorem configured_subset {ports : NicDevice.Ports} (hp : device.ports = .ok ports) :
    ports.configured ⊆ device.knownPorts := by
  rw [NicDevice.knownPorts_eq hp]
  exact List.take_subset 2 _

theorem applyLive_live (device : NicDevice) : Makes (Live device.knownPorts) (applyLive device) :=
  applyLive_of_configured fun _ => configured_subset

/-! ## Firmware parameters -/

variable {footprint : Footprint}

theorem queryWithGate_covered (engine : Engine) (own : footprint.address pci = true) :
    Makes footprint.Covers (engine.queryWithGate pci) := by
  refine Only.bindT (makes_call own _) fun snapshot => ?_
  split
  · exact makes_pure snapshot
  · refine Only.bindT (makes_call own _) fun _ => ?_
    exact Only.bindT (makes_call own _) fun _ => makes_call own _

theorem writeAll_covered (own : footprint.address pci = true) (entries : List (String × String)) :
    Makes footprint.Covers (writeAll pci entries) := by
  induction entries with
  | nil => exact makes_pure ()
  | cons entry rest ih => exact Only.bindT (makes_call own _) fun _ => ih

theorem first_covered {ports : NicDevice.Ports} (hp : device.ports = .ok ports) :
    device.footprint.address ports.first.pci = true := by
  refine Footprint.address_ofPorts ?_
  rw [NicDevice.knownPorts_eq hp]
  exact List.mem_cons_self

theorem desiredNv_covered (device : NicDevice) (defaults : Dict String) :
    Makes device.footprint.Covers (device.desiredNv defaults) := by
  refine makes_ofExcept_bind fun configuration _ => makes_ofExcept_bind fun ports hp => ?_
  dsimp only
  split
  · refine Only.bindT ?_ fun speed => makes_ofExcept _
    exact Only.bindT (makes_call (first_covered hp) _) fun _ => makes_pure _
  · exact makes_ofExcept _

theorem validateNv_covered (engine : Engine) (device : NicDevice) :
    Makes device.footprint.Covers (engine.validateNv device) := by
  refine makes_ofExcept_bind fun configuration _ => makes_ofExcept_bind fun ports hp => ?_
  refine Only.bindT (makes_call (first_covered hp) _) fun snapshot => ?_
  split
  · exact makes_pure _
  · exact Only.bindT (desiredNv_covered device _) fun desired => makes_ofExcept _

theorem applyNv_covered (engine : Engine) (device : NicDevice) :
    Makes device.footprint.Covers (engine.applyNv device) := by
  refine makes_ofExcept_bind fun configuration _ => makes_ofExcept_bind fun ports hp => ?_
  have own := first_covered hp
  dsimp only
  split
  · refine Only.bindT (makes_call own _) fun _ => ?_
    exact Only.bindT (makes_call own _) fun _ => makes_pure true
  · refine Only.bindT (queryWithGate_covered engine own) fun snapshot => ?_
    refine Only.bindT (desiredNv_covered device _) fun desired => ?_
    refine makes_ofExcept_bind fun missing _ => ?_
    exact Only.bindT (writeAll_covered own missing) fun _ => makes_pure true

end Engine

/-! ## The pass -/

/-- The calls of a pass that the footprint covers, and status writes. -/
def NodeCall.Covered (footprint : Footprint) : NodeCall → Prop
  | .host call => footprint.Covers call
  | .writeStatus _ _ => True

/-- The calls of a pass over a device. -/
def PassCall.Concerns (device : NicDevice) : PassCall → Prop
  | .manager (.validateNv target) | .manager (.applyNv target) | .manager (.applyLive target) =>
    target = device
  | .manager .discover => False
  | .writeStatus _ _ => True

namespace Pass

theorem Asked.concerned {device : NicDevice} {events : List (Event managerService)}
    (h : Asked device events) {event : Event managerService} (mem : event ∈ events) :
    (PassCall.manager event.call).Concerns device := by
  cases h with
  | compared =>
      obtain rfl := List.mem_singleton.1 mem
      rfl
  | live | staged =>
      rcases List.mem_cons.1 mem with rfl | mem
      · rfl
      · obtain rfl := List.mem_singleton.1 mem
        rfl
  | stagedLive =>
      rcases List.mem_cons.1 mem with rfl | mem
      · rfl
      · rcases List.mem_cons.1 mem with rfl | mem
        · rfl
        · obtain rfl := List.mem_singleton.1 mem
          rfl

theorem configure_concerns (device : NicDevice) :
    Only (fun call : passService.Call => call.Concerns device) (configure device).run := by
  intro events answer runs event mem
  obtain ⟨call | ⟨target, report⟩, answer⟩ := event
  · have asked : ⟨call, answer⟩ ∈ managerEvents events := List.mem_filterMap.2 ⟨_, mem, rfl⟩
    exact (configure_asked runs).concerned asked
  · trivial

end Pass

namespace Engine

variable {α : Type} {device : NicDevice} {footprint : Footprint}

theorem onNode_covered {program : Program hostService α}
    (h : Only (fun call : hostService.Call => footprint.Covers call) program) :
    Only (fun call : nodeService.Call => call.Covered footprint) (onNode program) :=
  h.interpret fun _ own => only_ask own fun _ => only_done _

/-- A pass over a device makes no call that is not about the ports of this device. -/
theorem pass_covered (engine : Engine) (device : NicDevice) :
    Only (fun call : nodeService.Call => call.Covered device.footprint) (engine.pass device) := by
  refine (Pass.configure_concerns device).interpret fun call concerned => ?_
  match call with
  | .writeStatus _ _ => exact only_ask trivial fun _ => only_done _
  | .manager .discover => exact concerned.elim
  | .manager (.validateNv target) =>
      obtain rfl : target = device := concerned
      exact onNode_covered (validateNv_covered engine target)
  | .manager (.applyNv target) =>
      obtain rfl : target = device := concerned
      exact onNode_covered (applyNv_covered engine target)
  | .manager (.applyLive target) =>
      obtain rfl : target = device := concerned
      exact onNode_covered ((applyLive_live target).mono fun _ live => live.1)

end Engine

end NicKeeper
