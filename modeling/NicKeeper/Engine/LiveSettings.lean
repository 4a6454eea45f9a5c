import NicKeeper.Engine.Basic
import NicKeeper.Qos.Text

/-!
# Live settings

What a template asks for beside firmware parameters takes effect at once: the maximum read request
size is set on each PCI function, trust mode and flow control on each network interface, both for
the first two ports of a card. What is set already is not set again; where it cannot be read back,
everything is set.
-/

namespace NicKeeper

/-- The live settings that all ports of a card share. -/
structure LiveSettings where
  /-- Zero leaves the size that is set. -/
  readRequest : UInt32
  trust : Trust
  pfc : Pfc
  deriving DecidableEq, Repr

namespace Template

/-- The maximum read request size where PCI tuning names none. -/
def defaultReadRequest : UInt32 := 4096

def rocePriority : Nat := 3

def readRequest (template : Template) : UInt32 :=
  match template.pciOn with
  | none => 0
  | some pci => if pci.maxReadRequest = 0 then defaultReadRequest else pci.maxReadRequest

def trustAndPfc (template : Template) : Except SpecFault (Trust × Pfc) :=
  match template.roceOn with
  | none => .ok (.pcp, .off)
  | some { qos := none, .. } => .ok (.dscp, .withEnabled [rocePriority])
  | some { qos := some qos, .. } =>
    match Trust.ofText? qos.trust.toList with
    | .error cause => .error (.qosTrust cause)
    | .ok trust =>
      match Pfc.ofText? qos.pfc.toList with
      | .error cause => .error (.qosPfc cause)
      | .ok pfc => .ok (trust, pfc)

def liveSettings (template : Template) : Except SpecFault LiveSettings := do
  let (trust, pfc) ← template.trustAndPfc
  return { readRequest := template.readRequest, trust, pfc }

end Template

namespace NicDevice

def liveSettings (device : NicDevice) : Except EngineError LiveSettings := do
  Work.ofSpec (← device.configuration).template.liveSettings

end NicDevice

namespace Engine

/-- The network interface of a port, which has to have one. -/
def interfaceOf (device : NicDevice) (port : Port) : Except EngineError String :=
  if port.networkInterface = "" then .error (.invalidDevice (.noInterface port.pci device.name))
  else .ok port.networkInterface

/-- Whether a port has a maximum read request size; zero is any. -/
def hasReadRequest (port : Port) (size : UInt32) : Work Bool := do
  if size = 0 then return true
  else return (← readRequest port.pci) == size

def portIsSet (device : NicDevice) (settings : LiveSettings) (port : Port) : Work Bool := do
  if ← hasReadRequest port settings.readRequest then
    let found ← qos (← Work.ofExcept (interfaceOf device port))
    return found == (settings.trust, settings.pfc)
  else return false

/-- Whether all ports have the settings; the first that does not ends the search. -/
def portsAreSet (device : NicDevice) (settings : LiveSettings) : List Port → Work Bool
  | [] => return true
  | port :: rest => do
    if ← portIsSet device settings port then portsAreSet device settings rest else return false

def hasLiveSettings (device : NicDevice) : Work Bool := do
  let settings ← Work.ofExcept device.liveSettings
  let ports ← Work.ofExcept device.ports
  portsAreSet device settings ports.configured

def setReadRequests (size : UInt32) : List Port → Work Unit
  | [] => return ()
  | port :: rest => do
    setReadRequest port.pci size
    setReadRequests size rest

def setQosOfAll (device : NicDevice) (settings : LiveSettings) : List Port → Work Unit
  | [] => return ()
  | port :: rest => do
    setQos (← Work.ofExcept (interfaceOf device port)) settings.trust settings.pfc
    setQosOfAll device settings rest

/-- Sets everything: first the read request sizes, then the interfaces. -/
def setLive (device : NicDevice) : Work Unit := do
  let settings ← Work.ofExcept device.liveSettings
  let ports ← Work.ofExcept device.ports
  if settings.readRequest ≠ 0 then setReadRequests settings.readRequest ports.configured
  setQosOfAll device settings ports.configured

/-- Brings a device's live settings about. That they cannot be read back only means that setting
them cannot be spared; a fault of the spec is one either way. -/
def applyLive (device : NicDevice) : Work Unit := ExceptT.mk do
  match ← (hasLiveSettings device).run with
  | .ok true => return .ok ()
  | .ok false => (setLive device).run
  | .error e => if e.isSpecError then return .error e else (setLive device).run

end Engine

end NicKeeper
