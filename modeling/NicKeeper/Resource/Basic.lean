import NicKeeper.Dict
import NicKeeper.Timestamp

/-!
# The NicDevice resource

One resource stands for one network card of a node. Its spec says how the card is to be configured,
its status says what the card is and how far its configuration has come. The two halves of the
status are types of their own: the identity is what was found on the node, the report is what the
last configuration pass came to.
-/

namespace NicKeeper

/-- A firmware parameter by its name, with the value it is to have. -/
structure NvParam where
  name : String
  value : String
  deriving DecidableEq, Repr, Inhabited

inductive LinkType where
  | ethernet
  | infiniband
  deriving DecidableEq, Repr

/-- PCI tuning. A zero leaves the choice of a value to the engine. -/
structure PciTuning where
  enabled : Bool
  maxAccOutRead : UInt32
  maxReadRequest : UInt32
  deriving DecidableEq, Repr

/-- Trust mode and flow control flags as a user writes them. -/
structure QosText where
  trust : String
  pfc : String
  deriving DecidableEq, Repr

structure RoceTuning where
  enabled : Bool
  qos : Option QosText
  deriving DecidableEq, Repr

structure GpuDirect where
  enabled : Bool
  env : String
  deriving DecidableEq, Repr

structure Template where
  numVfs : UInt32 := 0
  linkType : Option LinkType := none
  pci : Option PciTuning := none
  roce : Option RoceTuning := none
  gpuDirect : Option GpuDirect := none
  rawNv : List NvParam := []
  deriving DecidableEq, Repr, Inhabited

namespace Template

def pciOn (template : Template) : Option PciTuning := template.pci.filter (·.enabled)

def roceOn (template : Template) : Option RoceTuning := template.roce.filter (·.enabled)

def gpuOn (template : Template) : Option GpuDirect := template.gpuDirect.filter (·.enabled)

end Template

structure Configuration where
  resetToDefault : Bool := false
  template : Template := {}
  deriving DecidableEq, Repr, Inhabited

/-- A device without a configuration is shown and left alone. -/
structure Spec where
  configuration : Option Configuration := none
  deriving DecidableEq, Repr, Inhabited

structure Port where
  pci : String
  networkInterface : String := ""
  rdmaInterface : String := ""
  deriving DecidableEq, Repr, Inhabited

inductive State where
  | pending
  | updating
  | rebootRequired
  | applied
  | specError
  | failed
  deriving DecidableEq, Repr, Inhabited

/-- What a card is and where it sits. Ports are in the order of their PCI addresses. -/
structure Identity where
  node : String := ""
  deviceType : String := ""
  serialNumber : String := ""
  partNumber : String := ""
  psid : String := ""
  firmwareVersion : String := ""
  ports : List Port := []
  deriving DecidableEq, Repr, Inhabited

/-- What a configuration pass came to. -/
structure Report where
  state : State := .pending
  rebootRequired : Bool := false
  error : Option String := none
  deriving DecidableEq, Repr, Inhabited

structure Status extends Identity, Report where
  lastReconciled : Option Timestamp := none
  deriving DecidableEq, Repr, Inhabited

structure Metadata where
  name : Option String := none
  generateName : Option String := none
  nspace : Option String := none
  labels : Option (Dict String) := none
  deriving DecidableEq, Inhabited

structure NicDevice where
  metadata : Metadata := {}
  spec : Spec := {}
  status : Option Status := none
  deriving DecidableEq, Inhabited

namespace NicDevice

/-- The name of a device, or what its name is to be made from. -/
def name (device : NicDevice) : String :=
  (device.metadata.name <|> device.metadata.generateName).getD ""

/-- The PCI address of port 0 of a device that has been discovered. -/
def firstPortPci? (device : NicDevice) : Option String :=
  (device.status.bind (·.ports.head?)).map (·.pci)

def resetRequested (device : NicDevice) : Bool :=
  device.spec.configuration.any (·.resetToDefault)

/-- Whether a device was found on `node` and carries a configuration. -/
def isManagedBy (device : NicDevice) (node : String) : Bool :=
  device.spec.configuration.isSome &&
    device.status.any fun status => status.node == node && !status.ports.isEmpty

end NicDevice

end NicKeeper
