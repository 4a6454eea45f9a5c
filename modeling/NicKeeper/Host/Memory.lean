import NicKeeper.Host.Call
import NicKeeper.Nv.Gate

/-!
# A host in memory

A host that keeps everything in tables: what it lists, who its cards are, the firmware parameters
of each device, and the live settings. Firmware parameters have the three states of real ones.
Advanced parameters show only their defaults as long as the gate parameter is not on in the values
in effect. Calls can be made to fail, by kind or by the parameter they write, and firmware resets to
take a time; calls that read the firmware configuration or change the host are recorded in order,
whether they succeed or not.
-/

namespace NicKeeper

inductive HostOperation where
  | listFunctions
  | cardLabel
  | firmwareLabel
  | linkSpeed
  | queryNv
  | setNv
  | resetNv
  | resetFirmware
  | readRequest
  | setReadRequest
  | qos
  | setQos
  deriving DecidableEq, Repr

/-- How a failure names the kind of call. -/
def HostOperation.text : HostOperation → String
  | .listFunctions => "ListPciDevices"
  | .cardLabel => "GetPartAndSerialNumber"
  | .firmwareLabel => "GetFirmwareVersionAndPsid"
  | .linkSpeed => "GetPciLinkSpeed"
  | .queryNv => "QueryNvConfig"
  | .setNv => "SetNvConfigParameter"
  | .resetNv => "ResetNvConfig"
  | .resetFirmware => "ResetFirmware"
  | .readRequest => "GetMaxReadRequestSize"
  | .setReadRequest => "SetMaxReadRequestSize"
  | .qos => "GetTrustAndPfc"
  | .setQos => "SetTrustAndPfc"

structure NvMemory where
  stored : NvSnapshot := {}
  /-- The parameters that only an open gate shows. -/
  advanced : List String := []
  deriving DecidableEq, Inhabited

namespace NvMemory

/-- The part of the values that can be seen. -/
def visible (nv : NvMemory) (values : Dict String) : Dict String :=
  values.filter fun name _ => gateOn nv.stored.current || !nv.advanced.contains name

/-- What a query shows. Defaults can always be seen. -/
def shown (nv : NvMemory) : NvSnapshot :=
  { default := nv.stored.default
    current := nv.visible nv.stored.current
    nextBoot := nv.visible nv.stored.nextBoot }

def addParameter (nv : NvMemory) (name default current next : String) : NvMemory :=
  { nv with stored :=
      { default := nv.stored.default.insert name default
        current := nv.stored.current.insert name current
        nextBoot := nv.stored.nextBoot.insert name next } }

/-- Adds a parameter that an open gate is needed to see. -/
def addAdvanced (nv : NvMemory) (name default current next : String) : NvMemory :=
  { nv.addParameter name default current next with advanced := name :: nv.advanced }

def addDefault (nv : NvMemory) (name default : String) : NvMemory :=
  { nv with stored := { nv.stored with default := nv.stored.default.insert name default } }

def removeCurrent (nv : NvMemory) (name : String) : NvMemory :=
  { nv with stored := { nv.stored with current := nv.stored.current.erase name } }

def stage (nv : NvMemory) (name value : String) : NvMemory :=
  { nv with stored := { nv.stored with nextBoot := nv.stored.nextBoot.insert name value } }

def stageDefaults (nv : NvMemory) : NvMemory :=
  { nv with stored := { nv.stored with nextBoot := nv.stored.default } }

/-- Puts the staged values into effect, as a boot or a firmware reset does. -/
def activate (nv : NvMemory) : NvMemory :=
  { nv with stored := { nv.stored with current := nv.stored.nextBoot } }

end NvMemory

structure MemoryHost where
  functions : List PciFunction := []
  virtualFunctions : List String := []
  cards : Dict CardLabel := {}
  firmware : Dict FirmwareLabel := {}
  interfaces : Dict String := {}
  rdmaInterfaces : Dict String := {}
  linkSpeeds : Dict UInt32 := {}
  nv : Dict NvMemory := {}
  readRequests : Dict UInt32 := {}
  qos : Dict (Trust × Pfc) := {}
  failingOperations : List HostOperation := []
  failingParameters : List String := []
  /-- How long a firmware reset takes; without it a reset is over at once. -/
  resetDelay : Option Duration := none
  calls : List HostCall := []
  deriving Inhabited

namespace MemoryHost

/-! ## Setting a host up -/

def addFunction (host : MemoryHost) (function : PciFunction) : MemoryHost :=
  { host with functions := host.functions ++ [function] }

def addCard (host : MemoryHost) (function : PciFunction) (label : CardLabel)
    (firmware : FirmwareLabel) : MemoryHost :=
  { host.addFunction function with
    cards := host.cards.insert function.address label
    firmware := host.firmware.insert function.address firmware }

def markVirtual (host : MemoryHost) (pci : String) : MemoryHost :=
  { host with virtualFunctions := pci :: host.virtualFunctions }

def setInterfaces (host : MemoryHost) (pci interface rdma : String) : MemoryHost :=
  { host with
    interfaces := host.interfaces.insert pci interface
    rdmaInterfaces := host.rdmaInterfaces.insert pci rdma }

def setLinkSpeed (host : MemoryHost) (pci : String) (speed : UInt32) : MemoryHost :=
  { host with linkSpeeds := host.linkSpeeds.insert pci speed }

/-- Changes the parameters of a device, which has none before. -/
def updateNv (host : MemoryHost) (pci : String) (change : NvMemory → NvMemory) : MemoryHost :=
  { host with nv := host.nv.insert pci (change ((host.nv.get? pci).getD {})) }

def removeCurrentNv (host : MemoryHost) (pci name : String) : MemoryHost :=
  if host.nv.contains pci then host.updateNv pci (·.removeCurrent name) else host

def putReadRequest (host : MemoryHost) (pci : String) (size : UInt32) : MemoryHost :=
  { host with readRequests := host.readRequests.insert pci size }

def putQos (host : MemoryHost) (interface : String) (trust : Trust) (pfc : Pfc) : MemoryHost :=
  { host with qos := host.qos.insert interface (trust, pfc) }

def failOperation (host : MemoryHost) (operation : HostOperation) : MemoryHost :=
  { host with failingOperations := operation :: host.failingOperations }

def failParameter (host : MemoryHost) (name : String) : MemoryHost :=
  { host with failingParameters := name :: host.failingParameters }

def setResetDelay (host : MemoryHost) (delay : Duration) : MemoryHost :=
  { host with resetDelay := some delay }

def clearCalls (host : MemoryHost) : MemoryHost := { host with calls := [] }

/-- Boots a device: what was staged is in effect. -/
def boot (host : MemoryHost) (pci : String) : MemoryHost :=
  if host.nv.contains pci then host.updateNv pci (·.activate) else host

/-! ## Looking at a host -/

/-- The value in effect, whether it can be seen or not. -/
def currentValue? (host : MemoryHost) (pci name : String) : Option String :=
  (host.nv.get? pci).bind (·.stored.current.get? name)

def nextBootValue? (host : MemoryHost) (pci name : String) : Option String :=
  (host.nv.get? pci).bind (·.stored.nextBoot.get? name)

def mutatingCalls (host : MemoryHost) : List HostCall := host.calls.filter (·.mutates)

def nvWrites (host : MemoryHost) : List (String × String) :=
  host.calls.filterMap fun
    | .setNv _ name value => some (name, value)
    | _ => none

/-! ## Answering calls -/

def injected (command : String) : HostError :=
  .commandFailed command (.exited 1) "injected failure"

/-- Goes on unless calls of this kind are made to fail. -/
def check (host : MemoryHost) (operation : HostOperation) : Except HostError Unit :=
  if host.failingOperations.contains operation then .error (injected operation.text) else .ok ()

def require {α : Type} (what pci : String) : Option α → Except HostError α
  | some value => .ok value
  | none => .error (.notFound s!"{what} of {pci}")

/-- Reads a table, unless calls of this kind are made to fail. -/
def readTable {α : Type} (host : MemoryHost) (operation : HostOperation) (table : Dict α)
    (what key : String) : Except HostError α := do
  host.check operation
  require what key (table.get? key)

def record (host : MemoryHost) (call : HostCall) : MemoryHost :=
  { host with calls := host.calls ++ [call] }

/-- The host after a change that may fail, and then nothing changes. -/
def commit (host : MemoryHost) : Except HostError MemoryHost → Except HostError Unit × MemoryHost
  | .ok changed => (.ok (), changed)
  | .error e => (.error e, host)

/-- The host with the parameters of a device changed; the device has to have parameters. -/
def changeNv (host : MemoryHost) (pci : String) (change : NvMemory → Except HostError NvMemory) :
    Except HostError MemoryHost := do
  let nv ← require "NV config" pci (host.nv.get? pci)
  return { host with nv := host.nv.insert pci (← change nv) }

def stageParameter (host : MemoryHost) (pci name value : String) : Except HostError MemoryHost := do
  host.check .setNv
  if host.failingParameters.contains name then
    throw (injected s!"mstconfig set {name}={value}")
  host.changeNv pci fun nv =>
    if nv.stored.default.contains name then .ok (nv.stage name value)
    else .error (.invalidArgument (.unknownParameter name))

/-- Whether a firmware reset is over within a limit, which is rounded up to whole milliseconds. -/
def resetsWithin (host : MemoryHost) (limit : Option Duration) : Bool :=
  match host.resetDelay, limit with
  | some delay, some limit => delay.nanos ≤ (limit.nanos + 999999) / 1000000 * 1000000
  | _, _ => true

/-- A firmware reset that fails at once, is cut off, or comes to its end. -/
def resetFirmware (host : MemoryHost) (pci : String) (limit : Option Duration) :
    Option (Except HostError Unit) × MemoryHost :=
  match host.check .resetFirmware with
  | .error e => (some (.error e), host)
  | .ok () =>
    if host.resetsWithin limit then
      let (answer, host) := host.commit (host.changeNv pci fun nv => .ok nv.activate)
      (some answer, host)
    else (none, host)

def handle : Handler hostService MemoryHost
  | .listFunctions, host => ((do host.check .listFunctions; return host.functions), host)
  | .isVirtualFunction pci, host => (host.virtualFunctions.contains pci, host)
  | .cardLabel pci, host => (host.readTable .cardLabel host.cards "VPD" pci, host)
  | .firmwareLabel pci, host => (host.readTable .firmwareLabel host.firmware "firmware" pci, host)
  | .interfaceName pci, host => (host.interfaces.get? pci, host)
  | .rdmaInterfaceName pci, host => (host.rdmaInterfaces.get? pci, host)
  | .linkSpeed pci, host => (host.readTable .linkSpeed host.linkSpeeds "link speed" pci, host)
  | .queryNv pci limit, host =>
    (some ((host.readTable .queryNv host.nv "NV config" pci).map (·.shown)),
      host.record (.queryNv pci limit))
  | .setNv pci name value, host =>
    let host := host.record (.setNv pci name value)
    host.commit (host.stageParameter pci name value)
  | .resetNv pci, host =>
    let host := host.record (.resetNv pci)
    host.commit do
      host.check .resetNv
      host.changeNv pci fun nv => .ok nv.stageDefaults
  | .resetFirmware pci limit, host => (host.record (.resetFirmware pci limit)).resetFirmware pci limit
  | .readRequest pci, host =>
    (host.readTable .readRequest host.readRequests "max read request" pci, host)
  | .setReadRequest pci size, host =>
    let host := host.record (.setReadRequest pci size)
    host.commit do
      host.check .setReadRequest
      return host.putReadRequest pci size
  | .qos interface, host => (host.readTable .qos host.qos "QoS" interface, host)
  | .setQos interface trust pfc, host =>
    let host := host.record (.setQos interface trust pfc)
    host.commit do
      host.check .setQos
      return host.putQos interface trust pfc

end MemoryHost

end NicKeeper
