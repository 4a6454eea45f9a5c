import NicKeeper.Engine.Error
import NicKeeper.Host.Call
import NicKeeper.Resource.Basic

/-!
# The engine and its calls

The engine works for one node and gives slow calls a limit. What it does to a host is a program
over the host's calls that may end in an error.
-/

namespace NicKeeper

structure Limits where
  query : Duration := .ofSeconds 60
  reset : Duration := .ofSeconds 300
  deriving DecidableEq, Repr, Inhabited

/-- One limit for every slow call. -/
def Limits.all (limit : Duration) : Limits := ⟨limit, limit⟩

structure Engine where
  node : String
  limits : Limits := {}
  deriving DecidableEq, Repr, Inhabited

/-- The name and the limits of an engine, for the eyes of people. -/
def Engine.text (engine : Engine) : String :=
  "NicHostManager \x7b node_name: " ++ Text.quote engine.node ++
    ", config: HostManagerConfig \x7b nv_query_timeout: " ++ engine.limits.query.text ++
    ", firmware_reset_timeout: " ++ engine.limits.reset.text ++ " \x7d \x7d"

abbrev Work := ExceptT EngineError (Program hostService)

namespace Work

variable {α : Type}

def ofExcept (result : Except EngineError α) : Work α := ExceptT.mk (.done result)

def ask (call : HostCall) : Work call.Answer :=
  ExceptT.mk (.ask call fun answer => .done (.ok answer))

/-- What the engine makes of a spec that may be wrong. -/
def ofSpec : Except SpecFault α → Except EngineError α
  | .ok value => .ok value
  | .error fault => .error (.incorrectSpec fault)

def ofHost : Except HostError α → Except EngineError α
  | .ok value => .ok value
  | .error cause => .error (.host cause)

/-- What the engine makes of the answer to a call with a limit. -/
def ofLimited (call : SlowCall) (pci : String) (limit : Duration) :
    Option (Except HostError α) → Except EngineError α
  | some answer => ofHost answer
  | none => .error (.timeout call pci limit)

end Work

namespace Engine

variable (engine : Engine)

def linkSpeed (pci : String) : Work UInt32 := do
  Work.ofExcept (Work.ofHost (← Work.ask (.linkSpeed pci)))

def queryNv (pci : String) : Work NvSnapshot := do
  let limit := engine.limits.query
  Work.ofExcept (Work.ofLimited .query pci limit (← Work.ask (.queryNv pci (some limit))))

def resetFirmware (pci : String) : Work Unit := do
  let limit := engine.limits.reset
  Work.ofExcept (Work.ofLimited .reset pci limit (← Work.ask (.resetFirmware pci (some limit))))

def setNv (pci name value : String) : Work Unit := do
  Work.ofExcept (Work.ofHost (← Work.ask (.setNv pci name value)))

def resetNv (pci : String) : Work Unit := do
  Work.ofExcept (Work.ofHost (← Work.ask (.resetNv pci)))

def readRequest (pci : String) : Work UInt32 := do
  Work.ofExcept (Work.ofHost (← Work.ask (.readRequest pci)))

def setReadRequest (pci : String) (size : UInt32) : Work Unit := do
  Work.ofExcept (Work.ofHost (← Work.ask (.setReadRequest pci size)))

def qos (interface : String) : Work (Trust × Pfc) := do
  Work.ofExcept (Work.ofHost (← Work.ask (.qos interface)))

def setQos (interface : String) (trust : Trust) (pfc : Pfc) : Work Unit := do
  Work.ofExcept (Work.ofHost (← Work.ask (.setQos interface trust pfc)))

end Engine

namespace NicDevice

def configuration (device : NicDevice) : Except EngineError Configuration :=
  match device.spec.configuration with
  | some configuration => .ok configuration
  | none => .error (.invalidDevice (.noConfiguration device.name))

/-- The ports of a card: the first, and the others. -/
structure Ports where
  first : Port
  others : List Port
  deriving DecidableEq, Repr

def Ports.all (ports : Ports) : List Port := ports.first :: ports.others

/-- The ports that take part in a configuration: the first two. -/
def Ports.configured (ports : Ports) : List Port := ports.all.take 2

def Ports.isDual (ports : Ports) : Bool := !ports.others.isEmpty

def ports (device : NicDevice) : Except EngineError Ports :=
  match device.status with
  | some { ports := first :: others, .. } => .ok ⟨first, others⟩
  | _ => .error (.invalidDevice (.noPorts device.name))

end NicDevice

end NicKeeper
