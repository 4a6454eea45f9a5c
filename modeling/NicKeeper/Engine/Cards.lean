import NicKeeper.Engine.Basic
import NicKeeper.Text.Numeral

/-!
# Finding the cards of a node

The network functions of one vendor, virtual ones apart, are grouped into cards by their serial
number. Ports are in the order in which the host lists its functions. A host that fails to say who
a function is ends the search.
-/

namespace NicKeeper

namespace PciFunction

def vendor : String := "15b3"

def networkClass : Nat := 2

def isNetwork (function : PciFunction) : Bool :=
  function.vendorId == vendor &&
    Text.unsigned? 16 (Nat.pow 2 32) function.classId.toList == some networkClass

end PciFunction

namespace Engine

/-- The card of a serial number that is seen for the first time. -/
def newCard (engine : Engine) (function : PciFunction) (label : CardLabel)
    (firmware : FirmwareLabel) : Status :=
  { node := engine.node
    deviceType := function.productId
    serialNumber := label.serialNumber
    partNumber := label.partNumber
    psid := firmware.psid
    firmwareVersion := firmware.version }

/-- The card of a function: one that is known, or a new one with its firmware looked up. -/
def cardOf (engine : Engine) (cards : Dict Status) (function : PciFunction) (label : CardLabel) :
    Work Status := do
  match cards.get? label.serialNumber with
  | some card => return card
  | none =>
    let firmware ← Work.ofExcept (Work.ofHost (← Work.ask (.firmwareLabel function.address)))
    return engine.newCard function label firmware

/-- Enters a function as a port of its card. -/
def addPort (engine : Engine) (cards : Dict Status) (function : PciFunction) :
    Work (Dict Status) := do
  let label ← Work.ofExcept (Work.ofHost (← Work.ask (.cardLabel function.address)))
  let card ← engine.cardOf cards function label
  let interface ← Work.ask (.interfaceName function.address)
  let rdma ← Work.ask (.rdmaInterfaceName function.address)
  let port : Port :=
    { pci := function.address
      networkInterface := interface.getD ""
      rdmaInterface := rdma.getD "" }
  return cards.insert label.serialNumber { card with ports := card.ports ++ [port] }

def addPorts (engine : Engine) (cards : Dict Status) : List PciFunction → Work (Dict Status)
  | [] => return cards
  | function :: rest => do
    if !function.isNetwork then engine.addPorts cards rest
    else if ← Work.ask (.isVirtualFunction function.address) then engine.addPorts cards rest
    else engine.addPorts (← engine.addPort cards function) rest

/-- Finds the cards of the node, by their serial numbers. -/
def discover (engine : Engine) : Work (Dict Status) := do
  engine.addPorts {} (← Work.ofExcept (Work.ofHost (← Work.ask .listFunctions)))

end Engine

end NicKeeper
