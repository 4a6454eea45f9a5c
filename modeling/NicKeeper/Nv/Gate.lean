import NicKeeper.Dict

/-!
# The gate parameter

One parameter of a device is the gate to others: these advanced parameters can be seen and set only
while the gate is on in the values in effect.
-/

namespace NicKeeper

/-- The parameter that lets advanced parameters be seen and set. -/
def gateParameter : String := "ADVANCED_PCI_SETTINGS"

def onValue : String := "1"

def offValue : String := "0"

/-- Whether values in effect have the gate on. -/
def gateOn (current : Dict String) : Bool := current.get? gateParameter == some onValue

end NicKeeper
