import NicKeeper.Engine.Verdict

/-!
# Staging a device's firmware configuration

A reset to factory defaults is followed by switching the gate on again. A template is applied in
two steps: the gate is switched on if it is off, with a firmware reset that makes the advanced
parameters show; then every desired parameter whose staged value differs is written, in the order of
the names. The first failure ends the work, and nothing is taken back: the next run goes on from
what it finds.
-/

namespace NicKeeper

namespace NvSnapshot

/-- The parameters to write. One without a staged value is not supported. -/
def missing (snapshot : NvSnapshot) (desired : Dict String) (device : String) :
    Except SpecFault (List (String × String)) :=
  match desired.names.find? fun name => !snapshot.nextBoot.contains name with
  | some name => .error (.unsupported name device)
  | none => .ok (desired.entries.filter fun entry => !snapshot.isStaged entry)

end NvSnapshot

namespace Engine

def openGate (pci : String) : Work Unit := setNv pci gateParameter onValue

/-- Reads the firmware configuration with the gate on. -/
def queryWithGate (engine : Engine) (pci : String) : Work NvSnapshot := do
  let snapshot ← engine.queryNv pci
  if gateOn snapshot.current then return snapshot
  else
    openGate pci
    engine.resetFirmware pci
    engine.queryNv pci

def writeAll (pci : String) : List (String × String) → Work Unit
  | [] => return ()
  | (name, value) :: rest => do
    setNv pci name value
    writeAll pci rest

/-- Stages a device's firmware configuration. The answer is whether a boot has to follow. -/
def applyNv (engine : Engine) (device : NicDevice) : Work Bool := do
  let configuration ← Work.ofExcept device.configuration
  let ports ← Work.ofExcept device.ports
  let pci := ports.first.pci
  if configuration.resetToDefault then
    resetNv pci
    openGate pci
    return true
  else
    let snapshot ← engine.queryWithGate pci
    let desired ← device.desiredNv snapshot.default
    writeAll pci (← Work.ofExcept (Work.ofSpec (snapshot.missing desired device.name)))
    return true

end Engine

end NicKeeper
