import NicKeeper.Engine.Parameters

/-!
# Comparing a device with its spec

A verdict on the firmware configuration of a device: whether values have to be written, and whether
values wait for a boot. Values are compared three ways, the desired with those in effect and with
those staged for the next boot. Nothing is changed.
-/

namespace NicKeeper

structure Verdict where
  /-- Some staged values differ from the spec. -/
  updateNeeded : Bool := false
  /-- Some values in effect differ from the spec. -/
  rebootNeeded : Bool := false
  deriving DecidableEq, Repr, Inhabited

namespace NvSnapshot

/-- Whether values are the factory defaults. The gate does not count, as it is switched on after
every reset, and neither do parameters without a value. -/
def isDefault (snapshot : NvSnapshot) (values : Dict String) : Bool :=
  snapshot.default.entries.all fun (name, default) =>
    name == gateParameter || (values.get? name).all (· == default)

def resetVerdict (snapshot : NvSnapshot) : Verdict :=
  if snapshot.isDefault snapshot.current then ⟨false, false⟩
  else if snapshot.isDefault snapshot.nextBoot then ⟨false, true⟩
  else ⟨true, true⟩

def isStaged (snapshot : NvSnapshot) (entry : String × String) : Bool :=
  snapshot.nextBoot.get? entry.1 == some entry.2

def isInEffect (snapshot : NvSnapshot) (entry : String × String) : Bool :=
  snapshot.current.get? entry.1 == some entry.2

/-- The verdict on desired parameters. With the gate on every parameter of the device has a value
in effect, so one without such a value is not supported. -/
def verdict (snapshot : NvSnapshot) (desired : Dict String) (device : String) :
    Except SpecFault Verdict :=
  match desired.names.find? fun name =>
      gateOn snapshot.current && !snapshot.current.contains name with
  | some name => .error (.unsupported name device)
  | none =>
    let update := desired.entries.any fun entry => !snapshot.isStaged entry
    let pending := desired.entries.any fun entry => !snapshot.isInEffect entry
    .ok ⟨update, update || pending⟩

end NvSnapshot

namespace Engine

def validateNv (engine : Engine) (device : NicDevice) : Work Verdict := do
  let configuration ← Work.ofExcept device.configuration
  let ports ← Work.ofExcept device.ports
  let snapshot ← engine.queryNv ports.first.pci
  if configuration.resetToDefault then return snapshot.resetVerdict
  else
    let desired ← device.desiredNv snapshot.default
    Work.ofExcept (Work.ofSpec (snapshot.verdict desired device.name))

end Engine

end NicKeeper
