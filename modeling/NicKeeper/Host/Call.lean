import NicKeeper.Duration
import NicKeeper.Host.Label
import NicKeeper.Nv.Snapshot
import NicKeeper.Program

/-!
# Calls to a host

Everything that can be asked of a host or done to it. PCI addresses are full addresses such as
`0000:3b:00.0`. Two calls may be slow, reading the firmware configuration and resetting the
firmware; they take a limit, and their answer is `none` when the limit ran out first.
-/

namespace NicKeeper

structure PciFunction where
  address : String
  /-- Hexadecimal, in lowercase and without a prefix, as are the other two ids. -/
  vendorId : String
  classId : String
  productId : String
  productName : Option String := none
  deriving DecidableEq, Repr, Inhabited

inductive HostCall where
  | listFunctions
  | isVirtualFunction (pci : String)
  | cardLabel (pci : String)
  | firmwareLabel (pci : String)
  | interfaceName (pci : String)
  | rdmaInterfaceName (pci : String)
  /-- The highest speed of the link, in GT/s. -/
  | linkSpeed (pci : String)
  | queryNv (pci : String) (limit : Option Duration)
  /-- Stages a value for the next boot. -/
  | setNv (pci name value : String)
  /-- Stages the factory default of every parameter. -/
  | resetNv (pci : String)
  /-- Puts the staged values into effect without a boot. -/
  | resetFirmware (pci : String) (limit : Option Duration)
  | readRequest (pci : String)
  | setReadRequest (pci : String) (size : UInt32)
  | qos (interface : String)
  | setQos (interface : String) (trust : Trust) (pfc : Pfc)
  deriving DecidableEq, Repr

namespace HostCall

abbrev Answer : HostCall → Type
  | .listFunctions => Except HostError (List PciFunction)
  | .isVirtualFunction _ => Bool
  | .cardLabel _ => Except HostError CardLabel
  | .firmwareLabel _ => Except HostError FirmwareLabel
  | .interfaceName _ => Option String
  | .rdmaInterfaceName _ => Option String
  | .linkSpeed _ => Except HostError UInt32
  | .queryNv _ _ => Option (Except HostError NvSnapshot)
  | .setNv _ _ _ => Except HostError Unit
  | .resetNv _ => Except HostError Unit
  | .resetFirmware _ _ => Option (Except HostError Unit)
  | .readRequest _ => Except HostError UInt32
  | .setReadRequest _ _ => Except HostError Unit
  | .qos _ => Except HostError (Trust × Pfc)
  | .setQos _ _ _ => Except HostError Unit

def mutates : HostCall → Bool
  | .setNv .. | .resetNv .. | .resetFirmware .. | .setReadRequest .. | .setQos .. => true
  | _ => false

end HostCall

abbrev hostService : Service := ⟨HostCall, HostCall.Answer⟩

end NicKeeper
