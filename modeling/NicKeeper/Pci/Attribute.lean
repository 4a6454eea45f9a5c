import NicKeeper.Host.Error
import NicKeeper.Text.Bytes
import NicKeeper.Text.Decimal
import NicKeeper.Text.Pieces

/-!
# Attributes of PCI functions

Reading the attributes that the system shows of a PCI function: hexadecimal ids, the base class, the
link speed, and the maximum read request size in the Device Control register of PCI Express. Which
product the ids belong to is looked up in a registry (`PciNames`).
-/

namespace NicKeeper

/-- A registry of products by the ids of their vendors and their own. -/
class PciNames where
  product? (vendor product : UInt16) : Option String

namespace Pci

open Text (trim words asciiLower after? takeBytes? unsigned?)

/-- A hexadecimal id without blanks around it and without `0x`, in lowercase. -/
def stripHex (text : List Char) : List Char :=
  let trimmed := trim text
  asciiLower ((after? "0x".toList trimmed).getD trimmed)

/-- The name of a product, if its ids are numbers and the registry has it. -/
def productName? [PciNames] (vendor product : List Char) : Option String := do
  let vendor ← unsigned? 16 (Nat.pow 2 16) vendor
  let product ← unsigned? 16 (Nat.pow 2 16) product
  PciNames.product? (.ofNat vendor) (.ofNat product)

/-- The base class of a function: the first two bytes of its class. -/
def classId? (text : List Char) : Except HostError (List Char) :=
  match takeBytes? 2 (stripHex text) with
  | some base => .ok base
  | none => .error (.parse (.pciClass (String.ofList (trim text))))

/-- A link speed in whole GT/s, from the first word. -/
def linkSpeed? (text : List Char) : Except HostError UInt32 :=
  match words text with
  | [] => .error (.parse .emptyLinkSpeed)
  | number :: _ =>
    match Text.Decimal.read? number with
    | some speed => .ok speed.toUInt32
    | none => .error (.parse (.linkSpeed (String.ofList (trim text))))

/-- What bits 14 to 12 of Device Control hold. -/
def readRequestBits (register : Nat) : Nat := register / Nat.pow 2 12 % Nat.pow 2 3

def readRequestMask : Nat := 0x7000

/-- The maximum read request size in a register value: 128 bytes, doubled as often as the bits say,
which is five times at most. -/
def readRequest? (text : List Char) : Except HostError UInt32 :=
  match unsigned? 16 (Nat.pow 2 16) (trim text) with
  | none => .error (.parse (.deviceControl (String.ofList (trim text))))
  | some register =>
    let encoded := readRequestBits register
    if 5 < encoded then .error (.parse (.reservedReadRequest encoded))
    else .ok (.ofNat (128 * Nat.pow 2 encoded))

def encodeReadRequest? (size : UInt32) : Except HostError Nat :=
  match [0, 1, 2, 3, 4, 5].find? fun encoded => size.toNat == 128 * Nat.pow 2 encoded with
  | some encoded => .ok (encoded * Nat.pow 2 12)
  | none => .error (.invalidArgument (.readRequestSize size))

end Pci

end NicKeeper
