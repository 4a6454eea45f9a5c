import NicKeeper.Host.Error
import NicKeeper.Text.Lines
import NicKeeper.Text.Lowercase

/-!
# Who a card is

Reads the identity of a card from what the vendor's tools print: the part and serial number from
its vital product data, the firmware version and the id of its parameter set from its firmware.
Both are lines of a key, a colon and a value; the last line of a key counts, and lines of other
keys do not matter.
-/

namespace NicKeeper

open Text (trim cutAt lines lower)

/-- The trimmed value of the last line that has this key. -/
def lastField? (key : String) (fields : List (List Char × List Char)) : Option (List Char) :=
  (fields.reverse.find? fun field => trim field.1 = key.toList).map fun field => trim field.2

/-- Lines around their first colon, those that have one. -/
def keyedLines (lines : List (List Char)) : List (List Char × List Char) :=
  lines.filterMap (cutAt ':')

structure CardLabel where
  partNumber : String
  /-- In lowercase, so that it can be part of a resource's name. -/
  serialNumber : String
  deriving DecidableEq, Repr, Inhabited

/-- Both numbers have to be there and not empty. -/
def CardLabel.ofVpd? (text : List Char) : Except HostError CardLabel :=
  let fields := keyedLines ((lines text).map trim)
  match lastField? "PN" fields, (lastField? "SN" fields).map lower with
  | some part, some serial =>
    if part.isEmpty || serial.isEmpty then .error (.parse .vpdIncomplete)
    else .ok ⟨String.ofList part, String.ofList serial⟩
  | _, _ => .error (.parse .vpdIncomplete)

structure FirmwareLabel where
  version : String
  psid : String
  deriving DecidableEq, Repr, Inhabited

/-- Both values have to be there; they may be empty. -/
def FirmwareLabel.ofQuery? (text : List Char) : Except HostError FirmwareLabel :=
  let fields := keyedLines (lines text)
  match lastField? "FW Version" fields, lastField? "PSID" fields with
  | some version, some psid => .ok ⟨String.ofList version, String.ofList psid⟩
  | _, _ => .error (.parse .firmwareIncomplete)

end NicKeeper
