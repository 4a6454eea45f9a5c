import NicKeeper.Engine.Basic
import NicKeeper.Nv.Gate

/-!
# The firmware parameters of a template

Turns the template of a device into the firmware parameters that it asks for. Each tuning of the
template contributes parameters of its own; the raw parameters of the template come last and stand
in place of the computed ones. On a card of one port, parameters of the second port are neither
computed nor taken from the raw ones. A parameter that the device does not have is an error.
-/

namespace NicKeeper

namespace Template

/-- The second port's parameters end in this. -/
def secondPortSuffix : String := "_P2"

def decimal (n : UInt32) : String := toString n.toNat

/-- Virtual functions are switched on exactly when some are asked for. -/
def sriovEntries (template : Template) : List (String × String) :=
  [("SRIOV_EN", if template.numVfs = 0 then offValue else onValue),
    ("NUM_OF_VFS", decimal template.numVfs)]

def linkTypeValue : LinkType → String
  | .infiniband => "1"
  | .ethernet => "2"

def linkTypeEntries (template : Template) (dual : Bool) : List (String × String) :=
  match template.linkType with
  | none => []
  | some link =>
    ("LINK_TYPE_P1", linkTypeValue link) ::
      if dual then [("LINK_TYPE_P2", linkTypeValue link)] else []

/-- Whether the value for outstanding reads is to be chosen by the speed of the link. -/
def needsLinkSpeed (template : Template) : Bool :=
  template.pciOn.any fun pci => pci.maxAccOutRead == 0

/-- The value for outstanding reads on a link: 44 on links of 16 GT/s, and the device's own choice
from 32 GT/s on. Other links keep the value they have. -/
def accOutReadFor (speed : UInt32) : Option String :=
  if 32 ≤ speed then some "0" else if speed = 16 then some "44" else none

def accOutReadEntries (template : Template) (speed : Option UInt32) : List (String × String) :=
  match template.pciOn with
  | none => []
  | some pci =>
    let value :=
      if pci.maxAccOutRead = 0 then speed.bind accOutReadFor else some (decimal pci.maxAccOutRead)
    value.toList.map fun value => ("MAX_ACC_OUT_READ", value)

/-- The parameters of congestion control with the values that RoCE wants, by port. -/
def roceProfile (dual : Bool) : List (String × String) :=
  [("ROCE_CC_PRIO_MASK_P1", "255"), ("CNP_DSCP_P1", "4"), ("CNP_802P_PRIO_P1", "6")] ++
    if dual then
      [("ROCE_CC_PRIO_MASK_P2", "255"), ("CNP_DSCP_P2", "4"), ("CNP_802P_PRIO_P2", "6")]
    else []

/-- The profile for RoCE where it is switched on. Elsewhere its parameters go back to the defaults
that the device has for them, so that a profile that was on before is undone. -/
def roceEntries (template : Template) (dual : Bool) (defaults : Dict String) :
    List (String × String) :=
  if template.roceOn.isSome then roceProfile dual
  else (roceProfile dual).filterMap fun (name, _) => (defaults.get? name).map (name, ·)

/-- GPUDirect works on bare metal and with PCI tuning only. -/
def gpuEntries (template : Template) : Except SpecFault (List (String × String)) :=
  match template.gpuOn with
  | none => .ok []
  | some gpu =>
    if gpu.env ≠ bareMetal then .error (.gpuEnvironment gpu.env)
    else if template.pciOn.isNone then .error .gpuWithoutPci
    else .ok [("ATS_ENABLED", offValue)]

/-- Whether a raw parameter is for a port that the card has. -/
def applies (dual : Bool) (param : NvParam) : Bool :=
  dual || !secondPortSuffix.toList.isSuffixOf param.name.toList

def rawEntries (template : Template) (dual : Bool) : List (String × String) :=
  (template.rawNv.filter (applies dual)).map fun param => (param.name, param.value)

/-- The parameters that a template comes to, before they are held against what the device has. -/
def parameters (template : Template) (dual : Bool) (speed : Option UInt32)
    (defaults : Dict String) : Except SpecFault (Dict String) := do
  let gpu ← template.gpuEntries
  return Dict.ofList <|
    template.sriovEntries ++ template.linkTypeEntries dual ++ template.accOutReadEntries speed ++
    template.roceEntries dual defaults ++ gpu ++ template.rawEntries dual

def checkSupported (parameters defaults : Dict String) (device : String) :
    Except SpecFault (Dict String) :=
  match parameters.names.find? fun name => !defaults.contains name with
  | some name => .error (.unsupported name device)
  | none => .ok parameters

/-- The parameters that a template asks for on a device with these defaults. -/
def desired (template : Template) (dual : Bool) (speed : Option UInt32) (defaults : Dict String)
    (device : String) : Except SpecFault (Dict String) := do
  checkSupported (← template.parameters dual speed defaults) defaults device

end Template

namespace NicDevice

/-- The firmware parameters that a device asks for, given the defaults it has. The speed of the
first port's link is looked up only where it decides something. -/
def desiredNv (device : NicDevice) (defaults : Dict String) : Work (Dict String) := do
  let configuration ← Work.ofExcept device.configuration
  let ports ← Work.ofExcept device.ports
  let template := configuration.template
  let speed ←
    if template.needsLinkSpeed then some <$> Engine.linkSpeed ports.first.pci else pure none
  Work.ofExcept (Work.ofSpec (template.desired ports.isDual speed defaults device.name))

end NicDevice

end NicKeeper
