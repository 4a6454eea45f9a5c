import NicKeeper.Host.Call
import NicKeeper.Pci.Attribute
import NicKeeper.Qos.Text
import NicKeeper.System.World

/-!
# The host that a node's files and tools make up

Each call to a host is a program over files and tools. PCI functions, their interfaces and their
link speed are found below `bus/pci/devices`; identities and the firmware configuration go through
the firmware tools, the maximum read request size through `setpci`, and quality of service through
`mlnx_qos`.
-/

namespace NicKeeper.SystemHost

abbrev Steps := ExceptT HostError (Program systemService)

def ask (call : SystemCall) : Program systemService call.Answer := .ask call .done

def devicesPath : Path := ["bus", "pci", "devices"]

/-- The directory of a function. An address that starts with `/` leads out of the tree, and a `/` at
the end of one adds nothing. -/
def devicePath (pci : String) : Path :=
  let parts := (Text.splitWhere (· == '/') pci.toList).map String.ofList
  let parts := if parts.getLast? == some "" then parts.dropLast else parts
  if pci.toList.head? == some '/' then "/" :: parts.drop 1 else devicesPath ++ parts

/-- Runs a tool and takes what it prints; a run that fails is an error with what it complains of. -/
def run (program : String) (arguments : List String) : Steps (List Char) := do
  let command : Command := ⟨program, arguments⟩
  match ← ask (.runTool command) with
  | .error cause => throw (.commandSpawn command.line cause)
  | .ok reply =>
    if reply.status.isSuccess then return Text.Utf8.decodeLenient reply.stdout
    else
      let stderr := Text.trim (Text.Utf8.decodeLenient reply.stderr)
      throw (.commandFailed command.line reply.status (String.ofList stderr))

/-- Reads an attribute of a function, which has to be text. -/
def readAttribute (pci name : String) : Steps (List Char) := do
  match ← ask (.readFile (devicePath pci ++ [name])) with
  | .error cause => throw (.io cause)
  | .ok bytes =>
    match Text.Utf8.decode? bytes with
    | some text => return text
    | none => throw (.io .notUtf8)

section Functions

variable [PciNames]

/-- Reads the ids of a function. A class that has no base class is kept as it is. -/
def readFunction (pci : String) : Steps PciFunction := do
  let vendor := Pci.stripHex (← readAttribute pci "vendor")
  let product := Pci.stripHex (← readAttribute pci "device")
  let classText ← readAttribute pci "class"
  return {
    address := pci
    vendorId := String.ofList vendor
    classId := String.ofList ((Pci.classId? classText).toOption.getD (Pci.stripHex classText))
    productId := String.ofList product
    productName := Pci.productName? vendor product }

/-- Reads the functions that can be read; the others are passed over. -/
def readFunctions : List String → Program systemService (List PciFunction)
  | [] => return []
  | pci :: rest => do
    match ← (readFunction pci).run with
    | .ok function => return function :: (← readFunctions rest)
    | .error _ => readFunctions rest

/-- Enters a function among others in the order of their addresses, before those with its own. -/
def insertFunction (function : PciFunction) : List PciFunction → List PciFunction
  | [] => [function]
  | other :: rest =>
    if other.address < function.address then other :: insertFunction function rest
    else function :: other :: rest

def sortFunctions (functions : List PciFunction) : List PciFunction :=
  functions.foldr insertFunction []

def listFunctions : Steps (List PciFunction) := do
  match ← ask (.listDirectory devicesPath) with
  | .error cause => throw (.io cause)
  | .ok entries => return sortFunctions (← readFunctions (entries.map EntryName.shown))

end Functions

def least? : List String → Option String
  | [] => none
  | name :: rest =>
    match least? rest with
    | none => some name
    | some other => some (if other < name then other else name)

/-- The first entry of a directory by name, if it has one. -/
def firstEntry (path : Path) : Program systemService (Option String) := do
  return (← ask (.listDirectory path)).toOption.bind fun entries =>
    least? (entries.map EntryName.shown)

/-- The Device Control register of PCI Express, as `setpci` names it. -/
def deviceControl : String := "CAP_EXP+08.w"

/-- What `setpci` takes to set a maximum read request size and no other bit of the register. -/
def readRequestAssignment (bits : Nat) : String :=
  deviceControl ++ "=" ++ String.ofList (Text.hexadecimal 4 bits) ++ ":" ++
    String.ofList (Text.hexadecimal 4 Pci.readRequestMask)

def ofExcept {α : Type} (result : Except HostError α) : Steps α := ExceptT.mk (pure result)

/-- The program that answers a call to the host. Tools end within any limit. -/
def answer [PciNames] : (call : HostCall) → Program systemService call.Answer
  | .listFunctions => listFunctions.run
  | .isVirtualFunction pci => ask (.fileExists (devicePath pci ++ ["physfn"]))
  | .cardLabel pci => (do ofExcept (CardLabel.ofVpd? (← run "mstvpd" [pci])) : Steps _).run
  | .firmwareLabel pci =>
    (do ofExcept (FirmwareLabel.ofQuery? (← run "mstflint" ["-d", pci, "q"])) : Steps _).run
  | .interfaceName pci => firstEntry (devicePath pci ++ ["net"])
  | .rdmaInterfaceName pci => firstEntry (devicePath pci ++ ["infiniband"])
  | .linkSpeed pci =>
    (do ofExcept (Pci.linkSpeed? (← readAttribute pci "max_link_speed")) : Steps _).run
  | .queryNv pci _ => do
    let result ← (do
      ofExcept (NvSnapshot.ofTable? (← run "mstconfig" ["-d", pci, "-e", "query"])) : Steps _).run
    return some result
  | .setNv pci name value =>
    (do discard (run "mstconfig" ["-d", pci, "--yes", "set", name ++ "=" ++ value]) : Steps _).run
  | .resetNv pci => (do discard (run "mstconfig" ["-d", pci, "--yes", "reset"]) : Steps _).run
  | .resetFirmware pci _ => do
    let result ← (do discard (run "mstfwreset" ["-d", pci, "--yes", "reset"]) : Steps _).run
    return some result
  | .readRequest pci =>
    (do ofExcept (Pci.readRequest? (← run "setpci" ["-s", pci, deviceControl])) : Steps _).run
  | .setReadRequest pci size =>
    (do
      let bits ← ofExcept (Pci.encodeReadRequest? size)
      discard (run "setpci" ["-s", pci, readRequestAssignment bits]) : Steps _).run
  | .qos interface =>
    (do ofExcept (Qos.ofReport? (← run "mlnx_qos" ["-i", interface])) : Steps _).run
  | .setQos interface trust pfc =>
    (do discard (run "mlnx_qos" ["-i", interface, "--trust", trust.text, "--pfc", pfc.text]) :
      Steps _).run

/-- Answers one call to the host in a world. -/
def handle [PciNames] : Handler hostService World := fun call => (answer call).run World.handle

end NicKeeper.SystemHost
