import NicKeeper.Json.Record
import NicKeeper.Resource.Basic

/-!
# Resources as JSON

How the resource and its parts are written as JSON and read from it. Fields have camel-case names,
and a device's type is the field `type`. What is absent is not written: an optional value that is
`none`, and an empty list of raw parameters.
-/

namespace NicKeeper

open Json (record? required defaulted optional? bool? str? word? ofWord list? choice? optional)

namespace NvParam

def ofJson? (json : Json) : Option NvParam := do
  let r ← record? ["name", "value"] 0 json
  return { name := ← required r "name" str?, value := ← required r "value" str? }

def toJson (param : NvParam) : Json :=
  .obj [("name", .str param.name), ("value", .str param.value)]

end NvParam

namespace LinkType

def text : LinkType → String
  | .ethernet => "Ethernet"
  | .infiniband => "Infiniband"

def ofJson? : Json → Option LinkType :=
  choice? ([ethernet, infiniband].map fun link => (link.text, link))

def toJson (link : LinkType) : Json := .str link.text

end LinkType

namespace PciTuning

def ofJson? (json : Json) : Option PciTuning := do
  let r ← record? ["enabled", "maxAccOutRead", "maxReadRequest"] 0 json
  return {
    enabled := ← required r "enabled" bool?
    maxAccOutRead := ← defaulted r "maxAccOutRead" word? 0
    maxReadRequest := ← defaulted r "maxReadRequest" word? 0 }

def toJson (pci : PciTuning) : Json :=
  .obj [("enabled", .bool pci.enabled), ("maxAccOutRead", ofWord pci.maxAccOutRead),
    ("maxReadRequest", ofWord pci.maxReadRequest)]

end PciTuning

namespace QosText

def ofJson? (json : Json) : Option QosText := do
  let r ← record? ["trust", "pfc"] 0 json
  return { trust := ← required r "trust" str?, pfc := ← required r "pfc" str? }

def toJson (qos : QosText) : Json :=
  .obj [("trust", .str qos.trust), ("pfc", .str qos.pfc)]

end QosText

namespace RoceTuning

def ofJson? (json : Json) : Option RoceTuning := do
  let r ← record? ["enabled", "qos"] 0 json
  return {
    enabled := ← required r "enabled" bool?
    qos := ← optional? r "qos" QosText.ofJson? }

def toJson (roce : RoceTuning) : Json :=
  .obj (("enabled", .bool roce.enabled) :: optional "qos" (roce.qos.map QosText.toJson))

end RoceTuning

namespace GpuDirect

def ofJson? (json : Json) : Option GpuDirect := do
  let r ← record? ["enabled", "env"] 0 json
  return { enabled := ← required r "enabled" bool?, env := ← required r "env" str? }

def toJson (gpu : GpuDirect) : Json :=
  .obj [("enabled", .bool gpu.enabled), ("env", .str gpu.env)]

end GpuDirect

namespace Template

def ofJson? (json : Json) : Option Template := do
  let r ← record? ["numVfs", "linkType", "pciPerformanceOptimized", "roceOptimized",
    "gpuDirectOptimized", "rawNvConfig"] 0 json
  return {
    numVfs := ← defaulted r "numVfs" word? 0
    linkType := ← optional? r "linkType" LinkType.ofJson?
    pci := ← optional? r "pciPerformanceOptimized" PciTuning.ofJson?
    roce := ← optional? r "roceOptimized" RoceTuning.ofJson?
    gpuDirect := ← optional? r "gpuDirectOptimized" GpuDirect.ofJson?
    rawNv := ← defaulted r "rawNvConfig" (list? NvParam.ofJson?) [] }

def toJson (template : Template) : Json :=
  .obj <|
    ("numVfs", ofWord template.numVfs) ::
    optional "linkType" (template.linkType.map LinkType.toJson) ++
    optional "pciPerformanceOptimized" (template.pci.map PciTuning.toJson) ++
    optional "roceOptimized" (template.roce.map RoceTuning.toJson) ++
    optional "gpuDirectOptimized" (template.gpuDirect.map GpuDirect.toJson) ++
    optional "rawNvConfig"
      (if template.rawNv.isEmpty then none else some (.arr (template.rawNv.map NvParam.toJson)))

end Template

namespace Configuration

def ofJson? (json : Json) : Option Configuration := do
  let r ← record? ["resetToDefault", "template"] 0 json
  return {
    resetToDefault := ← defaulted r "resetToDefault" bool? false
    template := ← defaulted r "template" Template.ofJson? {} }

def toJson (configuration : Configuration) : Json :=
  .obj [("resetToDefault", .bool configuration.resetToDefault),
    ("template", configuration.template.toJson)]

end Configuration

namespace Spec

def ofJson? (json : Json) : Option Spec := do
  let r ← record? ["configuration"] 0 json
  return { configuration := ← optional? r "configuration" Configuration.ofJson? }

def toJson (spec : Spec) : Json :=
  .obj (optional "configuration" (spec.configuration.map Configuration.toJson))

end Spec

namespace Port

def ofJson? (json : Json) : Option Port := do
  let r ← record? ["pci", "networkInterface", "rdmaInterface"] 0 json
  return {
    pci := ← required r "pci" str?
    networkInterface := ← defaulted r "networkInterface" str? ""
    rdmaInterface := ← defaulted r "rdmaInterface" str? "" }

def toJson (port : Port) : Json :=
  .obj [("pci", .str port.pci), ("networkInterface", .str port.networkInterface),
    ("rdmaInterface", .str port.rdmaInterface)]

end Port

namespace State

def text : State → String
  | .pending => "Pending"
  | .updating => "Updating"
  | .rebootRequired => "RebootRequired"
  | .applied => "Applied"
  | .specError => "SpecError"
  | .failed => "Failed"

def ofJson? : Json → Option State :=
  choice? ([pending, updating, rebootRequired, applied, specError, failed].map fun state =>
    (state.text, state))

def toJson (state : State) : Json := .str state.text

end State

variable [TimeFormat]

namespace Timestamp

def ofJson? (json : Json) : Option Timestamp := do TimeFormat.read? (← str? json)

def toJson (t : Timestamp) : Json := .str (TimeFormat.text t)

end Timestamp

namespace Status

def ofJson? (json : Json) : Option Status := do
  let r ← record? ["node", "type", "serialNumber", "partNumber", "psid", "firmwareVersion",
    "ports", "state", "rebootRequired", "error", "lastReconciled"] 0 json
  return {
    node := ← defaulted r "node" str? ""
    deviceType := ← defaulted r "type" str? ""
    serialNumber := ← defaulted r "serialNumber" str? ""
    partNumber := ← defaulted r "partNumber" str? ""
    psid := ← defaulted r "psid" str? ""
    firmwareVersion := ← defaulted r "firmwareVersion" str? ""
    ports := ← defaulted r "ports" (list? Port.ofJson?) []
    state := ← defaulted r "state" State.ofJson? .pending
    rebootRequired := ← defaulted r "rebootRequired" bool? false
    error := ← optional? r "error" str?
    lastReconciled := ← optional? r "lastReconciled" Timestamp.ofJson? }

end Status

/-- The fields of a status that say what the card is. -/
def Identity.jsonFields (identity : Identity) : List (String × Json) :=
  [("node", .str identity.node), ("type", .str identity.deviceType),
    ("serialNumber", .str identity.serialNumber), ("partNumber", .str identity.partNumber),
    ("psid", .str identity.psid), ("firmwareVersion", .str identity.firmwareVersion),
    ("ports", .arr (identity.ports.map Port.toJson))]

def Status.toJson (status : Status) : Json :=
  .obj <|
    status.toIdentity.jsonFields ++
    ("state", status.state.toJson) :: ("rebootRequired", .bool status.rebootRequired) ::
    optional "error" (status.error.map .str) ++
    optional "lastReconciled" (status.lastReconciled.map Timestamp.toJson)

namespace Metadata

/-- A whole number that fits in 64 bits with a sign. -/
def long? : Json → Option Int
  | .int value => if -Int.pow 2 63 ≤ value ∧ value < Int.pow 2 63 then some value else none
  | _ => none

/-- A reference to an owner; none of its fields has to be there. -/
def isOwner (json : Json) : Bool :=
  match json with
  | .obj _ =>
    (["apiVersion", "kind", "name", "uid"].all fun name =>
      (optional? json.field? name str?).isSome) &&
    (["blockOwnerDeletion", "controller"].all fun name =>
      (optional? json.field? name bool?).isSome)
  | _ => false

/-- An entry of the server's record of who manages which field. -/
def isManagedFields (json : Json) : Bool :=
  match json with
  | .obj _ =>
    (["apiVersion", "fieldsType", "manager", "operation", "subresource"].all fun name =>
      (optional? json.field? name str?).isSome) &&
    (optional? json.field? "time" Timestamp.ofJson?).isSome
  | _ => false

/-- Whether the fields of metadata that are not kept could be read. -/
def restReads (r : Json.Record) : Bool :=
  (["resourceVersion", "selfLink", "uid"].all fun name => (optional? r name str?).isSome) &&
  (["deletionGracePeriodSeconds", "generation"].all fun name => (optional? r name long?).isSome) &&
  (["creationTimestamp", "deletionTimestamp"].all fun name =>
    (optional? r name Timestamp.ofJson?).isSome) &&
  (optional? r "annotations" Json.strings?).isSome &&
  (optional? r "finalizers" (list? str?)).isSome &&
  (optional? r "ownerReferences" (list? fun json => if isOwner json then some () else none)).isSome
    &&
  (optional? r "managedFields"
    (list? fun json => if isManagedFields json then some () else none)).isSome

def ofJson? : Json → Option Metadata
  | .obj fields => do
    let r : Json.Record := fun name => Json.lookup name fields
    if !restReads r then none
    return {
      name := ← optional? r "name" str?
      generateName := ← optional? r "generateName" str?
      nspace := ← optional? r "namespace" str?
      labels := (← optional? r "labels" Json.strings?).map Dict.ofList }
  | _ => none

def toJson (metadata : Metadata) : Json :=
  .obj <|
    optional "generateName" (metadata.generateName.map .str) ++
    optional "labels" (metadata.labels.map fun labels => .ofStrings labels.entries) ++
    optional "name" (metadata.name.map .str) ++
    optional "namespace" (metadata.nspace.map .str)

end Metadata

namespace NicDevice

def group : String := "configuration.net.nvidia.com"
def version : String := "v1alpha1"
def apiVersion : String := group ++ "/" ++ version
def kind : String := "NicDevice"

/-- Reads a resource. Which version and kind it says it is does not matter. -/
def ofJson? (json : Json) : Option NicDevice :=
  match json with
  | .obj _ => do
    return {
      metadata := ← required json.field? "metadata" Metadata.ofJson?
      spec := ← required json.field? "spec" Spec.ofJson?
      status := ← optional? json.field? "status" Status.ofJson? }
  | _ => none

def toJson (device : NicDevice) : Json :=
  .obj <|
    [("apiVersion", .str apiVersion), ("kind", .str kind),
      ("metadata", device.metadata.toJson), ("spec", device.spec.toJson)] ++
    optional "status" (device.status.map Status.toJson)

end NicDevice

end NicKeeper
