import NicKeeper.Resource.Codec

/-!
# The definition of the resource

What an API server is told about the resource: its group, names and version, and a schema of its
fields. Fields that have a default say so, the others of a record are required unless they are
optional, and an optional field may hold `null`.
-/

namespace NicKeeper

namespace Schema

/-- A field of a record: whether it has to be there, its name and its schema. -/
structure Field where
  isRequired : Bool
  name : String
  schema : List (String × Json)

def described (text : String) (schema : List (String × Json)) : List (String × Json) :=
  ("description", .str text) :: schema

def withDefault (value : Json) (schema : List (String × Json)) : List (String × Json) :=
  ("default", value) :: schema

def nullable (schema : List (String × Json)) : List (String × Json) :=
  ("nullable", .bool true) :: schema

def string : List (String × Json) := [("type", .str "string")]

def boolean : List (String × Json) := [("type", .str "boolean")]

def word : List (String × Json) :=
  [("type", .str "integer"), ("format", .str "uint32"), ("minimum", .fraction 0 1)]

def dateTime : List (String × Json) := ("format", .str "date-time") :: string

def list (items : List (String × Json)) : List (String × Json) :=
  [("type", .str "array"), ("items", .obj items)]

def choice (values : List Json) : List (String × Json) := ("enum", .arr values) :: string

def requiredField (name : String) (schema : List (String × Json)) : Field := ⟨true, name, schema⟩

def optionalField (name : String) (schema : List (String × Json)) : Field := ⟨false, name, schema⟩

def record (fields : List Field) : List (String × Json) :=
  let required := (fields.filter (·.isRequired)).map fun field => Json.str field.name
  [("type", .str "object"),
    ("properties", .obj (fields.map fun field => (field.name, .obj field.schema)))] ++
  Json.optional "required" (if required.isEmpty then none else some (.arr required))

def param : List (String × Json) :=
  record [requiredField "name" string, requiredField "value" string]

def pciTuning : List (String × Json) :=
  record [
    requiredField "enabled" boolean,
    optionalField "maxAccOutRead" <| withDefault (.int 0) <|
      described "MAX_ACC_OUT_READ value. 0 picks a value based on the PCIe link generation." word,
    optionalField "maxReadRequest" <| withDefault (.int 0) <|
      described "PCIe max read request size in bytes. 0 means 4096." word]

def qosText : List (String × Json) :=
  record [
    requiredField "pfc" <|
      described "Comma separated per-priority PFC flags, e.g. \"0,0,0,1,0,0,0,0\"" string,
    requiredField "trust" <| described "Trust mode, \"pcp\" or \"dscp\"" string]

def roceTuning : List (String × Json) :=
  record [
    requiredField "enabled" boolean,
    optionalField "qos" <| nullable <|
      described "Overrides the default trust mode and PFC map" qosText]

def gpuDirect : List (String × Json) :=
  record [
    requiredField "enabled" boolean,
    requiredField "env" <|
      described "Deployment environment. Only \"Baremetal\" is supported." string]

def linkType : List (String × Json) :=
  choice [LinkType.ethernet.toJson, LinkType.infiniband.toJson, .null]

def template : List (String × Json) :=
  record [
    optionalField "numVfs" <| withDefault (.int 0) <|
      described "Number of SR-IOV virtual functions to expose (0 disables SR-IOV)" word,
    optionalField "linkType" <| nullable <| described "Port link type" linkType,
    optionalField "pciPerformanceOptimized" <| nullable pciTuning,
    optionalField "roceOptimized" <| nullable roceTuning,
    optionalField "gpuDirectOptimized" <| nullable gpuDirect,
    optionalField "rawNvConfig" <|
      described "Raw NV parameters, applied verbatim on top of the computed ones" (list param)]

def configuration : List (String × Json) :=
  record [
    optionalField "resetToDefault" <| withDefault (.bool false) <|
      described
        "Reset all NV parameters to factory defaults. Takes precedence over the template." boolean,
    optionalField "template" <| withDefault (Template.toJson {}) <|
      described "Configuration template applied to the device" template]

def spec : List (String × Json) :=
  record [
    optionalField "configuration" <| nullable <|
      described "Desired configuration. Devices without one are discovered but left untouched."
        configuration]

def port : List (String × Json) :=
  record [
    requiredField "pci" <| described "PCI address, e.g. \"0000:3b:00.0\"" string,
    optionalField "networkInterface" <| withDefault (.str "") string,
    optionalField "rdmaInterface" <| withDefault (.str "") string]

def state : List (String × Json) :=
  choice <| [State.pending, .updating, .rebootRequired, .applied, .specError, .failed].map
    State.toJson

def status : List (String × Json) :=
  record [
    optionalField "node" <| withDefault (.str "") <|
      described "Node the device is attached to" string,
    optionalField "type" <| withDefault (.str "") <| described "PCI product id" string,
    optionalField "serialNumber" <| withDefault (.str "") string,
    optionalField "partNumber" <| withDefault (.str "") string,
    optionalField "psid" <| withDefault (.str "") <|
      described "Parameter-set identifier of the board" string,
    optionalField "firmwareVersion" <| withDefault (.str "") string,
    optionalField "ports" <| withDefault (.arr []) <|
      described "Physical function ports, port 0 first" (list port),
    optionalField "state" <| withDefault State.pending.toJson <|
      described "Configuration state" state,
    optionalField "rebootRequired" <| withDefault (.bool false) <|
      described "A reboot is needed for staged NV changes to take effect" boolean,
    optionalField "error" <| nullable <|
      described "Error message if the last reconciliation failed" string,
    optionalField "lastReconciled" <| nullable <|
      described "Last reconciliation timestamp" dateTime]

def device : List (String × Json) :=
  [("description", .str "Auto-generated derived type for NicDeviceSpec via `CustomResource`"),
    ("title", .str NicDevice.kind)] ++
  record [requiredField "spec" spec, optionalField "status" (nullable status)]

end Schema

namespace NicDevice

def plural : String := "nicdevices"

def definition : Json :=
  .obj [
    ("apiVersion", .str "apiextensions.k8s.io/v1"),
    ("kind", .str "CustomResourceDefinition"),
    ("metadata", .obj [("name", .str (plural ++ "." ++ group))]),
    ("spec", .obj [
      ("group", .str group),
      ("names", .obj [
        ("categories", .arr []),
        ("kind", .str kind),
        ("plural", .str plural),
        ("shortNames", .arr [.str "nicdev"]),
        ("singular", .str "nicdevice")]),
      ("scope", .str "Namespaced"),
      ("versions", .arr [.obj [
        ("additionalPrinterColumns", .arr []),
        ("name", .str version),
        ("schema", .obj [("openAPIV3Schema", .obj Schema.device)]),
        ("served", .bool true),
        ("storage", .bool true),
        ("subresources", .obj [("status", .obj [])])]])])]

end NicDevice

end NicKeeper
