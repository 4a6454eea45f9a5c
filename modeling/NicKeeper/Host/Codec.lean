import NicKeeper.Host.Call
import NicKeeper.Json.Record
import NicKeeper.Qos.Text

/-!
# Host values as JSON

PCI functions are written with all their fields, also a product name that is not known. A trust mode
is a string in exactly its own letters, and flow control is an array of eight flags.
-/

namespace NicKeeper

open Json (record? required optional? str? bool? list? choice?)

namespace PciFunction

def ofJson? (json : Json) : Option PciFunction := do
  let r ← record? ["address", "vendor_id", "class_id", "product_id", "product_name"] 5 json
  return {
    address := ← required r "address" str?
    vendorId := ← required r "vendor_id" str?
    classId := ← required r "class_id" str?
    productId := ← required r "product_id" str?
    productName := ← optional? r "product_name" str? }

def toJson (function : PciFunction) : Json :=
  .obj [("address", .str function.address), ("vendor_id", .str function.vendorId),
    ("class_id", .str function.classId), ("product_id", .str function.productId),
    ("product_name", match function.productName with
      | some name => .str name
      | none => .null)]

end PciFunction

namespace Trust

def ofJson? : Json → Option Trust := choice? ([pcp, dscp].map fun trust => (trust.text, trust))

def toJson (trust : Trust) : Json := .str trust.text

end Trust

namespace Pfc

def ofJson? (json : Json) : Option Pfc := do
  let flags ← list? bool? json
  if count : flags.length = priorityCount then some ⟨flags, count⟩ else none

def toJson (pfc : Pfc) : Json := .arr (pfc.flags.map .bool)

end Pfc

end NicKeeper
