import NicKeeper.Api.Call
import NicKeeper.Daemon.Error
import NicKeeper.Daemon.Reconcile
import NicKeeper.Daemon.StatusPatch
import NicKeeper.Manager.Call
import NicKeeper.Text.Lowercase

/-!
# Publishing the cards of a node

Each card of a node has a resource: it is made when the card is first seen, its identity is kept up
to date, and it is deleted when the card is gone. Nothing is deleted before every card has been
published. The resources of a node carry its name as a label.
-/

namespace NicKeeper

/-- The label that says on which node a card was found. -/
def nodeLabel : String := NicDevice.group ++ "/node"

def nodeSelector (node : String) : String := nodeLabel ++ "=" ++ node

/-- The name of a card's resource: node, type and serial number in lowercase. -/
def deviceName (node : String) (card : Identity) : String :=
  String.ofList (Text.lower (node ++ "-" ++ card.deviceType ++ "-" ++ card.serialNumber).toList)

inductive PublishCall where
  | discover
  | api (call : ApiCall)

abbrev PublishCall.Answer : PublishCall → Type
  | .discover => Except EngineError (Dict Status)
  | .api call => call.Answer

abbrev publishService : Service := ⟨PublishCall, PublishCall.Answer⟩

abbrev Publishing := ExceptT DaemonError (Program publishService)

namespace Publishing

def discover : Publishing (Dict Status) :=
  ExceptT.mk <| .ask .discover fun answer => .done (answer.mapError .manager)

def api (call : ApiCall) : Publishing call.Value :=
  ExceptT.mk <| .ask (.api call) fun answer => .done (answer.mapError .api)

def get (name : String) : Publishing (Option NicDevice) := api (.get name)

def create (device : NicDevice) : Publishing NicDevice := api (.create device)

def patchStatus (name : String) (patch : Json) : Publishing NicDevice :=
  api (.patchStatus name patch)

def list (selector : String) : Publishing (List NicDevice) := api (.list selector)

def delete (name : String) : Publishing Unit := api (.delete name)

end Publishing

namespace Place

open Publishing (get create patchStatus list delete)

/-- The resource of a card that has none. -/
def newDevice (place : Place) (name : String) : NicDevice :=
  { metadata :=
      { name := some name
        nspace := some place.nspace
        labels := some (Dict.ofList [(nodeLabel, place.node)]) } }

/-- The resource of a card, which is made if it is absent. -/
def ensureDevice (place : Place) (name : String) : Publishing NicDevice := do
  match ← get name with
  | some device => return device
  | none => create (place.newDevice name)

def publishCard (place : Place) (name : String) (card : Identity) : Publishing Unit := do
  let device ← place.ensureDevice name
  if card.differsFrom device.status then discard (patchStatus name card.patch)

/-- Publishes cards in the given order. The answer is their names, each once. -/
def publishCards (place : Place) (published : List String) :
    List Status → Publishing (List String)
  | [] => return published
  | card :: rest => do
    let name := deviceName place.node card.toIdentity
    place.publishCard name card.toIdentity
    place.publishCards (if published.contains name then published else name :: published) rest

/-- Deletes the resources that do not bear one of the names. -/
def deleteOthers (published : List String) : List NicDevice → Publishing Unit
  | [] => return ()
  | device :: rest => do
    if !published.contains device.name then delete device.name
    deleteOthers published rest

/-- Publishes the cards in the given order and deletes what else the node has. The answer is how
many resources there are. -/
def publish (place : Place) (cards : List Status) : Publishing Nat := do
  let published ← place.publishCards [] cards
  deleteOthers published (← list (nodeSelector place.node))
  return published.length

/-- Publishes the cards that are found, in an order of their own. -/
def discoverAndPublishBy (place : Place) (iterate : Dict Status → List Status) :
    Publishing Nat := do
  place.publish (iterate (← Publishing.discover))

def discoverAndPublish (place : Place) : Publishing Nat := place.discoverAndPublishBy Dict.values

end Place

end NicKeeper
