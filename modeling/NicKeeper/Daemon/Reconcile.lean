import NicKeeper.Daemon.Backoff
import NicKeeper.Daemon.Pass

/-!
# When a device is looked at again

After a pass a device is looked at again in a while, in case its live settings drift; after a
failure it is, with growing delays. A wrong spec waits for a change of the resource, and so does a
device that is not managed here, over which no pass is made.
-/

namespace NicKeeper

inductive Action where
  | awaitChange
  | requeue (delay : Duration)
  deriving DecidableEq, Repr

/-- The node and the namespace that a daemon works for. -/
structure Place where
  node : String
  nspace : String
  deriving DecidableEq, Repr, Inhabited

namespace Place

/-- How often devices are looked at that do not fail. -/
def resyncInterval : Duration := .ofSeconds 600

def retryKey (place : Place) (device : NicDevice) : String :=
  device.metadata.nspace.getD place.nspace ++ "/" ++ device.name

def follow (retries : Retries) (key : String) : Outcome → Action × Retries
  | .applied | .rebootRequired => (.requeue resyncInterval, retries.reset key)
  | .specError => (.awaitChange, retries.reset key)
  | .failed =>
    let ((delay, _), retries) := retries.fail key
    (.requeue delay, retries)

/-- Makes a pass over a device that is managed here, and says when to look at it again. -/
def reconcile (place : Place) (retries : Retries) (device : NicDevice) :
    Program passService (Except DaemonError Action × Retries) := do
  if !device.isManagedBy place.node then return (.ok .awaitChange, retries)
  else
    match ← (Pass.configure device).run with
    | .error failure => return (.error failure, retries)
    | .ok outcome =>
      let (action, retries) := follow retries (place.retryKey device) outcome
      return (.ok action, retries)

end Place

end NicKeeper
