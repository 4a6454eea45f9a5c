import NicKeeper.Json.Basic
import NicKeeper.Program
import NicKeeper.Resource.Basic

/-!
# Calls to the API server

The resources of one namespace are kept by an API server, by their names. A call can fail with the
server's status code, or without one when it could not be sent or its answer not be read.
-/

namespace NicKeeper

structure ApiFailure where
  code : Option Nat
  deriving DecidableEq, Repr

inductive ApiCall where
  /-- Answers `none` for a resource that is absent. -/
  | get (name : String)
  | create (device : NicDevice)
  /-- Merges a patch into a resource. -/
  | patchStatus (name : String) (patch : Json)
  /-- The resources that a selector selects by their labels, in the order of their names. -/
  | list (selector : String)
  | delete (name : String)

/-- What a call is answered with that does not fail. -/
abbrev ApiCall.Value : ApiCall → Type
  | .get _ => Option NicDevice
  | .create _ => NicDevice
  | .patchStatus _ _ => NicDevice
  | .list _ => List NicDevice
  | .delete _ => Unit

abbrev ApiCall.Answer (call : ApiCall) : Type := Except ApiFailure call.Value

abbrev apiService : Service := ⟨ApiCall, ApiCall.Answer⟩

inductive ApiVerb where
  | get
  | create
  | patchStatus
  | list
  | delete
  deriving DecidableEq, Repr

def ApiCall.verb : ApiCall → ApiVerb
  | .get _ => .get
  | .create _ => .create
  | .patchStatus _ _ => .patchStatus
  | .list _ => .list
  | .delete _ => .delete

end NicKeeper
