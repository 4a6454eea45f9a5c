import NicKeeper.Manager.Call

/-!
# A manager with prepared answers

A manager that answers what it was told to answer, and remembers the names of the devices that each
call was made for.
-/

namespace NicKeeper

/-- A failure in given words. -/
inductive CannedFailure where
  | spec (message : String)
  | host (message : String)
  deriving DecidableEq, Repr

def CannedFailure.error : CannedFailure → EngineError
  | .spec message => .incorrectSpec (.stated message)
  | .host message => .host (.notFound message)

structure CannedManager where
  cards : Dict Status := {}
  verdict : Verdict := {}
  rebootNeeded : Bool := false
  discoverFailure : Option CannedFailure := none
  validateFailure : Option CannedFailure := none
  applyNvFailure : Option CannedFailure := none
  applyLiveFailure : Option CannedFailure := none
  validated : List String := []
  nvApplied : List String := []
  liveApplied : List String := []
  deriving Inhabited

namespace CannedManager

def addCard (manager : CannedManager) (card : Status) : CannedManager :=
  { manager with cards := manager.cards.insert card.serialNumber card }

def answer {α : Type} (failure : Option CannedFailure) (value : α) : Except EngineError α :=
  match failure with
  | some failure => .error failure.error
  | none => .ok value

def handle : Handler managerService CannedManager
  | .discover, m => (answer m.discoverFailure m.cards, m)
  | .validateNv device, m =>
    (answer m.validateFailure m.verdict, { m with validated := m.validated ++ [device.name] })
  | .applyNv device, m =>
    (answer m.applyNvFailure m.rebootNeeded, { m with nvApplied := m.nvApplied ++ [device.name] })
  | .applyLive device, m =>
    (answer m.applyLiveFailure (),
      { m with liveApplied := m.liveApplied ++ [device.name] })

end CannedManager

end NicKeeper
