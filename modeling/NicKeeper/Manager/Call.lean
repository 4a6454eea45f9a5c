import NicKeeper.Engine.Cards
import NicKeeper.Engine.LiveSettings
import NicKeeper.Engine.Staging

/-!
# Calls to a manager

What a daemon has done on its node: finding cards, comparing a device with its spec, and bringing
its firmware configuration and its live settings about. The engine does so on a host.
-/

namespace NicKeeper

inductive ManagerCall where
  | discover
  | validateNv (device : NicDevice)
  /-- Answers whether a boot has to follow. -/
  | applyNv (device : NicDevice)
  | applyLive (device : NicDevice)

abbrev ManagerCall.Answer : ManagerCall → Type
  | .discover => Except EngineError (Dict Status)
  | .validateNv _ => Except EngineError Verdict
  | .applyNv _ => Except EngineError Bool
  | .applyLive _ => Except EngineError Unit

abbrev managerService : Service := ⟨ManagerCall, ManagerCall.Answer⟩

/-- What the engine does on its host for each call. -/
def Engine.manage (engine : Engine) : (call : ManagerCall) → Program hostService call.Answer
  | .discover => engine.discover.run
  | .validateNv device => (engine.validateNv device).run
  | .applyNv device => (engine.applyNv device).run
  | .applyLive device => (Engine.applyLive device).run

end NicKeeper
