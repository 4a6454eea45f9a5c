import NicKeeper.Api.Call
import NicKeeper.Engine.Error

/-!
# What goes wrong in the daemon

Failures of the API server, of the manager and of what watches resources, and settings that cannot
be read.
-/

namespace NicKeeper

/-- A setting that is wrong, by the name of its variable. -/
inductive SettingsFault where
  | noNodeName
  | notPositiveSeconds (key value : String)
  deriving DecidableEq, Repr

def SettingsFault.message : SettingsFault → String
  | .noNodeName => "NODE_NAME environment variable is required"
  | .notPositiveSeconds key value =>
    s!"{key} must be a positive number of seconds, got " ++ "'" ++ value ++ "'"

/-- An error of the daemon: of the API server, of the manager, in the settings, or in words. -/
inductive DaemonError where
  | api (failure : ApiFailure)
  | manager (cause : EngineError)
  | settings (fault : SettingsFault)
  | watch (message : String)
  deriving DecidableEq, Repr

/-- What is said about an error. The words of the API server's failures are its own. -/
def DaemonError.message : DaemonError → String
  | .api _ => "Kubernetes error"
  | .manager cause => s!"Host manager error: {cause.message}"
  | .settings fault => s!"Invalid configuration: {fault.message}"
  | .watch message => s!"Resource watch failed: {message}"

end NicKeeper
