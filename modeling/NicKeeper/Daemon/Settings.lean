import NicKeeper.Daemon.Error
import NicKeeper.Text.Blank

/-!
# Settings of the daemon

The settings are read from variables. The node's name has to be given; everything else has a
default. Lengths of time are whole numbers of seconds above zero.
-/

namespace NicKeeper

structure Settings where
  nodeName : String
  nspace : String
  discoveryInterval : Duration
  /-- The limit for slow calls to the host, where one is set. -/
  hostCallLimit : Option Duration
  sysfsRoot : String
  deriving DecidableEq, Repr

namespace Settings

def defaultNamespace : String := "nic-configuration-operator"
def defaultInterval : Duration := .ofSeconds 300
def defaultSysfsRoot : String := "/sys"

/-- A positive number of seconds that fits in 64 bits, with blanks around it. -/
def seconds? (key value : String) : Except SettingsFault Duration :=
  match Text.unsigned? 10 (Nat.pow 2 64) (Text.trim value.toList) with
  | some (n + 1) => .ok (.ofSeconds (n + 1))
  | _ => .error (.notPositiveSeconds key value)

def optionalSeconds? (lookup : String → Option String) (key : String) :
    Except SettingsFault (Option Duration) :=
  match lookup key with
  | none => .ok none
  | some value => (seconds? key value).map some

def nonEmpty? (lookup : String → Option String) (key : String) : Option String :=
  (lookup key).filter (· ≠ "")

def load (lookup : String → Option String) : Except SettingsFault Settings := do
  let some nodeName := nonEmpty? lookup "NODE_NAME" | throw .noNodeName
  let interval ← optionalSeconds? lookup "DISCOVERY_INTERVAL_SECS"
  let limit ← optionalSeconds? lookup "HOST_CALL_TIMEOUT_SECS"
  return {
    nodeName
    nspace := (nonEmpty? lookup "WATCH_NAMESPACE").getD defaultNamespace
    discoveryInterval := interval.getD defaultInterval
    hostCallLimit := limit
    sysfsRoot := (lookup "SYSFS_ROOT").getD defaultSysfsRoot }

end Settings

end NicKeeper
