import NicKeeper.Qos.Basic

/-!
# What goes wrong on a host

The ways in which asking a host for something, or telling it something, can fail, and what is said
about each.
-/

namespace NicKeeper

inductive IoError where
  | notFound
  | notADirectory
  | isADirectory
  | nameTooLong
  | notUtf8
  /-- A path that holds the character NUL. -/
  | nulInPath
  /-- An argument of a program that holds the character NUL. -/
  | nulInArgument
  deriving DecidableEq, Repr

def IoError.message : IoError → String
  | .notFound => "No such file or directory (os error 2)"
  | .notADirectory => "Not a directory (os error 20)"
  | .isADirectory => "Is a directory (os error 21)"
  | .nameTooLong => "File name too long (os error 36)"
  | .notUtf8 => "stream did not contain valid UTF-8"
  | .nulInPath => "file name contained an unexpected NUL byte"
  | .nulInArgument => "nul byte found in provided data"

inductive ExitStatus where
  | exited (code : Nat)
  | killed (signal : Nat)
  deriving DecidableEq, Repr

namespace ExitStatus

/-- The names of signals by number, from 1 on. -/
def signalNames : List String :=
  ["SIGHUP", "SIGINT", "SIGQUIT", "SIGILL", "SIGTRAP", "SIGABRT", "SIGBUS", "SIGFPE", "SIGKILL",
    "SIGUSR1", "SIGSEGV", "SIGUSR2", "SIGPIPE", "SIGALRM", "SIGTERM", "SIGSTKFLT", "SIGCHLD",
    "SIGCONT", "SIGSTOP", "SIGTSTP", "SIGTTIN", "SIGTTOU", "SIGURG", "SIGXCPU", "SIGXFSZ",
    "SIGVTALRM", "SIGPROF", "SIGWINCH", "SIGIO", "SIGPWR", "SIGSYS"]

def isSuccess (status : ExitStatus) : Bool := status == .exited 0

def message : ExitStatus → String
  | .exited code => s!"exit status: {code}"
  | .killed signal =>
    match signal with
    | 0 => "signal: 0"
    | n + 1 =>
      match signalNames[n]? with
      | some name => s!"signal: {signal} ({name})"
      | none => s!"signal: {signal}"

end ExitStatus

/-- Text that does not say what it should. -/
inductive ParseFault where
  | vpdIncomplete
  | firmwareIncomplete
  | noConfigurationTable
  | pciClass (text : String)
  | emptyLinkSpeed
  | linkSpeed (text : String)
  | deviceControl (text : String)
  /-- A maximum read request size that the register has no meaning for. -/
  | reservedReadRequest (encoded : Nat)
  | trust (text : String)
  | pfcCount (count : Nat) (text : String)
  | pfcFlag (text : String)
  | pfcRow (text : String)
  | qosIncomplete
  deriving DecidableEq, Repr

def ParseFault.message : ParseFault → String
  | .vpdIncomplete => "VPD does not contain part and serial numbers"
  | .firmwareIncomplete => "flint query is missing FW Version or PSID"
  | .noConfigurationTable => "NV config query output has no configuration table"
  | .pciClass text => s!"invalid PCI class: {text}"
  | .emptyLinkSpeed => "empty link speed"
  | .linkSpeed text => s!"invalid link speed: {text}"
  | .deviceControl text => s!"invalid device control value: {text}"
  | .reservedReadRequest encoded => s!"reserved max read request encoding: {encoded}"
  | .trust text => s!"unknown trust mode: {text}"
  | .pfcCount count text => s!"PFC map must have {priorityCount} entries, got {count}: {text}"
  | .pfcFlag text => s!"invalid PFC flag: {text}"
  | .pfcRow text => s!"unexpected PFC row: {text}"
  | .qosIncomplete => "mlnx_qos output is missing trust or PFC state"

inductive BadArgument where
  | unknownParameter (name : String)
  | readRequestSize (size : UInt32)
  deriving DecidableEq, Repr

def BadArgument.message : BadArgument → String
  | .unknownParameter name => s!"unknown parameter {name}"
  | .readRequestSize size =>
    s!"max read request size must be a power of two between 128 and 4096, got {size.toNat}"

inductive HostError where
  | io (cause : IoError)
  /-- A program that could not be started. -/
  | commandSpawn (command : String) (cause : IoError)
  /-- A program that ended in failure, with what it said. -/
  | commandFailed (command : String) (status : ExitStatus) (stderr : String)
  | parse (fault : ParseFault)
  | notFound (what : String)
  | invalidArgument (argument : BadArgument)
  deriving DecidableEq, Repr

def HostError.message : HostError → String
  | .io cause => s!"IO error: {cause.message}"
  | .commandSpawn command cause => "Failed to run `" ++ command ++ "`: " ++ cause.message
  | .commandFailed command status stderr =>
    "`" ++ command ++ "` failed (" ++ status.message ++ "): " ++ stderr
  | .parse fault => s!"Parse error: {fault.message}"
  | .notFound what => s!"Not found: {what}"
  | .invalidArgument argument => s!"Invalid argument: {argument.message}"

end NicKeeper
