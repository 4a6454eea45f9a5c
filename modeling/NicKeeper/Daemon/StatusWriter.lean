import NicKeeper.Daemon.Pass

/-!
# Writing a status

The daemon writes the report of a pass through the API server, as a patch to the resource's status.
A log keeps the reports instead, and can be told to reject them.
-/

namespace NicKeeper

def patchReport [TimeFormat] (now : Timestamp) (device : NicDevice) (report : Report) :
    Program apiService (Except DaemonError Unit) :=
  .ask (.patchStatus device.name (report.patch now)) fun
    | .ok _ => .done (.ok ())
    | .error failure => .done (.error (.api failure))

/-- The reports that were written, with the names of their devices. -/
structure StatusLog where
  writes : List (String × Report) := []
  rejecting : Bool := false
  deriving Inhabited

def StatusLog.write (device : NicDevice) (report : Report) (log : StatusLog) :
    Except DaemonError Unit × StatusLog :=
  if log.rejecting then (.error (.watch "status write rejected"), log)
  else (.ok (), { log with writes := log.writes ++ [(device.name, report)] })

end NicKeeper
