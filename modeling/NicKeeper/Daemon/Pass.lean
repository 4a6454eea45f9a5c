import NicKeeper.Daemon.Error
import NicKeeper.Daemon.StatusPatch
import NicKeeper.Manager.Call

/-!
# A pass over a device

One pass compares a device with its spec, stages its firmware configuration if that is needed, and
stops while staged values wait for a boot; otherwise it brings the live settings about. What it came
to is written to the device's status, unless the status says so already. Errors of the manager end
up in the status. Only a status that cannot be written is an error of the pass, and a write at the
start of a pass that fails with an error of the manager counts as one of its errors.
-/

namespace NicKeeper

inductive PassCall where
  | manager (call : ManagerCall)
  | writeStatus (device : NicDevice) (report : Report)

abbrev PassCall.Answer : PassCall → Type
  | .manager call => call.Answer
  | .writeStatus _ _ => Except DaemonError Unit

abbrev passService : Service := ⟨PassCall, PassCall.Answer⟩

inductive Outcome where
  | applied
  | rebootRequired
  | specError
  | failed
  deriving DecidableEq, Repr

def Outcome.text : Outcome → String
  | .applied => "Applied"
  | .rebootRequired => "RebootRequired"
  | .specError => "SpecError"
  | .failed => "Failed"

abbrev Pass := ExceptT DaemonError (Program passService)

namespace Pass

def manager (call : ManagerCall) : Pass call.Answer :=
  ExceptT.mk (.ask (.manager call) fun answer => .done (.ok answer))

def writeStatus (device : NicDevice) (report : Report) : Pass Unit :=
  ExceptT.mk (.ask (.writeStatus device report) .done)

/-- What the manager's work on a device came to: live settings that are in place, a boot to wait
for, or an error. -/
inductive Result where
  | applied
  | rebootRequired
  | error (cause : EngineError)

def Result.outcome : Result → Outcome
  | .applied => .applied
  | .rebootRequired => .rebootRequired
  | .error cause => if cause.isSpecError then .specError else .failed

def Result.report : Result → Report
  | .applied => .ofState .applied
  | .rebootRequired => .rebootIsRequired
  | .error cause =>
    .ofError (if cause.isSpecError then .specError else .failed) cause.message

/-- Writes the result, unless the status says so already. A status that this pass has written to
before is not what the device says it is, so it is always written. -/
def settle (device : NicDevice) (written : Bool) (result : Result) : Pass Outcome := do
  if written || !result.report.matchesStatus device.status then
    writeStatus device result.report
  return result.outcome

def applyLive (device : NicDevice) (written : Bool) : Pass Outcome := do
  match ← manager (.applyLive device) with
  | .error cause => settle device written (.error cause)
  | .ok () => settle device written .applied

/-- Says that the device is being updated, unless its status says so already. The answer is whether
it had to be written, or the error of the manager with which that failed. -/
def announce (device : NicDevice) : Pass (Except EngineError Bool) :=
  if (Report.ofState .updating).matchesStatus device.status then return .ok false
  else ExceptT.mk <| .ask (.writeStatus device (.ofState .updating)) fun
    | .ok () => .done (.ok (.ok true))
    | .error (.manager cause) => .done (.ok (.error cause))
    | .error failure => .done (.error failure)

def stageNv (device : NicDevice) (written : Bool) : Pass Outcome := do
  match ← manager (.applyNv device) with
  | .error cause => settle device written (.error cause)
  | .ok true => settle device written .rebootRequired
  | .ok false => applyLive device written

def applyNv (device : NicDevice) : Pass Outcome := do
  match ← announce device with
  | .error cause => settle device false (.error cause)
  | .ok written => stageNv device written

def configure (device : NicDevice) : Pass Outcome := do
  match ← manager (.validateNv device) with
  | .error cause => settle device false (.error cause)
  | .ok verdict =>
    if verdict.updateNeeded then applyNv device
    else if verdict.rebootNeeded then settle device false .rebootRequired
    else applyLive device false

end Pass

end NicKeeper
