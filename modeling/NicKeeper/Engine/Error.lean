import NicKeeper.Duration
import NicKeeper.Host.Error
import NicKeeper.Text.Quoted

/-!
# Why a device is not configured

A device cannot be configured because its spec is wrong, because the host fails or is too slow, or
because the device lacks what is needed to work on it. Only a wrong spec is a fault that trying
again cannot mend.
-/

namespace NicKeeper

/-- The only environment that GPUDirect is supported in. -/
def bareMetal : String := "Baremetal"

inductive SpecFault where
  | gpuEnvironment (env : String)
  | gpuWithoutPci
  | unsupported (parameter device : String)
  | qosTrust (cause : HostError)
  | qosPfc (cause : HostError)
  /-- A fault in words of its own. -/
  | stated (message : String)
  deriving DecidableEq, Repr

def SpecFault.message : SpecFault → String
  | .gpuEnvironment env =>
    s!"GPUDirect optimization is only supported in the {bareMetal} environment, got " ++
      Text.quote env
  | .gpuWithoutPci =>
    "GPUDirect optimization requires PCI performance optimization to be enabled"
  | .unsupported parameter device => s!"Parameter {parameter} unsupported for device {device}"
  | .qosTrust cause => s!"invalid qos trust: {cause.message}"
  | .qosPfc cause => s!"invalid qos pfc: {cause.message}"
  | .stated message => message

inductive DeviceFault where
  | noPorts (device : String)
  | noConfiguration (device : String)
  | noInterface (pci device : String)
  deriving DecidableEq, Repr

def DeviceFault.message : DeviceFault → String
  | .noPorts device => s!"NicDevice {device} has no discovered ports"
  | .noConfiguration device => s!"NicDevice {device} has no configuration"
  | .noInterface pci device => s!"port {pci} of {device} has no network interface"

inductive SlowCall where
  | query
  | reset
  deriving DecidableEq, Repr

def SlowCall.text : SlowCall → String
  | .query => "NV config query"
  | .reset => "firmware reset"

inductive EngineError where
  | incorrectSpec (fault : SpecFault)
  | host (cause : HostError)
  | timeout (call : SlowCall) (pci : String) (limit : Duration)
  | invalidDevice (fault : DeviceFault)
  deriving DecidableEq, Repr

namespace EngineError

def message : EngineError → String
  | .incorrectSpec fault => s!"Incorrect spec: {fault.message}"
  | .host cause => s!"Host error: {cause.message}"
  | .timeout call pci limit => s!"{call.text} on {pci} timed out after {limit.text}"
  | .invalidDevice fault => s!"Invalid device: {fault.message}"

/-- Whether only a change of the spec can mend an error. -/
def isSpecError : EngineError → Bool
  | .incorrectSpec _ => true
  | _ => false

end EngineError

end NicKeeper
