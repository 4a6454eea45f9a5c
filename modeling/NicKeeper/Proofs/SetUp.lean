import NicKeeper.Host.Memory
import NicKeeper.Proofs.Inclusion

/-!
# Hosts that have been set up

The tables of a host in memory are filled by its setup operations. However they are used, a
parameter with a value in effect also has a staged value, and one with a staged value also has a
default (`SetUp.nested`).

An operation is an `Arrangement`. What it makes of the parameters of a device does not depend on the
other tables of the host, nor on the other devices (`parameters_apply`), so what is to be kept by
all operations has to be looked at for a device's parameters only.
-/

namespace NicKeeper

namespace NvMemory

variable {nv : NvMemory}

/-- Values in effect are of parameters that have staged ones, and those of parameters that the
device has. -/
structure Nested (nv : NvMemory) : Prop where
  staged : ∀ name, nv.stored.current.contains name = true → nv.stored.nextBoot.contains name = true
  known : ∀ name, nv.stored.nextBoot.contains name = true → nv.stored.default.contains name = true

theorem nested_empty : ({} : NvMemory).Nested := ⟨nofun, nofun⟩

theorem Nested.addParameter (h : nv.Nested) (name default current next : String) :
    (nv.addParameter name default current next).Nested := by
  constructor
  · intro other
    show (nv.stored.current.insert _ _).contains other = true →
      (nv.stored.nextBoot.insert _ _).contains other = true
    rw [Dict.contains_insert, Dict.contains_insert, Bool.or_eq_true, Bool.or_eq_true]
    exact Or.imp_right (h.staged other)
  · intro other
    show (nv.stored.nextBoot.insert _ _).contains other = true →
      (nv.stored.default.insert _ _).contains other = true
    rw [Dict.contains_insert, Dict.contains_insert, Bool.or_eq_true, Bool.or_eq_true]
    exact Or.imp_right (h.known other)

theorem Nested.addAdvanced (h : nv.Nested) (name default current next : String) :
    (nv.addAdvanced name default current next).Nested :=
  ⟨(h.addParameter name default current next).staged,
    (h.addParameter name default current next).known⟩

theorem Nested.addDefault (h : nv.Nested) (name default : String) :
    (nv.addDefault name default).Nested := by
  refine ⟨h.staged, fun other staged => ?_⟩
  show (nv.stored.default.insert _ _).contains other = true
  rw [Dict.contains_insert, h.known other staged, Bool.or_true]

theorem Nested.removeCurrent (h : nv.Nested) (name : String) : (nv.removeCurrent name).Nested := by
  refine ⟨fun other current => h.staged other ?_, h.known⟩
  obtain ⟨value, found⟩ := Dict.contains_eq_true_iff.1 current
  change (nv.stored.current.erase name).get? other = some value at found
  rw [Dict.get?_erase] at found
  split at found
  · cases found
  · exact Dict.contains_of_get? found

end NvMemory

namespace MemoryHost

variable {host : MemoryHost}

/-- The hosts that setup operations lead to. -/
inductive SetUp : MemoryHost → Prop where
  | new : SetUp {}
  | addFunction {host : MemoryHost} (h : SetUp host) (function : PciFunction) :
      SetUp (host.addFunction function)
  | addCard {host : MemoryHost} (h : SetUp host) (function : PciFunction) (label : CardLabel)
      (firmware : FirmwareLabel) : SetUp (host.addCard function label firmware)
  | markVirtual {host : MemoryHost} (h : SetUp host) (pci : String) : SetUp (host.markVirtual pci)
  | setInterfaces {host : MemoryHost} (h : SetUp host) (pci interface rdma : String) :
      SetUp (host.setInterfaces pci interface rdma)
  | setLinkSpeed {host : MemoryHost} (h : SetUp host) (pci : String) (speed : UInt32) :
      SetUp (host.setLinkSpeed pci speed)
  | addParameter {host : MemoryHost} (h : SetUp host) (pci name default current next : String) :
      SetUp (host.updateNv pci (·.addParameter name default current next))
  | addAdvanced {host : MemoryHost} (h : SetUp host) (pci name default current next : String) :
      SetUp (host.updateNv pci (·.addAdvanced name default current next))
  | addDefault {host : MemoryHost} (h : SetUp host) (pci name default : String) :
      SetUp (host.updateNv pci (·.addDefault name default))
  | removeCurrentNv {host : MemoryHost} (h : SetUp host) (pci name : String) :
      SetUp (host.removeCurrentNv pci name)
  | putReadRequest {host : MemoryHost} (h : SetUp host) (pci : String) (size : UInt32) :
      SetUp (host.putReadRequest pci size)
  | putQos {host : MemoryHost} (h : SetUp host) (interface : String) (trust : Trust) (pfc : Pfc) :
      SetUp (host.putQos interface trust pfc)
  | failOperation {host : MemoryHost} (h : SetUp host) (operation : HostOperation) :
      SetUp (host.failOperation operation)
  | failParameter {host : MemoryHost} (h : SetUp host) (name : String) :
      SetUp (host.failParameter name)
  | setResetDelay {host : MemoryHost} (h : SetUp host) (delay : Duration) :
      SetUp (host.setResetDelay delay)
  | clearCalls {host : MemoryHost} (h : SetUp host) : SetUp host.clearCalls

/-- Every device of the host has nested parameters. -/
def Nested (host : MemoryHost) : Prop := ∀ pci nv, host.nv.get? pci = some nv → nv.Nested

/-- The parameters of a device; one that was not set up has none. -/
def parameters (host : MemoryHost) (pci : String) : NvMemory := (host.nv.get? pci).getD {}

theorem parameters_of_get? {pci : String} {nv : NvMemory} (found : host.nv.get? pci = some nv) :
    host.parameters pci = nv := by
  rw [parameters, found, Option.getD_some]

theorem parameters_updateNv (target pci : String) (change : NvMemory → NvMemory) :
    (host.updateNv target change).parameters pci =
      if target = pci then change (host.parameters pci) else host.parameters pci := by
  have stored : (host.updateNv target change).nv.get? pci =
    (host.nv.insert target (change (host.parameters target))).get? pci := rfl
  rw [parameters, stored, Dict.get?_insert]
  split
  · next same => rw [same, Option.getD_some]
  · rfl

theorem nested_iff : host.Nested ↔ ∀ pci, (host.parameters pci).Nested := by
  constructor
  · intro h pci
    cases found : host.nv.get? pci with
    | none =>
        rw [parameters, found]
        exact NvMemory.nested_empty
    | some nv => exact parameters_of_get? found ▸ h pci nv found
  · intro h pci nv found
    exact parameters_of_get? found ▸ h pci

end MemoryHost

/-! ## Operations -/

/-- A setup operation. -/
inductive Arrangement where
  | addFunction (function : PciFunction)
  | addCard (function : PciFunction) (label : CardLabel) (firmware : FirmwareLabel)
  | markVirtual (pci : String)
  | setInterfaces (pci interface rdma : String)
  | setLinkSpeed (pci : String) (speed : UInt32)
  | addParameter (pci name default current next : String)
  | addAdvanced (pci name default current next : String)
  | addDefault (pci name default : String)
  | removeCurrentNv (pci name : String)
  | putReadRequest (pci : String) (size : UInt32)
  | putQos (interface : String) (trust : Trust) (pfc : Pfc)
  | failOperation (operation : HostOperation)
  | failParameter (name : String)
  | setResetDelay (delay : Duration)
  | clearCalls

namespace Arrangement

variable {host : MemoryHost} {nv : NvMemory}

def apply : Arrangement → MemoryHost → MemoryHost
  | .addFunction function, host => host.addFunction function
  | .addCard function label firmware, host => host.addCard function label firmware
  | .markVirtual pci, host => host.markVirtual pci
  | .setInterfaces pci interface rdma, host => host.setInterfaces pci interface rdma
  | .setLinkSpeed pci speed, host => host.setLinkSpeed pci speed
  | .addParameter pci name default current next, host =>
    host.updateNv pci (·.addParameter name default current next)
  | .addAdvanced pci name default current next, host =>
    host.updateNv pci (·.addAdvanced name default current next)
  | .addDefault pci name default, host => host.updateNv pci (·.addDefault name default)
  | .removeCurrentNv pci name, host => host.removeCurrentNv pci name
  | .putReadRequest pci size, host => host.putReadRequest pci size
  | .putQos interface trust pfc, host => host.putQos interface trust pfc
  | .failOperation operation, host => host.failOperation operation
  | .failParameter name, host => host.failParameter name
  | .setResetDelay delay, host => host.setResetDelay delay
  | .clearCalls, host => host.clearCalls

/-- The device whose parameters an operation changes. -/
def target? : Arrangement → Option String
  | .addParameter pci .. | .addAdvanced pci .. | .addDefault pci .. | .removeCurrentNv pci _ =>
    some pci
  | _ => none

/-- What an operation makes of them. -/
def change : Arrangement → NvMemory → NvMemory
  | .addParameter _ name default current next, nv => nv.addParameter name default current next
  | .addAdvanced _ name default current next, nv => nv.addAdvanced name default current next
  | .addDefault _ name default, nv => nv.addDefault name default
  | .removeCurrentNv _ name, nv => nv.removeCurrent name
  | _, nv => nv

theorem parameters_apply (arrangement : Arrangement) (host : MemoryHost) (pci : String) :
    (arrangement.apply host).parameters pci =
      if arrangement.target? = some pci then arrangement.change (host.parameters pci)
      else host.parameters pci := by
  cases arrangement with
  | addParameter | addAdvanced | addDefault =>
      simp only [target?, Option.some.injEq]
      exact MemoryHost.parameters_updateNv _ _ _
  | removeCurrentNv target name =>
      simp only [target?, Option.some.injEq]
      rw [apply, MemoryHost.removeCurrentNv]
      split
      · exact MemoryHost.parameters_updateNv _ _ _
      · next unknown =>
          -- Without parameters there is none that could be removed.
          have none : host.parameters target = {} := by
            rw [MemoryHost.parameters, Option.not_isSome_iff_eq_none.1 unknown, Option.getD_none]
          split
          · next same =>
              rw [← same, none]
              rfl
          · rfl
  | _ => rfl

theorem nested_change (arrangement : Arrangement) (h : nv.Nested) :
    (arrangement.change nv).Nested := by
  cases arrangement with
  | addParameter pci name default current next => exact h.addParameter name default current next
  | addAdvanced pci name default current next => exact h.addAdvanced name default current next
  | addDefault pci name default => exact h.addDefault name default
  | removeCurrentNv pci name => exact h.removeCurrent name
  | _ => exact h

theorem nested_apply (arrangement : Arrangement) (h : host.Nested) :
    (arrangement.apply host).Nested := by
  rw [MemoryHost.nested_iff] at h ⊢
  intro pci
  rw [parameters_apply]
  split
  · exact arrangement.nested_change (h pci)
  · exact h pci

end Arrangement

namespace MemoryHost

variable {host : MemoryHost}

theorem SetUp.nested (h : host.SetUp) : host.Nested := by
  induction h with
  | new => exact fun _ _ no => nomatch no
  | addFunction _ function ih => exact (Arrangement.addFunction function).nested_apply ih
  | addCard _ function label firmware ih =>
      exact (Arrangement.addCard function label firmware).nested_apply ih
  | markVirtual _ pci ih => exact (Arrangement.markVirtual pci).nested_apply ih
  | setInterfaces _ pci interface rdma ih =>
      exact (Arrangement.setInterfaces pci interface rdma).nested_apply ih
  | setLinkSpeed _ pci speed ih => exact (Arrangement.setLinkSpeed pci speed).nested_apply ih
  | addParameter _ pci name default current next ih =>
      exact (Arrangement.addParameter pci name default current next).nested_apply ih
  | addAdvanced _ pci name default current next ih =>
      exact (Arrangement.addAdvanced pci name default current next).nested_apply ih
  | addDefault _ pci name default ih =>
      exact (Arrangement.addDefault pci name default).nested_apply ih
  | removeCurrentNv _ pci name ih => exact (Arrangement.removeCurrentNv pci name).nested_apply ih
  | putReadRequest _ pci size ih => exact (Arrangement.putReadRequest pci size).nested_apply ih
  | putQos _ interface trust pfc ih =>
      exact (Arrangement.putQos interface trust pfc).nested_apply ih
  | failOperation _ operation ih => exact (Arrangement.failOperation operation).nested_apply ih
  | failParameter _ name ih => exact (Arrangement.failParameter name).nested_apply ih
  | setResetDelay _ delay ih => exact (Arrangement.setResetDelay delay).nested_apply ih
  | clearCalls _ ih => exact Arrangement.clearCalls.nested_apply ih

end MemoryHost

end NicKeeper
