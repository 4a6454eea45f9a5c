/-!
# Quality of service of an interface

An interface sorts its traffic into eight priorities, by one of two marks that it trusts, and may
pause each priority on its own: priority flow control, or PFC.
-/

namespace NicKeeper

/-- The mark of a packet that its priority is taken from. -/
inductive Trust where
  | pcp
  | dscp
  deriving DecidableEq, Repr

def priorityCount : Nat := 8

/-- Which priorities are paused, from priority 0 on. -/
structure Pfc where
  flags : List Bool
  length_flags : flags.length = priorityCount
  deriving DecidableEq, Repr

namespace Pfc

def off : Pfc := ⟨List.replicate priorityCount false, List.length_replicate⟩

instance : Inhabited Pfc := ⟨off⟩

/-- Flow control on the given priorities; numbers that are no priority have no effect. -/
def withEnabled (priorities : List Nat) : Pfc :=
  ⟨(List.range priorityCount).map fun priority => priorities.contains priority, by simp⟩

/-- Whether flow control is on for a priority. It is not for a number that is none. -/
def isEnabled (pfc : Pfc) (priority : Nat) : Bool := pfc.flags.getD priority false

end Pfc

end NicKeeper
