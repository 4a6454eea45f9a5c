import NicKeeper.Dict
import NicKeeper.Host.Error
import NicKeeper.Nv.Value
import NicKeeper.Text.Lines

/-!
# What a device's firmware is configured to

A snapshot holds three values of each firmware parameter: the factory default, the one in effect,
and the one that the next boot puts into effect. It is read from the table that the firmware tool
prints, with one row for each parameter.
-/

namespace NicKeeper

structure NvSnapshot where
  /-- Factory defaults. Their names are the parameters that the device has. -/
  default : Dict String := {}
  current : Dict String := {}
  nextBoot : Dict String := {}
  deriving DecidableEq, Inhabited

namespace NvSnapshot

open Text (trim trimStart words lines startsWith)

def enter (snapshot : NvSnapshot) (name default current next : List Char) : NvSnapshot :=
  let insert (d : Dict String) (value : List Char) :=
    d.insert (String.ofList name) (String.ofList (Nv.normalize value))
  { default := insert snapshot.default default
    current := insert snapshot.current current
    nextBoot := insert snapshot.nextBoot next }

/-- Reads a row of the table: a name and three values, with stars in front where they differ. Any
other number of words is not a row. -/
def row (snapshot : NvSnapshot) (line : List Char) : NvSnapshot :=
  match words (trimStart (line.dropWhile (· == '*'))) with
  | [name, default, current, next] => snapshot.enter name default current next
  | _ => snapshot

/-- Reads a line; what is read is `none` as long as no heading was seen. -/
def line (reading : Option NvSnapshot) (line : List Char) : Option NvSnapshot :=
  let trimmed := trim line
  if startsWith "Configurations:" trimmed then some (reading.getD {})
  else
    reading.map fun snapshot =>
      if trimmed.isEmpty || startsWith "The '*'" trimmed then snapshot else snapshot.row trimmed

def ofTable? (text : List Char) : Except HostError NvSnapshot :=
  match (lines text).foldl line none with
  | some snapshot => .ok snapshot
  | none => .error (.parse .noConfigurationTable)

end NvSnapshot

end NicKeeper
