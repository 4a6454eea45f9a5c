import NicKeeper.Json.Printer
import NicKeeper.Resource.Definition

/-!
# The command

Prints the definition of the resource, ready to be applied to a cluster.
-/

def main : IO Unit :=
  IO.println NicKeeper.NicDevice.definition.render
