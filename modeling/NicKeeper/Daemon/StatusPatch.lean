import NicKeeper.Resource.Codec

/-!
# Patches to a status

The report of a pass and the identity of a card are written by patches of their own that share no
field, so that neither takes anything of the other away.
-/

namespace NicKeeper

namespace Report

def ofState (state : State) : Report := { state }

def rebootIsRequired : Report := { state := .rebootRequired, rebootRequired := true }

def ofError (state : State) (error : String) : Report := { state, error := some error }

/-- Whether a status says the same already. -/
def matchesStatus (report : Report) (status : Option Status) : Bool :=
  status.any fun status => status.toReport == report

/-- The patch that writes a report. The time goes with it, so a report that is not written again
does not change it either. -/
def patch [TimeFormat] (report : Report) (now : Timestamp) : Json :=
  .obj [("status", .obj [
    ("state", report.state.toJson),
    ("rebootRequired", .bool report.rebootRequired),
    ("error", match report.error with
      | some error => .str error
      | none => .null),
    ("lastReconciled", now.toJson)])]

end Report

namespace Identity

def patch (identity : Identity) : Json := .obj [("status", .obj identity.jsonFields)]

def differsFrom (identity : Identity) (status : Option Status) : Bool :=
  status.all fun status => status.toIdentity != identity

end Identity

end NicKeeper
