import NicKeeper.Host.Error
import NicKeeper.Text.Lines
import NicKeeper.Text.Lowercase

/-!
# Quality of service as text

How trust modes and flow control flags are written and read, and how both are found in what the
`mlnx_qos` tool prints about an interface: the trust mode on a line of its own, the flags in the
first row marked `enabled` below a heading. Other lines may stand anywhere, and where a setting is
printed twice the last one counts.
-/

namespace NicKeeper

open Text (trim asciiLower splitWhere lines words join after? startsWith)

namespace Trust

def text : Trust → String
  | .pcp => "pcp"
  | .dscp => "dscp"

/-- Reads a trust mode in any letter case, with blanks around it. -/
def ofText? (text : List Char) : Except HostError Trust :=
  match String.ofList (asciiLower (trim text)) with
  | "pcp" => .ok .pcp
  | "dscp" => .ok .dscp
  | other => .error (.parse (.trust other))

end Trust

namespace Pfc

def flagChar (flag : Bool) : Char := if flag then '1' else '0'

def chars (pfc : Pfc) : List Char := join ',' (pfc.flags.map fun flag => [flagChar flag])

def text (pfc : Pfc) : String := String.ofList pfc.chars

def flag? (part : List Char) : Except HostError Bool :=
  match part with
  | ['0'] => .ok false
  | ['1'] => .ok true
  | other => .error (.parse (.pfcFlag (String.ofList other)))

def flags? : List (List Char) → Except HostError (List Bool)
  | [] => .ok []
  | part :: parts => do
    let flag ← flag? part
    return flag :: (← flags? parts)

theorem length_of_flags? {parts : List (List Char)} {flags : List Bool}
    (h : flags? parts = .ok flags) : flags.length = parts.length := by
  induction parts generalizing flags with
  | nil => cases h; rfl
  | cons part parts ih =>
    rw [flags?] at h
    cases hp : flag? part with
    | error e => rw [hp] at h; simp [bind, Except.bind] at h
    | ok flag =>
      cases hr : flags? parts with
      | error e => rw [hp, hr] at h; simp [bind, Except.bind] at h
      | ok rest =>
        rw [hp, hr] at h
        simp only [bind, Except.bind, pure, Except.pure, Except.ok.injEq] at h
        subst h
        simp [ih hr]

/-- Reads eight flags with commas between them and blanks around each. -/
def ofText? (text : List Char) : Except HostError Pfc :=
  let parts := (splitWhere (· == ',') text).map trim
  if count : parts.length = priorityCount then
    match read : flags? parts with
    | .ok flags => .ok ⟨flags, (length_of_flags? read).trans count⟩
    | .error e => .error e
  else .error (.parse (.pfcCount parts.length (String.ofList text)))

end Pfc

namespace Qos

/-- What has been read of an interface's settings so far. -/
structure Reading where
  trust : Option Trust := none
  pfc : Option Pfc := none
  /-- Whether the row of flags is still to come. -/
  inPfc : Bool := false

namespace Reading

/-- Reads a row of flags: eight words. -/
def pfcRow (row values : List Char) : Except HostError Pfc :=
  let flags := words values
  if flags.length = priorityCount then Pfc.ofText? (join ',' flags)
  else .error (.parse (.pfcRow (String.ofList row)))

def line (r : Reading) (line : List Char) : Except HostError Reading :=
  let row := trim line
  match after? "Priority trust state:".toList row with
  | some value => do return { r with trust := some (← Trust.ofText? value) }
  | none =>
    if startsWith "PFC configuration:" row then .ok { r with inPfc := true }
    else if r.inPfc then
      match after? "enabled".toList row with
      | some values => do return { r with pfc := some (← pfcRow row values), inPfc := false }
      | none => .ok r
    else .ok r

end Reading

/-- Reads trust mode and flow control flags from what `mlnx_qos` prints. -/
def ofReport? (report : List Char) : Except HostError (Trust × Pfc) := do
  let reading ← (lines report).foldlM Reading.line {}
  match reading.trust, reading.pfc with
  | some trust, some pfc => return (trust, pfc)
  | _, _ => .error (.parse .qosIncomplete)

end Qos

end NicKeeper
