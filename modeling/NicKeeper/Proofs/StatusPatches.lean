import NicKeeper.Proofs.StatusJson
import NicKeeper.Proofs.TimestampText

/-!
# Patches that keep out of each other's way

Two loops write to the status of one resource without knowing of each other: a pass writes what it
came to, and a sweep over the cards writes what a card is. Each sends a merge patch, and the server
applies the patches in the order in which they arrive.

`StatusPatch.apply` is what one patch makes of a status, and `ofJson?_merge` says that it makes just
that of the status in a stored object, whatever else is in the object. So a run of patches is a fold
over statuses, and each half of the result is what the last patch of its kind left there.

A status may also be stored as a list of its values, in their order. A merge patch cannot change a
list, it puts an object in the place of it, so what the list said is lost with the first patch.
`StatusPatch.base` is the status that a patch builds upon.

The time of an outcome is written by a format that is taken as given. That the result can be read at
all rests on what is written of a time being legible (`StatusPatch.IsLegible`).
-/

namespace NicKeeper

open Json (required optional?)

/-- A patch to a status: what a pass came to and when, or what a card is. -/
inductive StatusPatch where
  | outcome (report : Report) (now : Timestamp)
  | identity (identity : Identity)

theorem Json.merge_status (object : Json) (changes : List (String × Json)) :
    object.merge (.obj [("status", .obj changes)]) =
      .obj (setField "status"
        (.obj (mergeFields ((object.field? "status").getD .null).fields changes))
        object.fields) := by
  rfl

namespace StatusPatch

/-- The status that a patch to a stored object builds upon. -/
def base (object : Json) (device : NicDevice) : Status :=
  match object.field? "status" with
  | some (.arr _) => {}
  | _ => device.status.getD {}

theorem base_eq (object : Json) (device : NicDevice)
    (h : ∀ items, object.field? "status" ≠ some (.arr items)) :
    base object device = device.status.getD {} := by
  rw [base]
  split
  · next items stored => exact absurd stored (h items)
  · rfl

end StatusPatch

section Format

variable [TimeFormat]

namespace StatusPatch

def json : StatusPatch → Json
  | .outcome report now => report.patch now
  | .identity found => found.patch

def changes : StatusPatch → List (String × Json)
  | .outcome report now => report.jsonFields now
  | .identity found => found.jsonFields

theorem json_eq (patch : StatusPatch) : patch.json = .obj [("status", .obj patch.changes)] := by
  cases patch with
  | outcome report now => rfl
  | identity found => rfl

/-- The time of the patch, if it has one, can be read. -/
def IsLegible : StatusPatch → Prop
  | .outcome _ now => ∃ read, TimeFormat.read? (TimeFormat.text now) = some read
  | .identity _ => True

/-- What a patch makes of a status. -/
def apply (status : Status) : StatusPatch → Status
  | .outcome report now =>
    { status with
      toReport := report
      lastReconciled := TimeFormat.read? (TimeFormat.text now) }
  | .identity found => { status with toIdentity := found }

theorem ofJson?_mergeFields {fields : List (String × Json)} {status : Status}
    (h : Status.ofJson? (.obj fields) = some status) {patch : StatusPatch}
    (legible : patch.IsLegible) :
    Status.ofJson? (.obj (Json.mergeFields fields patch.changes)) = some (apply status patch) := by
  cases patch with
  | outcome report now =>
      obtain ⟨read, legible⟩ := legible
      rw [apply, legible]
      exact Status.ofJson?_reported h report legible
  | identity found => exact Status.ofJson?_identified h found

end StatusPatch

theorem NicDevice.ofJson?_eq_some_iff {object : Json} {device : NicDevice} :
    ofJson? object = some device ↔
      (∃ fields, object = .obj fields) ∧
        required object.field? "metadata" Metadata.ofJson? = some device.metadata ∧
        required object.field? "spec" Spec.ofJson? = some device.spec ∧
        optional? object.field? "status" Status.ofJson? = some device.status := by
  cases object with
  | obj fields =>
      simp only [ofJson?, Option.bind_eq_bind, Option.pure_def, Option.bind_eq_some_iff,
        Option.some.injEq]
      constructor
      · rintro ⟨metadata, hm, spec, hs, status, ht, rfl⟩
        exact ⟨⟨fields, rfl⟩, hm, hs, ht⟩
      · rintro ⟨-, hm, hs, ht⟩
        exact ⟨_, hm, _, hs, _, ht, rfl⟩
  | _ => simp [ofJson?]

namespace StatusPatch

/-- The status of a stored object, as the fields that a patch is merged into. -/
theorem ofJson?_base {object : Json} {device : NicDevice}
    (h : NicDevice.ofJson? object = some device) :
    Status.ofJson? (.obj ((object.field? "status").getD .null).fields) =
      some (base object device) := by
  obtain ⟨-, -, -, status⟩ := NicDevice.ofJson?_eq_some_iff.1 h
  have blank : Status.ofJson? (.obj []) = some {} := rfl
  rw [base]
  rw [optional?] at status
  cases stored : object.field? "status" with
  | none =>
      rw [stored] at status
      rw [← Option.some.inj status]
      exact blank
  | some value =>
      rw [stored] at status
      cases value with
      | null =>
          rw [← Option.some.inj status]
          exact blank
      | arr items => exact blank
      | obj fields =>
          obtain ⟨found, read, same⟩ := Option.map_eq_some_iff.1 status
          rw [← same]
          exact read
      | _ => cases status

variable {object : Json} {device : NicDevice}

/-- A patch is merged into the status of an object, and into nothing else. -/
theorem field?_merge (patch : StatusPatch) (name : String) :
    (object.merge patch.json).field? name =
      if "status" = name then
        some (.obj (Json.mergeFields ((object.field? "status").getD .null).fields patch.changes))
      else object.field? name := by
  rw [json_eq, Json.merge_status, Json.field?, Json.fields, Json.lookup_setField]
  rfl

theorem ofJson?_merge (h : NicDevice.ofJson? object = some device) {patch : StatusPatch}
    (legible : patch.IsLegible) :
    NicDevice.ofJson? (object.merge patch.json) =
      some { device with status := some (apply (base object device) patch) } := by
  obtain ⟨-, metadata, spec, -⟩ := NicDevice.ofJson?_eq_some_iff.1 h
  have other (name : String) (h : "status" ≠ name) :
      (object.merge patch.json).field? name = object.field? name := by
    rw [field?_merge, if_neg h]
  refine NicDevice.ofJson?_eq_some_iff.2 ⟨?_, ?_, ?_, ?_⟩
  · rw [json_eq, Json.merge_status]
    exact ⟨_, rfl⟩
  · rw [required, other "metadata" (by decide)]
    exact metadata
  · rw [required, other "spec" (by decide)]
    exact spec
  · rw [optional?, field?_merge, if_pos rfl]
    show (Status.ofJson? _).map some = _
    rw [ofJson?_mergeFields (ofJson?_base h) legible]
    rfl

/-- After a patch a status is stored as an object, which the next patch builds upon. -/
theorem base_merge (patch : StatusPatch) (status : Status) :
    base (object.merge patch.json) { device with status := some status } = status := by
  rw [base, field?_merge, if_pos rfl]
  rfl

/-! ## Runs of patches -/

/-- An object after patches, in their order. -/
def patched (object : Json) (patches : List StatusPatch) : Json :=
  patches.foldl (fun object patch => object.merge patch.json) object

theorem field?_patched (patches : List StatusPatch) {name : String} (h : "status" ≠ name) :
    (patched object patches).field? name = object.field? name := by
  induction patches generalizing object with
  | nil => rfl
  | cons patch rest ih =>
      refine (@ih (object.merge patch.json)).trans ?_
      rw [field?_merge, if_neg h]

/-- Patches make of a stored status what they make, one after the other, of the status that the
first of them builds upon. -/
theorem ofJson?_patched (h : NicDevice.ofJson? object = some device) (first : StatusPatch)
    (rest : List StatusPatch) (legible : ∀ patch ∈ first :: rest, patch.IsLegible) :
    NicDevice.ofJson? (patched object (first :: rest)) =
      some { device with status := some ((first :: rest).foldl apply (base object device)) } := by
  induction rest generalizing object device first with
  | nil => exact ofJson?_merge h (legible first List.mem_cons_self)
  | cons next rest ih =>
      obtain ⟨own, legible⟩ := List.forall_mem_cons.1 legible
      have step := ih (ofJson?_merge h own) next legible
      rw [base_merge] at step
      exact step

/-! ## The halves of a status -/

def identity? : StatusPatch → Option Identity
  | .identity found => some found
  | .outcome _ _ => none

def report? : StatusPatch → Option Report
  | .outcome report _ => some report
  | .identity _ => none

/-- What the last patch of an identity says. -/
def lastIdentity? (patches : List StatusPatch) : Option Identity :=
  (patches.filterMap identity?).getLast?

/-- What the last patch of an outcome says. -/
def lastReport? (patches : List StatusPatch) : Option Report :=
  (patches.filterMap report?).getLast?

/-- A part of a status that some patches set and the others leave is what the last of those set. -/
theorem foldl_apply {α : Type} {part : Status → α} {set? : StatusPatch → Option α}
    (step : ∀ status patch, part (apply status patch) = (set? patch).getD (part status))
    (patches : List StatusPatch) (status : Status) :
    part (patches.foldl apply status) =
      ((patches.filterMap set?).getLast?).getD (part status) := by
  induction patches generalizing status with
  | nil => rfl
  | cons patch rest ih =>
      rw [List.foldl_cons, ih, step, List.filterMap_cons]
      cases set? patch with
      | none => rfl
      | some value =>
          rw [List.getLast?_cons]
          rfl

theorem toIdentity_foldl (patches : List StatusPatch) (status : Status) :
    (patches.foldl apply status).toIdentity = (lastIdentity? patches).getD status.toIdentity :=
  foldl_apply (fun _ patch => by cases patch <;> rfl) patches status

theorem toReport_foldl (patches : List StatusPatch) (status : Status) :
    (patches.foldl apply status).toReport = (lastReport? patches).getD status.toReport :=
  foldl_apply (fun _ patch => by cases patch <;> rfl) patches status

/-- After any run of patches to a stored object it still decodes, with the metadata and the spec
that it had. Its identity is that of the last patch of an identity, and its report that of the last
patch of an outcome, so neither is written again. Where there was no patch of a kind, that half of
the status is the one that was stored, unless the status was stored as a list. -/
theorem patched_halves (faithful : TimeFormat.Faithful) (object : Json) (device : NicDevice)
    (patches : List StatusPatch) (h : NicDevice.ofJson? object = some device) :
    ∃ after, NicDevice.ofJson? (patched object patches) = some after ∧
      after.metadata = device.metadata ∧ after.spec = device.spec ∧
      (∀ name, "status" ≠ name →
        (patched object patches).field? name = object.field? name) ∧
      (∀ found, lastIdentity? patches = some found →
        (after.status.getD {}).toIdentity = found ∧ found.differsFrom after.status = false) ∧
      (∀ report, lastReport? patches = some report →
        (after.status.getD {}).toReport = report ∧ report.matchesStatus after.status = true) ∧
      ((∀ items, object.field? "status" ≠ some (.arr items)) →
        (lastIdentity? patches = none →
          (after.status.getD {}).toIdentity = (device.status.getD {}).toIdentity) ∧
        (lastReport? patches = none →
          (after.status.getD {}).toReport = (device.status.getD {}).toReport)) := by
  cases patches with
  | nil =>
      exact ⟨device, h, rfl, rfl, fun _ _ => rfl, nofun, nofun,
        fun _ => ⟨fun _ => rfl, fun _ => rfl⟩⟩
  | cons first rest =>
      have legible (patch : StatusPatch) : patch.IsLegible := by
        cases patch with
        | outcome report now => exact faithful.legible now
        | identity found => trivial
      refine ⟨_, ofJson?_patched h first rest fun patch _ => legible patch, rfl, rfl,
        fun _ => field?_patched _, ?_, ?_, ?_⟩
      · intro found last
        have own := toIdentity_foldl (first :: rest) (base object device)
        rw [last] at own
        exact ⟨own, bne_eq_false_iff_eq.2 own⟩
      · intro report last
        have own := toReport_foldl (first :: rest) (base object device)
        rw [last] at own
        exact ⟨own, beq_iff_eq.2 own⟩
      · intro plain
        have identity := toIdentity_foldl (first :: rest) (base object device)
        have report := toReport_foldl (first :: rest) (base object device)
        rw [base_eq object device plain] at identity report ⊢
        constructor
        · intro none
          rw [none] at identity
          exact identity
        · intro none
          rw [none] at report
          exact report

end StatusPatch

end Format

/-! ## Objects that were patched -/

namespace StatusPatch

open scoped Rfc3339

/-- An object whose status says where the card is, and that its last pass failed. -/
def failedObject : Json :=
  .obj [("metadata", .obj []), ("spec", .obj []),
    ("status", .obj [("node", .str "worker-1"), ("state", .str "Failed"), ("error", .str "e")])]

theorem failedObject_mended :
    ∃ after, NicDevice.ofJson? (patched failedObject [.outcome (.ofState .applied) .epoch]) =
        some after ∧
      (after.status.getD {}).node = "worker-1" ∧
      (after.status.getD {}).toReport = { state := .applied } := by
  have stored : NicDevice.ofJson? failedObject =
      some { status := some { node := "worker-1", state := .failed, error := some "e" } } := rfl
  obtain ⟨after, now, -, -, -, -, report, kept⟩ :=
    patched_halves Rfc3339.faithful failedObject _ [.outcome (.ofState .applied) .epoch] stored
  have plain (items : List Json) : failedObject.field? "status" ≠ some (.arr items) := nofun
  exact ⟨after, now, congrArg Identity.node ((kept plain).1 rfl), (report _ rfl).1⟩

/-- An object whose status is written as the list of its values. -/
def listed : Json :=
  .obj [("metadata", .obj []), ("spec", .obj []), ("status", .arr [.str "worker-1"])]

/-- A status that is stored as a list loses its identity to a patch of an outcome. -/
theorem listed_identity_lost :
    NicDevice.ofJson? listed = some { status := some { node := "worker-1" } } ∧
      (NicDevice.ofJson? (patched listed [.outcome (.ofState .applied) .epoch])).map
        (fun after => (after.status.getD {}).node) = some "" ∧
      lastIdentity? [.outcome (.ofState .applied) .epoch] = none := by
  have stored : NicDevice.ofJson? listed = some { status := some { node := "worker-1" } } := rfl
  have legible : (outcome (.ofState .applied) .epoch).IsLegible := Rfc3339.faithful.legible _
  refine ⟨stored, ?_, rfl⟩
  rw [ofJson?_patched stored _ _ (List.forall_mem_singleton.2 legible)]
  rfl

end StatusPatch

end NicKeeper
