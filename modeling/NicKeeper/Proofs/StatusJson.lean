import NicKeeper.Daemon.StatusPatch
import NicKeeper.Json.MergePatch

/-!
# A status as the fields of an object

A status is read from the fields of an object one by one, and a patch changes fields one by one. So
what a patch does to a status is told by the names in it. A status falls into two halves that share
no name, the identity and the outcome of the last pass; each half is read from the fields of its own
names (`Status.ofJson?_obj`) and does not change when others do (`identity?_congr`,
`outcome?_congr`).

The patches of the daemon are flat: no field of theirs holds an object, so a field is replaced or
removed and never merged any further (`Json.lookup_mergeFields`).
-/

namespace NicKeeper

namespace Json

/-! ## Flat patches -/

/-- Every name stands once, and none of the fields is an object. -/
def Flat (changes : List (String × Json)) : Prop :=
  (changes.map Prod.fst).Nodup ∧ ∀ change ∈ changes, ∀ fields, change.2 ≠ .obj fields

theorem merge_flat {change : Json} (h : ∀ fields, change ≠ .obj fields) (target : Json) :
    merge target change = change := by
  cases change with
  | obj fields => exact absurd rfl (h fields)
  | null => rfl
  | bool value => rfl
  | int value => rfl
  | fraction mantissa places => rfl
  | str value => rfl
  | arr items => rfl

theorem lookup_eq_none {name : String} {fields : List (String × Json)}
    (h : name ∉ fields.map Prod.fst) : lookup name fields = none := by
  induction fields with
  | nil => rfl
  | cons field rest ih =>
      rw [List.map_cons, List.mem_cons, not_or] at h
      rw [lookup, if_neg (Ne.symm h.1), ih h.2]

/-- What a field holds that a change sets. -/
def put : Json → Option Json
  | .null => none
  | change => some change

theorem lookup_mergeField {name other : String} {change : Json}
    (h : ∀ fields, change ≠ .obj fields) (fields : List (String × Json)) :
    lookup other (mergeField fields (name, change)) =
      if name = other then change.put else lookup other fields := by
  by_cases none : change = .null
  · subst none
    rw [mergeField, lookup_eraseField]
    rfl
  · rw [mergeField, merge_flat h, lookup_setField]
    · cases change with
      | null => exact absurd rfl none
      | _ => rfl
    · exact none

theorem lookup_mergeFields {changes : List (String × Json)} (flat : Flat changes)
    (fields : List (String × Json)) (name : String) :
    lookup name (mergeFields fields changes) =
      match lookup name changes with
      | some change => change.put
      | none => lookup name fields := by
  obtain ⟨distinct, flat⟩ := flat
  induction changes generalizing fields with
  | nil => rw [mergeFields, lookup]
  | cons change rest ih =>
      rw [List.map_cons, List.nodup_cons] at distinct
      rw [mergeFields, ih _ distinct.2 fun _ mem => flat _ (List.mem_cons_of_mem _ mem),
        lookup_mergeField (flat change List.mem_cons_self), lookup]
      by_cases own : change.1 = name
      · have gone : lookup name rest = none := lookup_eq_none (own ▸ distinct.1)
        rw [gone, if_pos own, if_pos own]
      · rw [if_neg own, if_neg own]

theorem exists_lookup {name : String} {fields : List (String × Json)}
    (h : name ∈ fields.map Prod.fst) : ∃ value, lookup name fields = some value := by
  induction fields with
  | nil => cases h
  | cons field rest ih =>
      rw [lookup]
      split
      · exact ⟨_, rfl⟩
      · next other =>
          rcases List.mem_cons.1 h with own | mem
          · exact absurd own.symm other
          · exact ih mem

/-- A field that a flat patch names is what the patch says. -/
theorem lookup_patched {changes : List (String × Json)} (flat : Flat changes) {name : String}
    (h : name ∈ changes.map Prod.fst) (fields : List (String × Json)) :
    lookup name (mergeFields fields changes) = (lookup name changes).bind put := by
  obtain ⟨change, found⟩ := exists_lookup h
  rw [lookup_mergeFields flat, found]
  rfl

/-- A field that a flat patch does not name is left alone. -/
theorem lookup_unpatched {changes : List (String × Json)} (flat : Flat changes) {name : String}
    (h : name ∉ changes.map Prod.fst) (fields : List (String × Json)) :
    lookup name (mergeFields fields changes) = lookup name fields := by
  rw [lookup_mergeFields flat, lookup_eq_none h]

theorem list?_map {α : Type} {read? : Json → Option α} {write : α → Json}
    (inverse : ∀ item, read? (write item) = some item) (items : List α) :
    list? read? (.arr (items.map write)) = some items := by
  show (items.map write).mapM read? = some items
  induction items with
  | nil => rfl
  | cons item rest ih =>
      rw [List.map_cons, List.mapM_cons, inverse, ih]
      rfl

end Json

open Json (required defaulted optional? bool? str? list?)

/-! ## The identity in a status -/

/-- The names of the fields that say what a card is. -/
def Identity.names : List String :=
  ["node", "type", "serialNumber", "partNumber", "psid", "firmwareVersion", "ports"]

def Identity.read? (r : Json.Record) : Option Identity := do
  return {
    node := ← defaulted r "node" str? ""
    deviceType := ← defaulted r "type" str? ""
    serialNumber := ← defaulted r "serialNumber" str? ""
    partNumber := ← defaulted r "partNumber" str? ""
    psid := ← defaulted r "psid" str? ""
    firmwareVersion := ← defaulted r "firmwareVersion" str? ""
    ports := ← defaulted r "ports" (list? Port.ofJson?) [] }

theorem Identity.read?_congr {r s : Json.Record} (h : ∀ name ∈ names, r name = s name) :
    read? r = read? s := by
  simp only [names, List.forall_mem_cons] at h
  simp only [read?, defaulted, h]

theorem Port.ofJson?_toJson (port : Port) : ofJson? port.toJson = some port := by
  rfl

theorem Identity.read?_jsonFields (identity : Identity) :
    read? (fun name => (Json.lookup name identity.jsonFields).bind Json.put) = some identity := by
  simp [read?, jsonFields, defaulted, Json.lookup, Json.put, str?,
    Json.list?_map Port.ofJson?_toJson]

theorem Identity.flat_jsonFields (identity : Identity) : Json.Flat identity.jsonFields := by
  constructor
  · show names.Nodup
    decide
  · simp [jsonFields]

/-! ## The outcome in a status -/

/-- The names of the fields that say what the last pass came to, and when. -/
def Report.names : List String := ["state", "rebootRequired", "error", "lastReconciled"]

theorem Report.not_mem_names : ∀ name ∈ names, name ∉ Identity.names := by
  decide

theorem State.ofJson?_toJson (state : State) : ofJson? state.toJson = some state := by
  cases state <;> decide

variable [TimeFormat]

/-- A report and the time it was written at. -/
def Report.read? (r : Json.Record) : Option (Report × Option Timestamp) := do
  let report : Report := {
    state := ← defaulted r "state" State.ofJson? .pending
    rebootRequired := ← defaulted r "rebootRequired" bool? false
    error := ← optional? r "error" str? }
  return (report, ← optional? r "lastReconciled" Timestamp.ofJson?)

theorem Report.read?_congr {r s : Json.Record} (h : ∀ name ∈ names, r name = s name) :
    read? r = read? s := by
  simp only [names, List.forall_mem_cons] at h
  simp only [read?, defaulted, optional?, h]

/-- The fields of the patch that writes a report. -/
def Report.jsonFields (report : Report) (now : Timestamp) : List (String × Json) :=
  [("state", report.state.toJson), ("rebootRequired", .bool report.rebootRequired),
    ("error", match report.error with
      | some error => .str error
      | none => .null),
    ("lastReconciled", now.toJson)]

theorem Report.flat_jsonFields (report : Report) (now : Timestamp) :
    Json.Flat (report.jsonFields now) := by
  constructor
  · show names.Nodup
    decide
  · cases h : report.error with
    | none => simp [jsonFields, State.toJson, Timestamp.toJson, h]
    | some error => simp [jsonFields, State.toJson, Timestamp.toJson, h]

theorem Report.read?_jsonFields (report : Report) {now read : Timestamp}
    (legible : TimeFormat.read? (TimeFormat.text now) = some read) :
    read? (fun name => (Json.lookup name (report.jsonFields now)).bind Json.put) =
      some (report, some read) := by
  have state : State.ofJson? (.str report.state.text) = some report.state :=
    report.state.ofJson?_toJson
  have time : Timestamp.ofJson? (.str (TimeFormat.text now)) = some read := legible
  obtain ⟨_, _, error⟩ := report
  cases error with
  | none =>
      simp [read?, jsonFields, defaulted, optional?, Json.lookup, Json.put, bool?, State.toJson,
        Timestamp.toJson, state, time]
  | some error =>
      simp [read?, jsonFields, defaulted, optional?, Json.lookup, Json.put, bool?, str?,
        State.toJson, Timestamp.toJson, state, time]

/-! ## What a patch makes of a status -/

theorem Status.ofJson?_obj (fields : List (String × Json)) :
    Status.ofJson? (.obj fields) = (do
      let identity ← Identity.read? fun name => Json.lookup name fields
      let (report, time) ← Report.read? fun name => Json.lookup name fields
      return { toIdentity := identity, toReport := report, lastReconciled := time }) := by
  simp [Status.ofJson?, Json.record?, Identity.read?, Report.read?, Option.bind_assoc]

theorem Status.ofJson?_eq_some_iff {fields : List (String × Json)} {status : Status} :
    Status.ofJson? (.obj fields) = some status ↔
      Identity.read? (fun name => Json.lookup name fields) = some status.toIdentity ∧
        Report.read? (fun name => Json.lookup name fields) =
          some (status.toReport, status.lastReconciled) := by
  rw [Status.ofJson?_obj]
  cases Identity.read? fun name => Json.lookup name fields with
  | none => simp
  | some identity =>
      cases Report.read? fun name => Json.lookup name fields with
      | none => simp
      | some found =>
          obtain ⟨report, time⟩ := found
          constructor
          · intro h
            cases h
            exact ⟨rfl, rfl⟩
          · rintro ⟨h, g⟩
            cases h
            cases g
            rfl

/-- An identity takes the place of the one that a status had, and leaves the rest of it. -/
theorem Status.ofJson?_identified {fields : List (String × Json)} {status : Status}
    (h : Status.ofJson? (.obj fields) = some status) (identity : Identity) :
    Status.ofJson? (.obj (Json.mergeFields fields identity.jsonFields)) =
      some { status with toIdentity := identity } := by
  have flat := identity.flat_jsonFields
  rw [ofJson?_eq_some_iff] at h ⊢
  rw [Identity.read?_congr fun name mem => Json.lookup_patched flat mem fields,
    Report.read?_congr fun name mem =>
      Json.lookup_unpatched flat (Report.not_mem_names name mem) fields]
  exact ⟨identity.read?_jsonFields, h.2⟩

/-- A report takes the place of the one that a status had, with what can be read of its time, and
leaves the rest. -/
theorem Status.ofJson?_reported {fields : List (String × Json)} {status : Status}
    (h : Status.ofJson? (.obj fields) = some status) (report : Report) {now read : Timestamp}
    (legible : TimeFormat.read? (TimeFormat.text now) = some read) :
    Status.ofJson? (.obj (Json.mergeFields fields (report.jsonFields now))) =
      some { status with toReport := report, lastReconciled := some read } := by
  have flat := report.flat_jsonFields now
  rw [ofJson?_eq_some_iff] at h ⊢
  rw [Report.read?_congr fun name mem => Json.lookup_patched flat mem fields,
    Identity.read?_congr fun name mem =>
      Json.lookup_unpatched flat (fun own => Report.not_mem_names name own mem) fields]
  exact ⟨h.1, report.read?_jsonFields legible⟩

end NicKeeper
