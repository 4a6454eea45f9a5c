import Mathlib.Data.List.Forall2
import Mathlib.Data.List.Nodup
import NicKeeper.Host.Codec
import NicKeeper.Proofs.StatusJson
import NicKeeper.Proofs.TimestampText

/-!
# Resources and the JSON they are kept as

A resource is kept as JSON by a server that other programs write to as well: older and newer
versions of this one, and users. So it is not enough that what is written reads back
(`Json.RoundTrips`). A field that is not known has to be passed over, and a field that says no more
than its absence may be left out (`Json.Lenient`). Both hold at any depth, of a field of a template
in a configuration in a spec as of a field of the spec.

What a record type accepts is its form: its known fields, each with the value that its absence
stands for, if it may be absent, and with what may differ inside it. Two JSON values are alike in a
form when they hold alike values in each known field, an absent field counted as what it stands for
(`Json.Alike`). Reading looks at nothing else, so like values read alike: one congruence for each
way to read a field, and for each record type the list of its fields.

A status can hold a point in time, which is written as text by a format that is taken as given. It
reads back exactly if this format keeps its time. Usual times are kept, and what has been read is
usual (`TimeFormat.Faithful`).

A choice and flow control are no records. They have no fields, and nothing can be added to them or
left out of them. But a choice is written in two ways, as a string and as an object, and it makes no
difference which one a field holds.
-/

namespace NicKeeper

namespace Json

/-! ## Forms -/

/-- A known field of a record. -/
structure Field where
  name : String
  /-- What an absent field stands for, unless the field has to be there. -/
  spare : Option Json
  /-- When it makes no difference which of two values the field holds. -/
  Same : Json → Json → Prop
  same_refl : ∀ json, Same json json

/-- The known fields of a record, in the order in which an array holds them, and how many of them
an array has to hold. -/
structure Form where
  fields : List Field
  least : Nat := 0
  distinct : (fields.map Field.name).Nodup := by decide +kernel

namespace Form

def names (form : Form) : List String := form.fields.map Field.name

theorem eq_of_name (form : Form) {field other : Field} (mem : field ∈ form.fields)
    (other_mem : other ∈ form.fields) (h : field.name = other.name) : field = other :=
  List.inj_on_of_nodup_map form.distinct mem other_mem h

end Form

/-- What a field holds or, where it is absent, stands for. -/
def Field.value (field : Field) (r : Record) : Option Json := (r field.name).or field.spare

def Field.Agree (field : Field) (r s : Record) : Prop :=
  Option.Rel field.Same (field.value r) (field.value s)

/-- Two values that are one, or two records that agree in every known field. -/
inductive Alike (form : Form) : Json → Json → Prop
  | refl (json : Json) : Alike form json json
  | records {json json' : Json} {r s : Record}
      (left : record? form.names form.least json = some r)
      (right : record? form.names form.least json' = some s)
      (agree : ∀ field ∈ form.fields, field.Agree r s) : Alike form json json'

/-- The name that a choice is written with. -/
def chosen? : Json → Option String
  | .str name => some name
  | .obj [(name, .null)] => some name
  | _ => none

/-- Two values that are one, or two ways to write one choice. -/
inductive SameChoice : Json → Json → Prop
  | refl (json : Json) : SameChoice json json
  | named {json json' : Json} {name : String} (left : json.chosen? = some name)
      (right : json'.chosen? = some name) : SameChoice json json'

/-- Two values that are one, or two lists of the same length whose items correspond. -/
inductive Each (Same : Json → Json → Prop) : Json → Json → Prop
  | refl (json : Json) : Each Same json json
  | items {items items' : List Json} (same : List.Forall₂ Same items items') :
      Each Same (.arr items) (.arr items')

namespace Field

-- These are unfolded when a field of a form is matched with the reading of that field.
abbrev plain (name : String) (spare : Option Json) : Field := ⟨name, spare, Eq, fun _ => rfl⟩

abbrev choice (name : String) (spare : Option Json) : Field := ⟨name, spare, SameChoice, .refl⟩

abbrev record (name : String) (spare : Option Json) (form : Form) : Field :=
  ⟨name, spare, Alike form, .refl⟩

abbrev records (name : String) (spare : Option Json) (form : Form) : Field :=
  ⟨name, spare, Each (Alike form), .refl⟩

theorem rel_refl (field : Field) (value : Option Json) : Option.Rel field.Same value value := by
  cases value with
  | none => exact .none
  | some json => exact .some (field.same_refl json)

end Field

/-! ## What a change leaves alike -/

variable {form : Form} {before after : List (String × Json)}

theorem lookup_append (name : String) (fields rest : List (String × Json)) :
    lookup name (fields ++ rest) = (lookup name fields).or (lookup name rest) := by
  induction fields with
  | nil => rfl
  | cons field fields ih =>
      rw [List.cons_append, lookup, lookup]
      split
      · rfl
      · exact ih

theorem lookup_among (name other : String) (value : Json) :
    lookup other (before ++ (name, value) :: after) =
      (lookup other before).or (if name = other then some value else lookup other after) := by
  rw [lookup_append, lookup]

theorem Alike.of_unknown {name : String} (unknown : name ∉ form.names) (value : Json) :
    Alike form (.obj (before ++ (name, value) :: after)) (.obj (before ++ after)) := by
  refine .records rfl rfl fun field mem => ?_
  have other : name ≠ field.name := fun same => unknown (same ▸ List.mem_map_of_mem mem)
  rw [Field.Agree, Field.value, Field.value, lookup_among, if_neg other, lookup_append]
  exact field.rel_refl _

/-- Two objects that differ in one known field are alike if what they have in its place is. -/
theorem Alike.of_field {field : Field} {fields fields' : List (String × Json)}
    (mem : field ∈ form.fields)
    (own : Option.Rel field.Same (field.value fun name => lookup name fields)
      (field.value fun name => lookup name fields'))
    (rest : ∀ name, name ≠ field.name → lookup name fields = lookup name fields') :
    Alike form (.obj fields) (.obj fields') := by
  refine .records rfl rfl fun other other_mem => ?_
  by_cases same : other.name = field.name
  · rw [form.eq_of_name other_mem mem same]
    exact own
  · rw [Field.Agree, Field.value, Field.value, rest _ same]
    exact other.rel_refl _

theorem Alike.of_spare {field : Field} {value spare : Json} (mem : field ∈ form.fields)
    (spared : field.spare = some spare) (same : field.Same value spare)
    (single : field.name ∉ after.map Prod.fst) :
    Alike form (.obj (before ++ (field.name, value) :: after)) (.obj (before ++ after)) := by
  refine .of_field mem ?_ fun name other => ?_
  · rw [Field.value, Field.value, lookup_among, if_pos rfl, lookup_append, lookup_eq_none single,
      Option.or_none, spared]
    cases lookup field.name before with
    | none => exact .some same
    | some found => exact .some (field.same_refl found)
  · rw [lookup_among, if_neg (Ne.symm other), lookup_append]

theorem Alike.of_same {field : Field} {value value' : Json} (mem : field ∈ form.fields)
    (same : field.Same value value') :
    Alike form (.obj (before ++ (field.name, value) :: after))
      (.obj (before ++ (field.name, value') :: after)) := by
  refine .of_field mem ?_ fun name other => ?_
  · rw [Field.value, Field.value, lookup_among, lookup_among, if_pos rfl, if_pos rfl]
    cases lookup field.name before with
    | none => exact .some same
    | some found => exact .some (field.same_refl found)
  · rw [lookup_among, lookup_among, if_neg (Ne.symm other), if_neg (Ne.symm other)]

/-! ## Alike values read alike -/

variable {α : Type} {r s : Record} {read? : Json → Option α} {json json' : Json}

/-- How an optional field reads a value that is there. -/
def nullable (read? : Json → Option α) : Json → Option (Option α)
  | .null => some none
  | json => (read? json).map some

theorem defaulted_eq_bind {name : String} {default : α} {spare : Json}
    (stands : read? spare = some default) :
    defaulted r name read? default = ((r name).or (some spare)).bind read? := by
  rw [defaulted]
  cases r name with
  | none => exact stands.symm
  | some json => rfl

theorem optional?_eq_bind (name : String) :
    optional? r name read? = ((r name).or (some .null)).bind (nullable read?) := by
  rw [optional?]
  cases r name with
  | none => rfl
  | some json => cases json <;> rfl

theorem Field.Agree.bind_congr {field : Field} (h : field.Agree r s)
    (same : ∀ {a b}, field.Same a b → read? a = read? b) :
    (field.value r).bind read? = (field.value s).bind read? := by
  rw [Agree] at h
  generalize field.value r = value at h ⊢
  generalize field.value s = value' at h ⊢
  cases h with
  | none => rfl
  | some h => exact same h

theorem required_congr (read? : Json → Option α) {field : Field} (h : field.Agree r s)
    (needed : field.spare = none) (same : ∀ {a b}, field.Same a b → read? a = read? b) :
    required r field.name read? = required s field.name read? := by
  have congr := h.bind_congr same
  rwa [Field.value, Field.value, needed, Option.or_none, Option.or_none] at congr

theorem defaulted_congr (read? : Json → Option α) {field : Field} {default : α} {spare : Json}
    (h : field.Agree r s) (spared : field.spare = some spare) (stands : read? spare = some default)
    (same : ∀ {a b}, field.Same a b → read? a = read? b) :
    defaulted r field.name read? default = defaulted s field.name read? default := by
  have congr := h.bind_congr same
  rwa [Field.value, Field.value, spared, ← defaulted_eq_bind stands,
    ← defaulted_eq_bind stands] at congr

theorem nullable_of_ne_null (present : json ≠ .null) :
    nullable read? json = (read? json).map some := by
  cases json with
  | null => exact absurd rfl present
  | _ => rfl

theorem nullable_congr (h : json = json' ∨ json ≠ .null ∧ json' ≠ .null)
    (same : read? json = read? json') : nullable read? json = nullable read? json' := by
  rcases h with rfl | ⟨left, right⟩
  · rfl
  · rw [nullable_of_ne_null left, nullable_of_ne_null right, same]

theorem optional?_congr (read? : Json → Option α) {field : Field} (h : field.Agree r s)
    (spared : field.spare = some .null)
    (apart : ∀ {a b}, field.Same a b → a = b ∨ a ≠ .null ∧ b ≠ .null)
    (same : ∀ {a b}, field.Same a b → read? a = read? b) :
    optional? r field.name read? = optional? s field.name read? := by
  have congr := h.bind_congr fun alike => nullable_congr (apart alike) (same alike)
  rwa [Field.value, Field.value, spared, ← optional?_eq_bind, ← optional?_eq_bind] at congr

theorem Alike.eq_or_ne_null (h : Alike form json json') :
    json = json' ∨ json ≠ .null ∧ json' ≠ .null := by
  cases h with
  | refl => exact .inl rfl
  | records left right =>
      refine .inr ⟨?_, ?_⟩
      · rintro rfl
        cases left
      · rintro rfl
        cases right

theorem SameChoice.eq_or_ne_null (h : SameChoice json json') :
    json = json' ∨ json ≠ .null ∧ json' ≠ .null := by
  cases h with
  | refl => exact .inl rfl
  | named left right =>
      refine .inr ⟨?_, ?_⟩
      · rintro rfl
        cases left
      · rintro rfl
        cases right

theorem choice?_eq_bind (choices : List (String × α)) (json : Json) :
    choice? choices json = json.chosen?.bind (choice?.choose · choices) := by
  cases json with
  | str name => rfl
  | obj fields =>
      match fields with
      | [] => rfl
      | (name, value) :: [] => cases value <;> rfl
      | (name, value) :: _ :: _ => cases value <;> rfl
  | _ => rfl

theorem SameChoice.choice?_congr (h : SameChoice json json') (choices : List (String × α)) :
    choice? choices json = choice? choices json' := by
  cases h with
  | refl => rfl
  | named left right => rw [choice?_eq_bind, choice?_eq_bind, left, right]

theorem Each.list?_congr {Same : Json → Json → Prop} (h : Each Same json json')
    (same : ∀ {a b}, Same a b → read? a = read? b) : list? read? json = list? read? json' := by
  cases h with
  | refl => rfl
  | items each =>
      rw [list?, list?]
      induction each with
      | nil => rfl
      | cons first _ ih => rw [List.mapM_cons, List.mapM_cons, same first, ih]

theorem Alike.bind_congr {read : Record → Option α} (h : Alike form json json')
    (congr : ∀ {r s}, (∀ field ∈ form.fields, field.Agree r s) → read r = read s) :
    (record? form.names form.least json).bind read =
      (record? form.names form.least json').bind read := by
  cases h with
  | refl => rfl
  | records left right agree =>
      rw [left, right]
      exact congr agree

/-! ## What is written reads back -/

theorem word?_ofWord (value : UInt32) : word? (ofWord value) = some value := by
  have small : (value.toNat : Int) < Int.pow 2 32 := by
    rw [show Int.pow 2 32 = 4294967296 from rfl]
    exact Int.ofNat_lt.2 value.toNat_lt
  rw [word?, ofWord, unsigned?, if_pos ⟨Int.natCast_nonneg _, small⟩]
  simp

theorem str?_str (value : String) : str? (.str value) = some value := rfl

theorem bool?_bool (value : Bool) : bool? (.bool value) = some value := rfl

theorem lookup_optional (name other : String) (value : Option Json) :
    lookup other (optional name value) = if name = other then value else none := by
  cases value with
  | none => simp [optional, lookup]
  | some value => rw [optional, lookup, lookup]

section Written

variable {name : String} {write : α → Json}
  (inverse : ∀ value, read? (write value) = some value)
include inverse

theorem defaulted_of (value : α) {default : α} (held : r name = some (write value)) :
    defaulted r name read? default = some value := by
  rw [defaulted, held]
  exact inverse value

theorem optional?_of (silent : read? .null = none) (value : Option α)
    (held : r name = value.map write) : optional? r name read? = some value := by
  rw [optional?, held]
  cases value with
  | none => rfl
  | some value =>
      rw [Option.map_some]
      split
      · next h => cases h
      · next h =>
          have read := inverse value
          rw [Option.some.inj h, silent] at read
          cases read
      · next h =>
          cases h
          rw [inverse]
          rfl

/-- A list that is left out when it is empty. -/
theorem defaulted_list_of (items : List α)
    (held : r name = if items.isEmpty then none else some (.arr (items.map write))) :
    defaulted r name (list? read?) [] = some items := by
  rw [defaulted, held]
  cases items with
  | nil => rfl
  | cons item rest => exact list?_map inverse (item :: rest)

end Written

end Json

open Json (Alike Form record? str? bool? word? ofWord list? lookup lookup_append lookup_optional
  required_congr defaulted_congr optional?_congr word?_ofWord defaulted_of optional?_of
  defaulted_list_of)


variable {json json' : Json}

namespace NvParam

def form : Form where
  fields := [.plain "name" none, .plain "value" none]

theorem ofJson?_congr (h : Alike form json json') : ofJson? json = ofJson? json' := by
  refine h.bind_congr fun agree => ?_
  simp only [form, List.forall_mem_cons] at agree
  obtain ⟨name, value, -⟩ := agree
  rw [required_congr str? name rfl (congrArg _), required_congr str? value rfl (congrArg _)]

theorem ofJson?_toJson (param : NvParam) : ofJson? param.toJson = some param := by
  rfl

end NvParam

theorem LinkType.ofJson?_toJson (link : LinkType) : ofJson? link.toJson = some link := by
  cases link <;> rfl

namespace PciTuning

def form : Form where
  fields := [.plain "enabled" none, .plain "maxAccOutRead" (some (ofWord 0)),
    .plain "maxReadRequest" (some (ofWord 0))]

theorem ofJson?_congr (h : Alike form json json') : ofJson? json = ofJson? json' := by
  refine h.bind_congr fun agree => ?_
  simp only [form, List.forall_mem_cons] at agree
  obtain ⟨enabled, out, read, -⟩ := agree
  rw [required_congr bool? enabled rfl (congrArg _),
    defaulted_congr word? out rfl (word?_ofWord 0) (congrArg _),
    defaulted_congr word? read rfl (word?_ofWord 0) (congrArg _)]

theorem ofJson?_toJson (pci : PciTuning) : ofJson? pci.toJson = some pci := by
  rw [ofJson?, toJson, record?, Option.bind_eq_bind, Option.bind_some,
    defaulted_of word?_ofWord pci.maxAccOutRead rfl,
    defaulted_of word?_ofWord pci.maxReadRequest rfl]
  rfl

end PciTuning

namespace QosText

def form : Form where
  fields := [.plain "trust" none, .plain "pfc" none]

theorem ofJson?_congr (h : Alike form json json') : ofJson? json = ofJson? json' := by
  refine h.bind_congr fun agree => ?_
  simp only [form, List.forall_mem_cons] at agree
  obtain ⟨trust, pfc, -⟩ := agree
  rw [required_congr str? trust rfl (congrArg _), required_congr str? pfc rfl (congrArg _)]

theorem ofJson?_toJson (qos : QosText) : ofJson? qos.toJson = some qos := by
  rfl

end QosText

namespace RoceTuning

def form : Form where
  fields := [.plain "enabled" none, .record "qos" (some .null) QosText.form]

theorem ofJson?_congr (h : Alike form json json') : ofJson? json = ofJson? json' := by
  refine h.bind_congr fun agree => ?_
  simp only [form, List.forall_mem_cons] at agree
  obtain ⟨enabled, qos, -⟩ := agree
  rw [required_congr bool? enabled rfl (congrArg _),
    optional?_congr QosText.ofJson? qos rfl Alike.eq_or_ne_null QosText.ofJson?_congr]

theorem ofJson?_toJson (roce : RoceTuning) : ofJson? roce.toJson = some roce := by
  rw [ofJson?, toJson, record?, Option.bind_eq_bind, Option.bind_some,
    optional?_of QosText.ofJson?_toJson rfl roce.qos]
  · rfl
  · simp [lookup, lookup_optional]

end RoceTuning

namespace GpuDirect

def form : Form where
  fields := [.plain "enabled" none, .plain "env" none]

theorem ofJson?_congr (h : Alike form json json') : ofJson? json = ofJson? json' := by
  refine h.bind_congr fun agree => ?_
  simp only [form, List.forall_mem_cons] at agree
  obtain ⟨enabled, env, -⟩ := agree
  rw [required_congr bool? enabled rfl (congrArg _), required_congr str? env rfl (congrArg _)]

theorem ofJson?_toJson (gpu : GpuDirect) : ofJson? gpu.toJson = some gpu := by
  rfl

end GpuDirect

namespace Template

def form : Form where
  fields := [.plain "numVfs" (some (ofWord 0)), .choice "linkType" (some .null),
    .record "pciPerformanceOptimized" (some .null) PciTuning.form,
    .record "roceOptimized" (some .null) RoceTuning.form,
    .record "gpuDirectOptimized" (some .null) GpuDirect.form,
    .records "rawNvConfig" (some (.arr [])) NvParam.form]

theorem ofJson?_congr (h : Alike form json json') : ofJson? json = ofJson? json' := by
  refine h.bind_congr fun agree => ?_
  simp only [form, List.forall_mem_cons] at agree
  obtain ⟨vfs, link, pci, roce, gpu, raw, -⟩ := agree
  rw [defaulted_congr word? vfs rfl (word?_ofWord 0) (congrArg _),
    optional?_congr LinkType.ofJson? link rfl Json.SameChoice.eq_or_ne_null
      fun h => h.choice?_congr _,
    optional?_congr PciTuning.ofJson? pci rfl Alike.eq_or_ne_null PciTuning.ofJson?_congr,
    optional?_congr RoceTuning.ofJson? roce rfl Alike.eq_or_ne_null RoceTuning.ofJson?_congr,
    optional?_congr GpuDirect.ofJson? gpu rfl Alike.eq_or_ne_null GpuDirect.ofJson?_congr,
    defaulted_congr (list? NvParam.ofJson?) raw rfl (Json.list?_map NvParam.ofJson?_toJson [])
      fun h => h.list?_congr NvParam.ofJson?_congr]

theorem ofJson?_toJson (template : Template) : ofJson? template.toJson = some template := by
  rw [ofJson?, toJson, record?, Option.bind_eq_bind, Option.bind_some,
    defaulted_of word?_ofWord template.numVfs rfl,
    optional?_of LinkType.ofJson?_toJson rfl template.linkType,
    optional?_of PciTuning.ofJson?_toJson rfl template.pci,
    optional?_of RoceTuning.ofJson?_toJson rfl template.roce,
    optional?_of GpuDirect.ofJson?_toJson rfl template.gpuDirect,
    defaulted_list_of NvParam.ofJson?_toJson template.rawNv]
  · rfl
  all_goals simp [lookup, lookup_append, lookup_optional]

end Template

namespace Configuration

def form : Form where
  fields := [.plain "resetToDefault" (some (.bool false)),
    .record "template" (some (.obj [])) Template.form]

theorem ofJson?_congr (h : Alike form json json') : ofJson? json = ofJson? json' := by
  refine h.bind_congr fun agree => ?_
  simp only [form, List.forall_mem_cons] at agree
  obtain ⟨reset, template, -⟩ := agree
  rw [defaulted_congr bool? reset rfl rfl (congrArg _),
    defaulted_congr Template.ofJson? template rfl rfl Template.ofJson?_congr]

theorem ofJson?_toJson (configuration : Configuration) :
    ofJson? configuration.toJson = some configuration := by
  rw [ofJson?, toJson, record?, Option.bind_eq_bind, Option.bind_some,
    defaulted_of Template.ofJson?_toJson configuration.template rfl]
  rfl

end Configuration

namespace Spec

def form : Form where
  fields := [.record "configuration" (some .null) Configuration.form]

theorem ofJson?_congr (h : Alike form json json') : ofJson? json = ofJson? json' := by
  refine h.bind_congr fun agree => ?_
  simp only [form, List.forall_mem_cons] at agree
  obtain ⟨configuration, -⟩ := agree
  rw [optional?_congr Configuration.ofJson? configuration rfl Alike.eq_or_ne_null
    Configuration.ofJson?_congr]

theorem ofJson?_toJson (spec : Spec) : ofJson? spec.toJson = some spec := by
  rw [ofJson?, toJson, record?, Option.bind_eq_bind, Option.bind_some,
    optional?_of Configuration.ofJson?_toJson rfl spec.configuration]
  · rfl
  · rw [lookup_optional, if_pos rfl]

end Spec

namespace Port

def form : Form where
  fields := [.plain "pci" none, .plain "networkInterface" (some (.str "")),
    .plain "rdmaInterface" (some (.str ""))]

theorem ofJson?_congr (h : Alike form json json') : ofJson? json = ofJson? json' := by
  refine h.bind_congr fun agree => ?_
  simp only [form, List.forall_mem_cons] at agree
  obtain ⟨pci, network, rdma, -⟩ := agree
  rw [required_congr str? pci rfl (congrArg _), defaulted_congr str? network rfl rfl (congrArg _),
    defaulted_congr str? rdma rfl rfl (congrArg _)]

end Port

namespace Status

def form : Form where
  fields := [.plain "node" (some (.str "")), .plain "type" (some (.str "")),
    .plain "serialNumber" (some (.str "")), .plain "partNumber" (some (.str "")),
    .plain "psid" (some (.str "")), .plain "firmwareVersion" (some (.str "")),
    .records "ports" (some (.arr [])) Port.form, .choice "state" (some (.str "Pending")),
    .plain "rebootRequired" (some (.bool false)), .plain "error" (some .null),
    .plain "lastReconciled" (some .null)]

section Format

variable [TimeFormat]

theorem ofJson?_congr (h : Alike form json json') : ofJson? json = ofJson? json' := by
  refine h.bind_congr fun agree => ?_
  simp only [form, List.forall_mem_cons] at agree
  obtain ⟨node, type, serial, part, psid, firmware, ports, state, reboot, error, time, -⟩ := agree
  rw [defaulted_congr str? node rfl rfl (congrArg _),
    defaulted_congr str? type rfl rfl (congrArg _),
    defaulted_congr str? serial rfl rfl (congrArg _),
    defaulted_congr str? part rfl rfl (congrArg _),
    defaulted_congr str? psid rfl rfl (congrArg _),
    defaulted_congr str? firmware rfl rfl (congrArg _),
    defaulted_congr (list? Port.ofJson?) ports rfl (Json.list?_map Port.ofJson?_toJson [])
      fun h => h.list?_congr Port.ofJson?_congr,
    defaulted_congr State.ofJson? state rfl (State.ofJson?_toJson .pending)
      fun h => h.choice?_congr _,
    defaulted_congr bool? reboot rfl rfl (congrArg _),
    optional?_congr str? error rfl .inl (congrArg _),
    optional?_congr Timestamp.ofJson? time rfl .inl (congrArg _)]

/-- What is read of the time that is written of a status. -/
def timeRead? (status : Status) : Option (Option Timestamp) :=
  match status.lastReconciled with
  | none => some none
  | some t => (TimeFormat.read? (TimeFormat.text t)).map some

theorem optional?_timeRead {r : Json.Record} {name : String} (status : Status)
    (held : r name = status.lastReconciled.map Timestamp.toJson) :
    Json.optional? r name Timestamp.ofJson? = status.timeRead? := by
  rw [Json.optional?, held, timeRead?]
  cases status.lastReconciled with
  | none => rfl
  | some t => rfl

/-- A status reads as it was written, but for its time, which reads as it can. -/
theorem ofJson?_toJson (status : Status) :
    ofJson? status.toJson =
      status.timeRead?.map fun time => { status with lastReconciled := time } := by
  rw [ofJson?, toJson, record?, Option.bind_eq_bind, Option.bind_some,
    defaulted_of (Json.list?_map Port.ofJson?_toJson) status.ports,
    defaulted_of State.ofJson?_toJson status.state,
    optional?_of Json.str?_str rfl status.error, optional?_timeRead status]
  · cases status.timeRead? with
    | none => simp [Json.defaulted, lookup, Identity.jsonFields, str?, bool?]
    | some time => simp [Json.defaulted, lookup, Identity.jsonFields, str?, bool?]
  all_goals simp [lookup, lookup_append, lookup_optional, Identity.jsonFields]

theorem ofJson?_toJson_iff (status : Status) :
    ofJson? status.toJson = some status ↔
      ∀ t, status.lastReconciled = some t → TimeFormat.Keeps t := by
  obtain ⟨identity, report, time⟩ := status
  rw [ofJson?_toJson]
  cases time with
  | none => simp [timeRead?]
  | some t =>
      simp only [timeRead?, Option.map_map, Option.some.injEq, forall_eq', TimeFormat.Keeps]
      cases TimeFormat.read? (TimeFormat.text t) with
      | none => simp
      | some read => simp

/-- With a faithful format a status loses nothing but its time, if that. -/
theorem exists_ofJson?_toJson (faithful : TimeFormat.Faithful) (status : Status) :
    ∃ time, ofJson? status.toJson = some { status with lastReconciled := time } := by
  rw [ofJson?_toJson, timeRead?]
  cases status.lastReconciled with
  | none => exact ⟨none, rfl⟩
  | some t =>
      obtain ⟨found, read⟩ := faithful.legible t
      refine ⟨some found, ?_⟩
      dsimp only
      rw [read]
      rfl

/-- The time of a status that was read has been read. -/
theorem read?_of_ofJson? {status : Status} (h : ofJson? json = some status) {t : Timestamp}
    (timed : status.lastReconciled = some t) : ∃ written, TimeFormat.read? written = some t := by
  simp only [ofJson?, Option.bind_eq_bind, Option.bind_eq_some_iff, Option.pure_def,
    Option.some.injEq] at h
  obtain ⟨r, -, _, -, _, -, _, -, _, -, _, -, _, -, _, -, _, -, _, -, _, -, time, read, rfl⟩ := h
  obtain rfl : time = some t := timed
  rw [Json.optional?] at read
  split at read
  · cases read
  · cases read
  · obtain ⟨found, read, same⟩ := Option.map_eq_some_iff.1 read
    obtain ⟨written, -, read⟩ := Option.bind_eq_some_iff.1 read
    rw [← Option.some.inj same]
    exact ⟨written, read⟩

end Format

end Status

namespace PciFunction

/-- An array has to hold all the fields, also the name that an object need not have. -/
def form : Form where
  fields := [.plain "address" none, .plain "vendor_id" none, .plain "class_id" none,
    .plain "product_id" none, .plain "product_name" (some .null)]
  least := 5

theorem ofJson?_congr (h : Alike form json json') : ofJson? json = ofJson? json' := by
  refine h.bind_congr fun agree => ?_
  simp only [form, List.forall_mem_cons] at agree
  obtain ⟨address, vendor, class', product, name, -⟩ := agree
  rw [required_congr str? address rfl (congrArg _), required_congr str? vendor rfl (congrArg _),
    required_congr str? class' rfl (congrArg _), required_congr str? product rfl (congrArg _),
    optional?_congr str? name rfl .inl (congrArg _)]

theorem ofJson?_toJson (function : PciFunction) : ofJson? function.toJson = some function := by
  obtain ⟨_, _, _, _, name⟩ := function
  cases name with
  | none => rfl
  | some name => rfl

end PciFunction

theorem Trust.ofJson?_toJson (trust : Trust) : ofJson? trust.toJson = some trust := by
  cases trust <;> rfl

theorem Pfc.ofJson?_toJson (pfc : Pfc) : ofJson? pfc.toJson = some pfc := by
  rw [ofJson?, toJson, Json.list?_map Json.bool?_bool, Option.bind_eq_bind, Option.bind_some,
    dif_pos pfc.length_flags]

/-! ## The resources -/

namespace Json

/-- What is read reads back as it is written, in a form that stays. -/
def Settles {α : Type} (toJson : α → Json) (ofJson? : Json → Option α) : Prop :=
  ∀ json value, ofJson? json = some value →
    ofJson? (toJson value) = some value ∧
      ∀ again, ofJson? (toJson value) = some again → toJson again = toJson value

theorem Settles.of_reread {α : Type} {toJson : α → Json} {ofJson? : Json → Option α}
    (reread : ∀ {json value}, ofJson? json = some value → ofJson? (toJson value) = some value) :
    Settles toJson ofJson? := by
  intro _ value read
  refine ⟨reread read, fun again h => ?_⟩
  rw [reread read] at h
  exact congrArg toJson (Option.some.inj h).symm

/-- What is written reads back, and so what is read is written in a form that stays. -/
structure RoundTrips {α : Type} (toJson : α → Json) (ofJson? : Json → Option α) : Prop where
  reads_back (value : α) : ofJson? (toJson value) = some value
  settles : Settles toJson ofJson?

theorem RoundTrips.of_inverse {α : Type} {toJson : α → Json} {ofJson? : Json → Option α}
    (inverse : ∀ value, ofJson? (toJson value) = some value) : RoundTrips toJson ofJson? where
  reads_back := inverse
  settles := Settles.of_reread fun _ => inverse _

/-- What makes no difference in the JSON that a record is read from: a field that is not known, a
field that says what its absence stands for, a change inside a field that makes no difference
there, and all of these together. -/
structure Lenient {α : Type} (form : Form) (ofJson? : Json → Option α) : Prop where
  unknown {before after : List (String × Json)} {name : String} (value : Json) :
    name ∉ form.names →
      ofJson? (.obj (before ++ (name, value) :: after)) = ofJson? (.obj (before ++ after))
  left_out {before after : List (String × Json)} {field : Field} {value spare : Json} :
    field ∈ form.fields → field.spare = some spare → field.Same value spare →
      field.name ∉ after.map Prod.fst →
        ofJson? (.obj (before ++ (field.name, value) :: after)) = ofJson? (.obj (before ++ after))
  inside {before after : List (String × Json)} {field : Field} {value value' : Json} :
    field ∈ form.fields → field.Same value value' →
      ofJson? (.obj (before ++ (field.name, value) :: after)) =
        ofJson? (.obj (before ++ (field.name, value') :: after))
  alike {json json' : Json} : Alike form json json' → ofJson? json = ofJson? json'

theorem Lenient.of_congr {α : Type} {form : Form} {ofJson? : Json → Option α}
    (congr : ∀ {json json'}, Alike form json json' → ofJson? json = ofJson? json') :
    Lenient form ofJson? where
  unknown value h := congr (.of_unknown h value)
  left_out mem spared same single := congr (.of_spare mem spared same single)
  inside mem same := congr (.of_same mem same)
  alike := congr

end Json

open Json (RoundTrips Settles Lenient)

namespace Sample

/-- A spec to which others have added fields, and in which nothing was left out. -/
def annotatedSpec : Json :=
  .obj [("rack", .int 7),
    ("configuration", .obj [("resetToDefault", .bool false),
      ("template", .obj [("numVfs", .int 4), ("linkType", .null), ("reviewed", .bool true)])])]

def bareSpec : Json := .obj [("configuration", .obj [("template", .obj [("numVfs", .int 4)])])]

theorem annotatedSpec_alike_bareSpec : Alike Spec.form annotatedSpec bareSpec := by
  have template : Alike Template.form
      (.obj [("numVfs", .int 4), ("linkType", .null), ("reviewed", .bool true)])
      (.obj [("numVfs", .int 4)]) := by
    refine .records rfl rfl ?_
    simp only [Template.form, List.forall_mem_cons]
    exact ⟨.some rfl, .some (.refl _), .some (.refl _), .some (.refl _), .some (.refl _),
      .some (.refl _), nofun⟩
  refine .records rfl rfl ?_
  simp only [Spec.form, List.forall_mem_cons]
  refine ⟨.some (.records rfl rfl ?_), nofun⟩
  simp only [Configuration.form, List.forall_mem_cons]
  exact ⟨.some rfl, .some template, nofun⟩

example : Spec.ofJson? annotatedSpec =
    some { configuration := some { template := { numVfs := 4 } } } := by
  rfl

open scoped Rfc3339

/-- A status with a fraction of a leap second in its time. -/
def leapStatus : Status :=
  { node := "worker-1", ports := [{ pci := "0000:3b:00.0" }], state := .applied
    lastReconciled := some ⟨2016, 12, 31, 23, 59, 59, 1500000000, by decide, by decide⟩ }

end Sample

end NicKeeper
