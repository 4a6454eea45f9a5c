import NicKeeper.Api.Server
import NicKeeper.Daemon.Publish
import NicKeeper.Proofs.Inclusion
import NicKeeper.Proofs.StatusPatches
import NicKeeper.Proofs.TextPieces

/-!
# What calls do to a server's objects

A server that is asked for a call leaves its objects alone or performs the call, whatever it answers
(`ApiServer.objects_handle`). So a claim on what happens to objects is settled by the effects of the
calls that are made: one object is made, or merged with a patch, or erased, or there is no effect.
If the answer is no failure, then the call was performed, and the answer is what the objects have to
say to it (`ApiServer.handle_ok`).

Objects are kept under names, and devices bear the names that are in the metadata. A store keeps the
two together (`Filed`); then a list that is answered tells of the objects that were selected and of
no others, under the names that they are kept under.

Which objects a selector selects is the server's to say. What is relied on is what is documented of
selectors `key=value`, for values that a label can have (`SelectorReading.ReadsLabels`).
-/

namespace NicKeeper

/-! ## Selectors -/

/-- What a label can have as its value: up to 63 letters, digits, hyphens, underscores and dots,
with a letter or digit at both ends, or nothing. -/
structure IsLabelValue (text : String) : Prop where
  short : text.toList.length ≤ 63
  plain : ∀ c ∈ text.toList, c.isAlphanum = true ∨ c ∈ ['-', '_', '.']
  first : ∀ c ∈ text.toList.head?, c.isAlphanum = true
  last : ∀ c ∈ text.toList.getLast?, c.isAlphanum = true

namespace SelectorReading

/-- The selector of a node selects the objects that bear the node's label. -/
def ReadsNode (selects : SelectorReading) (node : String) : Prop :=
  ∀ labels, selects (nodeSelector node) labels = true ↔ labels nodeLabel = some node

/-- Selectors of nodes are read as they are meant, where the node can be a label's value. -/
def ReadsLabels (selects : SelectorReading) : Prop :=
  ∀ node, IsLabelValue node → selects.ReadsNode node

end SelectorReading

theorem ApiServer.readsNode_selectsEqual (node : String) :
    SelectorReading.ReadsNode selectsEqual node := by
  intro labels
  have apart : (nodeSelector node).toList = nodeLabel.toList ++ '=' :: node.toList := by
    simp [nodeSelector]
  rw [selectsEqual, apart, Text.cutAt_append_cons (by decide)]
  simp

/-! ## The names of objects -/

namespace ApiObject

/-- The name in the metadata of an object. -/
def ownName? (object : Json) : Option String :=
  (object.field? "metadata").bind fun metadata => (metadata.field? "name").bind Json.str?

/-- Every object is kept under its own name. -/
def Filed (objects : Dict Json) : Prop :=
  ∀ name object, objects.get? name = some object → ownName? object = some name

theorem ownName?_congr {object other : Json}
    (same : object.field? "metadata" = other.field? "metadata") :
    ownName? object = ownName? other := by
  rw [ownName?, ownName?, same]

theorem label?_congr {object other : Json}
    (same : object.field? "metadata" = other.field? "metadata") :
    label? object = label? other := by
  funext key
  rw [label?, label?, same]

end ApiObject

section Format

variable [TimeFormat]

theorem Metadata.name_of_ofJson? {json : Json} {metadata : Metadata}
    (h : ofJson? json = some metadata) :
    Json.optional? json.field? "name" Json.str? = some metadata.name := by
  cases json with
  | obj fields =>
      simp only [ofJson?, Option.bind_eq_bind, Option.pure_def] at h
      split at h
      · cases h
      · obtain ⟨name, read, h⟩ := Option.bind_eq_some_iff.1 h
        obtain ⟨_, -, h⟩ := Option.bind_eq_some_iff.1 h
        obtain ⟨_, -, h⟩ := Option.bind_eq_some_iff.1 h
        obtain ⟨_, -, h⟩ := Option.bind_eq_some_iff.1 h
        rw [← Option.some.inj h]
        exact read
  | _ => cases h

/-- A device bears the name of the object that it was read from. -/
theorem ApiObject.name_of_ownName? {object : Json} {device : NicDevice} {name : String}
    (decodes : NicDevice.ofJson? object = some device) (own : ownName? object = some name) :
    device.name = name := by
  obtain ⟨-, read, -⟩ := NicDevice.ofJson?_eq_some_iff.1 decodes
  obtain ⟨metadata, stored, read⟩ := Option.bind_eq_some_iff.1 read
  rw [ownName?, stored, Option.bind_some] at own
  obtain ⟨value, named, text⟩ := Option.bind_eq_some_iff.1 own
  have same := Metadata.name_of_ofJson? read
  rw [Json.optional?, named] at same
  cases value with
  | str value =>
      obtain rfl : value = name := Option.some.inj text
      have same : some value = device.metadata.name := Option.some.inj same
      rw [NicDevice.name, ← same]
      rfl
  | _ => cases text

/-! ## What a call changes -/

namespace ApiCall

variable {selects : SelectorReading} {objects after : Dict Json} {call : ApiCall}

theorem Serves.of_ok {value : call.Value} (h : call.Serves selects objects (.ok value) after) :
    call.value? selects objects = some value ∧ after = call.effect objects := by
  cases h with
  | answered known => exact ⟨known, rfl⟩

theorem Serves.changes {answer : call.Answer} (h : call.Serves selects objects answer after) :
    after = objects ∨ after = call.effect objects := by
  cases h with
  | answered known => exact .inr rfl
  | refused failure => exact .inl rfl
  | lost failure => exact .inr rfl

theorem eq_delete_of_effect {name : String} {object : Json}
    (there : objects.get? name = some object) (gone : (call.effect objects).get? name = none) :
    call = .delete name := by
  cases call with
  | get other => cases there.symm.trans gone
  | create device =>
      rw [effect, Dict.get?_insert] at gone
      split at gone
      · cases gone
      · cases there.symm.trans gone
  | patchStatus other patch =>
      rw [effect] at gone
      split at gone
      · rw [Dict.get?_insert] at gone
        split at gone
        · cases gone
        · cases there.symm.trans gone
      · cases there.symm.trans gone
  | list selector => cases there.symm.trans gone
  | delete other =>
      rw [effect, Dict.get?_erase] at gone
      split at gone
      · next same => rw [same]
      · cases there.symm.trans gone

end ApiCall

namespace ApiServer

variable {σ : Type} {server : ApiServer σ} {state : σ} {call : ApiCall}

/-- What is answered is what the objects have to say, and the call was performed. -/
theorem handle_ok {value : call.Value} (h : (server.handle call state).1 = .ok value) :
    call.value? server.selects (server.objects state) = some value ∧
      server.objects (server.handle call state).2 = call.effect (server.objects state) := by
  have serves := server.serves call state
  rw [h] at serves
  exact serves.of_ok

theorem objects_handle (server : ApiServer σ) (call : ApiCall) (state : σ) :
    server.objects (server.handle call state).2 = server.objects state ∨
      server.objects (server.handle call state).2 = call.effect (server.objects state) :=
  (server.serves call state).changes

theorem objects_get (server : ApiServer σ) (name : String) (state : σ) :
    server.objects (server.handle (.get name) state).2 = server.objects state :=
  (server.objects_handle (.get name) state).elim id id

theorem objects_list (server : ApiServer σ) (selector : String) (state : σ) :
    server.objects (server.handle (.list selector) state).2 = server.objects state :=
  (server.objects_handle (.list selector) state).elim id id

end ApiServer

/-! ## What a list tells -/

namespace ApiObject

variable {selects : SelectorReading} {selector : String} {objects : Dict Json}
  {devices : List NicDevice}

/-- A list of objects that can be read tells of every one of them, and of no other. -/
theorem mapM_ofJson? {objects : List Json}
    (h : objects.mapM NicDevice.ofJson? = some devices) :
    (∀ device ∈ devices, ∃ object ∈ objects, NicDevice.ofJson? object = some device) ∧
      ∀ object ∈ objects, ∃ device ∈ devices, NicDevice.ofJson? object = some device := by
  induction objects generalizing devices with
  | nil =>
      cases h
      exact ⟨List.forall_mem_nil _, List.forall_mem_nil _⟩
  | cons first rest ih =>
      rw [List.mapM_cons] at h
      obtain ⟨own, decodes, h⟩ := Option.bind_eq_some_iff.1 h
      obtain ⟨later, others, h⟩ := Option.bind_eq_some_iff.1 h
      cases h
      obtain ⟨listed, told⟩ := ih others
      refine ⟨List.forall_mem_cons.2 ⟨⟨first, List.mem_cons_self, decodes⟩, ?_⟩,
        List.forall_mem_cons.2 ⟨⟨own, List.mem_cons_self, decodes⟩, ?_⟩⟩
      · intro device mem
        obtain ⟨object, among, decodes⟩ := listed device mem
        exact ⟨object, List.mem_cons_of_mem _ among, decodes⟩
      · intro object mem
        obtain ⟨device, among, decodes⟩ := told object mem
        exact ⟨device, List.mem_cons_of_mem _ among, decodes⟩

/-- Every object can be read, and is kept under the name that it bears. -/
def Named (objects : Dict Json) : Prop :=
  ∀ name object, objects.get? name = some object →
    ∃ device, NicDevice.ofJson? object = some device ∧ device.name = name

theorem mapM_named {entries : List (String × Json)}
    (named : ∀ entry ∈ entries,
      ∃ device, NicDevice.ofJson? entry.2 = some device ∧ device.name = entry.1) :
    ∃ devices, (entries.map Prod.snd).mapM NicDevice.ofJson? = some devices ∧
      devices.map NicDevice.name = entries.map Prod.fst := by
  induction entries with
  | nil => exact ⟨[], rfl, rfl⟩
  | cons entry rest ih =>
      obtain ⟨⟨device, decodes, same⟩, named⟩ := List.forall_mem_cons.1 named
      obtain ⟨devices, answered, names⟩ := ih named
      refine ⟨device :: devices, ?_, ?_⟩
      · rw [List.map_cons, List.mapM_cons, decodes, answered]
        rfl
      · rw [List.map_cons, List.map_cons, same, names]

/-- Objects that can be read have an answer to a list. -/
theorem exists_selected (named : Named objects) (selects : SelectorReading) (selector : String) :
    ∃ devices, (ApiCall.list selector).value? selects objects = some devices ∧
      devices.map NicDevice.name =
        (objects.filter fun _ object => selects selector (label? object)).names := by
  have selected : (objects.values.filter fun object => selects selector (label? object)) =
      (objects.entries.filter fun entry => selects selector (label? entry.2)).map Prod.snd :=
    List.filter_map
  rw [ApiCall.value?, selected]
  exact mapM_named fun entry mem =>
    named _ _ (Dict.mem_entries_iff.1 (List.mem_filter.1 mem).1)

theorem exists_stored_of_listed (filed : Filed objects)
    (h : (ApiCall.list selector).value? selects objects = some devices) {device : NicDevice}
    (mem : device ∈ devices) :
    ∃ object, objects.get? device.name = some object ∧
      selects selector (label? object) = true := by
  obtain ⟨object, among, decodes⟩ := (mapM_ofJson? h).1 device mem
  obtain ⟨kept, selected⟩ := List.mem_filter.1 among
  obtain ⟨⟨name, object⟩, stored, rfl⟩ := List.mem_map.1 kept
  have stored := Dict.mem_entries_iff.1 stored
  obtain rfl : device.name = name := name_of_ownName? decodes (filed _ _ stored)
  exact ⟨object, stored, selected⟩

theorem exists_listed_of_stored (filed : Filed objects)
    (h : (ApiCall.list selector).value? selects objects = some devices) {name : String}
    {object : Json} (stored : objects.get? name = some object)
    (selected : selects selector (label? object) = true) :
    ∃ device ∈ devices, device.name = name := by
  have among : object ∈ objects.values.filter fun object => selects selector (label? object) :=
    List.mem_filter.2 ⟨List.mem_map_of_mem (Dict.mem_entries_iff.2 stored), selected⟩
  obtain ⟨device, mem, decodes⟩ := (mapM_ofJson? h).2 object among
  exact ⟨device, mem, name_of_ownName? decodes (filed _ _ stored)⟩

end ApiObject

end Format

end NicKeeper
