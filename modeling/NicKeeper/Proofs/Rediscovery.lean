import NicKeeper.Proofs.Sweeping
import NicKeeper.Proofs.SystemSearch

/-!
# Cards that are looked for again

A search passes over the functions that cannot be read, and a publisher deletes the objects of cards
that were not found. So a card whose functions cannot be read for once loses its object, with all
that a user has asked for in it, although it has not left the node (`unreadable_card_deleted`).

How far this goes is told by two runs. In the second the world is dimmer than in the first
(`World.Dimmed`): the same entries are listed, but some ids can no longer be read. What is still
read is what was read before, so a function that is found twice survives twice, and bears the same
label if the tools say the same (`Searched.alike`). A card is found again if one of its ports can
still be read and every one that can is of its type (`World.Shows`, `Searched.found_again`); the
second run then leaves its object alone, and the first run has left no other objects to be deleted
(`card_of_left`).
-/

namespace NicKeeper

open Program

namespace World

/-- The world has an entry for the address. -/
def Lists (world : World) (pci : String) : Prop :=
  ∃ entries, world.listDirectory SystemHost.devicesPath = .ok entries ∧
    ∃ entry ∈ entries, entry.shown = pci

/-- In a later world some ids of functions can no longer be read; those that can are the same. -/
structure Dimmed (world later : World) : Prop where
  listed : later.listDirectory SystemHost.devicesPath = world.listDirectory SystemHost.devicesPath
  kinds : ∀ pci, world.Lists pci → later.isVirtual pci = world.isVirtual pci
  ids : ∀ pci, world.Lists pci → ∀ name ∈ ["vendor", "device", "class"],
    later.text? (SystemHost.devicePath pci ++ [name]) = none ∨
      later.text? (SystemHost.devicePath pci ++ [name]) =
        world.text? (SystemHost.devicePath pci ++ [name])

variable [PciNames] {world later : World}

theorem Dimmed.function? (h : world.Dimmed later) {pci : String} (entry : world.Lists pci)
    {function : PciFunction} (read : later.function? pci = some function) :
    world.function? pci = some function := by
  have known (name : String) (mem : name ∈ ["vendor", "device", "class"]) {text : List Char}
      (read : later.text? (SystemHost.devicePath pci ++ [name]) = some text) :
      world.text? (SystemHost.devicePath pci ++ [name]) = some text := by
    rcases h.ids pci entry name mem with no | same
    · cases no.symm.trans read
    · exact same.symm.trans read
  simp only [World.function?, Option.bind_eq_bind, Option.bind_eq_some_iff] at read ⊢
  obtain ⟨vendor, hv, product, hp, classText, hc, made⟩ := read
  exact ⟨vendor, known _ (by simp) hv, product, known _ (by simp) hp, classText,
    known _ (by simp) hc, made⟩

/-- A port of the card can be read, and every port that can is of the card's type. -/
structure Shows (world : World) (card : Status) : Prop where
  read : ∃ port ∈ card.ports, ∃ function, world.function? port.pci = some function
  typed : ∀ port ∈ card.ports, ∀ function, world.function? port.pci = some function →
    function.productId = card.deviceType

end World

/-- The runs of tools among what was done, with what they came to. -/
def toolRuns (events : List (Event systemService)) : List (Command × Except IoError ToolReply) :=
  events.filterMap fun
    | ⟨.runTool command, reply⟩ => some (command, reply)
    | _ => none

theorem mem_toolRuns {events : List (Event systemService)} {command : Command}
    {reply : Except IoError ToolReply} (h : ⟨.runTool command, reply⟩ ∈ events) :
    (command, reply) ∈ toolRuns events :=
  List.mem_filterMap.2 ⟨_, h, rfl⟩

/-- Commands that were given both times came to the same. -/
def ToolsAgree (first second : List (Event systemService)) : Prop :=
  ∀ run ∈ toolRuns first, ∀ other ∈ toolRuns second, other.1 = run.1 → other.2 = run.2

instance (first second : List (Event systemService)) : Decidable (ToolsAgree first second) :=
  inferInstanceAs (Decidable (∀ run ∈ toolRuns first, ∀ other ∈ toolRuns second,
    other.1 = run.1 → other.2 = run.2))

theorem ToolsAgree.symm {first second : List (Event systemService)} (h : ToolsAgree first second) :
    ToolsAgree second first :=
  fun run mem other mem' same => (h other mem' run mem same.symm).symm

namespace Engine

open Sight (survivors)

variable [PciNames] {engine : Engine} {world later : World}
  {events others : List (Event systemService)}
  {sights seen : List Sight} {cards found : Dict Status}

/-- A function that has survived one search survives the other, with the same label. -/
theorem Searched.alike (first : engine.Searched world events sights cards)
    (second : engine.Searched later others seen found)
    (agree : ToolsAgree events others) {sight again : Sight}
    (kind : later.isVirtual sight.function.address = world.isVirtual sight.function.address)
    (mem : sight ∈ survivors sights) (among : again ∈ seen)
    (same : again.function = sight.function) :
    again ∈ survivors seen ∧ again.label = sight.label := by
  obtain ⟨listed, survives⟩ := List.mem_filter.1 mem
  obtain ⟨own, physical⟩ : sight.function.isNetwork = true ∧ sight.isVirtual = false := by
    simpa [Sight.survives] using survives
  have own' : again.function.isNetwork = true := same ▸ own
  have physical' : again.isVirtual = false := by
    rw [second.kinds again among own', same, kind, ← first.kinds sight listed own, physical]
  have mem' : again ∈ survivors seen :=
    List.mem_filter.2 ⟨among, by rw [Sight.survives, own', physical']; rfl⟩
  obtain ⟨reply, told, label⟩ := first.labels sight mem
  obtain ⟨other, told', label'⟩ := second.labels again mem'
  rw [same] at told' label'
  obtain rfl := agree _ (mem_toolRuns told) _ (mem_toolRuns told') rfl
  exact ⟨mem', label.unique label'⟩

theorem Searched.lists (first : engine.Searched world events sights cards) {sight : Sight}
    (mem : sight ∈ sights) : world.Lists sight.function.address := by
  obtain ⟨entries, listed, functions⟩ := first.listed
  obtain ⟨entry, among, read⟩ := (functions _).1 (List.mem_map_of_mem mem)
  exact ⟨entries, listed, entry, among, (World.address_of_function? read).symm⟩

/-- What is seen the second time was seen the first time. -/
theorem Searched.seen_before (first : engine.Searched world events sights cards)
    (second : engine.Searched later others seen found) (dimmed : world.Dimmed later)
    {again : Sight} (among : again ∈ seen) :
    ∃ sight ∈ sights, sight.function = again.function ∧
      later.function? again.function.address = some again.function := by
  obtain ⟨entries, listed, functions⟩ := first.listed
  obtain ⟨_, listed', functions'⟩ := second.listed
  obtain rfl := Except.ok.inj (listed'.symm.trans (dimmed.listed.trans listed))
  obtain ⟨entry, own, read⟩ := (functions' _).1 (List.mem_map_of_mem among)
  obtain ⟨sight, mem, same⟩ := List.mem_map.1 ((functions _).2
    ⟨entry, own, dimmed.function? ⟨_, listed, entry, own, rfl⟩ read⟩)
  rw [World.address_of_function? read]
  exact ⟨sight, mem, same, read⟩

/-- What can still be read is seen the second time. -/
theorem Searched.seen_again (first : engine.Searched world events sights cards)
    (second : engine.Searched later others seen found) (dimmed : world.Dimmed later)
    {sight : Sight} (among : sight ∈ sights) {function : PciFunction}
    (read : later.function? sight.function.address = some function) :
    ∃ again ∈ seen, again.function = sight.function := by
  obtain ⟨entries, listed, functions⟩ := first.listed
  obtain ⟨_, listed', functions'⟩ := second.listed
  obtain rfl := Except.ok.inj (listed'.symm.trans (dimmed.listed.trans listed))
  obtain ⟨entry, own, before⟩ := (functions _).1 (List.mem_map_of_mem among)
  rw [World.address_of_function? before] at read
  obtain rfl := Option.some.inj
    (before.symm.trans (dimmed.function? ⟨_, listed, entry, own, rfl⟩ read))
  exact List.mem_map.1 ((functions' _).2 ⟨entry, own, read⟩)

/-- A card is found again if a port of it can be read, and those that can are of its type. -/
theorem Searched.found_again (first : engine.Searched world events sights cards)
    (second : engine.Searched later others seen found) (dimmed : world.Dimmed later)
    (agree : ToolsAgree events others) {serial : String} {card : Status}
    (stored : cards.get? serial = some card) (shows : later.Shows card) :
    ∃ again, found.get? serial = some again ∧ again.deviceType = card.deviceType ∧
      again.serialNumber = card.serialNumber := by
  obtain ⟨_, label, firmware, -, -, number, -, rfl⟩ := first.groups.card serial card stored
  -- The card is known the second time, by a port that can be read.
  obtain ⟨port, own, function, read⟩ := shows.read
  obtain ⟨sight, mem, rfl⟩ := List.mem_map.1 own
  obtain ⟨mem, serial?⟩ := List.mem_filter.1 mem
  have listed := List.mem_of_mem_filter mem
  obtain ⟨again, among, same⟩ := first.seen_again second dimmed listed read
  obtain ⟨survives, alike⟩ :=
    first.alike second agree (dimmed.kinds _ (first.lists listed)) mem among same
  have known : again.serial? = some serial := by
    rw [← of_decide_eq_true serial?, Sight.serial?, Sight.serial?, alike]
  obtain ⟨card, there⟩ := (second.groups.serials serial).2 ⟨again, survives, known⟩
  -- It is described by a function that is a port of the first card as well.
  obtain ⟨lead, label', firmware', leads, -, number', -, rfl⟩ :=
    second.groups.card serial card there
  have named : lead.serial? = some serial := by simpa using List.find?_some leads
  have survives := List.mem_of_find?_eq_some leads
  obtain ⟨sight, listed, same, read⟩ :=
    first.seen_before second dimmed (List.mem_of_mem_filter survives)
  have kind := dimmed.kinds _ (first.lists listed)
  rw [same] at kind
  obtain ⟨mem, alike⟩ := second.alike first agree.symm kind.symm survives listed same
  have own : sight ∈ (survivors sights).filter (·.serial? = some serial) := by
    refine List.mem_filter.2 ⟨mem, decide_eq_true ?_⟩
    rw [← named, Sight.serial?, Sight.serial?, alike]
  have typed := shows.typed _ (List.mem_map_of_mem own) lead.function
    (by rw [Sight.port, same]; exact read)
  exact ⟨_, there, typed, number'.trans number.symm⟩

end Engine

/-! ## Two runs of a publisher -/

namespace Place

section Server

variable [TimeFormat] {σ : Type} {server : ApiServer σ} {state after : σ} {place : Place}
  {cards : List Status} {search : Except EngineError (Dict Status)}
  {events : List (Event publishService)} {name : String} {object : Json}

/-- What there is after a run was there before it, or was made for a card. -/
theorem grown_of_run {result : Except DaemonError Nat}
    (h : (place.publish cards).run.Runs events result)
    (follows : Follows (serveSearch search server.handle) state events after) :
    place.Grown cards (server.objects state) (server.objects after) := by
  cases runs_publish h with
  | unpublished cut => exact grown_of_follows cut follows
  | unlisted whole =>
      obtain ⟨mid, publishes, -, rfl⟩ := follows_append_iff.1 follows
      rw [serveSearch_snd, ApiServer.objects_list]
      exact grown_of_follows whole publishes
  | swept whole sweep =>
      obtain ⟨mid, publishes, -, sweeps⟩ := follows_append_iff.1 follows
      have shrunk := shrunk_of_follows (only_deleteOthers _ _ _ _ sweep) sweeps
      rw [serveSearch_snd, ApiServer.objects_list] at shrunk
      exact (grown_of_follows whole publishes).trans shrunk.grown

/-- A run that succeeds leaves no object of the node but those of cards. -/
theorem card_of_left {n : Nat} (h : (place.publish cards).run.Runs events (.ok n))
    (follows : Follows (serveSearch search server.handle) state events after)
    (filed : ApiObject.Filed (server.objects state))
    (stored : (server.objects after).get? name = some object)
    (selected : server.selects (nodeSelector place.node) (ApiObject.label? object) = true) :
    ∃ card ∈ cards, place.cardName card = name := by
  by_contra other
  obtain ⟨publishing, published, devices, sweeping, rfl, whole, sweep, -⟩ := runs_publish_ok h
  obtain ⟨mid, publishes, answered, sweeps⟩ := follows_append_iff.1 follows
  have shrunk : Shrunk (server.objects mid) (server.objects after) := by
    have rest := shrunk_of_follows (only_deleteOthers _ _ _ _ sweep) sweeps
    rwa [serveSearch_snd, ApiServer.objects_list] at rest
  have filed := (grown_of_follows whole publishes).filed filed
  obtain ⟨device, mem, rfl⟩ := ApiObject.exists_listed_of_stored filed
    (ApiServer.handle_ok answered.symm).1 (shrunk _ _ stored) selected
  have unpublished : device.name ∉ published := fun listed =>
    other (((runs_publishCards_ok whole _).1 listed).resolve_right List.not_mem_nil)
  -- Its deletion was answered, so the object was gone then, and it has not come back.
  obtain ⟨earlier, later, rfl⟩ :=
    List.append_of_mem (mem_of_deleteOthers sweep mem unpublished)
  obtain ⟨before, -, deleted, rest⟩ := follows_append_iff.1 sweeps
  have gone : server.objects (server.handle (.delete device.name) before).2 =
      (server.objects before).erase device.name := (ApiServer.handle_ok deleted.symm).2
  have kept := shrunk_of_follows (fun event mem =>
    only_deleteOthers _ _ _ _ sweep event (by simp [mem])) rest _ _ stored
  rw [serveSearch_snd, gone, Dict.get?_erase, if_pos rfl] at kept
  cases kept

/-- An object that is there at first and not in the end goes away in between. -/
theorem exists_gone (follows : Follows (serveSearch search server.handle) state events after)
    (there : (server.objects state).get? name = some object)
    (gone : (server.objects after).get? name = none) :
    ∃ first event last before later, events = first ++ event :: last ∧
      Follows (serveSearch search server.handle) state first before ∧
      (server.objects before).get? name = some later ∧
      (server.objects (serveSearch search server.handle event.call before).2).get? name = none := by
  induction events generalizing state object with
  | nil =>
      obtain rfl : after = state := follows
      cases there.symm.trans gone
  | cons event rest ih =>
      cases next : (server.objects
          (serveSearch search server.handle event.call state).2).get? name with
      | none => exact ⟨[], event, rest, state, object, rfl, rfl, there, next⟩
      | some later =>
          obtain ⟨first, other, last, before, later, rfl, told, stored, gone⟩ := ih follows.2 next
          exact ⟨event :: first, other, last, before, later, rfl, ⟨follows.1, told⟩, stored, gone⟩

/-- A run is one of a publisher that the search has given cards, or it does nothing. -/
theorem run_cases {iterate : Dict Status → List Status} {result : Except DaemonError Nat}
    (h : server.run search (place.discoverAndPublishBy iterate) state = (result, after)) :
    (∃ cause, search = .error cause ∧ result = .error (.manager cause) ∧ after = state) ∨
      ∃ cards events, search = .ok cards ∧ (place.publish (iterate cards)).run.Runs events result ∧
        Follows (serveSearch search server.handle) state events after := by
  have runs := runs_trace (serveSearch search server.handle)
    (place.discoverAndPublishBy iterate).run state
  have follows := follows_trace (serveSearch search server.handle)
    (place.discoverAndPublishBy iterate).run state
  rw [ApiServer.run] at h
  rw [h] at runs follows
  rcases runs_discoverAndPublishBy runs with ⟨cause, told, rfl⟩ | ⟨cards, rest, told, published⟩
  · rw [told] at follows
    exact .inl ⟨cause, follows.1.symm, rfl, follows.2⟩
  · rw [told] at follows
    exact .inr ⟨cards, rest, follows.1.symm, published, follows.2⟩

end Server

theorem cardName_congr {place : Place} {card other : Status}
    (type : other.deviceType = card.deviceType) (serial : other.serialNumber = card.serialNumber) :
    place.cardName other = place.cardName card := by
  rw [cardName, cardName, deviceName, deviceName, type, serial]

end Place

/-- What a search for cards comes to in a world. -/
def Engine.searchIn [PciNames] (engine : Engine) (world : World) :
    Except EngineError (Dict Status) :=
  (engine.searchSystem.run World.handle world).1

namespace Place

/-- Publishing twice on a node, where in the second world some ids of functions can no longer be
read, and the tools answer alike. If the first run succeeds, then an object that it left and that is
gone after the second one is the object of a card which the first run found, and of none that the
second world still shows. -/
theorem second_run_deletes_unshown [TimeFormat] [PciNames] {σ : Type} (place : Place)
    (engine : Engine) (world later : World) (dimmed : world.Dimmed later)
    (agree : ToolsAgree (engine.searchSystem.trace World.handle world)
      (engine.searchSystem.trace World.handle later))
    (server : ApiServer σ) (state left after : σ) (iterate another : Dict Status → List Status)
    (order : ∀ found, (iterate found).Perm found.values)
    (order' : ∀ found, (another found).Perm found.values) (n : Nat)
    (again : Except DaemonError Nat) (filed : ApiObject.Filed (server.objects state))
    (first : server.run (engine.searchIn world) (place.discoverAndPublishBy iterate) state =
      (.ok n, left))
    (second : server.run (engine.searchIn later) (place.discoverAndPublishBy another) left =
      (again, after)) :
    ∃ cards, engine.searchIn world = .ok cards ∧
      ∀ name object, (server.objects left).get? name = some object →
        (server.objects after).get? name = none →
        (∃ card ∈ cards.values, place.cardName card = name) ∧
          ∀ card ∈ cards.values, place.cardName card = name → ¬ later.Shows card := by
  rcases run_cases first with ⟨_, -, no, -⟩ | ⟨cards, events, found, runs, follows⟩
  · cases no
  refine ⟨cards, found, fun name object stored gone => ?_⟩
  rcases run_cases second with ⟨_, -, -, rfl⟩ | ⟨seen, others, found', runs', follows'⟩
  · cases stored.symm.trans gone
  obtain ⟨_, _, _, _, _, split, told, there, gone⟩ := exists_gone follows' stored gone
  obtain ⟨other, selected, _, before, same⟩ := swept_of_gone runs'
    ((grown_of_run runs follows).filed filed) split told there gone
  obtain rfl := Option.some.inj (stored.symm.trans before)
  rw [ApiObject.label?_congr same] at selected
  obtain ⟨card, mem, own⟩ := card_of_left runs follows filed stored selected
  refine ⟨⟨card, (order cards).mem_iff.1 mem, own⟩, fun card mem own shows => ?_⟩
  obtain ⟨sights, searched⟩ :=
    Engine.exists_searched (runs_of_trace rfl found) (follows_of_trace rfl)
  obtain ⟨seenAgain, searched'⟩ :=
    Engine.exists_searched (runs_of_trace rfl found') (follows_of_trace rfl)
  obtain ⟨⟨serial, _⟩, entry, rfl⟩ := List.mem_map.1 mem
  obtain ⟨again, stored', type, number⟩ :=
    searched.found_again searched' dimmed agree (Dict.mem_entries_iff.1 entry) shows
  refine other again ((order' seen).mem_iff.2 ?_) ((cardName_congr type number).trans own)
  exact List.mem_map_of_mem (Dict.mem_entries_iff.2 stored')

end Place

/-! ## A card that cannot be read for once -/

namespace Place

open scoped Rfc3339 Sample

/-- The bytes of a text in ASCII. -/
def bytes (text : String) : List UInt8 := text.toList.map fun c => UInt8.ofNat c.toNat

/-- An entry with a name in UTF-8 in the directory of a function. -/
def entry (pci : String) (parts : List String) : List EntryName :=
  (SystemHost.devicePath pci ++ parts).map .text

/-- The ids of a network card's function. -/
def idFiles (pci : String) (vendor : Content) : List (List EntryName × Content) := [
  (entry pci ["vendor"], vendor),
  (entry pci ["device"], .file (bytes "0x101d\n")),
  (entry pci ["class"], .file (bytes "0x020000\n"))]

def vendorFile : Content := .file (bytes "0x15b3\n")

/-- What the tools say of a card and of its firmware. -/
def vpdReply (serial : String) : ToolReply := { stdout := bytes ("PN: P\nSN: " ++ serial ++ "\n") }
def queryReply : ToolReply := { stdout := bytes "FW Version: 1\nPSID: M\n" }

/-- A node with two cards. -/
def brightWorld : World where
  tree := idFiles "3b.0" vendorFile ++ idFiles "af.0" vendorFile
  tools := Dict.ofList [("mstvpd", [vpdReply "a", vpdReply "b"]), ("mstflint", [queryReply])]

/-- The same node while the vendor of one function cannot be read. -/
def dimWorld : World where
  tree := idFiles "3b.0" .directory ++ idFiles "af.0" vendorFile
  tools := Dict.ofList [("mstvpd", [vpdReply "b"]), ("mstflint", [queryReply])]

def searcher : Engine := { node := "w" }

/-- What a run of a publisher comes to on the node, and the objects that it leaves. -/
def publishedOn (world : World) (objects : Dict Json) : Except DaemonError Nat × Dict Json :=
  workerServer.run (searcher.searchIn world) worker.discoverAndPublish objects

theorem publishedOn_eq (world : World) (objects : Dict Json) : publishedOn world objects =
    ((publishedOn world objects).1, (publishedOn world objects).2) := rfl

theorem mem_of_lists_brightWorld {pci : String} (entry : brightWorld.Lists pci) :
    pci ∈ ["3b.0", "af.0"] := by
  obtain ⟨entries, listed, name, mem, rfl⟩ := entry
  have names : brightWorld.listDirectory SystemHost.devicesPath =
      .ok [.text "3b.0", .text "af.0"] := by
    decide +kernel
  obtain rfl := Except.ok.inj (names.symm.trans listed)
  rcases List.mem_cons.1 mem with rfl | mem
  · exact List.mem_cons_self
  · rw [List.mem_singleton.1 mem]
    exact List.mem_cons_of_mem _ List.mem_cons_self

theorem dimmed_dimWorld : brightWorld.Dimmed dimWorld where
  listed := by decide +kernel
  kinds pci entry := by
    have each : ∀ pci ∈ ["3b.0", "af.0"], dimWorld.isVirtual pci = brightWorld.isVirtual pci := by
      decide +kernel
    exact each pci (mem_of_lists_brightWorld entry)
  ids pci entry := by
    have each : ∀ pci ∈ ["3b.0", "af.0"], ∀ name ∈ ["vendor", "device", "class"],
        dimWorld.text? (SystemHost.devicePath pci ++ [name]) = none ∨
          dimWorld.text? (SystemHost.devicePath pci ++ [name]) =
            brightWorld.text? (SystemHost.devicePath pci ++ [name]) := by
      decide +kernel
    exact each pci (mem_of_lists_brightWorld entry)

theorem toolsAgree_dimWorld : ToolsAgree (searcher.searchSystem.trace World.handle brightWorld)
    (searcher.searchSystem.trace World.handle dimWorld) := by
  decide +kernel

/-- The objects after both cards were published. -/
def brightObjects : Dict Json := (publishedOn brightWorld {}).2

theorem publishedOn_brightWorld : (publishedOn brightWorld {}).1 = .ok 2 ∧
    brightObjects.names = ["w-101d-a", "w-101d-b"] := by
  decide +kernel

theorem publishedOn_dimWorld : (publishedOn dimWorld brightObjects).1 = .ok 1 ∧
    (publishedOn dimWorld brightObjects).2.names = ["w-101d-b"] := by
  decide +kernel

theorem publishedOn_brightWorld_eq : publishedOn brightWorld {} = (.ok 2, brightObjects) := by
  rw [brightObjects, ← publishedOn_brightWorld.1]

theorem unreadable_card_unshown :
    ∃ cards, searcher.searchIn brightWorld = .ok cards ∧
      (∃ card ∈ cards.values, worker.cardName card = "w-101d-a") ∧
      ∀ card ∈ cards.values, worker.cardName card = "w-101d-a" → ¬ dimWorld.Shows card := by
  obtain ⟨object, stored⟩ : ∃ object, brightObjects.get? "w-101d-a" = some object :=
    Dict.mem_names_iff.1 (by rw [publishedOn_brightWorld.2]; exact List.mem_cons_self)
  have gone : (publishedOn dimWorld brightObjects).2.get? "w-101d-a" = none := by
    refine Option.eq_none_iff_forall_ne_some.2 fun object stored => ?_
    have mem := Dict.mem_names_iff.2 ⟨object, stored⟩
    rw [publishedOn_dimWorld.2] at mem
    exact absurd mem (by decide)
  obtain ⟨cards, found, unshown⟩ := second_run_deletes_unshown worker searcher brightWorld dimWorld
    dimmed_dimWorld toolsAgree_dimWorld workerServer {} brightObjects
    (publishedOn dimWorld brightObjects).2 Dict.values Dict.values (fun _ => .refl _)
    (fun _ => .refl _) 2 (publishedOn dimWorld brightObjects).1 nofun publishedOn_brightWorld_eq
    (publishedOn_eq dimWorld brightObjects)
  have unshown := unshown "w-101d-a" object
  rw [show workerServer.objects = id from rfl] at unshown
  exact ⟨cards, found, unshown stored gone⟩

/-- The object of a card is deleted while its function cannot be read. -/
theorem unreadable_card_deleted :
    brightWorld.Dimmed dimWorld ∧
      ToolsAgree (searcher.searchSystem.trace World.handle brightWorld)
        (searcher.searchSystem.trace World.handle dimWorld) ∧
      (publishedOn brightWorld {}).1 = .ok 2 ∧
      brightObjects.names = ["w-101d-a", "w-101d-b"] ∧
      (publishedOn dimWorld brightObjects).1 = .ok 1 ∧
      (publishedOn dimWorld brightObjects).2.names = ["w-101d-b"] :=
  ⟨dimmed_dimWorld, toolsAgree_dimWorld, publishedOn_brightWorld.1, publishedOn_brightWorld.2,
    publishedOn_dimWorld⟩

end Place

end NicKeeper
