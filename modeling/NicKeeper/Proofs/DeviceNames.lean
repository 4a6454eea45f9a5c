import Mathlib.Data.List.Nodup
import NicKeeper.Proofs.CardLabels
import NicKeeper.Proofs.Rediscovery

/-!
# The names of cards

A card's resource is named after the node, the card's type and its serial number, with hyphens
between them and everything in lowercase. Node and serial number may have hyphens of their own, and
lowercase is told by the letters around, so two things have to be said before a name can be taken
apart. A hyphen cuts the text for the rules of lowercase as well (`toList_deviceName`), so the parts
of a name are what they would be alone. And of cards on one node the hyphen after the type is the
first one behind the node, if types have none (`lower_eq_of_deviceName_eq`).

Names are then equal only if the serial numbers are equal in lowercase. A search has taken its
serial numbers from labels, where they are in lowercase already (`Engine.lowered_of_search`), and
it has one card for each of them. So no two cards share a resource, and a publisher tells each
resource of one card only.
-/

namespace NicKeeper

open Program

/-! ## Names -/

/-- The parts of a name do not see one another. -/
theorem toList_deviceName (node : String) (card : Identity) :
    (deviceName node card).toList = Text.lower node.toList ++ '-' ::
      (Text.lower card.deviceType.toList ++ '-' :: Text.lower card.serialNumber.toList) := by
  have whole : (node ++ "-" ++ card.deviceType ++ "-" ++ card.serialNumber).toList =
      node.toList ++ '-' :: (card.deviceType.toList ++ '-' :: card.serialNumber.toList) := by
    simp
  rw [deviceName, String.toList_ofList, whole, Text.lower_append_hyphen, Text.lower_append_hyphen]

theorem lower_eq_of_deviceName_eq {node : String} {card other : Identity}
    (plain : '-' ∉ card.deviceType.toList) (plain' : '-' ∉ other.deviceType.toList)
    (same : deviceName node card = deviceName node other) :
    Text.lower card.serialNumber.toList = Text.lower other.serialNumber.toList := by
  have parts := congrArg String.toList same
  rw [toList_deviceName, toList_deviceName, List.append_cancel_left_eq, List.cons.injEq] at parts
  exact (Text.eq_of_append_cons_eq (Text.hyphen_notMem_lowerAfter [] plain)
    (Text.hyphen_notMem_lowerAfter [] plain') parts.2).2

/-- A hyphen in a type can be taken for the one behind it. -/
example : deviceName "w" { deviceType := "a-b", serialNumber := "c" } =
    deviceName "w" { deviceType := "a", serialNumber := "b-c" } := by
  decide +kernel

/-! ## Cards of a search -/

theorem lower_of_ofVpd? {text : List Char} {label : CardLabel}
    (read : CardLabel.ofVpd? text = .ok label) :
    Text.lower label.serialNumber.toList = label.serialNumber.toList := by
  obtain ⟨part, number, -, -, -, -, rfl⟩ := CardLabel.ofVpd?_eq_ok_iff.1 read
  rw [String.toList_ofList, Text.lower_lower]

theorem SystemHost.exists_text_of_runs [PciNames] {pci : String} {told : List (Event systemService)}
    {label : CardLabel} (h : (answer (.cardLabel pci)).Runs told (.ok label)) :
    ∃ text, CardLabel.ofVpd? text = .ok label := by
  obtain ⟨text, _, _, -, -, parsed⟩ := runs_bindT_ok h
  exact ⟨text, (runs_done_iff.1 parsed).2.symm⟩

namespace Engine

variable [PciNames] {engine : Engine} {events : List (Event systemService)} {cards : Dict Status}
  {serial : String} {card : Status}

/-- A card has the serial number that it is found by, and that is in lowercase. -/
theorem lowered_of_search (h : engine.searchSystem.Runs events (.ok cards))
    (stored : cards.get? serial = some card) :
    card.serialNumber = serial ∧ Text.lower serial.toList = serial.toList := by
  obtain ⟨sights, steps, groups, told, -, each⟩ := runs_searchSystem h
  obtain ⟨first, label, firmware, leads, named, rfl, -, rfl⟩ := groups.card serial card stored
  obtain ⟨reply, -, ran⟩ := exists_label_run groups told each (List.mem_of_find?_eq_some leads)
  rw [named] at ran
  obtain ⟨text, read⟩ := SystemHost.exists_text_of_runs ran
  exact ⟨rfl, lower_of_ofVpd? read⟩

theorem eq_of_deviceName_eq (h : engine.searchSystem.Runs events (.ok cards)) {other : Status}
    (mem : card ∈ cards.values) (mem' : other ∈ cards.values)
    (plain : '-' ∉ card.deviceType.toList) (plain' : '-' ∉ other.deviceType.toList) {node : String}
    (same : deviceName node card.toIdentity = deviceName node other.toIdentity) :
    card = other := by
  obtain ⟨⟨serial, card⟩, entry, rfl⟩ := List.mem_map.1 mem
  obtain ⟨⟨serial', other⟩, entry', rfl⟩ := List.mem_map.1 mem'
  rw [Dict.mem_entries_iff] at entry entry'
  obtain ⟨rfl, lowered⟩ := lowered_of_search h entry
  obtain ⟨rfl, lowered'⟩ := lowered_of_search h entry'
  have serials := lower_eq_of_deviceName_eq plain plain' same
  rw [lowered, lowered', String.toList_inj] at serials
  rw [← serials, entry] at entry'
  exact Option.some.inj entry'

end Engine

/-! ## Calls that succeed -/

namespace Publishing

variable {events : List (Event publishService)}

theorem runs_api_ok {call : ApiCall} {value : call.Value}
    (h : (api call).run.Runs events (.ok value)) : events = [⟨.api call, .ok value⟩] := by
  obtain ⟨answer, rfl, same⟩ := runs_api_iff.1 h
  rw [eq_ok_of_mapError same]

end Publishing

namespace Place

variable {place : Place} {cards : List Status} {events : List (Event publishService)}

theorem distinct_of_search [PciNames] {engine : Engine} {told : List (Event systemService)}
    {found : Dict Status} (h : engine.searchSystem.Runs told (.ok found))
    (order : cards.Perm found.values) (plain : ∀ card ∈ cards, '-' ∉ card.deviceType.toList) :
    place.Distinct cards := by
  have nodup : found.values.Nodup := by
    have serials : found.values.map (·.serialNumber) = found.names := by
      rw [Dict.values, Dict.names, List.map_map]
      refine List.map_congr_left fun entry mem => ?_
      exact (Engine.lowered_of_search h (Dict.mem_entries_iff.1 mem)).1
    exact List.Nodup.of_map _ (serials ▸ found.nodup_names)
  refine (order.nodup_iff.2 nodup).imp_of_mem fun mem mem' other same => other ?_
  exact Engine.eq_of_deviceName_eq h (order.mem_iff.1 mem) (order.mem_iff.1 mem') (plain _ mem)
    (plain _ mem') same

/-! ## Resources of their own -/

/-- In the course of these calls a card's resource was found, or it was made. -/
def Obtained (place : Place) (events : List (Event publishService)) (card : Status) : Prop :=
  ∃ device, ⟨.api (.get (place.cardName card)), .ok (some device)⟩ ∈ events ∨
    ⟨.api (.create (place.newDevice (place.cardName card))), .ok device⟩ ∈ events

theorem Obtained.mono {more : List (Event publishService)} {card : Status}
    (h : place.Obtained events card) (within : ∀ event ∈ events, event ∈ more) :
    place.Obtained more card := by
  obtain ⟨device, found | made⟩ := h
  · exact ⟨device, .inl (within _ found)⟩
  · exact ⟨device, .inr (within _ made)⟩

theorem obtained_of_publishCard {card : Status}
    (h : (place.publishCard (place.cardName card) card.toIdentity).run.Runs events (.ok ())) :
    place.Obtained events card := by
  obtain ⟨device, ensuring, later, rfl, ensured, -⟩ := runs_bindT_ok h
  obtain ⟨device?, looking, making, rfl, looked, made⟩ := runs_bindT_ok ensured
  obtain rfl := Publishing.runs_api_ok looked
  cases device? with
  | some device => exact ⟨device, .inl (by simp)⟩
  | none =>
      obtain rfl := Publishing.runs_api_ok made
      exact ⟨device, .inr (by simp)⟩

/-- Cards with names of their own are counted once each. -/
theorem obtained_of_publishCards {published names : List String}
    (h : (place.publishCards published cards).run.Runs events (.ok names))
    (distinct : place.Distinct cards) (fresh : ∀ card ∈ cards, place.cardName card ∉ published) :
    names.length = published.length + cards.length ∧
      ∀ card ∈ cards, place.Obtained events card := by
  induction cards generalizing published events with
  | nil =>
      obtain ⟨-, same⟩ := runs_pureT_iff.1 h
      cases same
      exact ⟨rfl, List.forall_mem_nil _⟩
  | cons card rest ih =>
      obtain ⟨other, distinct⟩ := List.pairwise_cons.1 distinct
      obtain ⟨new, fresh⟩ := List.forall_mem_cons.1 fresh
      obtain ⟨⟨⟩, first, last, rfl, own, later⟩ := runs_bindT_ok h
      have unlisted : published.contains (deviceName place.node card.toIdentity) = false := by
        simpa [cardName] using new
      rw [if_neg (Bool.eq_false_iff.1 unlisted)] at later
      obtain ⟨length, each⟩ := ih later distinct fun card mem =>
        List.not_mem_cons_of_ne_of_not_mem (other card mem).symm (fresh card mem)
      refine ⟨by simp [length]; omega, List.forall_mem_cons.2 ⟨?_, fun card mem => ?_⟩⟩
      · exact (obtained_of_publishCard own).mono fun _ => List.mem_append_left _
      · exact (each card mem).mono fun _ => List.mem_append_right _

/-- What a publisher writes to a resource is who one of the cards with its name is. -/
theorem only_publish_patch (cards : List Status) :
    Only (S := publishService) (fun call => ∀ name patch, call = .api (.patchStatus name patch) →
      ∃ card ∈ cards, name = place.cardName card ∧ patch = card.toIdentity.patch)
      (place.publish cards).run := by
  refine Only.bindT ((only_publishCards [] cards).mono ?_) fun published =>
    Only.bindT (only_ask nofun fun _ => only_done _) fun devices =>
      Only.bindT ((only_deleteOthers published devices).mono ?_) fun _ => only_done _
  · rintro call publishes name patch rfl
    cases publishes with
    | tell mem => exact ⟨_, mem, rfl, rfl⟩
  · rintro call ⟨device, -, -, deletion⟩ name patch rfl
    cases deletion

theorem obtained_of_publish {n : Nat} (h : (place.publish cards).run.Runs events (.ok n))
    (distinct : place.Distinct cards) :
    n = cards.length ∧ ∀ card ∈ cards, place.Obtained events card := by
  obtain ⟨publishing, published, devices, sweeping, rfl, whole, -, rfl⟩ := runs_publish_ok h
  obtain ⟨length, each⟩ := obtained_of_publishCards whole distinct fun _ _ => List.not_mem_nil
  refine ⟨by simpa using length, fun card mem => ?_⟩
  exact (each card mem).mono fun _ => List.mem_append_left _

/-- Cards that were found by one search on a node, whatever its files and tools have answered, have
names of their own if their types have no hyphens: on any node, two names are equal only if the
serial numbers are, and then it is one card. So a publisher that goes through the cards, in
whichever order and whatever a server answers, writes to the resource of a card only who this card
is. When it succeeds there are as many resources as cards, and for each card its resource was found
or made. -/
theorem search_names_cards_apart [PciNames] (engine : Engine) (told : List (Event systemService))
    (found : Dict Status) (h : engine.searchSystem.Runs told (.ok found)) :
    (∀ node, ∀ card ∈ found.values, ∀ other ∈ found.values,
      '-' ∉ card.deviceType.toList → '-' ∉ other.deviceType.toList →
      deviceName node card.toIdentity = deviceName node other.toIdentity →
        card.serialNumber = other.serialNumber ∧ card = other) ∧
    ∀ (place : Place) (cards : List Status), cards.Perm found.values →
      (∀ card ∈ cards, '-' ∉ card.deviceType.toList) →
      place.Distinct cards ∧
      ∀ (events : List (Event publishService)) (result : Except DaemonError Nat),
        (place.publish cards).run.Runs events result →
        (∀ card ∈ cards, ∀ patch answer,
          ⟨.api (.patchStatus (place.cardName card) patch), answer⟩ ∈ events →
          patch = card.toIdentity.patch) ∧
        ∀ n, result = .ok n → n = found.values.length ∧
          ∀ card ∈ cards, place.Obtained events card := by
  refine ⟨fun node card mem other mem' plain plain' same => ?_, ?_⟩
  · obtain rfl := Engine.eq_of_deviceName_eq h mem mem' plain plain' same
    exact ⟨rfl, rfl⟩
  · intro place cards order plain
    refine ⟨distinct_of_search h order plain, fun events result runs => ⟨?_, ?_⟩⟩
    · intro card mem patch answer written
      obtain ⟨other, mem', same, rfl⟩ :=
        only_publish_patch cards events result runs _ written _ _ rfl
      rw [Engine.eq_of_deviceName_eq h (order.mem_iff.1 mem) (order.mem_iff.1 mem') (plain _ mem)
        (plain _ mem') same]
    · rintro n rfl
      rw [← order.length_eq]
      exact obtained_of_publish runs (distinct_of_search h order plain)

/-! ## Serial numbers with hyphens -/

open scoped Rfc3339 Sample

/-- Two cards of one type. The serial number of the one is that of the other behind the type. -/
def hyphenedWorld : World where
  tree := idFiles "3b.0" vendorFile ++ idFiles "af.0" vendorFile
  tools := Dict.ofList [
    ("mstvpd", [vpdReply "MT-1", vpdReply "101D-MT-1"]), ("mstflint", [queryReply])]

/-- A node with a type in its name. -/
def hyphenedPlace : Place := { node := "w-101d", nspace := "default" }

theorem hyphened_cards_apart :
    ∃ cards events, (searcher.searchSystem.run World.handle hyphenedWorld).1 = .ok cards ∧
      cards.names = ["101d-mt-1", "mt-1"] ∧
      (∀ card ∈ cards.values, '-' ∉ card.deviceType.toList) ∧
      hyphenedPlace.Distinct cards.values ∧
      (hyphenedPlace.publish cards.values).run.Runs events (.ok 2) ∧
      ∀ card ∈ cards.values, hyphenedPlace.Obtained events card := by
  have told : (searcher.searchSystem.run World.handle hyphenedWorld).1.toOption.map (fun cards =>
      (cards.names, cards.values.all (!·.deviceType.toList.contains '-'),
        (workerServer.run (.ok cards) (hyphenedPlace.publish cards.values) {}).1.toOption)) =
      some (["101d-mt-1", "mt-1"], true, some 2) := by
    decide +kernel
  cases found : (searcher.searchSystem.run World.handle hyphenedWorld).1 with
  | error e =>
      rw [found] at told
      cases told
  | ok cards =>
      rw [found] at told
      obtain ⟨names, rest⟩ := Prod.mk.inj (Option.some.inj told)
      obtain ⟨types, published⟩ := Prod.mk.inj rest
      have plain : ∀ card ∈ cards.values, '-' ∉ card.deviceType.toList := by
        simpa using types
      have runs := runs_trace (serveSearch (.ok cards) workerServer.handle)
        (hyphenedPlace.publish cards.values).run {}
      generalize (hyphenedPlace.publish cards.values).run.trace
        (serveSearch (.ok cards) workerServer.handle) {} = events at runs
      rw [← ApiServer.run] at runs
      cases ends : (workerServer.run (.ok cards) (hyphenedPlace.publish cards.values) {}).1 with
      | error e =>
          rw [ends] at published
          cases published
      | ok n =>
          rw [ends] at published runs
          obtain rfl : n = 2 := Option.some.inj published
          obtain ⟨-, apart⟩ := search_names_cards_apart searcher _ cards (runs_of_trace rfl found)
          obtain ⟨distinct, own⟩ := apart hyphenedPlace cards.values (.refl _) plain
          obtain ⟨-, obtained⟩ := (own events _ runs).2 2 rfl
          exact ⟨cards, events, rfl, names, plain, distinct, runs, obtained⟩

end Place

end NicKeeper
