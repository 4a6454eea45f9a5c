import Mathlib.Data.List.Perm.Basic
import NicKeeper.Proofs.EngineRuns

/-!
# The cards that a search finds

A search goes through the functions that a host lists and asks about one after the other. What the
host says of a function is a `Sight`; it may say something else of the same function when it is
listed again. `conversation` is what is asked about a list of sights, in order, and every run of a
search is such a conversation. Nothing is asked about functions of others, and nothing but whether
it is a virtual one about those that do not survive, so no fault of theirs can end the search.

The invariant is that the cards found so far group the sights that have survived so far
(`Engine.Groups`): there is a card for each serial number, its ports are the sights of this number
in their order, and the rest of it is read off the first of them. Each surviving sight either ends
the search or is put in at the end of its own group (`Groups.add`), and the other groups do not see
it. That nothing is lost or told twice is then a fact on lists that are split by a key
(`flatMap_filter_perm`).
-/

namespace NicKeeper

open Program

/-- What a host says of a function that it lists, at the time it is asked. -/
structure Sight where
  function : PciFunction
  isVirtual : Bool
  label : Except HostError CardLabel
  firmware : Except HostError FirmwareLabel
  interface : Option String
  rdma : Option String

namespace Sight

/-- The network functions of the vendor that are not virtual. -/
def survives (sight : Sight) : Bool := sight.function.isNetwork && !sight.isVirtual

def serial? (sight : Sight) : Option String := sight.label.toOption.map (·.serialNumber)

def port (sight : Sight) : Port where
  pci := sight.function.address
  networkInterface := sight.interface.getD ""
  rdmaInterface := sight.rdma.getD ""

/-- What is asked about every function that becomes a port. -/
def names (sight : Sight) : List (Event hostService) :=
  [⟨.interfaceName sight.function.address, sight.interface⟩,
    ⟨.rdmaInterfaceName sight.function.address, sight.rdma⟩]

/-- What a search asks about functions and is told, when cards with these serial numbers are known
already. The firmware is asked for once for each card, and a look-up that fails is the last. -/
def conversation (known : List String) : List Sight → List (Event hostService)
  | [] => []
  | sight :: rest =>
    if !sight.function.isNetwork then conversation known rest
    else ⟨.isVirtualFunction sight.function.address, sight.isVirtual⟩ ::
      if sight.isVirtual then conversation known rest
      else ⟨.cardLabel sight.function.address, sight.label⟩ ::
        match sight.label with
        | .error _ => []
        | .ok label =>
          if label.serialNumber ∈ known then sight.names ++ conversation known rest
          else ⟨.firmwareLabel sight.function.address, sight.firmware⟩ ::
            match sight.firmware with
            | .error _ => []
            | .ok _ => sight.names ++ conversation (label.serialNumber :: known) rest

def survivors (sights : List Sight) : List Sight := sights.filter (·.survives)

/-- A look-up fails that a search cannot do without: the label of one of these functions, or the
firmware of the first one with its serial number. -/
def Unidentified (found : List Sight) : Prop :=
  (∃ sight ∈ found, ∃ cause, sight.label = .error cause) ∨
    ∃ serial sight cause, found.find? (·.serial? = some serial) = some sight ∧
      sight.firmware = .error cause

end Sight

open Sight (conversation survivors Unidentified)

namespace Engine

variable {engine : Engine} {cards : Dict Status} {function : PciFunction} {found : List Sight}
  {sight : Sight} {label : CardLabel} {firmware : FirmwareLabel}

/-- The card of some sights with one serial number, as the first of them describes it. -/
def cardOfSights (engine : Engine) (first : Sight) (label : CardLabel) (firmware : FirmwareLabel)
    (sights : List Sight) : Status where
  node := engine.node
  deviceType := first.function.productId
  serialNumber := label.serialNumber
  partNumber := label.partNumber
  psid := firmware.psid
  firmwareVersion := firmware.version
  ports := sights.map Sight.port
  state := .pending
  rebootRequired := false
  error := none
  lastReconciled := none

/-- The cards group what was found by serial numbers. -/
structure Groups (engine : Engine) (found : List Sight) (cards : Dict Status) : Prop where
  serials : ∀ serial, (∃ card, cards.get? serial = some card) ↔
    ∃ sight ∈ found, sight.serial? = some serial
  labelled : ∀ sight ∈ found, ∃ label, sight.label = .ok label
  card : ∀ serial card, cards.get? serial = some card → ∃ first label firmware,
    found.find? (·.serial? = some serial) = some first ∧
      first.label = .ok label ∧ label.serialNumber = serial ∧ first.firmware = .ok firmware ∧
      card = engine.cardOfSights first label firmware (found.filter (·.serial? = some serial))

theorem groups_nil (engine : Engine) : engine.Groups [] {} where
  serials _ := iff_of_false (fun ⟨_, no⟩ => nomatch no) (fun ⟨_, no, _⟩ => nomatch no)
  labelled _ no := nomatch no
  card _ _ no := nomatch no

theorem serial?_of_label (h : sight.label = .ok label) :
    sight.serial? = some label.serialNumber := by
  rw [Sight.serial?, h]
  rfl

/-- A sight goes into the group of its serial number, and into no other. -/
theorem Groups.add (h : engine.Groups found cards) (own : sight.label = .ok label)
    {first : Sight} {given : CardLabel}
    (leads : (found ++ [sight]).find? (·.serial? = some label.serialNumber) = some first)
    (named : first.label = .ok given) (same : given.serialNumber = label.serialNumber)
    (versioned : first.firmware = .ok firmware) :
    engine.Groups (found ++ [sight]) (cards.insert label.serialNumber
      (engine.cardOfSights first given firmware
        ((found ++ [sight]).filter (·.serial? = some label.serialNumber)))) where
  serials serial := by
    rw [Dict.get?_insert]
    split
    · next eq =>
        refine iff_of_true ⟨_, rfl⟩ ⟨sight, by simp, ?_⟩
        rw [serial?_of_label own, eq]
    · next other =>
        rw [h.serials serial]
        constructor
        · rintro ⟨earlier, mem, eq⟩
          exact ⟨earlier, List.mem_append_left _ mem, eq⟩
        · rintro ⟨earlier, mem, eq⟩
          rcases List.mem_append.1 mem with mem | mem
          · exact ⟨earlier, mem, eq⟩
          · rw [List.mem_singleton.1 mem, serial?_of_label own] at eq
            exact absurd (Option.some.inj eq) other
  labelled earlier mem := by
    rcases List.mem_append.1 mem with mem | mem
    · exact h.labelled earlier mem
    · exact List.mem_singleton.1 mem ▸ ⟨label, own⟩
  card serial card stored := by
    rw [Dict.get?_insert] at stored
    split at stored
    · next eq =>
        subst eq
        exact ⟨first, given, firmware, leads, named, same, versioned,
          (Option.some.inj stored).symm⟩
    · next other =>
        have apart : ¬ sight.serial? = some serial := by
          rw [serial?_of_label own]
          exact fun eq => other (Option.some.inj eq)
        obtain ⟨first, given, firmware, leads, rest⟩ := h.card serial card stored
        refine ⟨first, given, firmware, ?_, ?_⟩
        · rw [List.find?_append, leads]
          rfl
        · have alone : [sight].filter (·.serial? = some serial) = [] := by simp [apart]
          rw [List.filter_append, alone, List.append_nil]
          exact rest

/-! ## One function -/

/-- How a function is entered as a port, by what is answered: a look-up fails, or its card is known,
or it is the first of a new one. -/
inductive Entered (engine : Engine) (cards : Dict Status) (sight : Sight) :
    List (Event hostService) → Except EngineError (Dict Status) → Prop where
  | unlabelled {cause : HostError} (failed : sight.label = .error cause) :
      Entered engine cards sight [⟨.cardLabel sight.function.address, .error cause⟩]
        (.error (.host cause))
  | unversioned {label : CardLabel} {cause : HostError} (labelled : sight.label = .ok label)
      (new : cards.get? label.serialNumber = none) (failed : sight.firmware = .error cause) :
      Entered engine cards sight
        [⟨.cardLabel sight.function.address, .ok label⟩,
          ⟨.firmwareLabel sight.function.address, .error cause⟩]
        (.error (.host cause))
  | known {label : CardLabel} {card : Status} (labelled : sight.label = .ok label)
      (stored : cards.get? label.serialNumber = some card) :
      Entered engine cards sight
        (⟨.cardLabel sight.function.address, .ok label⟩ :: sight.names)
        (.ok (cards.insert label.serialNumber { card with ports := card.ports ++ [sight.port] }))
  | new {label : CardLabel} {firmware : FirmwareLabel} (labelled : sight.label = .ok label)
      (new : cards.get? label.serialNumber = none) (versioned : sight.firmware = .ok firmware) :
      Entered engine cards sight
        (⟨.cardLabel sight.function.address, .ok label⟩ ::
          ⟨.firmwareLabel sight.function.address, .ok firmware⟩ :: sight.names)
        (.ok (cards.insert label.serialNumber (engine.cardOfSights sight label firmware [sight])))

/-- A call, and what is done with its answer. -/
theorem runs_ask_bind {α : Type} {call : HostCall} {next : call.Answer → Work α}
    {events : List (Event hostService)} {result : Except EngineError α}
    (h : (Work.ask call >>= next).run.Runs events result) :
    ∃ answer rest, events = ⟨call, answer⟩ :: rest ∧ (next answer).run.Runs rest result :=
  runs_ask_iff.1 h

theorem runs_addPort {events : List (Event hostService)} {result : Except EngineError (Dict Status)}
    (h : (engine.addPort cards function).run.Runs events result) :
    ∃ sight : Sight, sight.function = function ∧ sight.isVirtual = false ∧
      engine.Entered cards sight events result := by
  -- What is not asked about the function may be anything.
  have unasked : HostError := .notFound ""
  obtain ⟨labelled, rest, rfl, afterLabel⟩ := runs_ask_bind h
  cases labelled with
  | error cause =>
      obtain ⟨rfl, rfl⟩ := runs_done_iff.1 afterLabel
      exact ⟨⟨function, false, .error cause, .error unasked, none, none⟩, rfl, rfl,
        .unlabelled rfl⟩
  | ok label =>
      change (engine.cardOf cards function label >>= _).run.Runs rest result at afterLabel
      rw [cardOf] at afterLabel
      cases stored : cards.get? label.serialNumber with
      | some card =>
          rw [stored] at afterLabel
          obtain ⟨interface, _, rfl, afterName⟩ := runs_ask_bind afterLabel
          obtain ⟨rdma, _, rfl, last⟩ := runs_ask_bind afterName
          obtain ⟨rfl, rfl⟩ := runs_pureT_iff.1 last
          exact ⟨⟨function, false, .ok label, .error unasked, interface, rdma⟩, rfl, rfl,
            .known rfl stored⟩
      | none =>
          rw [stored] at afterLabel
          obtain ⟨versioned, _, rfl, afterFirmware⟩ := runs_ask_bind afterLabel
          cases versioned with
          | error cause =>
              obtain ⟨rfl, rfl⟩ := runs_done_iff.1 afterFirmware
              exact ⟨⟨function, false, .ok label, .error cause, none, none⟩, rfl, rfl,
                .unversioned rfl stored rfl⟩
          | ok firmware =>
              obtain ⟨interface, _, rfl, afterName⟩ := runs_ask_bind afterFirmware
              obtain ⟨rdma, _, rfl, last⟩ := runs_ask_bind afterName
              obtain ⟨rfl, rfl⟩ := runs_pureT_iff.1 last
              exact ⟨⟨function, false, .ok label, .ok firmware, interface, rdma⟩, rfl, rfl,
                .new rfl stored rfl⟩

theorem Groups.find?_eq_none (h : engine.Groups found cards) {serial : String}
    (new : cards.get? serial = none) : found.find? (·.serial? = some serial) = none := by
  refine List.find?_eq_none.2 fun earlier mem own => ?_
  obtain ⟨card, stored⟩ := (h.serials serial).2 ⟨earlier, mem, by simpa using own⟩
  cases new.symm.trans stored

theorem find?_of_new {rest : List Sight} (labelled : sight.label = .ok label)
    (none : found.find? (·.serial? = some label.serialNumber) = none) :
    (found ++ sight :: rest).find? (·.serial? = some label.serialNumber) = some sight := by
  rw [List.find?_append, none]
  simp [serial?_of_label labelled]

/-- A function that is entered as a port is put into its group. -/
theorem Entered.groups {events : List (Event hostService)} {after : Dict Status}
    (h : engine.Entered cards sight events (.ok after)) (before : engine.Groups found cards) :
    engine.Groups (found ++ [sight]) after := by
  cases h with
  | @known label card labelled stored =>
      obtain ⟨first, given, firmware, leads, named, same, versioned, rfl⟩ :=
        before.card _ card stored
      have grown : (found ++ [sight]).filter (·.serial? = some label.serialNumber) =
          found.filter (·.serial? = some label.serialNumber) ++ [sight] := by
        rw [List.filter_append]
        simp [serial?_of_label labelled]
      have leads : (found ++ [sight]).find? (·.serial? = some label.serialNumber) = some first := by
        rw [List.find?_append, leads]
        rfl
      have whole := before.add labelled leads named same versioned
      rw [grown] at whole
      simpa [cardOfSights] using whole
  | @new label firmware labelled new versioned =>
      have none := before.find?_eq_none new
      have alone : (found ++ [sight]).filter (·.serial? = some label.serialNumber) = [sight] := by
        rw [List.filter_append, List.filter_eq_nil_iff.2 (List.find?_eq_none.1 none)]
        simp [serial?_of_label labelled]
      have whole := before.add labelled (find?_of_new labelled none) labelled rfl versioned
      rwa [alone] at whole

/-- A function that ends the search could not be identified. -/
theorem Entered.unidentified {events : List (Event hostService)} {e : EngineError}
    (h : engine.Entered cards sight events (.error e)) (before : engine.Groups found cards)
    (rest : List Sight) :
    (∃ cause, e = .host cause) ∧ Unidentified (found ++ sight :: rest) := by
  cases h with
  | unlabelled failed => exact ⟨⟨_, rfl⟩, .inl ⟨sight, by simp, _, failed⟩⟩
  | unversioned labelled new failed =>
      exact ⟨⟨_, rfl⟩,
        .inr ⟨_, sight, _, find?_of_new labelled (before.find?_eq_none new), failed⟩⟩

/-- Where there are cards, every look-up was answered that they take. -/
theorem Groups.identified (h : engine.Groups found cards) : ¬ Unidentified found := by
  rintro (⟨sight, mem, cause, failed⟩ | ⟨serial, sight, cause, leads, failed⟩)
  · obtain ⟨label, labelled⟩ := h.labelled sight mem
    cases labelled.symm.trans failed
  · have own : sight.serial? = some serial := by simpa using List.find?_some leads
    obtain ⟨card, stored⟩ := (h.serials serial).2 ⟨sight, List.mem_of_find?_eq_some leads, own⟩
    obtain ⟨first, label, firmware, same, -, -, versioned, -⟩ := h.card serial card stored
    obtain rfl := Option.some.inj (leads.symm.trans same)
    cases versioned.symm.trans failed

/-! ## All functions -/

/-- The serial numbers of the cards. -/
def Lists (known : List String) (cards : Dict Status) : Prop :=
  ∀ serial, serial ∈ known ↔ ∃ card, cards.get? serial = some card

theorem Lists.insert {known : List String} (h : Lists known cards) (serial : String)
    (card : Status) : Lists (serial :: known) (cards.insert serial card) := by
  intro other
  rw [List.mem_cons, Dict.get?_insert]
  split
  · next eq => exact iff_of_true (.inl eq.symm) ⟨card, rfl⟩
  · next differs => rw [← h other, or_iff_right fun eq => differs eq.symm]

theorem Lists.insert_known {known : List String} (h : Lists known cards) {serial : String}
    (card : Status) (mem : serial ∈ known) : Lists known (cards.insert serial card) := by
  intro other
  rw [Dict.get?_insert]
  split
  · next eq => exact iff_of_true (eq ▸ mem) ⟨card, rfl⟩
  · exact h other

theorem conversation_survivor {known : List String} {rest : List Sight}
    (own : sight.function.isNetwork = true) (physical : sight.isVirtual = false) :
    conversation known (sight :: rest) =
      ⟨.isVirtualFunction sight.function.address, false⟩ ::
        ⟨.cardLabel sight.function.address, sight.label⟩ ::
          match sight.label with
          | .error _ => []
          | .ok label =>
            if label.serialNumber ∈ known then sight.names ++ conversation known rest
            else ⟨.firmwareLabel sight.function.address, sight.firmware⟩ ::
              match sight.firmware with
              | .error _ => []
              | .ok _ => sight.names ++ conversation (label.serialNumber :: known) rest := by
  rw [conversation, own, physical]
  rfl

/-- What is asked about a function that is entered as a port, and which cards are known then. -/
theorem Entered.conversation_ok {known : List String} {events : List (Event hostService)}
    {after : Dict Status} (h : engine.Entered cards sight events (.ok after))
    (lists : Lists known cards) (own : sight.function.isNetwork = true)
    (physical : sight.isVirtual = false) :
    ∃ later, Lists later after ∧ ∀ rest, conversation known (sight :: rest) =
      ⟨.isVirtualFunction sight.function.address, false⟩ ::
        (events ++ conversation later rest) := by
  cases h with
  | known labelled stored =>
      have mem := (lists _).2 ⟨_, stored⟩
      refine ⟨known, lists.insert_known _ mem, fun rest => ?_⟩
      rw [conversation_survivor own physical, labelled]
      dsimp only
      rw [if_pos mem]
      rfl
  | new labelled new versioned =>
      refine ⟨_, lists.insert _ _, fun rest => ?_⟩
      have unlisted : _ ∉ known := fun mem => by
        obtain ⟨card, stored⟩ := (lists _).1 mem
        cases new.symm.trans stored
      rw [conversation_survivor own physical, labelled]
      dsimp only
      rw [if_neg unlisted, versioned]
      rfl

theorem Entered.conversation_error {known : List String} {events : List (Event hostService)}
    {e : EngineError} (h : engine.Entered cards sight events (.error e))
    (lists : Lists known cards) (own : sight.function.isNetwork = true)
    (physical : sight.isVirtual = false) (rest : List Sight) :
    conversation known (sight :: rest) =
      ⟨.isVirtualFunction sight.function.address, false⟩ :: events := by
  cases h with
  | unlabelled failed =>
      rw [conversation_survivor own physical, failed]
  | unversioned labelled new failed =>
      have unlisted : _ ∉ known := fun mem => by
        obtain ⟨card, stored⟩ := (lists _).1 mem
        cases new.symm.trans stored
      rw [conversation_survivor own physical, labelled]
      dsimp only
      rw [if_neg unlisted, failed]

/-- A function about which nothing matters. -/
def passedOver (function : PciFunction) : Sight where
  function := function
  isVirtual := true
  label := .error (.notFound "")
  firmware := .error (.notFound "")
  interface := none
  rdma := none

theorem survivors_passedOver (function : PciFunction) (rest : List Sight) :
    survivors (passedOver function :: rest) = survivors rest :=
  List.filter_cons_of_neg (by simp [Sight.survives, passedOver])

theorem survivors_cons_of_pos {rest : List Sight} (own : sight.function.isNetwork = true)
    (physical : sight.isVirtual = false) :
    survivors (sight :: rest) = sight :: survivors rest :=
  List.filter_cons_of_pos (by rw [Sight.survives, own, physical]; rfl)

/-- What the search for cards comes to: they group what has survived, or something could not be
identified. -/
def Concludes (engine : Engine) (found : List Sight) : Except EngineError (Dict Status) → Prop
  | .ok cards => engine.Groups found cards
  | .error e => (∃ cause, e = .host cause) ∧ Unidentified found

/-- A search that goes on from some cards is a conversation about the functions that are left. -/
theorem runs_addPorts {functions : List PciFunction} {known : List String}
    {events : List (Event hostService)} {result : Except EngineError (Dict Status)}
    (h : (engine.addPorts cards functions).run.Runs events result)
    (before : engine.Groups found cards) (lists : Lists known cards) :
    ∃ sights : List Sight, sights.map Sight.function = functions ∧
      events = conversation known sights ∧
      engine.Concludes (found ++ survivors sights) result := by
  induction functions generalizing cards found known events with
  | nil =>
      obtain ⟨rfl, rfl⟩ := runs_pureT_iff.1 h
      exact ⟨[], rfl, rfl, (List.append_nil found).symm ▸ before⟩
  | cons function rest ih =>
      rw [addPorts] at h
      split at h
      · next foreign =>
          obtain ⟨sights, listed, told, concludes⟩ := ih h before lists
          refine ⟨passedOver function :: sights, by rw [List.map_cons, listed]; rfl, ?_, ?_⟩
          · rw [told, conversation]
            exact (if_pos foreign).symm
          · rwa [survivors_passedOver]
      · next own =>
          have own : function.isNetwork = true := by simpa using own
          obtain ⟨isVirtual, later, rfl, afterKind⟩ := runs_ask_bind h
          cases isVirtual with
          | true =>
              obtain ⟨sights, listed, told, concludes⟩ := ih afterKind before lists
              refine ⟨passedOver function :: sights, by rw [List.map_cons, listed]; rfl, ?_, ?_⟩
              · rw [told, conversation]
                exact (if_neg (by simp [passedOver, own])).symm
              · rwa [survivors_passedOver]
          | false =>
              rcases runs_bindT_iff.1 afterKind with
                ⟨e, rfl, last⟩ | ⟨after, first, last, rfl, port, goOn⟩
              · obtain ⟨sight, rfl, physical, entered⟩ := runs_addPort last
                refine ⟨sight :: rest.map passedOver, ?_, ?_, ?_⟩
                · rw [List.map_cons, List.map_map]
                  exact congrArg _ (List.map_id rest)
                · exact (entered.conversation_error lists own physical _).symm
                · rw [survivors_cons_of_pos own physical]
                  exact entered.unidentified before _
              · obtain ⟨sight, rfl, physical, entered⟩ := runs_addPort port
                obtain ⟨later, lists, told⟩ := entered.conversation_ok lists own physical
                obtain ⟨sights, listed, rest, concludes⟩ := ih goOn (entered.groups before) lists
                refine ⟨sight :: sights, by rw [List.map_cons, listed], ?_, ?_⟩
                · rw [told, rest]
                · rw [survivors_cons_of_pos own physical, List.append_cons]
                  exact concludes

/-- A search is over when the functions cannot be listed; otherwise it is a conversation about all of
them. -/
theorem runs_discover {events : List (Event hostService)}
    {result : Except EngineError (Dict Status)} (h : engine.discover.run.Runs events result) :
    (∃ cause, events = [⟨.listFunctions, .error cause⟩] ∧ result = .error (.host cause)) ∨
      ∃ sights : List Sight,
        events = ⟨.listFunctions, .ok (sights.map Sight.function)⟩ :: conversation [] sights ∧
          engine.Concludes (survivors sights) result := by
  obtain ⟨listed, rest, rfl, afterList⟩ := runs_ask_bind h
  cases listed with
  | error cause =>
      obtain ⟨rfl, rfl⟩ := runs_done_iff.1 afterList
      exact .inl ⟨cause, rfl, rfl⟩
  | ok functions =>
      have nothing : Lists [] ({} : Dict Status) := fun serial =>
        iff_of_false List.not_mem_nil fun ⟨_, no⟩ => nomatch no
      obtain ⟨sights, rfl, rfl, concludes⟩ := runs_addPorts afterList engine.groups_nil nothing
      exact .inr ⟨sights, rfl, concludes⟩

/-! ## The ports of all cards -/

/-- A list that is split by a key is a rearrangement of its parts. -/
theorem flatMap_filter_perm {α κ : Type} [DecidableEq κ] (key : α → Option κ) {keys : List κ}
    (nodup : keys.Nodup) {values : List α}
    (all : ∀ value ∈ values, ∃ k ∈ keys, key value = some k) :
    (keys.flatMap fun k => values.filter (key · = some k)).Perm values := by
  induction keys generalizing values with
  | nil =>
      cases values with
      | nil => exact .nil
      | cons value rest =>
          obtain ⟨_, no, -⟩ := all value List.mem_cons_self
          cases no
  | cons k keys ih =>
      obtain ⟨other, nodup⟩ := List.nodup_cons.1 nodup
      have later : ∀ value ∈ values.filter fun value => !decide (key value = some k),
          ∃ k ∈ keys, key value = some k := by
        intro value mem
        obtain ⟨mem, differs⟩ := List.mem_filter.1 mem
        obtain ⟨own, among, eq⟩ := all value mem
        rcases List.mem_cons.1 among with rfl | among
        · simp [eq] at differs
        · exact ⟨own, among, eq⟩
      have same : (keys.flatMap fun own =>
          (values.filter fun value => !decide (key value = some k)).filter (key · = some own)) =
          keys.flatMap fun own => values.filter (key · = some own) := by
        refine List.flatMap_congr fun own mem => ?_
        rw [List.filter_filter]
        refine List.filter_congr fun value _ => ?_
        have differs : own ≠ k := fun eq => other (eq ▸ mem)
        by_cases eq : key value = some own <;> simp [eq, differs]
      rw [List.flatMap_cons, ← same]
      exact ((ih nodup later).append_left _).trans (List.filter_append_perm _ values)

theorem Groups.ports_perm (h : engine.Groups found cards) :
    (cards.values.flatMap (·.ports)).Perm (found.map Sight.port) := by
  have ports : cards.values.flatMap (·.ports) =
      (cards.names.flatMap fun serial =>
        found.filter (·.serial? = some serial)).map Sight.port := by
    rw [Dict.values, Dict.names, List.flatMap_map, List.flatMap_map, List.map_flatMap]
    refine List.flatMap_congr fun entry mem => ?_
    obtain ⟨first, label, firmware, -, -, -, -, eq⟩ :=
      h.card entry.1 entry.2 (Dict.mem_entries_iff.1 mem)
    rw [eq]
    rfl
  rw [ports]
  refine (flatMap_filter_perm _ cards.nodup_names fun sight mem => ?_).map _
  obtain ⟨label, labelled⟩ := h.labelled sight mem
  have own := serial?_of_label labelled
  exact ⟨_, Dict.mem_names_iff.2 ((h.serials _).2 ⟨sight, mem, own⟩), own⟩

theorem Groups.ports_ne_nil (h : engine.Groups found cards) {serial : String} {card : Status}
    (stored : cards.get? serial = some card) : card.ports ≠ [] := by
  obtain ⟨first, label, firmware, leads, -, -, -, rfl⟩ := h.card serial card stored
  have own : first.serial? = some serial := by simpa using List.find?_some leads
  have mem : first ∈ found.filter (·.serial? = some serial) :=
    List.mem_filter.2 ⟨List.mem_of_find?_eq_some leads, decide_eq_true own⟩
  exact List.ne_nil_of_mem (List.mem_map_of_mem mem)

/-- What holds of every search, whatever the host lists and answers. Where the list cannot be had
the search is an error. Otherwise the host is asked about the functions one by one, and of those
that are no network functions of the vendor, or are virtual, nothing more than that. If the search
finds cards, there is one for each serial number among the surviving functions; its ports are the
functions with this number, in the order of the list, of which there is at least one; who the card
is says the first of them; and the ports of all cards are the surviving functions, each once. The
search fails exactly if the label of a surviving function cannot be had, or the firmware of the
first one with its serial number. -/
theorem discover_groups {events : List (Event hostService)}
    {result : Except EngineError (Dict Status)} (h : engine.discover.run.Runs events result) :
    (∃ cause, events = [⟨.listFunctions, .error cause⟩] ∧ result = .error (.host cause)) ∨
      ∃ sights : List Sight,
        events = ⟨.listFunctions, .ok (sights.map Sight.function)⟩ :: conversation [] sights ∧
        (∀ cards, result = .ok cards →
          engine.Groups (survivors sights) cards ∧
          (∀ serial card, cards.get? serial = some card → card.ports ≠ []) ∧
          (cards.values.flatMap (·.ports)).Perm ((survivors sights).map Sight.port)) ∧
        ((∃ e, result = .error e) ↔ Unidentified (survivors sights)) := by
  rcases runs_discover h with failed | ⟨sights, rfl, concludes⟩
  · exact .inl failed
  · refine .inr ⟨sights, rfl, ?_, ?_⟩
    · rintro cards rfl
      have groups : engine.Groups (survivors sights) cards := concludes
      exact ⟨groups, fun _ _ stored => groups.ports_ne_nil stored, groups.ports_perm⟩
    · cases result with
      | ok cards =>
          have groups : engine.Groups (survivors sights) cards := concludes
          exact iff_of_false (fun ⟨_, no⟩ => nomatch no) groups.identified
      | error e => exact iff_of_true ⟨e, rfl⟩ concludes.2

/-! ## A search -/

/-- A function at an address of the vendor's bus. -/
def cardFunction (address vendor product : String) : PciFunction where
  address := address
  vendorId := vendor
  classId := "02"
  productId := product

/-- A card with two ports that are not listed side by side, another card, a virtual function and one
of another vendor. -/
def twoCards : List (Event hostService) := [
  ⟨.listFunctions, .ok [
    cardFunction "1f.6" "8086" "15bb", cardFunction "3b.0" "15b3" "101d",
    cardFunction "3b.2" "15b3" "101e", cardFunction "af.0" "15b3" "1021",
    cardFunction "d8.0" "15b3" "101d"]⟩,
  ⟨.isVirtualFunction "3b.0", false⟩, ⟨.cardLabel "3b.0", .ok ⟨"CX6", "one"⟩⟩,
  ⟨.firmwareLabel "3b.0", .ok ⟨"22.35", "MT_359"⟩⟩,
  ⟨.interfaceName "3b.0", some "p0"⟩, ⟨.rdmaInterfaceName "3b.0", some "m0"⟩,
  ⟨.isVirtualFunction "3b.2", true⟩,
  ⟨.isVirtualFunction "af.0", false⟩, ⟨.cardLabel "af.0", .ok ⟨"CX7", "two"⟩⟩,
  ⟨.firmwareLabel "af.0", .ok ⟨"28.39", "MT_838"⟩⟩,
  ⟨.interfaceName "af.0", none⟩, ⟨.rdmaInterfaceName "af.0", none⟩,
  ⟨.isVirtualFunction "d8.0", false⟩, ⟨.cardLabel "d8.0", .ok ⟨"CX6", "one"⟩⟩,
  ⟨.interfaceName "d8.0", some "p1"⟩, ⟨.rdmaInterfaceName "d8.0", none⟩]

theorem twoCards_grouped :
    ∃ cards sights, (Engine.mk "w" {}).discover.run.Runs twoCards (.ok cards) ∧
      cards.names = ["one", "two"] ∧
      (cards.get? "one").map (·.ports) =
        some [⟨"3b.0", "p0", "m0"⟩, ⟨"d8.0", "p1", ""⟩] ∧
      (Engine.mk "w" {}).Groups (survivors sights) cards ∧
      (cards.values.flatMap (·.ports)).Perm ((survivors sights).map Sight.port) := by
  have first : ∃ cards, (Engine.mk "w" {}).discover.run.Runs twoCards (.ok cards) ∧
      cards.names = ["one", "two"] ∧
      (cards.get? "one").map (·.ports) =
        some [⟨"3b.0", "p0", "m0"⟩, ⟨"d8.0", "p1", ""⟩] :=
    ⟨_, .ask (.ask (.ask (.ask (.ask (.ask (.ask (.ask (.ask (.ask (.ask (.ask (.ask (.ask (.ask
      (.ask (.done _)))))))))))))))), rfl, rfl⟩
  obtain ⟨cards, run, names, ports⟩ := first
  rcases discover_groups run with ⟨_, no, -⟩ | ⟨sights, -, found, -⟩
  · cases no
  · obtain ⟨groups, -, perm⟩ := found cards rfl
    exact ⟨cards, sights, run, names, ports, groups, perm⟩

end Engine

end NicKeeper
