import NicKeeper.Proofs.Publishing
import NicKeeper.Rfc3339

/-!
# The mirror of a node

A run publishes each card of a node and then deletes the objects that bear the node's label and no
card's name. `mirrored` is what this makes of a server's objects, and `Mirrors` says name by name
what it means. With a server that fails nothing the run ends there (`publish_on`), so with any
server it ends there or it is thwarted (`Publishing.run_or_thwarted`).

A name belongs to one card at most, so what is left does not depend on the order of the cards. After
a run every card's object says what the card is and nothing is stale (`UpToDate`), and the next run
only looks.

One thing gets lost. A status that is stored as a list is read like any other, but the first patch
replaces it, with all that it said (`otherwise_not_mirrored`).
-/

namespace NicKeeper

namespace Place

variable {place : Place} {name : String} {cards others : List Status} {selects : SelectorReading}
  {objects : Dict Json}

/-! ## Stale objects -/

/-- An object that bears the label of the node, but not the name of a card. -/
def isStale (place : Place) (cards : List Status) (name : String) (object : Json) : Bool :=
  ApiObject.label? object nodeLabel = some place.node && !(cards.map place.cardName).contains name

def staleNames (place : Place) (cards : List Status) (objects : Dict Json) : List String :=
  (objects.filter (place.isStale cards)).names

theorem isStale_iff {object : Json} :
    place.isStale cards name object = true ↔
      ApiObject.label? object nodeLabel = some place.node ∧
        ∀ card ∈ cards, place.cardName card ≠ name := by
  simp [isStale]

theorem mem_staleNames_iff :
    name ∈ place.staleNames cards objects ↔ ∃ object, objects.get? name = some object ∧
      ApiObject.label? object nodeLabel = some place.node ∧
        ∀ card ∈ cards, place.cardName card ≠ name := by
  simp only [staleNames, Dict.mem_names_iff, Dict.get?_filter, Option.filter_eq_some_iff,
    isStale_iff]

/-- What is listed and not published is what is stale. -/
theorem unlisted_eq (reads : selects.ReadsNode place.node) {devices : List NicDevice}
    (names : devices.map NicDevice.name = (objects.filter fun _ object =>
      selects (nodeSelector place.node) (ApiObject.label? object)).names) :
    unlisted (cards.map place.cardName).reverse devices = place.staleNames cards objects := by
  rw [unlisted, names, staleNames, Dict.names, Dict.names, Dict.filter, Dict.filter,
    List.filter_map, List.filter_filter]
  refine congrArg (List.map Prod.fst) (List.filter_congr fun entry _ => ?_)
  rw [Bool.eq_iff_iff]
  simp [isStale_iff, reads _, and_comm]

theorem Distinct.perm (distinct : place.Distinct cards) (order : cards.Perm others) :
    place.Distinct others :=
  (order.pairwise_iff fun differ => differ.symm).1 distinct

theorem staleNames_perm (order : cards.Perm others) (objects : Dict Json) :
    place.staleNames cards objects = place.staleNames others objects := by
  refine congrArg Dict.names (Dict.ext_get? fun name => Option.ext fun object => ?_)
  simp only [Dict.get?_filter, Option.filter_eq_some_iff, isStale_iff, order.mem_iff]

end Place

section Format

variable [TimeFormat]

namespace Place

open Publishing (on_api on_bind on_pure calls_api calls_bind calls_pure)

variable {place : Place} {name : String} {card : Identity} {cards others : List Status}
  {selects : SelectorReading} {found : Dict Status} {objects : Dict Json}

/-! ## What the objects of cards say -/

theorem ofJson?_publishedObject_none (place : Place) (name : String) (card : Identity) :
    NicDevice.ofJson? (place.publishedObject name card none) =
      some { place.newDevice name with status := some { toIdentity := card } } := by
  have legible : (StatusPatch.identity card).IsLegible := trivial
  exact StatusPatch.ofJson?_merge (ofJson?_newDevice place name) legible

theorem label?_publishedObject_none (place : Place) (name : String) (card : Identity) :
    ApiObject.label? (place.publishedObject name card none) nodeLabel = some place.node := by
  have other : (place.publishedObject name card none).field? "metadata" =
      (place.newDevice name).toJson.field? "metadata" :=
    (StatusPatch.field?_merge (.identity card) "metadata").trans (if_neg (by decide))
  rw [ApiObject.label?, other]
  rfl

/-- The object of a card keeps what it said, up to what the card is. -/
theorem ofJson?_publishedObject_some {object : Json} {device : NicDevice}
    (decodes : NicDevice.ofJson? object = some device) (place : Place) (name : String)
    (card : Identity) :
    ∃ status, NicDevice.ofJson? (place.publishedObject name card (some object)) =
        some { device with status := some status } ∧
      status.toIdentity = card ∧
      ((∀ items, object.field? "status" ≠ some (.arr items)) →
        status.toReport = (device.status.getD {}).toReport ∧
        status.lastReconciled = (device.status.getD {}).lastReconciled) := by
  rw [publishedObject]
  split
  · have legible : (StatusPatch.identity card).IsLegible := trivial
    refine ⟨_, StatusPatch.ofJson?_merge decodes legible, rfl, fun plain => ?_⟩
    rw [StatusPatch.base_eq object device plain]
    exact ⟨rfl, rfl⟩
  · next current =>
      rw [Bool.not_eq_true, Identity.isOutdated, decodes] at current
      obtain ⟨metadata, spec, status⟩ := device
      cases status with
      | none => cases current
      | some status =>
          have same : status.toIdentity = card := bne_eq_false_iff_eq.1 current
          exact ⟨status, decodes, same, fun _ => ⟨rfl, rfl⟩⟩

/-- The object of a card is that of a device which says what the card is. -/
theorem exists_publishedObject {stored : Option Json} (named : ∀ object, stored = some object →
      ∃ device, NicDevice.ofJson? object = some device ∧ device.name = name)
    (place : Place) (card : Identity) :
    ∃ device status, NicDevice.ofJson? (place.publishedObject name card stored) = some device ∧
      device.name = name ∧ device.status = some status ∧ status.toIdentity = card := by
  cases stored with
  | none => exact ⟨_, _, ofJson?_publishedObject_none place name card, rfl, rfl, rfl⟩
  | some object =>
      obtain ⟨device, decodes, own⟩ := named object rfl
      obtain ⟨status, decodes, same, -⟩ := ofJson?_publishedObject_some decodes place name card
      exact ⟨_, status, decodes, own, rfl, same⟩

theorem named_publishedAll (named : ApiObject.Named objects) :
    ApiObject.Named (place.publishedAll cards objects) := by
  induction cards generalizing objects with
  | nil => exact named
  | cons first rest ih =>
      refine ih fun name object stored => ?_
      rw [get?_published] at stored
      split at stored
      · next same =>
          obtain rfl := Option.some.inj stored
          obtain ⟨device, _, decodes, own, -⟩ :=
            exists_publishedObject (fun object => named _ object) place first.toIdentity
          exact ⟨device, decodes, own.trans same⟩
      · exact named name object stored

theorem staleNames_publishedAll :
    place.staleNames cards (place.publishedAll cards objects) =
      place.staleNames cards objects := by
  refine congrArg Dict.names (Dict.ext_get? fun name => Option.ext fun object => ?_)
  simp only [Dict.get?_filter, Option.filter_eq_some_iff, isStale_iff]
  refine and_congr_left fun ⟨_, other⟩ => ?_
  rw [get?_publishedAll_of_ne other]

/-! ## One run -/

/-- Objects after the cards were published and what was stale was deleted. -/
def mirrored (place : Place) (cards : List Status) (objects : Dict Json) : Dict Json :=
  swept (place.staleNames cards objects) (place.publishedAll cards objects)

theorem readable_of_named (named : ApiObject.Named objects) :
    ∀ card ∈ cards, ∀ object, objects.get? (place.cardName card) = some object →
      ∃ device, NicDevice.ofJson? object = some device := by
  intro card _ object stored
  obtain ⟨device, decodes, -⟩ := named _ _ stored
  exact ⟨device, decodes⟩

/-- A run that nothing fails leaves the mirror of the cards. -/
theorem publish_on (reads : selects.ReadsNode place.node) (named : ApiObject.Named objects)
    (distinct : place.Distinct cards) :
    (place.publish cards).on selects found objects =
      (.ok cards.length, place.mirrored cards objects) := by
  obtain ⟨devices, answered, names⟩ :=
    ApiObject.exists_selected (named_publishedAll named) selects (nodeSelector place.node)
  have stale : unlisted (cards.map place.cardName).reverse devices =
      place.staleNames cards objects := (unlisted_eq reads names).trans staleNames_publishedAll
  have distinct' : (devices.map NicDevice.name).Nodup := names ▸ Dict.nodup_names _
  have there : ∀ name ∈ place.staleNames cards objects,
      ∃ object, (place.publishedAll cards objects).get? name = some object := by
    intro name mem
    rw [← staleNames_publishedAll] at mem
    obtain ⟨object, stored, -⟩ := mem_staleNames_iff.1 mem
    exact ⟨object, stored⟩
  have publishing := @publishCards_on _ place selects found objects cards []
    (readable_of_named named) distinct fun _ _ => List.not_mem_nil
  have sweeping := @deleteOthers_on _ selects found _ (cards.map place.cardName).reverse devices
    distinct' (stale ▸ there)
  rw [stale] at sweeping
  rw [List.append_nil] at publishing
  refine (on_bind publishing).trans ((on_bind (on_api answered)).trans
    ((on_bind sweeping).trans ?_))
  rw [List.length_reverse, List.length_map]
  exact on_pure _

/-! ## What a run leaves -/

theorem get?_mirrored :
    (place.mirrored cards objects).get? name =
      if name ∈ place.staleNames cards objects then none
      else (place.publishedAll cards objects).get? name :=
  get?_swept _

theorem get?_mirrored_card (distinct : place.Distinct cards) {card : Status} (mem : card ∈ cards) :
    (place.mirrored cards objects).get? (place.cardName card) =
      some (place.publishedObject (place.cardName card) card.toIdentity
        (objects.get? (place.cardName card))) := by
  have kept : place.cardName card ∉ place.staleNames cards objects := fun stale => by
    obtain ⟨_, -, -, other⟩ := mem_staleNames_iff.1 stale
    exact other card mem rfl
  rw [get?_mirrored, if_neg kept, get?_publishedAll distinct mem]

theorem get?_mirrored_of_ne (other : ∀ card ∈ cards, place.cardName card ≠ name) :
    (place.mirrored cards objects).get? name =
      if name ∈ place.staleNames cards objects then none
      else objects.get? name := by
  rw [get?_mirrored, get?_publishedAll_of_ne other]

/-- Objects that mirror the cards of a node, beside those that were there before. -/
structure Mirrors (place : Place) (cards : List Status) (before after : Dict Json) : Prop where
  /-- The object of a card says what the card is. -/
  identity : ∀ card ∈ cards, ∃ object device status,
    after.get? (place.cardName card) = some object ∧
    NicDevice.ofJson? object = some device ∧ device.status = some status ∧
    status.toIdentity = card.toIdentity
  /-- The rest of what it said is left alone, where a status is not stored as a list. -/
  kept : ∀ card ∈ cards, ∀ object device, before.get? (place.cardName card) = some object →
    NicDevice.ofJson? object = some device →
    ∃ later status, after.get? (place.cardName card) = some later ∧
      NicDevice.ofJson? later = some { device with status := some status } ∧
      (∀ field, "status" ≠ field → later.field? field = object.field? field) ∧
      ((∀ items, object.field? "status" ≠ some (.arr items)) →
        status.toReport = (device.status.getD {}).toReport ∧
        status.lastReconciled = (device.status.getD {}).lastReconciled)
  /-- A new object asks for nothing and bears the label of the node. -/
  made : ∀ card ∈ cards, before.get? (place.cardName card) = none →
    ∃ object device, after.get? (place.cardName card) = some object ∧
      NicDevice.ofJson? object = some device ∧ device.spec = {} ∧
      ApiObject.label? object nodeLabel = some place.node
  /-- Objects of the node that are no card's are gone. -/
  gone : ∀ name object, before.get? name = some object →
    ApiObject.label? object nodeLabel = some place.node →
    (∀ card ∈ cards, place.cardName card ≠ name) → after.get? name = none
  /-- Objects of others are as they were. -/
  others : ∀ name, (∀ card ∈ cards, place.cardName card ≠ name) →
    (∀ object, before.get? name = some object →
      ApiObject.label? object nodeLabel ≠ some place.node) →
    after.get? name = before.get? name

theorem field?_publishedObject {object : Json} {field : String} (other : "status" ≠ field) :
    (place.publishedObject name card (some object)).field? field = object.field? field := by
  rw [publishedObject]
  split
  · exact (StatusPatch.field?_merge (.identity card) field).trans (if_neg other)
  · rfl

theorem mirrors_mirrored (named : ApiObject.Named objects) (distinct : place.Distinct cards) :
    place.Mirrors cards objects (place.mirrored cards objects) where
  identity card mem := by
    obtain ⟨device, status, decodes, -, now, same⟩ :=
      exists_publishedObject (fun object => named _ object) place card.toIdentity
    exact ⟨_, device, status, get?_mirrored_card distinct mem, decodes, now, same⟩
  kept card mem object device stored decodes := by
    obtain ⟨status, later, -, rest⟩ :=
      ofJson?_publishedObject_some decodes place (place.cardName card) card.toIdentity
    refine ⟨_, status, get?_mirrored_card distinct mem, ?_⟩
    rw [stored]
    exact ⟨later, fun field other => field?_publishedObject other, rest⟩
  made card mem absent := by
    have stored := @get?_mirrored_card _ place cards objects distinct card mem
    rw [absent] at stored
    exact ⟨_, _, stored, ofJson?_publishedObject_none place _ _, rfl,
      label?_publishedObject_none place _ _⟩
  gone name object stored labelled other := by
    rw [get?_mirrored_of_ne other, if_pos (mem_staleNames_iff.2 ⟨object, stored, labelled, other⟩)]
  others name other foreign := by
    refine (get?_mirrored_of_ne other).trans (if_neg fun stale => ?_)
    obtain ⟨object, stored, labelled, -⟩ := mem_staleNames_iff.1 stale
    exact foreign object stored labelled

/-! ## The order of the cards -/

theorem mirrored_perm (distinct : place.Distinct cards) (order : cards.Perm others) :
    place.mirrored cards objects = place.mirrored others objects := by
  apply Dict.ext_get?
  intro name
  by_cases own : ∃ card ∈ cards, place.cardName card = name
  · obtain ⟨card, mem, rfl⟩ := own
    rw [get?_mirrored_card distinct mem,
      get?_mirrored_card (distinct.perm order) (order.mem_iff.1 mem)]
  · have other : ∀ card ∈ cards, place.cardName card ≠ name := fun card mem same =>
      own ⟨card, mem, same⟩
    rw [get?_mirrored_of_ne other,
      get?_mirrored_of_ne fun card mem => other card (order.mem_iff.2 mem),
      staleNames_perm order]

/-! ## The next run -/

/-- The objects of the cards say what the cards are, and there is nothing to delete. -/
structure UpToDate (place : Place) (cards : List Status) (objects : Dict Json) : Prop where
  current : ∀ card ∈ cards, ∃ object, objects.get? (place.cardName card) = some object ∧
    card.toIdentity.isOutdated object = false
  nothingStale : place.staleNames cards objects = []

theorem upToDate_mirrored (named : ApiObject.Named objects) (distinct : place.Distinct cards) :
    place.UpToDate cards (place.mirrored cards objects) where
  current card mem := by
    obtain ⟨device, status, decodes, -, now, same⟩ :=
      exists_publishedObject (fun object => named _ object) place card.toIdentity
    refine ⟨_, get?_mirrored_card distinct mem, ?_⟩
    rw [Identity.isOutdated, decodes, Option.bind_some, now]
    exact bne_eq_false_iff_eq.2 same
  nothingStale := by
    refine List.eq_nil_iff_forall_not_mem.2 fun name stale => ?_
    obtain ⟨object, stored, labelled, other⟩ := mem_staleNames_iff.1 stale
    rw [get?_mirrored_of_ne other] at stored
    split at stored
    · cases stored
    · next kept => exact kept (mem_staleNames_iff.2 ⟨object, stored, labelled, other⟩)

theorem named_mirrored (named : ApiObject.Named objects) :
    ApiObject.Named (place.mirrored cards objects) := by
  intro name object stored
  rw [get?_mirrored] at stored
  split at stored
  · cases stored
  · exact named_publishedAll named name object stored

theorem UpToDate.perm (h : place.UpToDate cards objects) (order : cards.Perm others) :
    place.UpToDate others objects where
  current card mem := h.current card (order.mem_iff.2 mem)
  nothingStale := staleNames_perm order objects ▸ h.nothingStale

theorem published_of_current {object : Json} (stored : objects.get? name = some object)
    (current : card.isOutdated object = false) : place.published name card objects = objects := by
  rw [published, stored, publishedObject, current]
  exact Dict.insert_get?_self stored

theorem UpToDate.publishedAll (h : place.UpToDate cards objects) :
    place.publishedAll cards objects = objects := by
  obtain ⟨current, -⟩ := h
  induction cards with
  | nil => rfl
  | cons first rest ih =>
      obtain ⟨⟨object, stored, same⟩, current⟩ := List.forall_mem_cons.1 current
      rw [Place.publishedAll, List.foldl_cons, published_of_current stored same]
      exact ih current

/-- What a run asks for that has nothing to do. -/
def looks (place : Place) (cards : List Status) : List PublishCall :=
  (cards.map fun card => .api (.get (place.cardName card))) ++
    [.api (.list (nodeSelector place.node))]

theorem publishCard_calls {object : Json} {device : NicDevice}
    (stored : objects.get? name = some object) (decodes : NicDevice.ofJson? object = some device)
    (current : card.isOutdated object = false) :
    (place.publishCard name card).calls selects found objects = [.api (.get name)] := by
  rw [isOutdated_eq decodes] at current
  rw [publishCard, calls_bind (ensureDevice_on_present stored decodes), current, ensureDevice,
    calls_bind (get_on_present stored decodes)]
  rfl

theorem publishCards_calls {listed : List String} (named : ApiObject.Named objects)
    (current : ∀ card ∈ cards, ∃ object, objects.get? (place.cardName card) = some object ∧
      card.toIdentity.isOutdated object = false) :
    (place.publishCards listed cards).calls selects found objects =
      cards.map fun card => .api (.get (place.cardName card)) := by
  induction cards generalizing listed with
  | nil => rfl
  | cons first rest ih =>
      obtain ⟨⟨object, stored, same⟩, current⟩ := List.forall_mem_cons.1 current
      obtain ⟨device, decodes, -⟩ := named _ _ stored
      have still : place.published (place.cardName first) first.toIdentity objects = objects :=
        published_of_current stored same
      have done := @publishCard_on_present _ place _ first.toIdentity selects found objects _ _
        stored decodes
      rw [still] at done
      refine (calls_bind done).trans ?_
      rw [ih current, publishCard_calls stored decodes same]
      rfl

theorem deleteOthers_calls {listed : List String} {devices : List NicDevice}
    (h : unlisted listed devices = []) :
    (deleteOthers listed devices).calls selects found objects = [] := by
  induction devices with
  | nil => rfl
  | cons device rest ih =>
      obtain ⟨own, later⟩ : listed.contains device.name = true ∧ unlisted listed rest = [] := by
        simpa [unlisted] using h
      rw [deleteOthers, own]
      exact ih later

theorem UpToDate.calls (h : place.UpToDate cards objects) (reads : selects.ReadsNode place.node)
    (named : ApiObject.Named objects) (distinct : place.Distinct cards) :
    (place.publish cards).calls selects found objects = place.looks cards := by
  obtain ⟨devices, answered, names⟩ :=
    ApiObject.exists_selected named selects (nodeSelector place.node)
  have nothing : unlisted (cards.map place.cardName).reverse devices = [] :=
    (unlisted_eq reads names).trans h.nothingStale
  have publishing := @publishCards_on _ place selects found objects cards []
    (readable_of_named named) distinct fun _ _ => List.not_mem_nil
  rw [List.append_nil, h.publishedAll] at publishing
  have sweeping := @deleteOthers_on _ selects found objects (cards.map place.cardName).reverse
    devices (names ▸ Dict.nodup_names _) (nothing ▸ List.forall_mem_nil _)
  have looked := @publishCards_calls _ place cards selects found objects [] named h.current
  refine (calls_bind publishing).trans ?_
  refine (congrArg (_ ++ ·) (calls_bind (on_api answered))).trans ?_
  refine (congrArg (fun last => _ ++ (_ ++ last)) (calls_bind sweeping)).trans ?_
  rw [looked, calls_api, calls_pure]
  exact congrArg (fun last => _ ++ (_ :: (last ++ []))) (deleteOthers_calls nothing)

/-- What only looks leaves the objects as they are. -/
theorem objects_of_looks {σ : Type} {server : ApiServer σ} {state after : σ}
    {search : Except EngineError (Dict Status)} {events : List (Event publishService)}
    (looking : events.map Event.call <+: .discover :: place.looks cards)
    (follows : Program.Follows (serveSearch search server.handle) state events after) :
    server.objects after = server.objects state := by
  refine Program.Follows.keeps
    (motive := fun state left => server.objects left = server.objects state)
    (fun _ => rfl) (fun first last => last.trans first) (fun event mem state => ?_) follows
  have among := looking.subset (List.mem_map_of_mem mem)
  obtain ⟨call, answer⟩ := event
  cases call with
  | discover => rfl
  | api call =>
      rcases List.mem_append.1 ((List.mem_cons.1 among).resolve_left nofun) with mem | mem
      · obtain ⟨card, -, same⟩ := List.mem_map.1 mem
        cases same
        exact server.objects_get _ state
      · cases List.mem_singleton.1 mem
        exact server.objects_list _ state

/-! ## Runs in any order -/

section Server

variable {σ : Type} {server : ApiServer σ} {state after : σ} {iterate : Dict Status → List Status}

/-- A run that comes to a number leaves the mirror of the cards. -/
theorem objects_of_run {n : Nat} (reads : server.selects.ReadsNode place.node)
    (named : ApiObject.Named (server.objects state)) (distinct : place.Distinct (iterate found))
    (h : server.run (.ok found) (place.discoverAndPublishBy iterate) state = (.ok n, after)) :
    n = (iterate found).length ∧
      server.objects after = place.mirrored (iterate found) (server.objects state) := by
  have alone := @publish_on _ place _ server.selects found _ reads named distinct
  rcases (Publishing.run_or_thwarted (heeds_discoverAndPublishBy place iterate) alone).2 with
    ⟨left, same, objects, -⟩ | ⟨⟨e, fails⟩, -⟩
  · obtain ⟨answer, rfl⟩ := Prod.mk.inj (h.symm.trans same)
    exact ⟨Except.ok.inj answer, objects⟩
  · rw [h] at fails
    cases fails

/-- A run on what is up to date looks at it, and that is all. -/
theorem looks_of_run {result : Except DaemonError Nat}
    (reads : server.selects.ReadsNode place.node) (named : ApiObject.Named (server.objects state))
    (distinct : place.Distinct (iterate found))
    (now : place.UpToDate (iterate found) (server.objects state))
    (h : server.run (.ok found) (place.discoverAndPublishBy iterate) state = (result, after)) :
    server.objects after = server.objects state ∧
      ((server.events (.ok found) (place.discoverAndPublishBy iterate) state).map Event.call <+:
        .discover :: place.looks (iterate found)) ∧
      (result = .ok (iterate found).length ∧
          (server.events (.ok found) (place.discoverAndPublishBy iterate) state).map Event.call =
            .discover :: place.looks (iterate found) ∨
        server.Thwarts (.ok found) (place.discoverAndPublishBy iterate) state) := by
  have alone := @publish_on _ place _ server.selects found _ reads named distinct
  have looks : (place.discoverAndPublishBy iterate).calls server.selects found
      (server.objects state) = .discover :: place.looks (iterate found) :=
    congrArg (_ :: ·) (now.calls reads named distinct)
  obtain ⟨earlier, ends⟩ :=
    Publishing.run_or_thwarted (heeds_discoverAndPublishBy place iterate) alone
  rw [looks] at earlier ends
  have follows := Program.follows_trace (serveSearch (.ok found) server.handle)
    (place.discoverAndPublishBy iterate).run state
  rw [show (Program.run _ _ _).2 = after from congrArg Prod.snd h] at follows
  refine ⟨objects_of_looks earlier follows, earlier, ends.imp_left fun ⟨_, same, _, calls⟩ => ?_⟩
  exact ⟨(Prod.mk.inj (h.symm.trans same)).1, calls⟩

end Server

/-- Publishing mirrors the cards of a node. If a run comes to a number, in whichever order it went
through the cards, then it is the number of cards, and the server's objects mirror the cards. Any
other order comes to the same number and leaves the same objects, if it is not thwarted. A run that
follows, in any order, changes no object: it looks at each card's object and lists the node's
objects, and comes to that number again, if it is not thwarted on the way. -/
theorem discoverAndPublish_mirrors {σ : Type} (place : Place) (found : Dict Status)
    (server : ApiServer σ) (state after : σ) (n : Nat) (iterate : Dict Status → List Status)
    (order : (iterate found).Perm found.values) (label : IsLabelValue place.node)
    (reads : server.selects.ReadsLabels) (named : ApiObject.Named (server.objects state))
    (distinct : place.Distinct found.values)
    (h : server.run (.ok found) (place.discoverAndPublishBy iterate) state = (.ok n, after)) :
    n = found.values.length ∧
      place.Mirrors found.values (server.objects state) (server.objects after) ∧
      ∀ another : Dict Status → List Status, (another found).Perm found.values →
        ((∃ left, server.run (.ok found) (place.discoverAndPublishBy another) state =
              (.ok n, left) ∧ server.objects left = server.objects after) ∨
          server.Thwarts (.ok found) (place.discoverAndPublishBy another) state) ∧
        ∀ result left,
          server.run (.ok found) (place.discoverAndPublishBy another) after = (result, left) →
          server.objects left = server.objects after ∧
            ((server.events (.ok found) (place.discoverAndPublishBy another) after).map
                Event.call <+: .discover :: place.looks (another found)) ∧
            (result = .ok n ∧
                (server.events (.ok found) (place.discoverAndPublishBy another) after).map
                  Event.call = .discover :: place.looks (another found) ∨
              server.Thwarts (.ok found) (place.discoverAndPublishBy another) after) := by
  have reads := reads place.node label
  have distinct' : place.Distinct (iterate found) := distinct.perm order.symm
  obtain ⟨rfl, left⟩ := objects_of_run reads named distinct' h
  refine ⟨order.length_eq, ?_, fun another same => ⟨?_, fun result last again => ?_⟩⟩
  · rw [left, mirrored_perm distinct' order]
    exact mirrors_mirrored named distinct
  · have other : (iterate found).Perm (another found) := order.trans same.symm
    have alone := @publish_on _ place _ server.selects found _ reads named (distinct'.perm other)
    rw [left, mirrored_perm distinct' other, other.length_eq]
    refine (Publishing.run_or_thwarted (heeds_discoverAndPublishBy place another) alone).2.imp_left
      fun ⟨last, ends, objects, _⟩ => ⟨last, ends, objects⟩
  · have other : (iterate found).Perm (another found) := order.trans same.symm
    have now : place.UpToDate (another found) (server.objects after) :=
      left ▸ (upToDate_mirrored named distinct').perm other
    rw [other.length_eq]
    exact looks_of_run reads (left ▸ named_mirrored named) (distinct'.perm other) now again

end Place

end Format

/-! ## Runs of one node -/

namespace Place

open scoped Rfc3339

def worker : Place := { node := "w", nspace := "default" }

def workerCard (serialNumber : String) : Status :=
  { deviceType := "cx", serialNumber := serialNumber, firmwareVersion := "2" }

/-- An object that bears the node's label. -/
def workerObject (name : String) (status : Json) : Json :=
  .obj [
    ("metadata", .obj [("name", .str name), ("labels", .obj [(nodeLabel, .str "w")])]),
    ("spec", .obj []),
    ("status", status)]

/-- The object of a card that has been configured, and that of a card which is gone. -/
def workerObjects : Dict Json := Dict.ofList [
  ("w-cx-a", workerObject "w-cx-a" (.obj [("state", .str "Applied")])),
  ("w-cx-c", workerObject "w-cx-c" .null)]

def workerServer : ApiServer (Dict Json) := .willing ApiServer.selectsEqual

def workerCards : Dict Status := Dict.ofList [("a", workerCard "a"), ("B", workerCard "B")]

theorem isLabelValue_worker : IsLabelValue worker.node := by
  have letter : worker.node.toList = ['w'] := rfl
  have alphanumeric : 'w'.isAlphanum = true := by decide
  constructor
  all_goals simp [letter, alphanumeric]

theorem mem_workerObjects {name : String} {object : Json}
    (stored : workerObjects.get? name = some object) :
    name = "w-cx-a" ∧ object = workerObject "w-cx-a" (.obj [("state", .str "Applied")]) ∨
      name = "w-cx-c" ∧ object = workerObject "w-cx-c" .null := by
  have entries : workerObjects.entries =
      [("w-cx-a", workerObject "w-cx-a" (.obj [("state", .str "Applied")])),
        ("w-cx-c", workerObject "w-cx-c" .null)] := rfl
  have mem := Dict.mem_entries_iff.2 stored
  rw [entries] at mem
  simpa using mem

theorem workerCards_mirrored :
    ∃ after, workerServer.run (.ok workerCards)
        (worker.discoverAndPublishBy fun found => found.values.reverse) workerObjects =
          (.ok 2, after) ∧
      worker.Mirrors workerCards.values workerObjects after := by
  have named : ApiObject.Named workerObjects := by
    intro name object stored
    rcases mem_workerObjects stored with ⟨rfl, rfl⟩ | ⟨rfl, rfl⟩
    · exact ⟨_, rfl, rfl⟩
    · exact ⟨_, rfl, rfl⟩
  have distinct : worker.Distinct workerCards.values := by
    unfold Distinct
    decide
  have mirrors := discoverAndPublish_mirrors worker workerCards workerServer workerObjects _ 2
    (fun found => found.values.reverse) (List.reverse_perm _) isLabelValue_worker
    (fun node _ => ApiServer.readsNode_selectsEqual node) named distinct rfl
  exact ⟨_, rfl, mirrors.2.1⟩

/-- The object of a card whose firmware was older, with its status as the list of its values. -/
def listedObject : Json :=
  workerObject "w-cx-a" (.arr [.str "", .str "cx", .str "a", .str "", .str "", .str "1", .arr [],
    .str "Applied"])

def stateOf? (object : Json) : Option State :=
  ((NicDevice.ofJson? object).bind (·.status)).map (·.state)

/-- An object can lose its state. -/
theorem otherwise_not_mirrored :
    ∃ after later, workerServer.run (.ok (Dict.ofList [("a", workerCard "a")]))
        worker.discoverAndPublish (Dict.ofList [("w-cx-a", listedObject)]) = (.ok 1, after) ∧
      after.get? "w-cx-a" = some later ∧
      stateOf? listedObject = some .applied ∧ stateOf? later = some .pending :=
  ⟨_, _, rfl, rfl, rfl, rfl⟩

end Place

end NicKeeper
