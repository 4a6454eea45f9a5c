import NicKeeper.Proofs.PublisherRuns
import NicKeeper.Proofs.ServerEffects

/-!
# The cards of a node and the objects of a server

A publisher asks for the cards of its node and sends calls to a server. What its work comes to
depends on the server in one way only: the server can fail a call that its objects have an answer to
(`ApiServer.TurnsDown`). As long as it does not, the run is the one with a server that never does,
which has nothing but the objects (`run_or_turnsDown`).

With such a server every piece of work succeeds if the objects can be read, and what it leaves is a
function of the objects: `published` for one card, `publishedAll` for several, `swept` for
deletions. There is one lemma for each piece, and `on_bind` puts them together.

Cards whose names are distinct do not see one another's objects, so what becomes of each card's
object can be read off the objects before the first card is published (`get?_publishedAll`).
-/

namespace NicKeeper

open Program

/-- Answers a publisher's calls: the search for cards has come to what it has, and the rest goes to
a server. -/
def serveSearch {σ : Type} (search : Except EngineError (Dict Status))
    (handle : Handler apiService σ) : Handler publishService σ
  | .discover, state => (search, state)
  | .api call, state => handle call state

theorem serveSearch_snd {σ : Type} (search : Except EngineError (Dict Status))
    (handle : Handler apiService σ) (call : ApiCall) (state : σ) :
    (serveSearch search handle (.api call) state).2 = (handle call state).2 := rfl

namespace Place

variable {objects : Dict Json}

/-- Objects after some of them were deleted. -/
def swept (names : List String) (objects : Dict Json) : Dict Json :=
  objects.filter fun name _ => !names.contains name

theorem get?_swept (names : List String) :
    (swept names objects).get? name = if name ∈ names then none else objects.get? name := by
  rw [swept, Dict.get?_filter]
  cases objects.get? name with
  | none => simp
  | some object => simp [Option.filter]

theorem swept_nil : swept [] objects = objects :=
  Dict.ext_get? fun _ => (get?_swept []).trans (if_neg List.not_mem_nil)

theorem swept_cons (names : List String) :
    swept (name :: names) objects = swept names (objects.erase name) := by
  refine Dict.ext_get? fun other => ?_
  rw [get?_swept, get?_swept, Dict.get?_erase]
  by_cases same : name = other
  · simp [same]
  · simp [same, Ne.symm same]

end Place

section Format

variable [TimeFormat]

namespace ApiServer

variable {σ : Type}

/-- What a publisher's work comes to with a server, and what it leaves. -/
def run {α : Type} (server : ApiServer σ) (search : Except EngineError (Dict Status))
    (work : Publishing α) (state : σ) : Except DaemonError α × σ :=
  work.run.run (serveSearch search server.handle) state

/-- What is asked for and answered while a publisher works. -/
def events {α : Type} (server : ApiServer σ) (search : Except EngineError (Dict Status))
    (work : Publishing α) (state : σ) : List (Event publishService) :=
  work.run.trace (serveSearch search server.handle) state

/-- A server that fails no call that its objects have an answer to. -/
def willing (selects : SelectorReading) : ApiServer (Dict Json) := inMemory selects fun _ => none

theorem handle_willing {selects : SelectorReading} {objects : Dict Json} {call : ApiCall}
    {value : call.Value} (known : call.value? selects objects = some value) :
    (willing selects).handle call objects = (.ok value, call.effect objects) := by
  simp only [willing, inMemory, known]

theorem value?_of_willing {selects : SelectorReading} {objects : Dict Json} {call : ApiCall}
    (h : ((willing selects).handle call objects).1.isOk = true) :
    ∃ value, call.value? selects objects = some value := by
  cases known : call.value? selects objects with
  | some value => exact ⟨value, rfl⟩
  | none =>
      simp only [willing, inMemory, known] at h
      cases h

/-- A call fails although the objects have an answer to it. -/
def TurnsDown (server : ApiServer σ) (state : σ) (call : ApiCall) : Prop :=
  (server.handle call state).1.isOk = false ∧
    ∃ value, call.value? server.selects (server.objects state) = some value

/-- The server turns down a call that events tell of. -/
def TurnsDownOne (server : ApiServer σ) : σ → List (Event publishService) → Prop
  | _, [] => False
  | state, ⟨.discover, _⟩ :: rest => server.TurnsDownOne state rest
  | state, ⟨.api call, _⟩ :: rest =>
    server.TurnsDown state call ∨ server.TurnsDownOne (server.handle call state).2 rest

/-- The work ends in an error, and the server has turned down a call. -/
def Thwarts {α : Type} (server : ApiServer σ) (search : Except EngineError (Dict Status))
    (work : Publishing α) (state : σ) : Prop :=
  (∃ e, (server.run search work state).1 = .error e) ∧
    server.TurnsDownOne state (server.events search work state)

variable {server : ApiServer σ} {search : Except EngineError (Dict Status)} {state after : σ}

theorem exists_failed {events : List (Event publishService)}
    (follows : Follows (serveSearch search server.handle) state events after)
    (h : server.TurnsDownOne state events) :
    ∃ event ∈ events, event.call.succeeded event.answer = false := by
  induction events generalizing state with
  | nil => cases h
  | cons event rest ih =>
      obtain ⟨call, answer⟩ := event
      obtain ⟨answered, follows⟩ := follows
      cases call with
      | discover =>
          obtain ⟨event, mem, failed⟩ := ih follows h
          exact ⟨event, List.mem_cons_of_mem _ mem, failed⟩
      | api call =>
          rcases h with ⟨failed, -⟩ | later
          · refine ⟨_, List.mem_cons_self, ?_⟩
            rw [show answer = (server.handle call state).1 from answered]
            exact failed
          · obtain ⟨event, mem, failed⟩ := ih follows later
            exact ⟨event, List.mem_cons_of_mem _ mem, failed⟩

/-- A run that succeeds with the objects alone is the run with a server that has these objects. Or
the server turns down a call; then the run asks for nothing else on the way. -/
theorem run_or_turnsDown {α : Type} {program : Program publishService (Except DaemonError α)}
    (heeds : Publishing.Heeds program)
    (answered : ∀ event ∈ program.trace
        (serveSearch search (willing server.selects).handle) (server.objects state),
      event.call.succeeded event.answer = true) :
    (program.run (serveSearch search (willing server.selects).handle) (server.objects state) =
        ((program.run (serveSearch search server.handle) state).1,
          server.objects (program.run (serveSearch search server.handle) state).2) ∧
      program.trace (serveSearch search (willing server.selects).handle) (server.objects state) =
        program.trace (serveSearch search server.handle) state) ∨
    (server.TurnsDownOne state (program.trace (serveSearch search server.handle) state) ∧
      (program.trace (serveSearch search server.handle) state).map Event.call <+:
        (program.trace (serveSearch search (willing server.selects).handle)
          (server.objects state)).map Event.call) := by
  induction program generalizing state with
  | done value => exact .inl ⟨rfl, rfl⟩
  | ask call next ih =>
      cases call with
      | discover =>
          rcases ih search (heeds search).1 (List.forall_mem_cons.1 answered).2 with
            ⟨same, told⟩ | ⟨turned, earlier⟩
          · exact .inl ⟨same, congrArg (List.cons _) told⟩
          · exact .inr ⟨turned, (List.prefix_cons_inj _).2 earlier⟩
      | api call =>
          obtain ⟨value, known⟩ := value?_of_willing (answered _ List.mem_cons_self)
          have told : serveSearch search (willing server.selects).handle (.api call)
              (server.objects state) = (.ok value, call.effect (server.objects state)) :=
            handle_willing known
          rw [run_ask, run_ask, trace_ask, trace_ask, told]
          cases given : (server.handle call state).1 with
          | error failure =>
              have served : (serveSearch search server.handle (.api call) state).1 =
                .error failure := given
              obtain ⟨e, ends⟩ := (heeds (.error failure)).2 rfl
              rw [served, ends]
              refine .inr ⟨.inl ⟨?_, value, known⟩, (List.prefix_cons_inj _).2 List.nil_prefix⟩
              rw [given]
              rfl
          | ok other =>
              obtain ⟨known', left⟩ := handle_ok given
              obtain rfl := Option.some.inj (known.symm.trans known')
              have served : (serveSearch search server.handle (.api call) state).1 = .ok value :=
                given
              rw [trace_ask, told, ← left] at answered
              rw [served, ← left]
              rcases ih (.ok value) (heeds (.ok value)).1 (List.forall_mem_cons.1 answered).2 with
                ⟨same, told⟩ | ⟨turned, earlier⟩
              · exact .inl ⟨same, congrArg (List.cons _) told⟩
              · exact .inr ⟨.inr turned, (List.prefix_cons_inj _).2 earlier⟩

end ApiServer

namespace Publishing

variable {α β : Type}

/-- What a publisher's work comes to with the objects alone, and what it leaves of them. -/
def on (work : Publishing α) (selects : SelectorReading) (found : Dict Status)
    (objects : Dict Json) : Except DaemonError α × Dict Json :=
  (ApiServer.willing selects).run (.ok found) work objects

/-- What a publisher asks for then. -/
def calls (work : Publishing α) (selects : SelectorReading) (found : Dict Status)
    (objects : Dict Json) : List PublishCall :=
  ((ApiServer.willing selects).events (.ok found) work objects).map Event.call

variable {selects : SelectorReading} {found : Dict Status} {objects mid : Dict Json}

theorem on_api {call : ApiCall} {value : call.Value}
    (known : call.value? selects objects = some value) :
    (api call).on selects found objects = (.ok value, call.effect objects) := by
  have told : serveSearch (.ok found) (ApiServer.willing selects).handle (.api call) objects =
      (.ok value, call.effect objects) := ApiServer.handle_willing known
  rw [on, ApiServer.run]
  show (Program.ask _ _).run _ objects = _
  rw [run_ask, told]
  rfl

theorem on_bind {work : Publishing α} {next : α → Publishing β} {value : α}
    (h : work.on selects found objects = (.ok value, mid)) :
    (work >>= next).on selects found objects = (next value).on selects found mid :=
  run_bindT_of_ok h

theorem on_pure (value : α) :
    (pure value : Publishing α).on selects found objects = (.ok value, objects) := rfl

theorem on_discard {work : Publishing α} {value : α}
    (h : work.on selects found objects = (.ok value, mid)) :
    (discard work).on selects found objects = (.ok (), mid) :=
  (on_bind h).trans (on_pure ())

theorem calls_api (call : ApiCall) : (api call).calls selects found objects = [.api call] := rfl

theorem calls_pure (value : α) : (pure value : Publishing α).calls selects found objects = [] := rfl

theorem calls_bind {work : Publishing α} {next : α → Publishing β} {value : α}
    (h : work.on selects found objects = (.ok value, mid)) :
    (work >>= next).calls selects found objects =
      work.calls selects found objects ++ (next value).calls selects found mid := by
  rw [calls, ApiServer.events, trace_bindT_of_ok h, List.map_append]
  rfl

/-- Work that succeeds with the objects alone does the same with a server that has them, or is
thwarted on the way. -/
theorem run_or_thwarted {σ : Type} {server : ApiServer σ} {state : σ} {work : Publishing α}
    {value : α} (heeds : Heeds work.run)
    (h : work.on server.selects found (server.objects state) = (.ok value, objects)) :
    ((server.events (.ok found) work state).map Event.call <+:
        work.calls server.selects found (server.objects state)) ∧
      ((∃ left, server.run (.ok found) work state = (.ok value, left) ∧
          server.objects left = objects ∧
          (server.events (.ok found) work state).map Event.call =
            work.calls server.selects found (server.objects state)) ∨
        server.Thwarts (.ok found) work state) := by
  have runs := runs_trace (serveSearch (.ok found) server.handle) work.run state
  have alone := runs_trace (serveSearch (.ok found) (ApiServer.willing server.selects).handle)
    work.run (server.objects state)
  have follows := follows_trace (serveSearch (.ok found) server.handle) work.run state
  rw [show (work.run.run _ _).1 = .ok value from congrArg Prod.fst h] at alone
  rcases ApiServer.run_or_turnsDown heeds (heeds.succeeded alone) with
    ⟨same, told⟩ | ⟨turned, earlier⟩
  · have calls : (server.events (.ok found) work state).map Event.call =
        work.calls server.selects found (server.objects state) :=
      congrArg (List.map Event.call) told.symm
    obtain ⟨answered, left⟩ := Prod.mk.inj (h.symm.trans same)
    exact ⟨calls ▸ List.prefix_rfl, .inl ⟨_, Prod.ext answered.symm rfl, left.symm, calls⟩⟩
  · refine ⟨earlier, .inr ⟨?_, turned⟩⟩
    obtain ⟨event, mem, failed⟩ := ApiServer.exists_failed follows turned
    cases ends : (server.run (.ok found) work state).1 with
    | error e => exact ⟨e, rfl⟩
    | ok other =>
        rw [show (work.run.run _ _).1 = .ok other from ends] at runs
        cases (heeds.succeeded runs event mem).symm.trans failed

end Publishing

/-- Whether a stored object says something else of a card than what was found. -/
def Identity.isOutdated (card : Identity) (object : Json) : Bool :=
  card.differsFrom ((NicDevice.ofJson? object).bind (·.status))

namespace Place

open Publishing (on_api on_bind on_pure on_discard)

variable {place : Place} {name : String} {card : Identity} {selects : SelectorReading}
  {found : Dict Status} {objects : Dict Json}

/-- What becomes of the object under a card's name, if there is one. -/
def publishedObject (place : Place) (name : String) (card : Identity) : Option Json → Json
  | none => (place.newDevice name).toJson.merge card.patch
  | some object => if card.isOutdated object then object.merge card.patch else object

/-- Objects after a card was published. -/
def published (place : Place) (name : String) (card : Identity) (objects : Dict Json) : Dict Json :=
  objects.insert name (place.publishedObject name card (objects.get? name))

theorem ofJson?_newDevice (place : Place) (name : String) :
    NicDevice.ofJson? (place.newDevice name).toJson = some (place.newDevice name) := by
  rfl

/-- An object that can be read can be given an identity. -/
theorem patchStatus_on {object : Json} {device : NicDevice}
    (stored : objects.get? name = some object) (decodes : NicDevice.ofJson? object = some device) :
    (discard (Publishing.patchStatus name card.patch)).on selects found objects =
      (.ok (), objects.insert name (object.merge card.patch)) := by
  have known : (ApiCall.patchStatus name card.patch).value? selects objects =
      some { device with
        status := some ((StatusPatch.identity card).apply (StatusPatch.base object device)) } := by
    rw [ApiCall.value?, stored]
    have legible : (StatusPatch.identity card).IsLegible := trivial
    exact StatusPatch.ofJson?_merge decodes legible
  have left : (ApiCall.patchStatus name card.patch).effect objects =
      objects.insert name (object.merge card.patch) := by
    simp only [ApiCall.effect, stored]
  rw [← left]
  exact on_discard (on_api known)

theorem publishCard_on_absent (absent : objects.get? name = none) :
    (place.publishCard name card).on selects found objects =
      (.ok (), place.published name card objects) := by
  have got : (ApiCall.get name).value? selects objects = some none := by
    rw [ApiCall.value?, absent]
  have made : (ApiCall.create (place.newDevice name)).value? selects objects =
      some (place.newDevice name) := ofJson?_newDevice place name
  have there : ((ApiCall.create (place.newDevice name)).effect objects).get? name =
      some (place.newDevice name).toJson := Dict.get?_insert_self _ _ _
  have ensured : (place.ensureDevice name).on selects found objects =
      (.ok (place.newDevice name), (ApiCall.create (place.newDevice name)).effect objects) :=
    (on_bind (on_api got)).trans (on_api made)
  have merged : place.published name card objects =
      (objects.insert name (place.newDevice name).toJson).insert name
        ((place.newDevice name).toJson.merge card.patch) := by
    rw [published, absent, Dict.insert_insert]
    rfl
  rw [merged]
  exact (on_bind ensured).trans (patchStatus_on there (ofJson?_newDevice place name))

theorem isOutdated_eq {object : Json} {device : NicDevice}
    (decodes : NicDevice.ofJson? object = some device) :
    card.isOutdated object = card.differsFrom device.status := by
  rw [Identity.isOutdated, decodes]
  rfl

theorem get_on_present {object : Json} {device : NicDevice}
    (stored : objects.get? name = some object)
    (decodes : NicDevice.ofJson? object = some device) :
    (Publishing.get name).on selects found objects = (.ok (some device), objects) := by
  have known : (ApiCall.get name).value? selects objects = some (some device) := by
    simp only [ApiCall.value?, stored, decodes, Option.map_some]
  exact on_api known

theorem ensureDevice_on_present {object : Json} {device : NicDevice}
    (stored : objects.get? name = some object)
    (decodes : NicDevice.ofJson? object = some device) :
    (place.ensureDevice name).on selects found objects = (.ok device, objects) :=
  (on_bind (get_on_present stored decodes)).trans (on_pure device)

theorem publishCard_on_present {object : Json} {device : NicDevice}
    (stored : objects.get? name = some object)
    (decodes : NicDevice.ofJson? object = some device) :
    (place.publishCard name card).on selects found objects =
      (.ok (), place.published name card objects) := by
  refine (on_bind (ensureDevice_on_present stored decodes)).trans ?_
  rw [published, stored, publishedObject, isOutdated_eq decodes]
  split
  · exact patchStatus_on stored decodes
  · rw [Dict.insert_get?_self stored]
    exact on_pure ()

theorem publishCard_on (readable : ∀ object, objects.get? name = some object →
      ∃ device, NicDevice.ofJson? object = some device) :
    (place.publishCard name card).on selects found objects =
      (.ok (), place.published name card objects) := by
  cases stored : objects.get? name with
  | none => exact publishCard_on_absent stored
  | some object =>
      obtain ⟨device, decodes⟩ := readable object stored
      exact publishCard_on_present stored decodes

/-! ## All the cards -/

/-- The cards have objects of their own. -/
def Distinct (place : Place) (cards : List Status) : Prop :=
  cards.Pairwise fun card other => place.cardName card ≠ place.cardName other

def publishedAll (place : Place) (cards : List Status) (objects : Dict Json) : Dict Json :=
  cards.foldl (fun objects card => place.published (place.cardName card) card.toIdentity objects)
    objects

theorem get?_published (other : String) :
    (place.published name card objects).get? other =
      if name = other then some (place.publishedObject name card (objects.get? name))
      else objects.get? other :=
  Dict.get?_insert _ _ _ _

theorem get?_publishedAll_of_ne {cards : List Status} {other : String}
    (h : ∀ card ∈ cards, place.cardName card ≠ other) :
    (place.publishedAll cards objects).get? other = objects.get? other := by
  induction cards generalizing objects with
  | nil => rfl
  | cons card rest ih =>
      refine (ih fun _ mem => h _ (List.mem_cons_of_mem _ mem)).trans ?_
      rw [get?_published, if_neg (h card List.mem_cons_self)]

theorem get?_publishedAll {cards : List Status} (distinct : place.Distinct cards) {card : Status}
    (mem : card ∈ cards) :
    (place.publishedAll cards objects).get? (place.cardName card) =
      some (place.publishedObject (place.cardName card) card.toIdentity
        (objects.get? (place.cardName card))) := by
  induction cards generalizing objects with
  | nil => cases mem
  | cons first rest ih =>
      obtain ⟨other, distinct⟩ := List.pairwise_cons.1 distinct
      rcases List.mem_cons.1 mem with rfl | mem
      · refine (get?_publishedAll_of_ne fun _ mem => (other _ mem).symm).trans ?_
        rw [get?_published, if_pos rfl]
      · refine (ih distinct mem).trans ?_
        rw [get?_published, if_neg (other card mem)]

theorem publishCards_on {cards : List Status} {listed : List String}
    (readable : ∀ card ∈ cards, ∀ object, objects.get? (place.cardName card) = some object →
      ∃ device, NicDevice.ofJson? object = some device)
    (distinct : place.Distinct cards) (fresh : ∀ card ∈ cards, place.cardName card ∉ listed) :
    (place.publishCards listed cards).on selects found objects =
      (.ok ((cards.map place.cardName).reverse ++ listed), place.publishedAll cards objects) := by
  induction cards generalizing listed objects with
  | nil => exact on_pure listed
  | cons first rest ih =>
      obtain ⟨other, distinct⟩ := List.pairwise_cons.1 distinct
      obtain ⟨new, fresh⟩ := List.forall_mem_cons.1 fresh
      obtain ⟨reads, readable⟩ := List.forall_mem_cons.1 readable
      have unlisted : listed.contains (place.cardName first) = false := by simpa using new
      have later : ∀ card ∈ rest, place.cardName card ∉ place.cardName first :: listed := by
        intro card mem listed
        rcases List.mem_cons.1 listed with same | listed
        · exact other card mem same.symm
        · exact fresh card mem listed
      have readable : ∀ card ∈ rest, ∀ object,
          (place.published (place.cardName first) first.toIdentity objects).get?
            (place.cardName card) = some object →
          ∃ device, NicDevice.ofJson? object = some device := by
        intro card mem object stored
        rw [get?_published, if_neg (other card mem)] at stored
        exact readable card mem object stored
      refine (on_bind (publishCard_on reads)).trans ?_
      rw [cardName] at unlisted
      rw [if_neg (Bool.eq_false_iff.1 unlisted)]
      refine (ih readable distinct later).trans ?_
      rw [List.map_cons, List.reverse_cons, List.append_assoc]
      rfl

/-! ## The sweep -/

/-- The names of the devices that are not listed. -/
def unlisted (listed : List String) (devices : List NicDevice) : List String :=
  (devices.map NicDevice.name).filter fun name => !listed.contains name

theorem deleteOthers_on {listed : List String} {devices : List NicDevice}
    (distinct : (devices.map NicDevice.name).Nodup)
    (there : ∀ name ∈ unlisted listed devices, ∃ object, objects.get? name = some object) :
    (deleteOthers listed devices).on selects found objects =
      (.ok (), swept (unlisted listed devices) objects) := by
  induction devices generalizing objects with
  | nil =>
      show _ = (_, swept [] objects)
      rw [swept_nil]
      exact on_pure ()
  | cons device rest ih =>
      obtain ⟨new, distinct⟩ := List.nodup_cons.1 distinct
      rw [deleteOthers]
      by_cases contained : listed.contains device.name = true
      · have same : unlisted listed (device :: rest) = unlisted listed rest :=
          List.filter_cons_of_neg (by simpa using contained)
        rw [same] at there ⊢
        rw [contained]
        exact ih distinct there
      · have same : unlisted listed (device :: rest) = device.name :: unlisted listed rest :=
          List.filter_cons_of_pos (by simpa using contained)
        rw [same] at there ⊢
        obtain ⟨⟨object, stored⟩, there⟩ := List.forall_mem_cons.1 there
        have known : (ApiCall.delete device.name).value? selects objects = some () := by
          rw [ApiCall.value?, stored]
          rfl
        have later : ∀ name ∈ unlisted listed rest,
            ∃ object, (objects.erase device.name).get? name = some object := by
          intro name mem
          have other : device.name ≠ name := fun same => new (same ▸ (List.mem_filter.1 mem).1)
          rw [Dict.get?_erase, if_neg other]
          exact there name mem
        rw [Bool.eq_false_iff.2 contained, swept_cons]
        exact (on_bind (on_api known)).trans (ih distinct later)

end Place

end Format

end NicKeeper
