import Mathlib.Data.List.Basic
import NicKeeper.Daemon.Publish
import NicKeeper.Proofs.Runs

/-!
# What a publisher asks for

This file is about the runs of a publisher, whatever it is answered. A run ends with the first
failure (`Publishing.Heeds`): if it comes to a result, then nothing that it asked for has failed. It
goes through the same stages (`Place.Stages`): the cards, then the list, then what is deleted. So a
failure before the list has been answered leaves nothing deleted (`unswept_of_failed`).

The names that a run has noted when it comes to the list are those of the cards, each once
(`runs_publishCards_ok`). What was listed and is not among them is what a run asks to delete, and if
it comes to a result it has asked for all of it.
-/

namespace NicKeeper

open Program

/-! ## Failures -/

def PublishCall.succeeded : (call : PublishCall) → call.Answer → Bool
  | .discover, answer => answer.isOk
  | .api _, answer => answer.isOk

namespace Publishing

variable {α β : Type}

/-- Work that ends in an error as soon as a call fails. -/
def Heeds : Program publishService (Except DaemonError α) → Prop
  | .done _ => True
  | .ask call next => ∀ answer, Heeds (next answer) ∧
    (call.succeeded answer = false → ∃ e, next answer = .done (.error e))

theorem heeds_pure (value : α) : Heeds (pure value : Publishing α).run := trivial

theorem Heeds.bind {work : Publishing α} {next : α → Publishing β} (first : Heeds work.run)
    (rest : ∀ value, Heeds (next value).run) : Heeds (work >>= next).run := by
  have along (program : Program publishService (Except DaemonError α)) (first : Heeds program) :
      Heeds (ExceptT.mk program >>= next).run := by
    induction program with
    | done found =>
        cases found with
        | ok value => exact rest value
        | error e => trivial
    | ask call others ih =>
        intro answer
        obtain ⟨heeds, stops⟩ := first answer
        refine ⟨ih answer heeds, fun failed => ?_⟩
        obtain ⟨e, ends⟩ := stops failed
        refine ⟨e, ?_⟩
        show (others answer).bind _ = _
        rw [ends]
        rfl
  exact along work.run first

theorem heeds_discover : Heeds discover.run := by
  intro answer
  refine ⟨trivial, fun failed => ?_⟩
  cases answer with
  | ok found => cases failed
  | error cause => exact ⟨.manager cause, rfl⟩

theorem heeds_api (call : ApiCall) : Heeds (api call).run := by
  intro answer
  refine ⟨trivial, fun failed => ?_⟩
  cases answer with
  | ok value => cases failed
  | error failure => exact ⟨.api failure, rfl⟩

/-- Work that comes to a result was not answered with a failure. -/
theorem Heeds.succeeded {program : Program publishService (Except DaemonError α)}
    {events : List (Event publishService)} {value : α} (h : Heeds program)
    (runs : program.Runs events (.ok value)) :
    ∀ event ∈ events, event.call.succeeded event.answer = true := by
  induction program generalizing events with
  | done found =>
      obtain ⟨rfl, -⟩ := runs_done_iff.1 runs
      exact List.forall_mem_nil _
  | ask call next ih =>
      obtain ⟨answer, rest, rfl, later⟩ := runs_ask_iff.1 runs
      obtain ⟨heeds, stops⟩ := h answer
      refine List.forall_mem_cons.2 ⟨?_, ih answer heeds later⟩
      by_contra failed
      obtain ⟨e, ends⟩ := stops (Bool.eq_false_iff.2 failed)
      rw [ends] at later
      cases (runs_done_iff.1 later).2

theorem runs_discover_iff {events : List (Event publishService)}
    {result : Except DaemonError (Dict Status)} :
    discover.run.Runs events result ↔ ∃ answer, events = [⟨.discover, answer⟩] ∧
      result = answer.mapError .manager :=
  runs_ask_done_iff

theorem runs_api_iff {call : ApiCall} {events : List (Event publishService)}
    {result : Except DaemonError call.Value} :
    (api call).run.Runs events result ↔ ∃ answer, events = [⟨.api call, answer⟩] ∧
      result = answer.mapError .api :=
  runs_ask_done_iff

theorem eq_ok_of_mapError {ε : Type} {answer : Except ε α} {wrap : ε → DaemonError} {value : α}
    (h : .ok value = answer.mapError wrap) : answer = .ok value := by
  cases answer with
  | ok found => rw [Except.ok.inj h]
  | error failure => cases h

end Publishing

namespace Place

variable {place : Place} {cards : List Status} {events : List (Event publishService)}

open Publishing (Heeds heeds_pure heeds_discover heeds_api)

theorem heeds_publishCard (place : Place) (name : String) (card : Identity) :
    Heeds (place.publishCard name card).run := by
  refine Heeds.bind (Heeds.bind (heeds_api (.get name)) fun found => ?_) fun device => ?_
  · cases found with
    | some device => exact heeds_pure device
    | none => exact heeds_api (.create (place.newDevice name))
  · split
    · exact Heeds.bind (heeds_api (.patchStatus name card.patch)) fun _ => heeds_pure _
    · exact heeds_pure _

theorem heeds_publishCards (place : Place) (published : List String) (cards : List Status) :
    Heeds (place.publishCards published cards).run := by
  induction cards generalizing published with
  | nil => exact heeds_pure _
  | cons card rest ih => exact Heeds.bind (heeds_publishCard place _ _) fun _ => ih _

theorem heeds_deleteOthers (published : List String) (devices : List NicDevice) :
    Heeds (deleteOthers published devices).run := by
  induction devices with
  | nil => exact heeds_pure _
  | cons device rest ih =>
      rw [deleteOthers]
      split
      · exact Heeds.bind (heeds_api (.delete device.name)) fun _ => ih
      · exact ih

theorem heeds_publish (place : Place) (cards : List Status) : Heeds (place.publish cards).run :=
  Heeds.bind (heeds_publishCards place [] cards) fun published =>
    Heeds.bind (heeds_api (.list (nodeSelector place.node))) fun devices =>
      Heeds.bind (heeds_deleteOthers published devices) fun _ => heeds_pure _

theorem heeds_discoverAndPublishBy (place : Place) (iterate : Dict Status → List Status) :
    Heeds (place.discoverAndPublishBy iterate).run :=
  Heeds.bind heeds_discover fun found => heeds_publish place (iterate found)

/-! ## The calls of each stage -/

def cardName (place : Place) (card : Status) : String := deviceName place.node card.toIdentity

/-- The calls that cards are published with. -/
inductive Publishes (place : Place) (cards : List Status) : PublishCall → Prop where
  | look (name : String) : Publishes place cards (.api (.get name))
  | make {card : Status} (mem : card ∈ cards) :
      Publishes place cards (.api (.create (place.newDevice (place.cardName card))))
  | tell {card : Status} (mem : card ∈ cards) :
      Publishes place cards (.api (.patchStatus (place.cardName card) card.toIdentity.patch))

theorem only_api {allowed : PublishCall → Prop} {call : ApiCall} (own : allowed (.api call)) :
    Only (S := publishService) allowed (Publishing.api call).run :=
  only_ask own fun _ => only_done _

theorem only_publishCard {card : Status} (mem : card ∈ cards) :
    Only (place.Publishes cards) (place.publishCard (place.cardName card) card.toIdentity).run := by
  refine Only.bindT (Only.bindT (only_api (.look _)) fun found => ?_) fun device => ?_
  · cases found with
    | some device => exact only_done _
    | none => exact only_api (.make mem)
  · split
    · exact Only.bindT (only_api (.tell mem)) fun _ => only_done _
    · exact only_done _

theorem only_publishCards (published : List String) (cards : List Status) :
    Only (place.Publishes cards) (place.publishCards published cards).run := by
  have within : ∀ rest, (∀ card ∈ rest, card ∈ cards) → ∀ published,
      Only (place.Publishes cards) (place.publishCards published rest).run := by
    intro rest
    induction rest with
    | nil => exact fun _ _ => only_done _
    | cons card rest ih =>
        intro among published
        obtain ⟨own, among⟩ := List.forall_mem_cons.1 among
        exact Only.bindT (only_publishCard own) fun _ => ih among _
  exact within cards (fun _ mem => mem) published

theorem mem_noted {names : List String} {name other : String} :
    other ∈ (if names.contains name then names else name :: names) ↔
      other = name ∨ other ∈ names := by
  split
  · next listed =>
      have listed : name ∈ names := by simpa using listed
      exact ⟨.inr, fun h => h.elim (fun same => same ▸ listed) id⟩
  · exact List.mem_cons

/-- The names that are noted are those of the cards. -/
theorem runs_publishCards_ok {published names : List String}
    (h : (place.publishCards published cards).run.Runs events (.ok names)) (name : String) :
    name ∈ names ↔ (∃ card ∈ cards, place.cardName card = name) ∨ name ∈ published := by
  induction cards generalizing published events with
  | nil =>
      obtain ⟨-, same⟩ := runs_pureT_iff.1 h
      cases same
      simp
  | cons card rest ih =>
      obtain ⟨_, _, _, -, -, later⟩ := runs_bindT_ok h
      rw [ih later, mem_noted, List.exists_mem_cons_iff, or_assoc, eq_comm]
      exact or_left_comm

/-- The calls of a sweep. -/
def Sweeps (published : List String) (devices : List NicDevice) (call : PublishCall) : Prop :=
  ∃ device ∈ devices, device.name ∉ published ∧ call = .api (.delete device.name)

theorem only_deleteOthers (published : List String) (devices : List NicDevice) :
    Only (Sweeps published devices) (deleteOthers published devices).run := by
  induction devices with
  | nil => exact only_done _
  | cons device rest ih =>
      have later : Only (Sweeps published (device :: rest)) (deleteOthers published rest).run :=
        ih.mono fun call ⟨other, mem, asked⟩ => ⟨other, List.mem_cons_of_mem _ mem, asked⟩
      rw [deleteOthers]
      by_cases listed : device.name ∈ published
      · have contained : published.contains device.name = true := by simpa using listed
        rw [contained]
        exact later
      · have contained : published.contains device.name = false := by simpa using listed
        rw [contained]
        exact Only.bindT (only_api ⟨device, List.mem_cons_self, listed, rfl⟩) fun _ => later

/-- A sweep that comes to its end has asked for every deletion. -/
theorem mem_of_deleteOthers {published : List String} {devices : List NicDevice}
    (h : (deleteOthers published devices).run.Runs events (.ok ())) {device : NicDevice}
    (mem : device ∈ devices) (new : device.name ∉ published) :
    ⟨.api (.delete device.name), .ok ()⟩ ∈ events := by
  induction devices generalizing events with
  | nil => cases mem
  | cons first rest ih =>
      rw [deleteOthers] at h
      rcases List.mem_cons.1 mem with rfl | mem
      · have contained : published.contains device.name = false := by simpa using new
        rw [contained] at h
        obtain ⟨_, _, _, rfl, asked, -⟩ := runs_bindT_ok h
        obtain ⟨answer, rfl, same⟩ := Publishing.runs_api_iff.1 asked
        obtain rfl := Publishing.eq_ok_of_mapError same
        exact List.mem_cons_self
      · split at h
        · obtain ⟨_, _, last, rfl, -, tail⟩ := runs_bindT_ok h
          exact List.mem_append_right _ (ih tail mem)
        · exact ih h mem

/-! ## The stages of a run -/

/-- How far a run gets: a card cannot be published, the node's objects cannot be listed, or what was
listed is swept. -/
inductive Stages (place : Place) (cards : List Status) :
    List (Event publishService) → Except DaemonError Nat → Prop where
  | unpublished {events : List (Event publishService)} {e : DaemonError}
      (cut : (place.publishCards [] cards).run.Runs events (.error e)) :
      Stages place cards events (.error e)
  | unlisted {events : List (Event publishService)} {published : List String} {failure : ApiFailure}
      (whole : (place.publishCards [] cards).run.Runs events (.ok published)) :
      Stages place cards (events ++ [⟨.api (.list (nodeSelector place.node)), .error failure⟩])
        (.error (.api failure))
  | swept {events last : List (Event publishService)} {published : List String}
      {devices : List NicDevice} {outcome : Except DaemonError Unit}
      (whole : (place.publishCards [] cards).run.Runs events (.ok published))
      (sweep : (deleteOthers published devices).run.Runs last outcome) :
      Stages place cards
        (events ++ ⟨.api (.list (nodeSelector place.node)), .ok devices⟩ :: last)
        (outcome.map fun _ => published.length)

theorem runs_publish {result : Except DaemonError Nat}
    (h : (place.publish cards).run.Runs events result) : place.Stages cards events result := by
  rcases runs_bindT_iff.1 h with ⟨e, rfl, cut⟩ | ⟨published, first, _, rfl, whole, rest⟩
  · exact .unpublished cut
  · obtain ⟨answer, last, rfl, afterList⟩ := runs_ask_iff.1 rest
    cases answer with
    | error failure =>
        obtain ⟨rfl, rfl⟩ := runs_done_iff.1 afterList
        exact .unlisted whole
    | ok devices =>
        change (deleteOthers published devices >>= fun _ => pure published.length).run.Runs last
          result at afterList
        rcases runs_bindT_iff.1 afterList with ⟨e, rfl, cut⟩ | ⟨_, _, _, rfl, sweep, done⟩
        · exact .swept whole cut
        · obtain ⟨rfl, rfl⟩ := runs_pureT_iff.1 done
          rw [List.append_nil]
          exact .swept whole sweep

/-- A run that succeeds has published all cards, and swept what was listed to the end. -/
theorem runs_publish_ok {n : Nat} (h : (place.publish cards).run.Runs events (.ok n)) :
    ∃ publishing published devices sweeping,
      events = publishing ++ ⟨.api (.list (nodeSelector place.node)), .ok devices⟩ :: sweeping ∧
      (place.publishCards [] cards).run.Runs publishing (.ok published) ∧
      (deleteOthers published devices).run.Runs sweeping (.ok ()) ∧ n = published.length := by
  generalize ends : (Except.ok n : Except DaemonError Nat) = result at h
  cases runs_publish h with
  | unpublished cut => cases ends
  | unlisted whole => cases ends
  | @swept publishing sweeping published devices outcome whole sweep =>
      cases outcome with
      | error e => cases ends
      | ok =>
          cases ends
          exact ⟨publishing, published, devices, sweeping, rfl, whole, sweep, rfl⟩

theorem only_publish (cards : List Status) :
    Only (S := publishService) (· ≠ .discover) (place.publish cards).run := by
  refine Only.bindT ((only_publishCards [] cards).mono ?_) fun published =>
    Only.bindT (only_api nofun) fun devices =>
      Only.bindT ((only_deleteOthers published devices).mono ?_) fun _ => only_done _
  · rintro call publishes rfl
    cases publishes
  · rintro call ⟨device, -, -, deletion⟩ rfl
    cases deletion

/-- A failure before the sweep is one of the run, and there is no sweep. -/
theorem unswept_of_failed {result : Except DaemonError Nat} {call : ApiCall} {answer : call.Answer}
    (h : (place.publish cards).run.Runs events result) (mem : ⟨.api call, answer⟩ ∈ events)
    (early : call.verb ≠ .delete) (failed : answer.isOk = false) :
    (∃ e, result = .error e) ∧ ∀ event ∈ events, ∀ name, event.call ≠ .api (.delete name) := by
  have publishing {found : Except DaemonError (List String)} {events : List (Event publishService)}
      (run : (place.publishCards [] cards).run.Runs events found) :
      ∀ event ∈ events, ∀ name, event.call ≠ .api (.delete name) := by
    intro event mem name same
    have publishes := only_publishCards [] cards _ _ run event mem
    rw [same] at publishes
    cases publishes
  cases runs_publish h with
  | unpublished cut => exact ⟨⟨_, rfl⟩, publishing cut⟩
  | unlisted whole =>
      refine ⟨⟨_, rfl⟩, fun event mem name same => ?_⟩
      rcases List.mem_append.1 mem with mem | mem
      · exact publishing whole event mem name same
      · rw [List.mem_singleton.1 mem] at same
        cases same
  | swept whole sweep =>
      rcases List.mem_append.1 mem with mem | mem
      · have heeded := (heeds_publishCards place [] cards).succeeded whole _ mem
        cases heeded.symm.trans failed
      · rcases List.mem_cons.1 mem with same | mem
        · cases same
          cases failed
        · obtain ⟨device, -, -, same⟩ := only_deleteOthers _ _ _ _ sweep _ mem
          cases same
          exact absurd rfl early

theorem exists_append_of_not_mem {α : Type} {front back first last : List α} {value : α}
    (h : front ++ back = first ++ value :: last) (new : value ∉ front) :
    ∃ rest, first = front ++ rest ∧ back = rest ++ value :: last := by
  rcases List.append_eq_append_iff.1 h with ⟨rest, eq, split⟩ | ⟨rest, rfl, split⟩
  · exact ⟨rest, eq, split⟩
  · cases rest with
    | nil => exact ⟨[], by simp, split.symm⟩
    | cons other rest =>
        obtain ⟨rfl, -⟩ := List.cons.inj split
        exact absurd (by simp) new

/-- A deletion belongs to the sweep. -/
theorem split_of_delete {first last : List (Event publishService)}
    {result : Except DaemonError Nat} {asked : String} {answer : Except ApiFailure Unit}
    (h : (place.publish cards).run.Runs events result)
    (split : events = first ++ ⟨.api (.delete asked), answer⟩ :: last) :
    ∃ published publishing devices sweeping,
      (place.publishCards [] cards).run.Runs publishing (.ok published) ∧
      first = publishing ++ ⟨.api (.list (nodeSelector place.node)), .ok devices⟩ :: sweeping ∧
      (∀ event ∈ sweeping, Sweeps published devices event.call) ∧
      ∃ device ∈ devices, device.name ∉ published ∧ device.name = asked := by
  have foreign {found : Except DaemonError (List String)} {publishing : List (Event publishService)}
      (run : (place.publishCards [] cards).run.Runs publishing found) :
      ⟨.api (.delete asked), answer⟩ ∉ publishing := by
    intro mem
    cases only_publishCards [] cards _ _ run _ mem
  have deletion : (⟨.api (.delete asked), answer⟩ : Event publishService) ∈ events := by
    simp [split]
  cases runs_publish h with
  | unpublished cut => exact absurd deletion (foreign cut)
  | unlisted whole =>
      rcases List.mem_append.1 deletion with mem | mem
      · exact absurd mem (foreign whole)
      · cases List.mem_singleton.1 mem
  | @swept publishing sweep published devices outcome whole run =>
      rw [List.append_cons] at split
      obtain ⟨sweeping, rfl, rfl⟩ := exists_append_of_not_mem split fun mem => by
        rcases List.mem_append.1 mem with mem | mem
        · exact foreign whole mem
        · cases List.mem_singleton.1 mem
      have sweeps := only_deleteOthers published devices _ _ run
      obtain ⟨device, mem, unpublished, same⟩ := sweeps ⟨.api (.delete asked), answer⟩ (by simp)
      cases same
      exact ⟨published, publishing, devices, sweeping, whole, by simp,
        fun event mem => sweeps event (List.mem_append_left _ mem), device, mem, unpublished, rfl⟩

/-! ## Runs from the search on -/

theorem runs_discoverAndPublishBy {iterate : Dict Status → List Status}
    {result : Except DaemonError Nat}
    (h : (place.discoverAndPublishBy iterate).run.Runs events result) :
    (∃ cause, events = [⟨.discover, .error cause⟩] ∧ result = .error (.manager cause)) ∨
      ∃ cards rest, events = ⟨.discover, .ok cards⟩ :: rest ∧
        (place.publish (iterate cards)).run.Runs rest result := by
  rcases runs_bindT_iff.1 h with ⟨e, rfl, cut⟩ | ⟨cards, _, rest, rfl, found, published⟩
  · obtain ⟨answer, rfl, same⟩ := Publishing.runs_discover_iff.1 cut
    cases answer with
    | ok cards => cases same
    | error cause =>
        cases same
        exact .inl ⟨cause, rfl, rfl⟩
  · obtain ⟨answer, rfl, same⟩ := Publishing.runs_discover_iff.1 found
    obtain rfl := Publishing.eq_ok_of_mapError same
    exact .inr ⟨cards, rest, rfl, published⟩

end Place

end NicKeeper
