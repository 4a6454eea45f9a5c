import NicKeeper.Proofs.Mirroring

/-!
# What a sweep deletes

A run that succeeds leaves the mirror of a node. This file is about the other runs: the cards could
not be found, or a call failed on the way. Which calls a run makes then was said for any answers
(`Stages`). What is deleted is told by a server's objects. Until the list is answered nothing goes
away and no metadata change; what is new bears the name of a card (`Grown`). After that nothing
comes (`Shrunk`). The list is the only thing that ties the two together: an object whose deletion is
asked for was listed, so the node's selector selected it then, and it bears no card's name.

That the object which is asked for is also the one that goes away takes one assumption on the store,
that objects are kept under the names in their metadata (`ApiObject.Filed`).
-/

namespace NicKeeper

open Program

namespace Place

/-! ## What is left of objects -/

variable {place : Place} {cards : List Status}

/-- What there is after cards were published: objects that were there before, with the metadata they
had, and objects that were made for cards. -/
def Grown (place : Place) (cards : List Status) (before after : Dict Json) : Prop :=
  ∀ name object, after.get? name = some object →
    (∃ earlier, before.get? name = some earlier ∧
      object.field? "metadata" = earlier.field? "metadata") ∨
    (∃ card ∈ cards, place.cardName card = name) ∧
      object.field? "metadata" = some (place.newDevice name).metadata.toJson

theorem Grown.refl (objects : Dict Json) : place.Grown cards objects objects :=
  fun _ object stored => .inl ⟨object, stored, rfl⟩

theorem Grown.trans {objects others rest : Dict Json} (h : place.Grown cards objects others)
    (later : place.Grown cards others rest) : place.Grown cards objects rest := by
  intro name object stored
  rcases later name object stored with ⟨earlier, stored, same⟩ | made
  · rcases h name earlier stored with ⟨first, stored, eq⟩ | ⟨own, eq⟩
    · exact .inl ⟨first, stored, same.trans eq⟩
    · exact .inr ⟨own, same.trans eq⟩
  · exact .inr made

theorem grown_insert {objects : Dict Json} {name : String} {object : Json}
    (own : (∃ earlier, objects.get? name = some earlier ∧
        object.field? "metadata" = earlier.field? "metadata") ∨
      (∃ card ∈ cards, place.cardName card = name) ∧
        object.field? "metadata" = some (place.newDevice name).metadata.toJson) :
    place.Grown cards objects (objects.insert name object) := by
  intro other later stored
  rw [Dict.get?_insert] at stored
  split at stored
  · next same =>
      cases stored
      exact same ▸ own
  · exact .inl ⟨later, stored, rfl⟩

theorem Grown.filed {objects others : Dict Json} (h : place.Grown cards objects others)
    (filed : ApiObject.Filed objects) : ApiObject.Filed others := by
  intro name object stored
  rcases h name object stored with ⟨earlier, stored, same⟩ | ⟨-, made⟩
  · exact (ApiObject.ownName?_congr same).trans (filed name earlier stored)
  · rw [ApiObject.ownName?, made]
    rfl

/-- What is left of objects after a sweep. -/
def Shrunk (before after : Dict Json) : Prop :=
  ∀ name object, after.get? name = some object → before.get? name = some object

theorem Shrunk.refl (objects : Dict Json) : Shrunk objects objects := fun _ _ stored => stored

theorem Shrunk.trans {objects others rest : Dict Json} (h : Shrunk objects others)
    (later : Shrunk others rest) : Shrunk objects rest :=
  fun name object stored => h name object (later name object stored)

theorem Shrunk.grown {objects others : Dict Json} (h : Shrunk objects others) :
    place.Grown cards objects others :=
  fun name object stored => .inl ⟨object, h name object stored, rfl⟩

/-! ## What calls do to them -/

theorem name_newDevice (place : Place) (name : String) : (place.newDevice name).name = name := rfl

section Server

variable [TimeFormat] {σ : Type} {server : ApiServer σ} {state before after : σ}
  {search : Except EngineError (Dict Status)} {first last events : List (Event publishService)}

theorem metadata_newDevice (place : Place) (name : String) :
    (place.newDevice name).toJson.field? "metadata" =
      some (place.newDevice name).metadata.toJson := rfl

/-- The calls that cards are published with let objects grow. -/
theorem grown_of_publishes {call : PublishCall} (h : place.Publishes cards call) (state : σ) :
    place.Grown cards (server.objects state)
      (server.objects (serveSearch search server.handle call state).2) := by
  have unchanged {left : Dict Json} (same : left = server.objects state) :
      place.Grown cards (server.objects state) left := same ▸ .refl _
  cases h with
  | look name => exact unchanged (server.objects_get name state)
  | @make card mem =>
      rcases server.objects_handle (.create (place.newDevice (place.cardName card))) state with
        same | made
      · exact unchanged same
      · rw [serveSearch_snd, made, ApiCall.effect, name_newDevice]
        exact grown_insert (.inr ⟨⟨card, mem, rfl⟩, metadata_newDevice place _⟩)
  | @tell card mem =>
      rcases server.objects_handle (.patchStatus (place.cardName card) card.toIdentity.patch) state
        with same | told
      · exact unchanged same
      · rw [ApiCall.effect] at told
        split at told
        · next object stored =>
            have kept : (object.merge card.toIdentity.patch).field? "metadata" =
                object.field? "metadata" :=
              (StatusPatch.field?_merge (.identity card.toIdentity) "metadata").trans
                (if_neg (by decide))
            rw [serveSearch_snd, told]
            exact grown_insert (.inl ⟨object, stored, kept⟩)
        · exact unchanged told

/-- The calls of a sweep let objects shrink. -/
theorem shrunk_of_sweeps {published : List String} {devices : List NicDevice} {call : PublishCall}
    (h : Sweeps published devices call) (state : σ) :
    Shrunk (server.objects state)
      (server.objects (serveSearch search server.handle call state).2) := by
  obtain ⟨device, -, -, rfl⟩ := h
  intro name object stored
  rcases server.objects_handle (.delete device.name) state with same | gone
  · exact same ▸ stored
  · rw [serveSearch_snd, gone, ApiCall.effect, Dict.get?_erase] at stored
    split at stored
    · cases stored
    · exact stored

theorem grown_of_follows {found : Except DaemonError (List String)}
    (h : (place.publishCards [] cards).run.Runs events found)
    (follows : Follows (serveSearch search server.handle) state events after) :
    place.Grown cards (server.objects state) (server.objects after) :=
  Follows.keeps
    (motive := fun state left => place.Grown cards (server.objects state) (server.objects left))
    (fun _ => .refl _) .trans
    (fun event mem => grown_of_publishes (only_publishCards [] cards _ _ h event mem)) follows

theorem shrunk_of_follows {published : List String} {devices : List NicDevice}
    (h : ∀ event ∈ events, Sweeps published devices event.call)
    (follows : Follows (serveSearch search server.handle) state events after) :
    Shrunk (server.objects state) (server.objects after) :=
  Follows.keeps (motive := fun state left => Shrunk (server.objects state) (server.objects left))
    (fun _ => .refl _) .trans (fun event mem => shrunk_of_sweeps (h event mem)) follows

/-! ## What goes away -/

/-- Only a deletion takes an object away. -/
theorem delete_of_gone {call : PublishCall} {name : String} {object : Json}
    (there : (server.objects state).get? name = some object)
    (gone : (server.objects (serveSearch search server.handle call state).2).get? name = none) :
    call = .api (.delete name) := by
  cases call with
  | discover => cases there.symm.trans gone
  | api call =>
      rw [serveSearch_snd] at gone
      rcases server.objects_handle call state with same | same
      · rw [same] at gone
        cases there.symm.trans gone
      · rw [same] at gone
        exact congrArg _ (ApiCall.eq_delete_of_effect there gone)

/-- An object that goes away in a run is one of the node's and bears no card's name. It was there
before the run. -/
theorem swept_of_gone {result : Except DaemonError Nat} {event : Event publishService}
    {name : String} {object : Json} (h : (place.publish cards).run.Runs events result)
    (filed : ApiObject.Filed (server.objects state)) (split : events = first ++ event :: last)
    (follows : Follows (serveSearch search server.handle) state first before)
    (there : (server.objects before).get? name = some object)
    (gone : (server.objects (serveSearch search server.handle event.call before).2).get? name =
      none) :
    (∀ card ∈ cards, place.cardName card ≠ name) ∧
      server.selects (nodeSelector place.node) (ApiObject.label? object) = true ∧
      ∃ earlier, (server.objects state).get? name = some earlier ∧
        object.field? "metadata" = earlier.field? "metadata" := by
  obtain ⟨call, answer⟩ := event
  obtain rfl := delete_of_gone there gone
  obtain ⟨published, publishing, devices, sweeping, whole, rfl, sweeps, device, mem, unpublished,
    rfl⟩ := split_of_delete h split
  obtain ⟨mid, publishes, answered, swept⟩ := follows_append_iff.1 follows
  have grown := grown_of_follows whole publishes
  have shrunk : Shrunk (server.objects mid) (server.objects before) := by
    have rest := shrunk_of_follows sweeps swept
    rwa [serveSearch_snd, ApiServer.objects_list] at rest
  -- What is deleted was listed, and not made for a card.
  obtain ⟨listed, stored, selected⟩ := ApiObject.exists_stored_of_listed
    (grown.filed filed) (ApiServer.handle_ok answered.symm).1 mem
  obtain rfl := Option.some.inj (stored.symm.trans (shrunk _ _ there))
  have other : ∀ card ∈ cards, place.cardName card ≠ device.name := fun card mem same =>
    unpublished ((runs_publishCards_ok whole _).2 (.inl ⟨card, mem, same⟩))
  exact ⟨other, selected, (grown _ _ stored).resolve_right fun ⟨⟨card, mem, own⟩, _⟩ =>
    other card mem own⟩

/-- Nothing is deleted unless everything was published, in whichever order the cards are gone
through and whatever is answered. If the cards cannot be found, nothing is asked of the server. If a
call to publish a card fails, or the list, then the run fails and nothing has been deleted. And
whenever an object goes away, up to whichever call the server has been followed, it is one that the
node's selector selects, so it bears the node's label, and it is without the name of a card that was
found. -/
theorem discoverAndPublish_deletes_stale (place : Place) (iterate : Dict Status → List Status)
    (order : ∀ found, (iterate found).Perm found.values) (events : List (Event publishService))
    (result : Except DaemonError Nat)
    (h : (place.discoverAndPublishBy iterate).run.Runs events result) :
    (∀ cause, ⟨.discover, .error cause⟩ ∈ events →
      events = [⟨.discover, .error cause⟩] ∧ result = .error (.manager cause)) ∧
    (∀ (call : ApiCall) (answer : call.Answer), ⟨.api call, answer⟩ ∈ events →
      call.verb ≠ .delete → answer.isOk = false →
      (∃ e, result = .error e) ∧ ∀ event ∈ events, ∀ name, event.call ≠ .api (.delete name)) ∧
    ∀ (σ : Type) (server : ApiServer σ) (search : Except EngineError (Dict Status))
      (state before : σ), ApiObject.Filed (server.objects state) →
      ∀ first event last, events = first ++ event :: last →
      Follows (serveSearch search server.handle) state first before →
      ∀ name object, (server.objects before).get? name = some object →
        (server.objects (serveSearch search server.handle event.call before).2).get? name = none →
        server.selects (nodeSelector place.node) (ApiObject.label? object) = true ∧
          (server.selects.ReadsNode place.node →
            ApiObject.label? object nodeLabel = some place.node) ∧
          ∀ cards, search = .ok cards → ∀ card ∈ cards.values, place.cardName card ≠ name := by
  rcases runs_discoverAndPublishBy h with ⟨cause, rfl, rfl⟩ | ⟨cards, rest, rfl, published⟩
  · refine ⟨fun _ mem => ?_, fun _ _ mem => ?_, ?_⟩
    · cases List.mem_singleton.1 mem
      exact ⟨rfl, rfl⟩
    · cases List.mem_singleton.1 mem
    · intro σ server search state before _ first event last split _ name object there gone
      have deletion := delete_of_gone there gone
      have mem : event ∈ [⟨.discover, .error cause⟩] := split ▸ by simp
      rw [List.mem_singleton.1 mem] at deletion
      cases deletion
  · refine ⟨fun _ mem => ?_, fun call answer mem early failed => ?_, ?_⟩
    · rcases List.mem_cons.1 mem with same | mem
      · cases same
      · exact absurd rfl (only_publish (iterate cards) _ _ published _ mem)
    · rcases List.mem_cons.1 mem with same | mem
      · cases same
      · obtain ⟨fails, unswept⟩ := unswept_of_failed published mem early failed
        exact ⟨fails, List.forall_mem_cons.2 ⟨nofun, unswept⟩⟩
    · intro σ server search state before filed first event last split follows name object there
        gone
      cases first with
      | nil =>
          obtain ⟨rfl, -⟩ := List.cons.inj split
          cases there.symm.trans gone
      | cons found first =>
          obtain ⟨rfl, later⟩ := List.cons.inj split
          obtain ⟨other, selected, -⟩ := swept_of_gone published filed later follows.2 there gone
          refine ⟨selected, fun reads => (reads _).1 selected, fun others same card mem => ?_⟩
          have told : search = .ok cards := follows.1.symm
          obtain rfl := Except.ok.inj (told.symm.trans same)
          exact other card ((order _).mem_iff.2 mem)

end Server

/-! ## A card that is gone -/

section

open scoped Rfc3339

/-- The run that sees a card gone, up to the deletion of its object. -/
def workerSweep : List (Event publishService) :=
  (workerServer.events (.ok workerCards) worker.discoverAndPublish workerObjects).dropLast

theorem events_workerSweep :
    workerServer.events (.ok workerCards) worker.discoverAndPublish workerObjects =
      workerSweep ++ [⟨.api (.delete "w-cx-c"), .ok ()⟩] := rfl

theorem goneCard_swept :
    ∃ before, worker.discoverAndPublish.run.Runs
        (workerSweep ++ [⟨.api (.delete "w-cx-c"), .ok ()⟩]) (.ok 2) ∧
      Follows (serveSearch (.ok workerCards) workerServer.handle) workerObjects workerSweep before ∧
      ApiObject.label? (workerObject "w-cx-c" .null) nodeLabel = some worker.node ∧
      ∀ card ∈ workerCards.values, worker.cardName card ≠ "w-cx-c" := by
  have runs := @runs_of_trace _ _ _ _ _ _ _ (.ok 2) events_workerSweep rfl
  have whole := follows_of_trace events_workerSweep
  obtain ⟨before, follows, -⟩ := follows_append_iff.1 whole
  have filed : ApiObject.Filed workerObjects := by
    intro name object stored
    rcases mem_workerObjects stored with ⟨rfl, rfl⟩ | ⟨rfl, rfl⟩
    · rfl
    · rfl
  have state := follows.eq_replay
  have there : before.get? "w-cx-c" = some (workerObject "w-cx-c" .null) := by
    rw [state]
    rfl
  have gone : (serveSearch (.ok workerCards) workerServer.handle (.api (.delete "w-cx-c"))
      before).2.get? "w-cx-c" = none := by
    rw [state]
    rfl
  have stale := (discoverAndPublish_deletes_stale worker Dict.values (fun _ => .refl _) _ _
    runs).2.2 _ workerServer (.ok workerCards) workerObjects before filed workerSweep _ [] rfl
    follows "w-cx-c" _ there gone
  exact ⟨before, runs, follows, stale.2.1 (ApiServer.readsNode_selectsEqual _),
    stale.2.2 workerCards rfl⟩

end

end Place

end NicKeeper
