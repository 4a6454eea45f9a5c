import Mathlib.Data.List.Induction
import NicKeeper.Proofs.Histories
import NicKeeper.Proofs.SetUp

/-!
# Hosts in use

A host in memory begins empty, and then setup operations and calls follow in any order; among the
operations are those that make calls fail. `MemoryHost.hostAfter` is the host that a list of such
deeds leads to.

Each deed keeps the parameters of every device nested: values in effect are of parameters that have
a staged one, and these have a default. An operation keeps them nested by itself. A call does so
because of its answer: a value that was staged is of a parameter that the device has
(`known_of_setNv`), and the other calls copy one table over another. Which parameters are advanced
is told by the operations alone. So what a query shows can be read off what was done, and off the
gate.
-/

namespace NicKeeper

open Program

/-! ## Calls that fail -/

/-- The call came to an error, or not to its end. -/
def HostCall.failed : (call : HostCall) → call.Answer → Bool
  | .listFunctions, .error _ => true
  | .cardLabel _, .error _ => true
  | .firmwareLabel _, .error _ => true
  | .linkSpeed _, .error _ => true
  | .queryNv _ _, some (.error _) => true
  | .queryNv _ _, none => true
  | .setNv _ _ _, .error _ => true
  | .resetNv _, .error _ => true
  | .resetFirmware _ _, some (.error _) => true
  | .resetFirmware _ _, none => true
  | .readRequest _, .error _ => true
  | .setReadRequest _ _, .error _ => true
  | .qos _, .error _ => true
  | .setQos _ _ _, .error _ => true
  | _, _ => false

namespace MemoryHost

variable {host : MemoryHost} {pci name value : String}

theorem commit_cases (host : MemoryHost) (result : Except HostError MemoryHost) :
    (∃ e, host.commit result = (.error e, host)) ∨
      ∃ changed, result = .ok changed ∧ host.commit result = (.ok (), changed) := by
  cases result with
  | error e => exact .inl ⟨e, rfl⟩
  | ok changed => exact .inr ⟨changed, rfl, rfl⟩

/-- A call that fails leaves nothing but its record. -/
theorem handle_of_failed {call : HostCall} (h : call.failed (handle call host).1 = true) :
    ∃ calls, (handle call host).2 = { host with calls := calls } := by
  have kept {call : HostCall} {result : Except HostError MemoryHost}
      (fails : Except HostError Unit → Bool) (done : fails (.ok ()) = false)
      (h : fails ((host.record call).commit result).1 = true) :
      ∃ calls, ((host.record call).commit result).2 = { host with calls := calls } := by
    rcases commit_cases (host.record call) result with ⟨e, failed⟩ | ⟨changed, -, ok⟩
    · rw [failed]
      exact ⟨_, rfl⟩
    · rw [ok, done] at h
      cases h
  cases call with
  | setNv pci name value => exact kept (HostCall.failed (.setNv pci name value)) rfl h
  | resetNv pci => exact kept (HostCall.failed (.resetNv pci)) rfl h
  | setReadRequest pci size => exact kept (HostCall.failed (.setReadRequest pci size)) rfl h
  | setQos interface trust pfc => exact kept (HostCall.failed (.setQos interface trust pfc)) rfl h
  | resetFirmware pci limit =>
      rw [handle, resetFirmware] at h ⊢
      cases checked : (host.record (.resetFirmware pci limit)).check .resetFirmware with
      | error e => exact ⟨_, rfl⟩
      | ok _ =>
          rw [checked] at h
          dsimp only at h ⊢
          split
          · next whole =>
              rw [if_pos whole] at h
              exact kept (fun answer => HostCall.failed (.resetFirmware pci limit) (some answer))
                rfl h
          · exact ⟨_, rfl⟩
  | _ => exact ⟨_, rfl⟩

/-- Only values of parameters that the device has are staged. -/
theorem known_of_setNv (h : (handle (.setNv pci name value) host).1 = .ok ()) :
    ∃ nv, host.nv.get? pci = some nv ∧ nv.stored.default.contains name = true := by
  rcases commit_cases (host.record (.setNv pci name value))
    ((host.record (.setNv pci name value)).stageParameter pci name value) with
    ⟨e, failed⟩ | ⟨changed, staged, -⟩
  · have refused : (handle (.setNv pci name value) host).1 = .error e := congrArg Prod.fst failed
    rw [refused] at h
    cases h
  · obtain ⟨nv, found, known, -⟩ := stageParameter_ok staged
    exact ⟨nv, found, known⟩

end MemoryHost

/-! ## What is kept -/

namespace NvMemory

variable {nv : NvMemory} {pci : String} {event : Event hostService}

theorem advanced_after (pci : String) (nv : NvMemory) (event : Event hostService) :
    (nv.after pci event).advanced = nv.advanced := by
  unfold after
  split
  · split
    · rfl
    · rfl
  · split
    · rfl
    · rfl
  · split
    · rfl
    · rfl
  · rfl

theorem Nested.stage (h : nv.Nested) {name : String}
    (known : nv.stored.default.contains name = true) (value : String) :
    (nv.stage name value).Nested := by
  constructor
  · intro other current
    show (nv.stored.nextBoot.insert name value).contains other = true
    rw [Dict.contains_insert, h.staged other current, Bool.or_true]
  · intro other staged
    change (nv.stored.nextBoot.insert name value).contains other = true at staged
    rw [Dict.contains_insert, Bool.or_eq_true, decide_eq_true_eq] at staged
    rcases staged with rfl | staged
    · exact known
    · exact h.known other staged

theorem Nested.stageDefaults (h : nv.Nested) : nv.stageDefaults.Nested :=
  ⟨fun name current => h.known name (h.staged name current), fun _ staged => staged⟩

theorem Nested.activate (h : nv.Nested) : nv.activate.Nested :=
  ⟨fun _ current => current, h.known⟩

theorem Nested.after (h : nv.Nested)
    (known : ∀ name value, event = ⟨.setNv pci name value, .ok ()⟩ →
      nv.stored.default.contains name = true) :
    (nv.after pci event).Nested := by
  unfold NvMemory.after
  split
  · next target name value =>
      split
      · next same => exact h.stage (known name value (by rw [same])) value
      · exact h
  · split
    · exact h.stageDefaults
    · exact h
  · split
    · exact h.activate
    · exact h
  · exact h

end NvMemory

namespace MemoryHost

variable {host : MemoryHost} {pci name : String}

theorem nested_handle (h : host.Nested) (call : HostCall) : (handle call host).2.Nested := by
  intro pci nv found
  rw [handle_nv, Option.map_eq_some_iff] at found
  obtain ⟨before, stored, rfl⟩ := found
  refine (h pci before stored).after fun name value asked => ?_
  obtain ⟨rfl, answered⟩ := Event.mk.inj asked
  obtain ⟨nv, stored', known⟩ := known_of_setNv (eq_of_heq answered)
  obtain rfl := Option.some.inj (stored.symm.trans stored')
  exact known

theorem advanced_handle (host : MemoryHost) (call : HostCall) (pci : String) :
    ((handle call host).2.parameters pci).advanced = (host.parameters pci).advanced := by
  rw [parameters, parameters, handle_nv]
  cases host.nv.get? pci with
  | none => rfl
  | some nv => exact NvMemory.advanced_after pci nv _

end MemoryHost

theorem Arrangement.mem_advanced_apply (arrangement : Arrangement) (host : MemoryHost)
    (pci name : String) : name ∈ ((arrangement.apply host).parameters pci).advanced ↔
      (∃ default current next, arrangement = .addAdvanced pci name default current next) ∨
        name ∈ (host.parameters pci).advanced := by
  rw [parameters_apply]
  cases arrangement with
  | addAdvanced target own default current next =>
      by_cases same : target = pci
      · simp [target?, same, change, NvMemory.addAdvanced, NvMemory.addParameter, eq_comm]
      · simp [target?, same]
  | addParameter | addDefault | removeCurrentNv =>
      simp [change, NvMemory.addParameter, NvMemory.addDefault, NvMemory.removeCurrent,
        apply_ite NvMemory.advanced]
  | _ => simp [target?]

/-! ## Deeds -/

/-- A setup operation, or a call. -/
inductive Deed where
  | setUp (arrangement : Arrangement)
  | ask (call : HostCall)

def Deed.perform : Deed → MemoryHost → MemoryHost
  | .setUp arrangement, host => arrangement.apply host
  | .ask call, host => (MemoryHost.handle call host).2

namespace MemoryHost

/-- What a new host has become after some deeds. -/
def hostAfter (deeds : List Deed) : MemoryHost :=
  deeds.foldl (fun host deed => deed.perform host) {}

/-- One of the deeds has registered a parameter of a device as advanced. -/
def Registered (deeds : List Deed) (pci name : String) : Prop :=
  ∃ default current next, .setUp (.addAdvanced pci name default current next) ∈ deeds

theorem hostAfter_concat (deeds : List Deed) (deed : Deed) :
    hostAfter (deeds ++ [deed]) = deed.perform (hostAfter deeds) := by
  rw [hostAfter, List.foldl_append]
  rfl

theorem nested_hostAfter (deeds : List Deed) : (hostAfter deeds).Nested := by
  induction deeds using List.reverseRecOn with
  | nil => exact fun _ _ no => nomatch no
  | append_singleton deeds deed ih =>
      rw [hostAfter_concat]
      cases deed with
      | setUp arrangement => exact arrangement.nested_apply ih
      | ask call => exact nested_handle ih call

theorem mem_advanced_hostAfter (deeds : List Deed) (pci name : String) :
    name ∈ ((hostAfter deeds).parameters pci).advanced ↔ Registered deeds pci name := by
  induction deeds using List.reverseRecOn with
  | nil =>
      refine iff_of_false List.not_mem_nil ?_
      rintro ⟨_, _, _, ⟨⟩⟩
  | append_singleton deeds deed ih =>
      rw [hostAfter_concat]
      cases deed with
      | setUp arrangement =>
          rw [Deed.perform, arrangement.mem_advanced_apply, ih]
          simp [Registered, exists_or, or_comm, eq_comm]
      | ask call =>
          rw [Deed.perform, advanced_handle, ih]
          simp [Registered]

end MemoryHost

/-! ## What is shown -/

/-- What a query shows of parameters, some of which are advanced: the defaults, and the other values
with the gate on; with the gate off those of parameters that are not advanced. -/
structure NvMemory.Shows (nv : NvMemory) (advanced : String → Prop) (snapshot : NvSnapshot) :
    Prop where
  defaults : snapshot.default = nv.stored.default
  opened : nv.stored.current.get? gateParameter = some onValue →
    snapshot.current = nv.stored.current ∧ snapshot.nextBoot = nv.stored.nextBoot
  closed : nv.stored.current.get? gateParameter ≠ some onValue → ∀ name value,
    (snapshot.current.get? name = some value ↔
      nv.stored.current.get? name = some value ∧ ¬ advanced name) ∧
    (snapshot.nextBoot.get? name = some value ↔
      nv.stored.nextBoot.get? name = some value ∧ ¬ advanced name)

theorem NvMemory.shows_shown (nv : NvMemory) : nv.Shows (· ∈ nv.advanced) nv.shown where
  defaults := rfl
  opened on := by
    have on : gateOn nv.stored.current = true := beq_iff_eq.2 on
    rw [shown_of_gateOn on]
    exact ⟨rfl, rfl⟩
  closed off name value := by
    have off : gateOn nv.stored.current = false := beq_eq_false_iff_ne.2 off
    have seen (values : Dict String) : (nv.visible values).get? name = some value ↔
        values.get? name = some value ∧ name ∉ nv.advanced := by
      simp [visible, Dict.get?_filter, Option.filter_eq_some_iff, off]
    exact ⟨seen _, seen _⟩

namespace MemoryHost

/-- Hosts that were set up and used in any way. The values in effect of a device are of parameters
that have a staged one, and those that have a staged one have a default. A query that succeeds shows
what the gate lets it show, where the advanced parameters are those that were registered as such.
And a call that fails changes nothing but the record of the calls. -/
theorem hostAfter_invariants (deeds : List Deed) :
    (∀ pci nv, (hostAfter deeds).nv.get? pci = some nv → nv.Nested) ∧
    (∀ pci limit snapshot,
      (handle (.queryNv pci limit) (hostAfter deeds)).1 = some (.ok snapshot) →
      ∃ nv, (hostAfter deeds).nv.get? pci = some nv ∧ nv.Shows (Registered deeds pci) snapshot) ∧
    ∀ call, call.failed (handle call (hostAfter deeds)).1 = true →
      ∃ calls, (handle call (hostAfter deeds)).2 = { hostAfter deeds with calls := calls } := by
  refine ⟨nested_hostAfter deeds, fun pci limit snapshot answered => ?_,
    fun call => handle_of_failed⟩
  obtain ⟨nv, found, rfl⟩ := handle_queryNv_ok answered
  have advanced : (· ∈ nv.advanced) = Registered deeds pci := by
    funext name
    rw [← parameters_of_get? found]
    exact propext (mem_advanced_hostAfter deeds pci name)
  exact ⟨nv, found, advanced ▸ nv.shows_shown⟩

/-- A device with a gate that is off, an advanced parameter, one whose writes fail, and one that had
a default only, until a value was staged and put into effect. -/
def mixedDeeds : List Deed := [
  .setUp (.addParameter "p0" gateParameter offValue offValue offValue),
  .setUp (.addAdvanced "p0" "HIDDEN" "0" "1" "1"),
  .setUp (.addParameter "p0" "BROKEN" "0" "0" "0"),
  .setUp (.addDefault "p0" "BARE" "0"),
  .setUp (.failParameter "BROKEN"),
  .ask (.setNv "p0" "BARE" "1"),
  .ask (.resetFirmware "p0" none)]

theorem mixedDeeds_shown :
    ∃ nv snapshot calls, (hostAfter mixedDeeds).nv.get? "p0" = some nv ∧ nv.Nested ∧
      (handle (.queryNv "p0" none) (hostAfter mixedDeeds)).1 = some (.ok snapshot) ∧
      nv.stored.current.get? "HIDDEN" = some "1" ∧ snapshot.current.get? "HIDDEN" = none ∧
      snapshot.current.get? "BARE" = some "1" ∧ snapshot.default = nv.stored.default ∧
      (handle (.setNv "p0" "BROKEN" "1") (hostAfter mixedDeeds)).2 =
        { hostAfter mixedDeeds with calls := calls } := by
  obtain ⟨nested, shown, kept⟩ := hostAfter_invariants mixedDeeds
  have answered : (handle (.queryNv "p0" none) (hostAfter mixedDeeds)).1 =
    some (.ok ((hostAfter mixedDeeds).parameters "p0").shown) := rfl
  obtain ⟨nv, found, shows⟩ := shown "p0" none _ answered
  have broken : HostCall.failed (.setNv "p0" "BROKEN" "1")
    (handle (.setNv "p0" "BROKEN" "1") (hostAfter mixedDeeds)).1 = true := rfl
  obtain ⟨calls, left⟩ := kept _ broken
  obtain rfl := parameters_of_get? found
  have off : ((hostAfter mixedDeeds).parameters "p0").stored.current.get? gateParameter ≠
      some onValue := by
    decide
  have registered : Registered mixedDeeds "p0" "HIDDEN" :=
    ⟨"0", "1", "1", List.mem_cons_of_mem _ List.mem_cons_self⟩
  have unregistered : ¬ Registered mixedDeeds "p0" "BARE" := by
    simp [Registered, mixedDeeds]
  refine ⟨_, _, calls, found, nested _ _ found, answered, rfl, ?_, ?_, shows.defaults, left⟩
  · refine Option.eq_none_iff_forall_ne_some.2 fun value seen => ?_
    exact ((shows.closed off "HIDDEN" value).1.1 seen).2 registered
  · exact (shows.closed off "BARE" "1").1.2 ⟨rfl, unregistered⟩

end MemoryHost

end NicKeeper
