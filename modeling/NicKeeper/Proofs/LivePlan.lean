import Mathlib.Data.List.TakeWhile
import NicKeeper.Proofs.CallsMade
import NicKeeper.Proofs.FirstFailure
import NicKeeper.Proofs.LiveOnMemory

/-!
# The plan of live settings

Live settings are brought about in two loops that know nothing of one another. The first reads them
back, port by port, and ends at the first difference. The second sets them, first all sizes and then
all interfaces, and ends at the first call that is refused or at the first port without an
interface. For each there is one list of calls that it makes a beginning of: the events that tell
that all is set (`LiveSettings.readBack`), and the calls that set all (`LiveSettings.plan`).

A run of the whole is one of the first loop, which changes nothing, and then one of the second,
unless the first found everything as it should be (`AppliesLive`). Where the first was refused an
answer the second is run as well, so nothing is lost but the time.

Two ports may have one address or one interface, and a host may answer the same question differently
the second time. So what the first loop was told is a list of events here, not one answer for each
port.
-/

namespace NicKeeper

open Program

namespace LiveSettings

/-- What a port with these settings is asked, and the answers. -/
def readBack (settings : LiveSettings) (port : Port) : List (Event hostService) :=
  (if settings.readRequest = 0 then []
    else [⟨.readRequest port.pci, .ok settings.readRequest⟩]) ++
    [⟨.qos port.networkInterface, .ok (settings.trust, settings.pfc)⟩]

def sizeCalls (settings : LiveSettings) (ports : List Port) : List HostCall :=
  if settings.readRequest = 0 then []
  else ports.map fun port => .setReadRequest port.pci settings.readRequest

def qosCalls (settings : LiveSettings) (ports : List Port) : List HostCall :=
  ports.map fun port => .setQos port.networkInterface settings.trust settings.pfc

/-- The calls that set everything. -/
def plan (settings : LiveSettings) (ports : List Port) : List HostCall :=
  settings.sizeCalls ports ++ settings.qosCalls ports

/-- The ports before the first that has no interface. -/
def connected (ports : List Port) : List Port := ports.takeWhile (·.networkInterface ≠ "")

/-- The calls of the plan that come before the first port without an interface. -/
def reachable (settings : LiveSettings) (ports : List Port) : List HostCall :=
  settings.sizeCalls ports ++ settings.qosCalls (connected ports)

variable {settings : LiveSettings} {ports : List Port} {port : Port}

theorem reachable_prefix_plan (settings : LiveSettings) (ports : List Port) :
    settings.reachable ports <+: settings.plan ports :=
  (List.prefix_append_right_inj _).2 ((List.takeWhile_prefix _).map _)

theorem reachable_eq_plan_iff :
    settings.reachable ports = settings.plan ports ↔ ∀ port ∈ ports, port.networkInterface ≠ "" := by
  rw [reachable, plan, List.append_cancel_left_eq]
  constructor
  · intro same
    have whole : connected ports = ports := by
      refine (List.takeWhile_prefix _).eq_of_length ?_
      have lengths := congrArg List.length same
      rwa [qosCalls, qosCalls, List.length_map, List.length_map] at lengths
    simpa using List.takeWhile_eq_self_iff.1 whole
  · intro all
    have whole : connected ports = ports := List.takeWhile_eq_self_iff.2 (by simpa using all)
    rw [whole]

theorem mutates_of_mem_plan {call : HostCall} (mem : call ∈ settings.plan ports) :
    call.mutates = true := by
  rcases List.mem_append.1 mem with mem | mem
  · rw [sizeCalls] at mem
    split at mem
    · cases mem
    · obtain ⟨_, -, rfl⟩ := List.mem_map.1 mem
      rfl
  · obtain ⟨_, -, rfl⟩ := List.mem_map.1 mem
    rfl

end LiveSettings

namespace Work

variable {α : Type} {work work' : Work Bool} {events : List (Event hostService)}

/-- A call of which only one answer makes for this result. -/
theorem runs_call_iff {call : HostCall} {read : call.Answer → Except EngineError α}
    {result : Except EngineError α} {answer : call.Answer}
    (only : ∀ found, result = read found ↔ found = answer) :
    (ask call >>= fun found => ofExcept (read found)).run.Runs events result ↔
      events = [⟨call, answer⟩] := by
  constructor
  · intro h
    obtain ⟨found, rfl, same⟩ := runs_call h
    rw [(only found).1 same]
  · rintro rfl
    rw [(only answer).2 rfl]
    exact .ask (.done _)

theorem eq_ofHost_iff {value : α} (answer : Except HostError α) :
    .ok value = ofHost answer ↔ answer = .ok value := by
  cases answer <;> simp [ofHost, eq_comm]

theorem runs_equals_iff [BEq α] [LawfulBEq α] {read : Work α} {value : α} :
    (read >>= fun found => pure (found == value)).run.Runs events (.ok true) ↔
      read.run.Runs events (.ok value) := by
  rw [runs_bindT_iff]
  constructor
  · rintro (⟨_, no, -⟩ | ⟨found, first, last, rfl, hf, hl⟩)
    · cases no
    · obtain ⟨rfl, same⟩ := runs_pureT_iff.1 hl
      rw [← eq_of_beq (Except.ok.inj same).symm, List.append_nil]
      exact hf
  · intro h
    refine .inr ⟨value, events, [], (List.append_nil _).symm, h, runs_pureT_iff.2 ⟨rfl, ?_⟩⟩
    rw [beq_self_eq_true]

theorem runs_and_iff :
    (work >>= fun found => if found then work' else pure false).run.Runs events (.ok true) ↔
      ∃ first last, events = first ++ last ∧ work.run.Runs first (.ok true) ∧
        work'.run.Runs last (.ok true) := by
  rw [runs_bindT_iff]
  constructor
  · rintro (⟨_, no, -⟩ | ⟨found, first, last, rfl, hf, hl⟩)
    · cases no
    · match found with
      | true => exact ⟨first, last, rfl, hf, hl⟩
      | false => cases (runs_pureT_iff.1 hl).2
  · rintro ⟨first, last, rfl, hf, hl⟩
    exact .inr ⟨true, first, last, rfl, hf, hl⟩

end Work

namespace Engine

open LiveSettings Work

variable {device : NicDevice} {settings : LiveSettings} {events : List (Event hostService)}

/-! ## Reading back -/

theorem runs_hasReadRequest_true_iff {port : Port} {size : UInt32} :
    (hasReadRequest port size).run.Runs events (.ok true) ↔
      events = if size = 0 then [] else [⟨.readRequest port.pci, .ok size⟩] := by
  rw [hasReadRequest]
  split
  · rw [runs_pureT_iff, and_iff_left rfl]
  · rw [runs_equals_iff, readRequest, runs_call_iff eq_ofHost_iff]

theorem runs_portIsSet_true_iff {port : Port} :
    (portIsSet device settings port).run.Runs events (.ok true) ↔
      port.networkInterface ≠ "" ∧ events = settings.readBack port := by
  have second (last : List (Event hostService)) :
      (ofExcept (interfaceOf device port) >>= fun interface =>
          qos interface >>= fun found => pure (found == (settings.trust, settings.pfc))).run.Runs
          last (.ok true) ↔
        port.networkInterface ≠ "" ∧
          last = [⟨.qos port.networkInterface, .ok (settings.trust, settings.pfc)⟩] := by
    rw [interfaceOf]
    split
    · next none =>
        refine ⟨fun h => ?_, fun has => absurd none has.1⟩
        cases (runs_done_iff.1 h).2
    · next some =>
        rw [and_iff_right some]
        show (qos port.networkInterface >>= fun found =>
          pure (found == (settings.trust, settings.pfc))).run.Runs last (.ok true) ↔ _
        rw [runs_equals_iff, qos, runs_call_iff eq_ofHost_iff]
  refine runs_and_iff.trans ?_
  constructor
  · rintro ⟨first, last, rfl, hf, hl⟩
    obtain ⟨some, rfl⟩ := (second last).1 hl
    rw [runs_hasReadRequest_true_iff.1 hf]
    exact ⟨some, rfl⟩
  · rintro ⟨some, rfl⟩
    exact ⟨_, _, rfl, runs_hasReadRequest_true_iff.2 rfl, (second _).2 ⟨some, rfl⟩⟩

theorem runs_portsAreSet_true_iff {ports : List Port} :
    (portsAreSet device settings ports).run.Runs events (.ok true) ↔
      (∀ port ∈ ports, port.networkInterface ≠ "") ∧ events = ports.flatMap settings.readBack := by
  induction ports generalizing events with
  | nil =>
      refine runs_pureT_iff.trans ?_
      simp
  | cons port rest ih =>
      refine runs_and_iff.trans ?_
      rw [List.forall_mem_cons, List.flatMap_cons]
      constructor
      · rintro ⟨first, last, rfl, hf, hl⟩
        obtain ⟨some, rfl⟩ := runs_portIsSet_true_iff.1 hf
        obtain ⟨all, rfl⟩ := ih.1 hl
        exact ⟨⟨some, all⟩, rfl⟩
      · rintro ⟨⟨some, all⟩, rfl⟩
        exact ⟨_, _, rfl, runs_portIsSet_true_iff.2 ⟨some, rfl⟩, ih.2 ⟨all, rfl⟩⟩

/-- Everything is found to be set exactly if each port is asked in turn, has an interface and
answers with what it is to have. -/
theorem runs_hasLiveSettings_true_iff {ports : NicDevice.Ports}
    (hs : device.liveSettings = .ok settings) (hp : device.ports = .ok ports) :
    (hasLiveSettings device).run.Runs events (.ok true) ↔
      (∀ port ∈ ports.configured, port.networkInterface ≠ "") ∧
        events = ports.configured.flatMap settings.readBack := by
  rw [hasLiveSettings, hs, hp]
  exact runs_portsAreSet_true_iff

/-! ## Setting -/

/-- A call that sets something was refused, for this reason. -/
inductive Refused (cause : HostError) : Event hostService → Prop where
  | size (pci : String) (size : UInt32) : Refused cause ⟨.setReadRequest pci size, .error cause⟩
  | qos (interface : String) (trust : Trust) (pfc : Pfc) :
      Refused cause ⟨.setQos interface trust pfc, .error cause⟩

theorem Refused.failed {cause : HostError} {event : Event hostService} (h : Refused cause event) :
    event.call.succeeded event.answer = false := by
  cases h <;> rfl

/-- The calls of a list are made, up to the first that is refused. If none is, the work ends in
`ending`. -/
inductive Carried (ending : Except EngineError Unit) :
    List HostCall → List (Event hostService) → Except EngineError Unit → Prop where
  | done : Carried ending [] [] ending
  | refused {call : HostCall} {answer : call.Answer} {cause : HostError} (rest : List HostCall)
      (failed : Refused cause ⟨call, answer⟩) :
      Carried ending (call :: rest) [⟨call, answer⟩] (.error (.host cause))
  | made {call : HostCall} {answer : call.Answer} {rest : List HostCall}
      {events : List (Event hostService)} {result : Except EngineError Unit}
      (succeeded : call.succeeded answer = true) (others : Carried ending rest events result) :
      Carried ending (call :: rest) (⟨call, answer⟩ :: events) result

namespace Carried

variable {ending answer : Except EngineError Unit} {calls more : List HostCall}
  {later : List (Event hostService)}

theorem begun (h : Carried ending calls events answer) : events.map (·.call) <+: calls := by
  induction h with
  | done => exact List.nil_prefix
  | refused rest failed => exact ⟨rest, rfl⟩
  | made succeeded others ih => exact List.cons_prefix_cons.2 ⟨rfl, ih⟩

/-- All calls were made and succeeded, or the last that was made was refused. -/
theorem cases_end (h : Carried ending calls events answer) :
    (AllSucceed events ∧ events.map (·.call) = calls ∧ answer = ending) ∨
      ∃ before last cause, events = before ++ [last] ∧ AllSucceed before ∧ Refused cause last ∧
        answer = .error (.host cause) := by
  induction h with
  | done => exact .inl ⟨allSucceed_nil, rfl, rfl⟩
  | refused rest failed => exact .inr ⟨[], _, _, rfl, allSucceed_nil, failed, rfl⟩
  | made succeeded others ih =>
      rcases ih with ⟨all, whole, same⟩ | ⟨before, last, cause, rfl, clean, failed, same⟩
      · exact .inl ⟨List.forall_mem_cons.2 ⟨succeeded, all⟩, congrArg _ whole, same⟩
      · exact .inr ⟨_ :: before, last, cause, rfl, List.forall_mem_cons.2 ⟨succeeded, clean⟩, failed,
          same⟩

theorem append {result : Except EngineError Unit} (first : Carried (.ok ()) calls events result)
    (ok : result = .ok ()) (rest : Carried ending more later answer) :
    Carried ending (calls ++ more) (events ++ later) answer := by
  induction first with
  | done => exact rest
  | refused rest failed => cases ok
  | made succeeded others ih => exact .made succeeded (ih ok)

theorem append_of_error {e : EngineError} (more : List HostCall)
    (first : Carried (.ok ()) calls events answer) (failed : answer = .error e) :
    Carried ending (calls ++ more) events answer := by
  induction first with
  | done => cases failed
  | refused rest refused => exact .refused _ refused
  | made succeeded others ih => exact .made succeeded (ih failed)

end Carried

theorem carried_setReadRequest {pci : String} {size : UInt32} {answer : Except EngineError Unit}
    (h : (setReadRequest pci size).run.Runs events answer) :
    Carried (.ok ()) [.setReadRequest pci size] events answer := by
  obtain ⟨found, rfl, rfl⟩ := runs_call h
  match found with
  | .ok () => exact .made rfl .done
  | .error cause => exact .refused [] (.size pci size)

theorem carried_setQos {interface : String} {trust : Trust} {pfc : Pfc}
    {answer : Except EngineError Unit}
    (h : (setQos interface trust pfc).run.Runs events answer) :
    Carried (.ok ()) [.setQos interface trust pfc] events answer := by
  obtain ⟨found, rfl, rfl⟩ := runs_call h
  match found with
  | .ok () => exact .made rfl .done
  | .error cause => exact .refused [] (.qos interface trust pfc)

/-- One piece of work after the other makes the calls of both. -/
theorem carried_bind {work : Work Unit} {next : Unit → Work Unit} {calls more : List HostCall}
    {ending answer : Except EngineError Unit}
    (first : ∀ events answer, work.run.Runs events answer → Carried (.ok ()) calls events answer)
    (rest : ∀ events answer, (next ()).run.Runs events answer → Carried ending more events answer)
    (h : (work >>= next).run.Runs events answer) :
    Carried ending (calls ++ more) events answer := by
  rcases runs_bindT_iff.1 h with ⟨e, rfl, hf⟩ | ⟨_, before, after, rfl, hf, hl⟩
  · exact (first _ _ hf).append_of_error more rfl
  · exact (first _ _ hf).append rfl (rest _ _ hl)

theorem carried_setReadRequests {size : UInt32} {ports : List Port}
    {answer : Except EngineError Unit} (h : (setReadRequests size ports).run.Runs events answer) :
    Carried (.ok ()) (ports.map fun port => .setReadRequest port.pci size) events answer := by
  induction ports generalizing events answer with
  | nil =>
      obtain ⟨rfl, rfl⟩ := runs_pureT_iff.1 h
      exact .done
  | cons port rest ih =>
      exact carried_bind (fun _ _ => carried_setReadRequest) (fun _ _ => ih) h

/-- How setting ends if no call is refused: with the first port that has no interface. -/
def ending (device : NicDevice) (ports : List Port) : Except EngineError Unit :=
  match ports.find? (·.networkInterface = "") with
  | none => .ok ()
  | some port => .error (.invalidDevice (.noInterface port.pci device.name))

theorem ending_eq_ok_iff {ports : List Port} :
    ending device ports = .ok () ↔ ∀ port ∈ ports, port.networkInterface ≠ "" := by
  rw [ending]
  cases found : ports.find? (·.networkInterface = "") with
  | none => simpa using List.find?_eq_none.1 found
  | some port =>
      have without : port.networkInterface = "" := by simpa using List.find?_some found
      exact ⟨nofun, fun all => absurd without (all port (List.mem_of_find?_eq_some found))⟩

theorem carried_setQosOfAll {ports : List Port} {answer : Except EngineError Unit}
    (h : (setQosOfAll device settings ports).run.Runs events answer) :
    Carried (ending device ports) (settings.qosCalls (connected ports)) events answer := by
  induction ports generalizing events answer with
  | nil =>
      obtain ⟨rfl, rfl⟩ := runs_pureT_iff.1 h
      exact .done
  | cons port rest ih =>
      rw [setQosOfAll, interfaceOf] at h
      by_cases none : port.networkInterface = ""
      · rw [if_pos none] at h
        obtain ⟨rfl, rfl⟩ := runs_done_iff.1 h
        have cut : connected (port :: rest) = [] := by simp [connected, none]
        have last : ending device (port :: rest) =
            .error (.invalidDevice (.noInterface port.pci device.name)) := by simp [ending, none]
        rw [cut, last]
        exact .done
      · rw [if_neg none] at h
        have kept : connected (port :: rest) = port :: connected rest := by
          simp [connected, none]
        have same : ending device (port :: rest) = ending device rest := by
          simp [ending, none]
        rw [kept, same]
        exact carried_bind (fun _ _ => carried_setQos) (fun _ _ => ih) h

theorem carried_setLive {ports : NicDevice.Ports} {answer : Except EngineError Unit}
    (hs : device.liveSettings = .ok settings) (hp : device.ports = .ok ports)
    (h : (setLive device).run.Runs events answer) :
    Carried (ending device ports.configured) (settings.reachable ports.configured) events
      answer := by
  rw [setLive, hs, hp] at h
  change (if settings.readRequest ≠ 0 then
      setReadRequests settings.readRequest ports.configured >>= fun _ =>
        setQosOfAll device settings ports.configured
    else setQosOfAll device settings ports.configured).run.Runs events answer at h
  by_cases zero : settings.readRequest = 0
  · rw [if_neg fun some => some zero] at h
    rw [reachable, sizeCalls, if_pos zero]
    exact carried_setQosOfAll h
  · rw [if_pos zero] at h
    rw [reachable, sizeCalls, if_neg zero]
    exact carried_bind (fun _ _ => carried_setReadRequests) (fun _ _ => carried_setQosOfAll) h

/-- What a run that sets everything has to do with the plan. -/
structure FollowsLivePlan (device : NicDevice) (settings : LiveSettings) (ports : List Port)
    (events : List (Event hostService)) (answer : Except EngineError Unit) : Prop where
  planned : events.map (·.call) <+: settings.plan ports
  /-- From the first port without an interface on there is no call. -/
  reached : events.map (·.call) <+: settings.reachable ports
  /-- After a call that was refused there is no other. -/
  cut : AllSucceed events.dropLast
  refused : ¬ AllSucceed events → ∃ before last cause, events = before ++ [last] ∧
    Refused cause last ∧ answer = .error (.host cause)
  uncut : AllSucceed events →
    events.map (·.call) = settings.reachable ports ∧ answer = ending device ports
  ok_iff : answer = .ok () ↔ AllSucceed events ∧ events.map (·.call) = settings.plan ports

theorem followsLivePlan_of_carried {ports : List Port} {answer : Except EngineError Unit}
    (h : Carried (ending device ports) (settings.reachable ports) events answer) :
    FollowsLivePlan device settings ports events answer := by
  have begun := h.begun
  have planned := begun.trans (settings.reachable_prefix_plan ports)
  rcases h.cases_end with ⟨all, whole, same⟩ | ⟨before, last, cause, rfl, clean, failed, rfl⟩
  · refine ⟨planned, begun, fun event mem => all event (List.dropLast_subset _ mem),
      fun no => absurd all no, fun _ => ⟨whole, same⟩, ?_⟩
    rw [same, ending_eq_ok_iff, whole, reachable_eq_plan_iff, and_iff_right all]
  · have some : ¬ AllSucceed (before ++ [last]) := fun all => by
      cases failed.failed.symm.trans (all last (List.mem_append_right _ List.mem_cons_self))
    refine ⟨planned, begun, ?_, fun _ => ⟨before, last, cause, rfl, failed, rfl⟩,
      fun all => absurd all some, ⟨nofun, fun all => absurd all.1 some⟩⟩
    rw [List.dropLast_concat]
    exact clean

/-- What a run that brings the live settings of some ports about comes to. -/
structure AppliesLive (device : NicDevice) (ports : List Port) (events : List (Event hostService))
    (answer : Except EngineError Unit) : Prop where
  /-- No other ports are asked about or changed. -/
  within : ∀ event ∈ events, Live ports event.call
  /-- What is wrong with a spec is told before anything is asked. -/
  wrong : ∀ e, device.liveSettings = .error e → events = [] ∧ answer = .error e
  /-- The settings are read back, and set unless all are found to be. -/
  course : ∀ settings, device.liveSettings = .ok settings → ∃ found reading writing,
    events = reading ++ writing ∧ (hasLiveSettings device).run.Runs reading found ∧
      changes reading = [] ∧ changes writing = writing.map (·.call) ∧
      (found = .ok true → writing = [] ∧ answer = .ok ()) ∧
      (found ≠ .ok true → FollowsLivePlan device settings ports writing answer)

theorem changes_hasLiveSettings {found : Except EngineError Bool}
    (h : (hasLiveSettings device).run.Runs events found) : changes events = [] := by
  have quiet : Makes (fun call => call.mutates = false) (hasLiveSettings device) :=
    hasLiveSettings_makes fun _ _ _ _ => ⟨rfl, rfl⟩
  refine List.filter_eq_nil_iff.2 fun call mem => ?_
  obtain ⟨event, made, rfl⟩ := List.mem_map.1 mem
  exact ne_true_of_eq_false (quiet _ _ h event made)

theorem FollowsLivePlan.changes_eq {ports : List Port} {answer : Except EngineError Unit}
    (h : FollowsLivePlan device settings ports events answer) :
    changes events = events.map (·.call) :=
  List.filter_eq_self.2 fun _ mem => mutates_of_mem_plan (h.planned.subset mem)

theorem applyLive_told {e : EngineError} {answer : Except EngineError Unit}
    (h : (applyLive device).run.Runs events answer) (wrong : device.liveSettings = .error e) :
    events = [] ∧ answer = .error e := by
  obtain ⟨found, first, last, rfl, hf, hl⟩ := runs_bind_iff.1 h
  obtain ⟨rfl, rfl⟩ := runs_hasLiveSettings_specError hf wrong
  dsimp only at hl
  split at hl
  · exact runs_done_iff.1 hl
  · rw [setLive, wrong] at hl
    exact runs_done_iff.1 hl

theorem applyLive_course {ports : NicDevice.Ports} {answer : Except EngineError Unit}
    (hs : device.liveSettings = .ok settings) (hp : device.ports = .ok ports)
    (h : (applyLive device).run.Runs events answer) :
    ∃ found reading writing, events = reading ++ writing ∧
      (hasLiveSettings device).run.Runs reading found ∧
      (found = .ok true → writing = [] ∧ answer = .ok ()) ∧
      (found ≠ .ok true →
        FollowsLivePlan device settings ports.configured writing answer) := by
  obtain ⟨found, reading, writing, rfl, hf, hl⟩ := runs_bind_iff.1 h
  refine ⟨found, reading, writing, rfl, hf, ?_⟩
  match found with
  | .ok true => exact ⟨fun _ => runs_done_iff.1 hl, fun no => absurd rfl no⟩
  | .ok false => exact ⟨nofun, fun _ => followsLivePlan_of_carried (carried_setLive hs hp hl)⟩
  | .error e =>
      dsimp only at hl
      split at hl
      · next spec => cases hs.symm.trans (liveSettings_of_runs_hasLiveSettings hf spec)
      · exact ⟨nofun, fun _ => followsLivePlan_of_carried (carried_setLive hs hp hl)⟩

theorem appliesLive_of_runs {ports : NicDevice.Ports} {answer : Except EngineError Unit}
    (hp : device.ports = .ok ports) (h : (applyLive device).run.Runs events answer) :
    AppliesLive device ports.configured events answer where
  within := by
    refine applyLive_of_configured (fun known same => ?_) _ _ h
    cases hp.symm.trans same
    exact List.Subset.refl _
  wrong _ := applyLive_told h
  course settings hs := by
    obtain ⟨found, reading, writing, split, read, spared, set⟩ := applyLive_course hs hp h
    refine ⟨found, reading, writing, split, read, changes_hasLiveSettings read, ?_, spared, set⟩
    by_cases all : found = .ok true
    · rw [(spared all).1]
      rfl
    · exact (set all).changes_eq

/-! ## Once more -/

section Readable

open MemoryHost

variable {host : MemoryHost} (sizes : host.check .readRequest = .ok ())
  (qualities : host.check .qos = .ok ())

include sizes in
theorem hasReadRequest_on {port : Port} {size : UInt32}
    (has : size ≠ 0 → host.readRequests.get? port.pci = some size) :
    (hasReadRequest port size).on host = (.ok true, host) := by
  rw [hasReadRequest]
  split
  · rfl
  · next some =>
      have asked : (readRequest port.pci).on host = (ofHost (host.readTable .readRequest
        host.readRequests "max read request" port.pci), host) := rfl
      rw [readTable, sizes, has some] at asked
      refine (on_bind_ok asked).trans ?_
      rw [beq_self_eq_true]
      rfl

include sizes qualities

theorem portIsSet_on {port : Port} (has : host.PortHas settings port) :
    (portIsSet device settings port).on host = (.ok true, host) := by
  obtain ⟨some, size, set⟩ := has
  have asked : (qos port.networkInterface).on host = (ofHost (host.readTable .qos host.qos "QoS"
    port.networkInterface), host) := rfl
  rw [readTable, qualities, set] at asked
  refine (on_bind_ok (hasReadRequest_on sizes size)).trans ?_
  rw [interfaceOf, if_neg some, if_pos rfl]
  refine (on_bind_ok asked).trans ?_
  rw [beq_self_eq_true]
  rfl

theorem portsAreSet_on {ports : List Port} (has : ∀ port ∈ ports, host.PortHas settings port) :
    (portsAreSet device settings ports).on host = (.ok true, host) := by
  induction ports with
  | nil => rfl
  | cons port rest ih =>
      obtain ⟨first, others⟩ := List.forall_mem_cons.1 has
      exact (on_bind_ok (portIsSet_on sizes qualities first)).trans (ih others)

theorem hasLiveSettings_on {ports : NicDevice.Ports} (hs : device.liveSettings = .ok settings)
    (hp : device.ports = .ok ports) (has : ∀ port ∈ ports.configured, host.PortHas settings port) :
    (hasLiveSettings device).on host = (.ok true, host) := by
  rw [hasLiveSettings, hs, hp]
  exact portsAreSet_on sizes qualities has

end Readable

theorem check_of_notMem {host : MemoryHost} {operation : HostOperation}
    (kept : operation ∉ host.failingOperations) : host.check operation = .ok () := by
  rw [MemoryHost.check, if_neg]
  simpa using kept

/-- Bringing live settings about does nothing of what is done already, carries out a beginning of
one plan otherwise, and on a host in memory has nothing left to do the second time, if no more than
the settings is as the first time left it and they can be read. -/
theorem applyLive_follows_plan {ports : NicDevice.Ports} (hp : device.ports = .ok ports) :
    (∀ settings, device.liveSettings = .ok settings → ∀ events,
      (hasLiveSettings device).run.Runs events (.ok true) ↔
        (∀ port ∈ ports.configured, port.networkInterface ≠ "") ∧
          events = ports.configured.flatMap settings.readBack) ∧
      (∀ events answer, (applyLive device).run.Runs events answer →
        AppliesLive device ports.configured events answer) ∧
      ∀ host after, (applyLive device).on host = (.ok (), after) → ∀ again : MemoryHost,
        again.readRequests = after.readRequests → again.qos = after.qos →
        .readRequest ∉ again.failingOperations → .qos ∉ again.failingOperations →
          (hasLiveSettings device).on again = (.ok true, again) ∧
            (applyLive device).on again = (.ok (), again) := by
  refine ⟨fun settings hs events => runs_hasLiveSettings_true_iff hs hp,
    fun events answer => appliesLive_of_runs hp, ?_⟩
  intro host after applied again sizes qualities readable readable'
  obtain ⟨settings, hs, has, -⟩ := applyLive_ok hp applied
  have kept : ∀ port ∈ ports.configured, again.PortHas settings port := fun port mem => by
    rw [MemoryHost.PortHas, sizes, qualities]
    exact has port mem
  have set := hasLiveSettings_on (check_of_notMem readable) (check_of_notMem readable') hs hp kept
  exact ⟨set, applyLive_of_set set⟩

end Engine

namespace Sample

/-- Three ports, the second with this interface. -/
def threePorts (second : String) : NicDevice.Ports :=
  ⟨{ pci := "p0", networkInterface := "e0" },
    [{ pci := "p1", networkInterface := second }, { pci := "p2", networkInterface := "e2" }]⟩

/-- A device that asks for PCI tuning and has three ports. -/
def threePortDevice (second : String) : NicDevice where
  metadata := { name := some "d0" }
  spec := { configuration := some { template := { numVfs := 4, pci := some ⟨true, 0, 0⟩ } } }
  status := some { ports := (threePorts second).all }

/-- The first size cannot be read. Of what is set then nothing fails, but the second port has no
interface. -/
def unwiredSetting : List (Event hostService) :=
  [⟨.readRequest "p0", .error (.notFound "p0")⟩, ⟨.setReadRequest "p0" 4096, .ok ()⟩,
    ⟨.setReadRequest "p1" 4096, .ok ()⟩, ⟨.setQos "e0" .pcp .off, .ok ()⟩]

end Sample

namespace Engine

/-- What was begun ends at the port without an interface. Were it to have one, two calls would do on
a host that reads everything back, and the third port is left alone either way. -/
theorem threePortDevice_follows_plan :
    (applyLive (Sample.threePortDevice "")).run.Runs Sample.unwiredSetting
        (.error (.invalidDevice (.noInterface "p1" "d0"))) ∧
      AppliesLive (Sample.threePortDevice "") (Sample.threePorts "").configured
        Sample.unwiredSetting (.error (.invalidDevice (.noInterface "p1" "d0"))) ∧
      ∃ after, (applyLive (Sample.threePortDevice "e1")).on {} = (.ok (), after) ∧
        after.calls = [.setReadRequest "p0" 4096, .setReadRequest "p1" 4096,
          .setQos "e0" .pcp .off, .setQos "e1" .pcp .off] ∧
        (applyLive (Sample.threePortDevice "e1")).on after = (.ok (), after) := by
  have runs : (applyLive (Sample.threePortDevice "")).run.Runs Sample.unwiredSetting
      (.error (.invalidDevice (.noInterface "p1" "d0"))) := .ask (.ask (.ask (.ask (.done _))))
  have hp (second : String) : (Sample.threePortDevice second).ports =
      .ok (Sample.threePorts second) := rfl
  have unwired := applyLive_follows_plan (hp "")
  have wired := applyLive_follows_plan (hp "e1")
  have applied : (applyLive (Sample.threePortDevice "e1")).on {} = (.ok (), _) := rfl
  obtain ⟨-, kept⟩ := wired.2.2 _ _ applied _ rfl rfl (by decide) (by decide)
  exact ⟨runs, unwired.2.1 _ _ runs, _, applied, rfl, kept⟩

end Engine

end NicKeeper
