import NicKeeper.Proofs.DeviceControl
import NicKeeper.Proofs.EngineRuns
import NicKeeper.Proofs.Rediscovery
import NicKeeper.Proofs.RetryCadence

/-!
# Sizes that cannot be written

A template may ask for any number as the maximum read request size, and the register can hold six.
Nobody looks at the number before it is to be written: not the settings that are made of a template,
which take it as it stands, and not the comparison with what is read back, which can only find that
the size is another one, since what is read can be written (`SystemHost.handle_readRequest`). It is
the host that refuses the number (`SystemHost.handle_setReadRequest`). So the engine takes it for a
fault of the host (`Engine.run_applyLive_of_refused`), and a daemon tries over and over what cannot
be done (`Place.requeued_of_live_error`). The settings of interfaces, which the same template gives
as text, are a fault of the spec if they cannot be read, and that is found out before anything is
asked.

At least nothing is written. The first port is asked for its size, which takes one run of a tool,
and the refusal takes none.
-/

namespace NicKeeper

open Program

/-! ## Sizes on a host -/

theorem Pci.refusal_eq {size : UInt32} {cause : HostError}
    (h : encodeReadRequest? size = .error cause) :
    cause = .invalidArgument (.readRequestSize size) := by
  rw [encodeReadRequest?] at h
  split at h
  · cases h
  · exact (Except.error.inj h).symm

/-- A run of a tool is recorded, if the tool could be started. -/
theorem World.commands_runTool (world : World) (command : Command) :
    (world.runTool command).2.commands = world.commands ∨
      (world.runTool command).2.commands = world.commands ++ [command] := by
  rw [runTool]
  split
  · exact .inl rfl
  · split
    · exact .inl rfl
    · exact .inr rfl

namespace SystemHost

theorem run_run (program : String) (arguments : List String) (world : World) :
    ∃ printed, (run program arguments).run.run World.handle world =
      (printed, (world.runTool ⟨program, arguments⟩).2) := by
  rw [run, run_ask_bind, World.handle]
  cases (world.runTool ⟨program, arguments⟩).1 with
  | error cause => exact ⟨_, rfl⟩
  | ok reply =>
      dsimp only
      split
      · exact ⟨_, rfl⟩
      · exact ⟨_, rfl⟩

/-- Reading a size is a run of a tool, and a size that is read can be written. -/
theorem handle_readRequest [PciNames] (pci : String) (world : World) :
    ∃ found, handle (.readRequest pci) world = (found, (world.runTool (sizeReading pci)).2) ∧
      ∀ size, found = .ok size → ∃ bits, Pci.encodeReadRequest? size = .ok bits := by
  obtain ⟨printed, ran⟩ := run_run "setpci" ["-s", pci, deviceControl] world
  have read : handle (.readRequest pci) world =
      ((run "setpci" ["-s", pci, deviceControl]).run.bind _).run World.handle world := rfl
  rw [read, run_bind, ran]
  cases printed with
  | error cause => exact ⟨_, rfl, nofun⟩
  | ok text => exact ⟨_, rfl, fun size => Pci.encodeReadRequest?_of_read⟩

/-- A size that cannot be written is refused before any tool is run. -/
theorem handle_setReadRequest [PciNames] {size : UInt32} {cause : HostError}
    (h : Pci.encodeReadRequest? size = .error cause) (pci : String) (world : World) :
    handle (.setReadRequest pci size) world = (.error cause, world) := by
  rw [handle, answer, h]
  rfl

end SystemHost

/-! ## What the engine makes of it -/

namespace Engine

variable {σ : Type} {handler : Handler hostService σ} {state mid after : σ}
  {device : NicDevice} {settings : LiveSettings}

/-- A difference is the end of the search for one, and so is an error. -/
theorem run_and_of_unset {work next : Work Bool} {found : Except EngineError Bool}
    (unset : found ≠ .ok true) (h : work.run.run handler state = (found, mid)) :
    (work >>= fun same => if same then next else pure false).run.run handler state =
      (found, mid) := by
  match found with
  | .ok true => exact absurd rfl unset
  | .ok false => exact run_bindT_of_ok h
  | .error e => exact run_bindT_of_error h

theorem run_hasReadRequest_of_other {port : Port} {size : UInt32} {found : Except HostError UInt32}
    (some : size ≠ 0) (asked : handler (.readRequest port.pci) state = (found, mid))
    (other : found ≠ .ok size) :
    ∃ result, result ≠ .ok true ∧
      (hasReadRequest port size).run.run handler state = (result, mid) := by
  have read : (readRequest port.pci).run.run handler state = (Work.ofHost found, mid) := by
    show (Work.ofHost (handler (.readRequest port.pci) state).1, _) = _
    rw [asked]
  rw [hasReadRequest, if_neg some]
  cases found with
  | error cause =>
      refine ⟨.error (.host cause), fun set => ?_, run_bindT_of_error read⟩
      cases set
  | ok actual =>
      refine ⟨.ok (actual == size), fun set => ?_, run_bindT_of_ok read⟩
      exact other (congrArg _ (eq_of_beq (Except.ok.inj set)))

theorem run_applyLive_of_refused {ports : NicDevice.Ports} {found : Except HostError UInt32}
    {cause : HostError} (hp : device.ports = .ok ports) (hs : device.liveSettings = .ok settings)
    (some : settings.readRequest ≠ 0)
    (asked : handler (.readRequest ports.first.pci) state = (found, mid))
    (other : found ≠ .ok settings.readRequest)
    (refused : handler (.setReadRequest ports.first.pci settings.readRequest) mid =
      (.error cause, after)) :
    (applyLive device).run.run handler state = (.error (.host cause), after) := by
  obtain ⟨result, unset, asked⟩ := run_hasReadRequest_of_other some asked other
  have compared : (hasLiveSettings device).run.run handler state = (result, mid) := by
    rw [hasLiveSettings, hs, hp]
    exact run_and_of_unset unset (run_and_of_unset unset asked)
  have set : (setLive device).run.run handler mid = (.error (.host cause), after) := by
    rw [setLive, hs, hp]
    show (if settings.readRequest ≠ 0 then
      setReadRequests settings.readRequest ports.configured >>= fun _ =>
        setQosOfAll device settings ports.configured
      else setQosOfAll device settings ports.configured).run.run handler mid = _
    rw [if_pos some]
    refine run_bindT_of_error (run_bindT_of_error ?_)
    show (Work.ofHost (handler (.setReadRequest ports.first.pci settings.readRequest) mid).1, _) = _
    rw [refused]
    rfl
  rw [run_applyLive_of_unset hs compared unset, set]

end Engine

/-! ## What a daemon makes of it -/

theorem Pass.Worked.result_of_live {device : NicDevice} {updated written : Bool}
    {events : List (Event passService)} {result : Result} {set : Except EngineError Unit}
    (h : Worked device updated written events result)
    (asked : ⟨.applyLive device, set⟩ ∈ managerEvents events) : result = .ofLive set := by
  cases h with
  | refuted cause => cases List.mem_singleton.1 asked
  | waiting staged pending => cases List.mem_singleton.1 asked
  | live staged booted other =>
      rcases List.mem_cons.1 asked with no | mem
      · cases no
      · cases List.mem_singleton.1 mem
        rfl
  | nv unstaged start stops =>
      rw [managerEvents_manager, managerEvents_append, start.quiet] at asked
      rcases List.mem_cons.1 asked with no | mem
      · cases no
      · cases List.mem_singleton.1 mem
  | nvLive unstaged start other =>
      rw [managerEvents_manager, managerEvents_append, start.quiet] at asked
      rcases List.mem_cons.1 asked with no | mem
      · cases no
      · rcases List.mem_cons.1 mem with no | mem
        · cases no
        · cases List.mem_singleton.1 mem
          rfl

/-- A pass that came to set live settings ends as setting them did. -/
theorem Pass.outcome_of_live {device : NicDevice} {events : List (Event passService)}
    {outcome : Outcome} {set : Except EngineError Unit}
    (h : (configure device).run.Runs events (.ok outcome))
    (asked : ⟨.manager (.applyLive device), set⟩ ∈ events) :
    outcome = (Result.ofLive set).outcome := by
  have asked : ⟨.applyLive device, set⟩ ∈ managerEvents events :=
    List.mem_filterMap.2 ⟨_, asked, rfl⟩
  cases configure_configured h with
  | refused unstaged needed settled =>
      rw [managerEvents_append, settled.quiet, List.append_nil] at asked
      cases List.mem_singleton.1 asked
  | worked worked settled =>
      rw [managerEvents_append, settled.quiet, List.append_nil] at asked
      rw [settled.answered.1, worked.result_of_live asked]

/-- A fault of the host counts as one more failure, and the device is looked at again. -/
theorem Place.requeued_of_live_error {place : Place} {before after : Retries} {device : NicDevice}
    {events : List (Event passService)} {action : Action} {cause : EngineError}
    (h : (place.reconcile before device).Runs events (.ok action, after))
    (asked : ⟨.manager (.applyLive device), .error cause⟩ ∈ events)
    (other : cause.isSpecError = false) :
    (∃ delay, action = .requeue delay) ∧ after = (before.fail (place.retryKey device)).2 := by
  rcases reconcile_concluded h with ⟨-, rfl, -⟩ | ⟨-, found, pass, concluded⟩
  · cases asked
  cases found with
  | error failure => cases concluded
  | ok outcome =>
      have failed : outcome = .failed := by
        rw [Pass.outcome_of_live pass asked]
        show (if cause.isSpecError then _ else _) = _
        rw [other]
        rfl
      rw [failed] at concluded
      cases concluded
      exact ⟨⟨_, rfl⟩, rfl⟩

namespace Engine

/-- A template that asks for a size which cannot be written makes bringing live settings about fail
in every world, with no tool run but to read the size of the first port. That is a fault of the spec
only if the settings of interfaces are wrong as well. Otherwise it is one of the host, and a daemon
that meets it tries again. -/
theorem unwritable_size_is_retried [PciNames] {device : NicDevice} {ports : NicDevice.Ports}
    {configuration : Configuration} {tuning : PciTuning} {refusal : HostError}
    (hp : device.ports = .ok ports) (configured : device.spec.configuration = some configuration)
    (tuned : configuration.template.pciOn = some tuning) (wanted : tuning.maxReadRequest ≠ 0)
    (unwritable : Pci.encodeReadRequest? tuning.maxReadRequest = .error refusal) (world : World) :
    (∀ fault, configuration.template.trustAndPfc = .error fault →
      (applyLive device).run.run SystemHost.handle world = (.error (.incorrectSpec fault), world)) ∧
      (∀ qos, configuration.template.trustAndPfc = .ok qos →
        (applyLive device).run.run SystemHost.handle world =
          (.error (.host (.invalidArgument (.readRequestSize tuning.maxReadRequest))),
            (world.runTool (SystemHost.sizeReading ports.first.pci)).2)) ∧
      world.SameFiles ((applyLive device).run.run SystemHost.handle world).2 ∧
      (((applyLive device).run.run SystemHost.handle world).2.commands = world.commands ∨
        ((applyLive device).run.run SystemHost.handle world).2.commands =
          world.commands ++ [SystemHost.sizeReading ports.first.pci]) ∧
      ∀ (place : Place) (before after : Retries) (events : List (Event passService))
        (action : Action), (place.reconcile before device).Runs events (.ok action, after) →
        ⟨.manager (.applyLive device),
          .error (.host (.invalidArgument (.readRequestSize tuning.maxReadRequest)))⟩ ∈ events →
        (∃ delay, action = .requeue delay) ∧ after = (before.fail (place.retryKey device)).2 := by
  have wrong (fault : SpecFault) (h : configuration.template.trustAndPfc = .error fault) :
      (applyLive device).run.run SystemHost.handle world =
        (.error (.incorrectSpec fault), world) := by
    refine run_applyLive_of_wrong ?_
    rw [NicDevice.liveSettings, NicDevice.configuration, configured]
    show Work.ofSpec configuration.template.liveSettings = _
    rw [Template.liveSettings, h]
    rfl
  have refused (qos : Trust × Pfc) (h : configuration.template.trustAndPfc = .ok qos) :
      (applyLive device).run.run SystemHost.handle world =
        (.error (.host (.invalidArgument (.readRequestSize tuning.maxReadRequest))),
          (world.runTool (SystemHost.sizeReading ports.first.pci)).2) := by
    have size : configuration.template.readRequest = tuning.maxReadRequest := by
      rw [Template.readRequest, tuned]
      exact if_neg wanted
    have hs : device.liveSettings = .ok ⟨tuning.maxReadRequest, qos.1, qos.2⟩ := by
      rw [NicDevice.liveSettings, NicDevice.configuration, configured]
      show Work.ofSpec configuration.template.liveSettings = _
      rw [Template.liveSettings, h, size]
      rfl
    obtain ⟨found, asked, writable⟩ := SystemHost.handle_readRequest ports.first.pci world
    have other : found ≠ .ok tuning.maxReadRequest := fun same => by
      obtain ⟨bits, written⟩ := writable _ same
      cases written.symm.trans unwritable
    rw [← Pci.refusal_eq unwritable]
    exact run_applyLive_of_refused hp hs wanted asked other
      (SystemHost.handle_setReadRequest unwritable _ _)
  have quiet : ((applyLive device).run.run SystemHost.handle world).2 = world ∨
      ((applyLive device).run.run SystemHost.handle world).2 =
        (world.runTool (SystemHost.sizeReading ports.first.pci)).2 := by
    cases h : configuration.template.trustAndPfc with
    | error fault => exact .inl (congrArg Prod.snd (wrong fault h))
    | ok qos => exact .inr (congrArg Prod.snd (refused qos h))
  refine ⟨wrong, refused, ?_, ?_, fun place before after events action run asked =>
    Place.requeued_of_live_error run asked rfl⟩
  · rcases quiet with same | same
    · rw [same]
      exact .refl world
    · rw [same]
      exact World.sameFiles_handle (.runTool _) world
  · rcases quiet with same | same
    · exact .inl (congrArg _ same)
    · rw [same]
      exact World.commands_runTool _ _

end Engine

namespace Sample

/-- A card with one port, tuned to this size. -/
def sizedDevice (size : UInt32) : NicDevice where
  metadata := { name := some "d0" }
  spec := { configuration := some { template := { pci := some ⟨true, 0, size⟩ } } }
  status := some { node := "w", ports := [{ pci := "p0", networkInterface := "e0" }] }

/-- A node on which both tools for live settings run. The size that is set is 512. -/
def sizedWorld : World where
  tools := Dict.ofList [("setpci", [{ stdout := Place.bytes "2930\n" }]),
    ("mlnx_qos", [{ stdout := Place.bytes ("Priority trust state: pcp\nPFC configuration:\n" ++
      "\tenabled 0 0 0 0 0 0 0 0\n") }])]

/-- What a visit to the card comes to while its parameters are as they should be. -/
def sizedVisit : List (Event passService) := [
  ⟨.manager (.validateNv (sizedDevice 1000)), .ok ⟨false, false⟩⟩,
  ⟨.manager (.applyLive (sizedDevice 1000)),
    .error (.host (.invalidArgument (.readRequestSize 1000)))⟩,
  ⟨.writeStatus (sizedDevice 1000) (.ofError .failed ("Host error: Invalid argument: max read " ++
    "request size must be a power of two between 128 and 4096, got 1000")), .ok ()⟩]

end Sample

namespace Engine

open scoped Sample

/-- A size of a thousand bytes cannot be written, yet is no fault of the spec where the tools run
and the ports have interfaces. -/
theorem thousand_bytes_is_no_spec_error :
    ¬ ∀ (device : NicDevice) (ports : NicDevice.Ports) (configuration : Configuration)
      (tuning : PciTuning) (refusal : HostError) (world : World), device.ports = .ok ports →
      (∀ port ∈ ports.all, port.networkInterface ≠ "") →
      device.spec.configuration = some configuration →
      configuration.template.pciOn = some tuning → tuning.maxReadRequest ≠ 0 →
      Pci.encodeReadRequest? tuning.maxReadRequest = .error refusal →
      (∀ program ∈ ["setpci", "mlnx_qos"], world.tools.get? program ≠ none) →
      ∃ e, ((applyLive device).run.run SystemHost.handle world).1 = .error e ∧
        e.isSpecError = true := by
  intro all
  obtain ⟨e, failed, spec⟩ := all (Sample.sizedDevice 1000) _ _ _ _ Sample.sizedWorld rfl
    (by decide) rfl rfl (by decide) rfl (by decide)
  have told : ((applyLive (Sample.sizedDevice 1000)).run.run SystemHost.handle
      Sample.sizedWorld).1 = .error (.host (.invalidArgument (.readRequestSize 1000))) := by
    decide +kernel
  cases told.symm.trans failed
  cases spec

/-- The card is looked at again after half a minute, though nothing but its spec can mend it. -/
theorem thousand_bytes_is_retried :
    (applyLive (Sample.sizedDevice 1000)).run.run SystemHost.handle Sample.sizedWorld =
        (.error (.host (.invalidArgument (.readRequestSize 1000))),
          (Sample.sizedWorld.runTool (SystemHost.sizeReading "p0")).2) ∧
      (Sample.sizedWorld.runTool (SystemHost.sizeReading "p0")).2.commands =
        [SystemHost.sizeReading "p0"] ∧
      ∃ after, (Place.keeper.reconcile {} (Sample.sizedDevice 1000)).Runs Sample.sizedVisit
          (.ok (.requeue (.ofSeconds 30)), after) ∧
        after = (Retries.fail {} "default/d0").2 := by
  have hp : (Sample.sizedDevice 1000).ports =
      .ok ⟨{ pci := "p0", networkInterface := "e0" }, []⟩ := rfl
  obtain ⟨-, refused, -, -, requeued⟩ := unwritable_size_is_retried hp rfl rfl (by decide) rfl
    Sample.sizedWorld
  have visited : ∃ after, (Place.keeper.reconcile {} (Sample.sizedDevice 1000)).Runs
      Sample.sizedVisit (.ok (.requeue (.ofSeconds 30)), after) :=
    ⟨_, .ask (.ask (.ask (.done _)))⟩
  obtain ⟨after, run⟩ := visited
  have told := requeued Place.keeper {} after Sample.sizedVisit _ run
    (List.mem_cons_of_mem _ List.mem_cons_self)
  exact ⟨refused _ rfl, rfl, after, run, told.2⟩

end Engine

end NicKeeper
