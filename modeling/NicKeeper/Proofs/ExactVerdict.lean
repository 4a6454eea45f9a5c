import NicKeeper.Proofs.EngineRuns
import NicKeeper.Proofs.Parameters

/-!
# The verdict on a template

A comparison with a template comes to one of four ends, and this file says exactly when to which.
With the gate on every parameter of a device has a value in effect; a desired one without such a
value is an error, which names the least of them. Otherwise there is a verdict. It has three
values: all is staged and in effect, all is staged, or something is not staged. That a value is to
be written without a boot to follow is never said.

The parameters in play are the desired ones. What else a snapshot shows has no influence on the
answer, but for the value of the gate in effect (`verdict_congr`).
-/

namespace NicKeeper

open Program

namespace NvSnapshot

variable {snapshot other : NvSnapshot} {desired : Dict String} {device : String}

/-- The gate is on, and a desired parameter has no value in effect. -/
def Unsupports (snapshot : NvSnapshot) (desired : Dict String) : Prop :=
  gateOn snapshot.current = true ∧
    ∃ name, desired.contains name = true ∧ snapshot.current.contains name = false

/-- What a comparison with desired parameters comes to. -/
structure ExactVerdict (snapshot : NvSnapshot) (desired : Dict String) (device : String)
    (answer : Except EngineError Verdict) : Prop where
  unsupported : snapshot.Unsupports desired → ∃ name, desired.LeastMissing snapshot.current name ∧
    answer = .error (.incorrectSpec (.unsupported name device))
  decided : ¬ snapshot.Unsupports desired → ∃ verdict, answer = .ok verdict
  /-- Nothing is to be done. -/
  settled : ¬ snapshot.Unsupports desired →
    (answer = .ok ⟨false, false⟩ ↔ desired ⊆ snapshot.nextBoot ∧ desired ⊆ snapshot.current)
  /-- A boot is waited for. -/
  waiting : ¬ snapshot.Unsupports desired →
    (answer = .ok ⟨false, true⟩ ↔ desired ⊆ snapshot.nextBoot ∧
      ∃ name value, desired.get? name = some value ∧ snapshot.current.get? name ≠ some value)
  /-- Values are to be staged. -/
  unstaged : ¬ snapshot.Unsupports desired →
    (answer = .ok ⟨true, true⟩ ↔
      ∃ name value, desired.get? name = some value ∧ snapshot.nextBoot.get? name ≠ some value)
  /-- Staging is never asked for without a boot to follow. -/
  sensible : answer ≠ .ok ⟨true, false⟩

theorem exactVerdict (snapshot : NvSnapshot) (desired : Dict String) (device : String) :
    snapshot.ExactVerdict desired device (Work.ofSpec (snapshot.verdict desired device)) := by
  rcases snapshot.verdict_cases desired device with
    ⟨name, on, missing, eq⟩ | ⟨complete, ⟨update, reboot⟩, eq, staged, current⟩
  · have least := Dict.leastMissing_of_missing? missing
    have unsupports : snapshot.Unsupports desired := ⟨on, name, least.own, least.lacking⟩
    rw [eq]
    exact ⟨fun _ => ⟨name, least, rfl⟩, fun no => absurd unsupports no,
      fun no => absurd unsupports no, fun no => absurd unsupports no,
      fun no => absurd unsupports no, nofun⟩
  · have supports : ¬ snapshot.Unsupports desired := by
      rintro ⟨on, name, own, lacking⟩
      obtain ⟨least, missing⟩ := Dict.exists_missing? own lacking
      cases missing.symm.trans (complete on)
    change (update = false ↔ _) at staged
    change (reboot = false ↔ _) at current
    have told : ∀ u r, Work.ofSpec (snapshot.verdict desired device) = .ok ⟨u, r⟩ ↔
        update = u ∧ reboot = r := by
      intro u r
      rw [eq]
      show (Except.ok _ : Except EngineError Verdict) = _ ↔ _
      rw [Except.ok.injEq, Verdict.mk.injEq]
    refine ⟨fun no => absurd no supports, fun _ => ⟨_, (told _ _).2 ⟨rfl, rfl⟩⟩, fun _ => ?_,
      fun _ => ?_, fun _ => ?_, fun no => ?_⟩
    · rw [told, staged, current]
      exact ⟨fun both => both.2, fun both => ⟨both.1, both⟩⟩
    · rw [told, staged, ← Bool.not_eq_false, current, ← Dict.not_subset_iff]
      exact and_congr_right fun staged => not_congr (and_iff_right staged)
    · -- What is not staged waits for a boot as well.
      rw [told, ← Bool.not_eq_false, ← Bool.not_eq_false, staged, current, ← Dict.not_subset_iff]
      exact and_iff_left_of_imp fun unstaged both => unstaged both.1
    · obtain ⟨update, reboot⟩ := (told _ _).1 no
      exact Bool.false_ne_true ((staged.2 (current.1 reboot).1).symm.trans update)

/-- The comparison looks at nothing but the desired parameters and the gate in effect. -/
theorem verdict_congr
    (staged : ∀ name, desired.contains name = true →
      snapshot.nextBoot.get? name = other.nextBoot.get? name)
    (current : ∀ name, desired.contains name = true →
      snapshot.current.get? name = other.current.get? name)
    (gate : gateOn snapshot.current = gateOn other.current) :
    snapshot.verdict desired device = other.verdict desired device := by
  have asked : ∀ entry ∈ desired.entries, desired.contains entry.1 = true := fun entry mem =>
    Dict.contains_of_get? (Dict.mem_entries_iff.1 mem)
  have lacking : (desired.names.find? fun name =>
        gateOn snapshot.current && !snapshot.current.contains name) =
      desired.names.find? fun name => gateOn other.current && !other.current.contains name := by
    rw [← List.head?_filter, ← List.head?_filter]
    refine congrArg _ (List.filter_congr fun name mem => ?_)
    rw [gate, Dict.contains, Dict.contains, current name (Dict.mem_names_iff_contains.1 mem)]
  have update : (desired.entries.any fun entry => !snapshot.isStaged entry) =
      desired.entries.any fun entry => !other.isStaged entry := by
    rw [Bool.eq_iff_iff, List.any_eq_true, List.any_eq_true]
    refine exists_congr fun entry => and_congr_right fun mem => ?_
    rw [isStaged, isStaged, staged _ (asked entry mem)]
  have pending : (desired.entries.any fun entry => !snapshot.isInEffect entry) =
      desired.entries.any fun entry => !other.isInEffect entry := by
    rw [Bool.eq_iff_iff, List.any_eq_true, List.any_eq_true]
    refine exists_congr fun entry => and_congr_right fun mem => ?_
    rw [isInEffect, isInEffect, current _ (asked entry mem)]
  rw [verdict, verdict, lacking, update, pending]

end NvSnapshot

namespace Engine

variable {engine : Engine} {device : NicDevice} {configuration : Configuration}
  {ports : NicDevice.Ports} {events links : List (Event hostService)} {snapshot : NvSnapshot}
  {desired : Dict String}

theorem validateNv_of_template (engine : Engine) (hc : device.configuration = .ok configuration)
    (hp : device.ports = .ok ports) (template : configuration.resetToDefault = false) :
    engine.validateNv device = (do
      let snapshot ← engine.queryNv ports.first.pci
      let desired ← device.desiredNv snapshot.default
      Work.ofExcept (Work.ofSpec (snapshot.verdict desired device.name))) := by
  rw [validateNv, hc, hp]
  show (do
    let snapshot ← engine.queryNv ports.first.pci
    if configuration.resetToDefault then _ else _) = _
  rw [template]
  rfl

/-- The configuration was read, and was seen to be so. -/
def read (engine : Engine) (pci : String) (snapshot : NvSnapshot) : Event hostService :=
  ⟨.queryNv pci (some engine.limits.query), some (.ok snapshot)⟩

/-- A comparison reads the configuration, works out what the template asks for, and ends in the
verdict on that. -/
theorem runs_validateNv_iff (engine : Engine) (hc : device.configuration = .ok configuration)
    (template : configuration.resetToDefault = false) (hp : device.ports = .ok ports)
    (wanted : (device.desiredNv snapshot.default).run.Runs links (.ok desired))
    {answer : Except EngineError Verdict} :
    (engine.validateNv device).run.Runs (engine.read ports.first.pci snapshot :: links) answer ↔
      answer = Work.ofSpec (snapshot.verdict desired device.name) := by
  have runs : (engine.validateNv device).run.Runs (engine.read ports.first.pci snapshot :: links)
      (Work.ofSpec (snapshot.verdict desired device.name)) := by
    rw [engine.validateNv_of_template hc hp template]
    have query : (engine.queryNv ports.first.pci).run.Runs [engine.read ports.first.pci snapshot]
        (.ok snapshot) := .ask (.done _)
    refine runs_bindT_iff.2 (.inr ⟨snapshot, _, links, rfl, query, ?_⟩)
    exact runs_bindT_iff.2 (.inr ⟨desired, links, [], by simp, wanted, .done _⟩)
  constructor
  · exact fun h => runs.unique h
  · rintro rfl
    exact runs

/-- The answer to a snapshot, case by case; it is the same on every snapshot that shows the desired
parameters and the gate in effect so, and no run of the comparison changes the host. -/
theorem validateNv_exact (engine : Engine) (hc : device.configuration = .ok configuration)
    (template : configuration.resetToDefault = false) (hp : device.ports = .ok ports)
    (wanted : (device.desiredNv snapshot.default).run.Runs links (.ok desired)) :
    ∃ answer, snapshot.ExactVerdict desired device.name answer ∧
      (∀ found, (engine.validateNv device).run.Runs
          (engine.read ports.first.pci snapshot :: links) found ↔ found = answer) ∧
      (∀ (other : NvSnapshot) links',
        (device.desiredNv other.default).run.Runs links' (.ok desired) →
        (∀ name, desired.contains name = true →
          snapshot.nextBoot.get? name = other.nextBoot.get? name) →
        (∀ name, desired.contains name = true →
          snapshot.current.get? name = other.current.get? name) →
        snapshot.current.get? gateParameter = other.current.get? gateParameter →
        ∀ found, (engine.validateNv device).run.Runs
          (engine.read ports.first.pci other :: links') found ↔ found = answer) ∧
      ∀ events found, (engine.validateNv device).run.Runs events found → changes events = [] := by
  refine ⟨_, snapshot.exactVerdict desired device.name,
    fun _ => engine.runs_validateNv_iff hc template hp wanted, ?_,
    fun _ _ runs => (runs_validateNv runs).1⟩
  intro other links' wanted' staged current gate found
  have same : gateOn snapshot.current = gateOn other.current := by
    rw [gateOn, gateOn, gate]
  rw [NvSnapshot.verdict_congr staged current same]
  exact engine.runs_validateNv_iff hc template hp wanted'

end Engine

namespace Sample

/-- A device that asks for four virtual functions, and for as many outstanding reads as its link is
good for. -/
def tunedDevice : NicDevice :=
  { device [] with
    spec := { configuration := some { template := { numVfs := 4, pci := some ⟨true, 0, 0⟩ } } } }

/-- What the tuned device asks for on a link of 16 GT/s. -/
def tunedParameters : Dict String :=
  .ofList [("SRIOV_EN", onValue), ("NUM_OF_VFS", "4"), ("MAX_ACC_OUT_READ", "44")]

/-- All that the tuned device asks for is staged, and the gate is on. There is a parameter that it
does not ask for and that has no value in effect. -/
def tunedSnapshot : NvSnapshot where
  default := .ofList [(gateParameter, offValue), ("SRIOV_EN", offValue), ("NUM_OF_VFS", "0"),
    ("MAX_ACC_OUT_READ", "0"), ("ATS_ENABLED", onValue)]
  current := .ofList [(gateParameter, onValue), ("SRIOV_EN", onValue), ("NUM_OF_VFS", "0"),
    ("MAX_ACC_OUT_READ", "0")]
  nextBoot := .ofList [(gateParameter, onValue), ("SRIOV_EN", onValue), ("NUM_OF_VFS", "4"),
    ("MAX_ACC_OUT_READ", "44"), ("ATS_ENABLED", offValue)]

end Sample

namespace Engine

/-- The tuned device waits for a boot. -/
theorem tunedDevice_waits :
    (Sample.tunedDevice.desiredNv Sample.tunedSnapshot.default).run.Runs
        [⟨.linkSpeed "p0", .ok 16⟩] (.ok Sample.tunedParameters) ∧
      (Sample.engine.validateNv Sample.tunedDevice).run.Runs
        [Sample.engine.read "p0" Sample.tunedSnapshot, ⟨.linkSpeed "p0", .ok 16⟩]
        (.ok ⟨false, true⟩) := by
  have wanted : (Sample.tunedDevice.desiredNv Sample.tunedSnapshot.default).run.Runs
      [⟨.linkSpeed "p0", .ok 16⟩] (.ok Sample.tunedParameters) := .ask (.done _)
  have hp : Sample.tunedDevice.ports = .ok Sample.ports := rfl
  obtain ⟨answer, exact, runs, -⟩ := validateNv_exact Sample.engine rfl rfl hp wanted
  have complete : Sample.tunedParameters.missing? Sample.tunedSnapshot.current = none := rfl
  have supports : ¬ Sample.tunedSnapshot.Unsupports Sample.tunedParameters := by
    rintro ⟨-, name, own, lacking⟩
    cases lacking.symm.trans (Dict.missing?_eq_none_iff.1 complete name own)
  have staged : Sample.tunedParameters ⊆ Sample.tunedSnapshot.nextBoot :=
    NvSnapshot.any_not_isStaged_eq_false_iff.1 rfl
  have waits := (exact.waiting supports).2 ⟨staged, "NUM_OF_VFS", "4", rfl, by decide⟩
  exact ⟨wanted, (runs _).2 waits.symm⟩

end Engine

end NicKeeper
