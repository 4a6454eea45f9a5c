import NicKeeper.Proofs.StagingCourse

/-!
# The plan of staging

Whatever a host answers, its answers fix a list of calls, the plan, and the calls with which staging
changes the host are a beginning of it (`FollowsPlan`). For a reset the plan is to reset and to
switch the gate on again. For a template it is to open the gate where the first snapshot shows it
closed, and then to write each desired value that the last snapshot does not show as staged, in the
order of the names. Staging leaves its plan in two ways only: a call fails, after which no other
call is made, or the spec turns out wrong, in which case nothing of the template is written.

With the gate on, staging finds something to write exactly if the comparison, answered the same,
asks for it. That is all the two have in common: they are written independently of one another, and
what has no value is unsupported to one if it is not in effect and to the other if it is not staged.
-/

namespace NicKeeper

open Program

namespace Engine

/-- What staging is to change, by what the host has told. -/
def plan (engine : Engine) (device : NicDevice) (configuration : Configuration)
    (ports : NicDevice.Ports) (events : List (Event hostService)) : List HostCall :=
  if configuration.resetToDefault then
    [.resetNv ports.first.pci, .setNv ports.first.pci gateParameter onValue]
  else
    engine.gateCalls ports.first.pci (snapshotsRead events) ++
      match device.wanted? configuration.template ports events with
      | some (snapshot, .ok desired) => writeCalls ports.first.pci snapshot desired
      | _ => []

variable {engine : Engine} {device : NicDevice} {configuration : Configuration}
  {ports : NicDevice.Ports} {pci : String} {events : List (Event hostService)}
  {snapshot : NvSnapshot} {desired : Dict String}

/-- What a run of staging has to do with its plan. -/
structure FollowsPlan (engine : Engine) (device : NicDevice) (configuration : Configuration)
    (ports : NicDevice.Ports) (events : List (Event hostService))
    (answer : Except EngineError Bool) : Prop where
  planned : changes events <+: engine.plan device configuration ports events
  /-- After a call that failed there is no other. -/
  cut : AllSucceed events.dropLast
  /-- Where nothing failed, the plan was carried out or the spec is wrong, and then nothing but the
  gate was changed. -/
  uncut : AllSucceed events →
    (answer = .ok true ∧ changes events = engine.plan device configuration ports events) ∨
      configuration.resetToDefault = false ∧ (∃ fault, answer = .error (.incorrectSpec fault)) ∧
        changes events = engine.gateCalls ports.first.pci (snapshotsRead events)
  truthful : answer ≠ .ok false
  /-- The configuration is not read again once the gate is seen to be on. -/
  once : configuration.resetToDefault = false → ∀ first later,
    snapshotsRead events = first :: later → gateOn first.current = true → later = []
  /-- Staging succeeds if all calls do and the template is one for this device. -/
  ok_iff : answer = .ok true ↔ AllSucceed events ∧ (configuration.resetToDefault = false →
    ∃ snapshot desired,
      device.wanted? configuration.template ports events = some (snapshot, .ok desired) ∧
        ∀ name, desired.contains name = true → snapshot.nextBoot.contains name = true)
  /-- A desired parameter that the last snapshot shows without a staged value keeps all others from
  being written. -/
  unsupported : configuration.resetToDefault = false → ∀ snapshot desired,
    device.wanted? configuration.template ports events = some (snapshot, .ok desired) →
      ∀ name, desired.contains name = true → snapshot.nextBoot.contains name = false →
        changes events = engine.gateCalls ports.first.pci (snapshotsRead events) ∧
          ∃ least, desired.LeastMissing snapshot.nextBoot least ∧
            answer = .error (.incorrectSpec (.unsupported least device.name))
  /-- With the gate on, something is changed if a comparison that was answered so says that
  something has to be, unless the spec is wrong. -/
  agrees : configuration.resetToDefault = false → ∀ snapshot links verdict,
    gateOn snapshot.current = true →
    (engine.validateNv device).run.Runs (engine.read ports.first.pci snapshot :: links)
      (.ok verdict) →
    engine.read ports.first.pci snapshot :: links <+: events →
    (∀ fault, answer ≠ .error (.incorrectSpec fault)) →
      (changes events = [] ↔ verdict.updateNeeded = false)

theorem allSucceed_of_ok {reboot : Bool}
    (h : (engine.applyNv device).run.Runs events (.ok reboot)) : AllSucceed events :=
  (engine.orderly_applyNv device).allSucceed h

theorem cut_of_runs {answer : Except EngineError Bool}
    (h : (engine.applyNv device).run.Runs events answer) : AllSucceed events.dropLast := by
  rcases engine.orderly_applyNv device events answer h with all | cutOff
  · exact fun event mem => all event (List.dropLast_subset _ mem)
  · exact cutOff.dropLast

theorem StagedReset.changes_eq {answer : Except EngineError Bool}
    (h : StagedReset pci events answer) :
    (¬ AllSucceed events ∧ (∃ e, answer = .error e) ∧
        changes events <+: [.resetNv pci, .setNv pci gateParameter onValue]) ∨
      AllSucceed events ∧ answer = .ok true ∧
        changes events = [.resetNv pci, .setNv pci gateParameter onValue] := by
  cases h with
  | refused cause =>
      refine .inl ⟨fun all => ?_, ⟨_, rfl⟩, ⟨_, rfl⟩⟩
      cases all _ List.mem_cons_self
  | ungated cause =>
      refine .inl ⟨fun all => ?_, ⟨_, rfl⟩, List.prefix_rfl⟩
      cases all _ (List.mem_cons_of_mem _ List.mem_cons_self)
  | reset =>
      refine .inr ⟨?_, rfl, rfl⟩
      exact List.forall_mem_cons.2 ⟨rfl, List.forall_mem_cons.2 ⟨rfl, allSucceed_nil⟩⟩

theorem followsPlan_of_reset {answer : Except EngineError Bool}
    (hc : device.configuration = .ok configuration) (hp : device.ports = .ok ports)
    (reset : configuration.resetToDefault = true)
    (h : (engine.applyNv device).run.Runs events answer) :
    FollowsPlan engine device configuration ports events answer := by
  have template := ne_false_of_eq_true reset
  have plan : engine.plan device configuration ports events =
      [.resetNv ports.first.pci, .setNv ports.first.pci gateParameter onValue] := if_pos reset
  have cut := cut_of_runs h
  rcases (stagedReset_of_runs hc hp reset h).changes_eq with
    ⟨failed, ⟨e, rfl⟩, begun⟩ | ⟨all, rfl, made⟩
  · exact ⟨plan ▸ begun, cut, fun all => absurd all failed, nofun,
      fun no => absurd no template, ⟨nofun, fun all => absurd all.1 failed⟩,
      fun no => absurd no template, fun no => absurd no template⟩
  · exact ⟨plan ▸ made ▸ List.prefix_rfl, cut, fun _ => .inl ⟨rfl, plan ▸ made⟩, nofun,
      fun no => absurd no template, ⟨fun _ => ⟨all, fun no => absurd no template⟩, fun _ => rfl⟩,
      fun no => absurd no template, fun no => absurd no template⟩

theorem plan_of_template (template : configuration.resetToDefault = false) :
    engine.gateCalls ports.first.pci (snapshotsRead events) <+:
      engine.plan device configuration ports events := by
  rw [plan, template]
  exact List.prefix_append _ _

theorem plan_of_wanted? (template : configuration.resetToDefault = false)
    (known : device.wanted? configuration.template ports events = some (snapshot, .ok desired)) :
    engine.plan device configuration ports events =
      engine.gateCalls ports.first.pci (snapshotsRead events) ++
        writeCalls ports.first.pci snapshot desired := by
  rw [plan, template, known]
  rfl

theorem Course.planned {answer : Except EngineError Bool}
    (template : configuration.resetToDefault = false)
    (h : Course engine device configuration.template ports events answer) :
    changes events <+: engine.plan device configuration ports events := by
  cases h with
  | stopped unknown made failed => exact made.trans (plan_of_template template)
  | rejected known made => exact made ▸ plan_of_template template
  | unsupported known missing made => exact made ▸ plan_of_template template
  | interrupted known complete begun own made failed =>
      rw [made, plan_of_wanted? template known]
      exact (List.prefix_append_right_inj _).2 own
  | staged known complete made =>
      have whole := made.trans (plan_of_wanted? template known).symm
      exact whole ▸ List.prefix_rfl

theorem Course.uncut {answer : Except EngineError Bool}
    (template : configuration.resetToDefault = false)
    (h : Course engine device configuration.template ports events answer)
    (all : AllSucceed events) :
    (answer = .ok true ∧ changes events = engine.plan device configuration ports events) ∨
      (∃ fault, answer = .error (.incorrectSpec fault)) ∧
        changes events = engine.gateCalls ports.first.pci (snapshotsRead events) := by
  cases h with
  | stopped unknown made failed => exact absurd all failed
  | rejected known made => exact .inr ⟨⟨_, rfl⟩, made⟩
  | unsupported known missing made => exact .inr ⟨⟨_, rfl⟩, made⟩
  | interrupted known complete begun own made failed => exact absurd all failed
  | staged known complete made => exact .inl ⟨rfl, made.trans (plan_of_wanted? template known).symm⟩

theorem Course.ok_iff {answer : Except EngineError Bool} {template : Template}
    (h : Course engine device template ports events answer)
    (clean : answer = .ok true → AllSucceed events) :
    answer = .ok true ↔ AllSucceed events ∧ ∃ snapshot desired,
      device.wanted? template ports events = some (snapshot, .ok desired) ∧
        ∀ name, desired.contains name = true → snapshot.nextBoot.contains name = true := by
  cases h with
  | stopped unknown made failed => exact ⟨nofun, fun all => absurd all.1 failed⟩
  | rejected known made =>
      refine ⟨nofun, ?_⟩
      rintro ⟨-, _, _, other, -⟩
      cases known.symm.trans other
  | unsupported known missing made =>
      refine ⟨nofun, ?_⟩
      rintro ⟨-, _, _, other, complete⟩
      cases known.symm.trans other
      cases missing.symm.trans (Dict.missing?_eq_none_iff.2 complete)
  | interrupted known complete begun own made failed =>
      exact ⟨nofun, fun all => absurd all.1 failed⟩
  | staged known complete made =>
      refine ⟨fun _ => ⟨clean rfl, _, _, known, ?_⟩, fun _ => rfl⟩
      exact Dict.missing?_eq_none_iff.1 complete

theorem Course.unsupported_of_lacking {answer : Except EngineError Bool} {template : Template}
    (h : Course engine device template ports events answer)
    (known : device.wanted? template ports events = some (snapshot, .ok desired)) {name : String}
    (own : desired.contains name = true) (lacking : snapshot.nextBoot.contains name = false) :
    changes events = engine.gateCalls ports.first.pci (snapshotsRead events) ∧
      ∃ least, desired.LeastMissing snapshot.nextBoot least ∧
        answer = .error (.incorrectSpec (.unsupported least device.name)) := by
  obtain ⟨least, missing⟩ := Dict.exists_missing? own lacking
  cases h with
  | stopped unknown made failed => cases known.symm.trans unknown
  | rejected other made => cases known.symm.trans other
  | unsupported other missing made =>
      cases known.symm.trans other
      exact ⟨made, _, Dict.leastMissing_of_missing? missing, rfl⟩
  | interrupted other complete begun within made failed =>
      cases known.symm.trans other
      cases missing.symm.trans complete
  | staged other complete made =>
      cases known.symm.trans other
      cases missing.symm.trans complete

/-! ## Staging and comparing -/

/-- A comparison that comes to a verdict has read the configuration and worked out the template. -/
theorem exists_of_compared {verdict : Verdict} (hc : device.configuration = .ok configuration)
    (hp : device.ports = .ok ports) (template : configuration.resetToDefault = false)
    (h : (engine.validateNv device).run.Runs events (.ok verdict)) :
    ∃ snapshot desired links, events = engine.read ports.first.pci snapshot :: links ∧
      (device.desiredNv snapshot.default).run.Runs links (.ok desired) ∧
        Work.ofSpec (snapshot.verdict desired device.name) = .ok verdict := by
  rw [engine.validateNv_of_template hc hp template] at h
  obtain ⟨snapshot, query, rest, rfl, hq, hd⟩ := runs_bindT_ok h
  obtain rfl := runs_queryNv_ok hq
  obtain ⟨desired, asking, last, rfl, ha, hv⟩ := runs_bindT_ok hd
  obtain ⟨rfl, judged⟩ := Work.runs_ofExcept hv
  exact ⟨snapshot, desired, asking, by rw [List.append_nil]; rfl, ha, judged.symm⟩

/-- What the comparison has been told, staging is told as well, if it is answered so. -/
theorem wanted?_of_compared {links : List (Event hostService)} {verdict : Verdict}
    (hc : device.configuration = .ok configuration) (hp : device.ports = .ok ports)
    (template : configuration.resetToDefault = false) (on : gateOn snapshot.current = true)
    (compared : (engine.validateNv device).run.Runs (engine.read ports.first.pci snapshot :: links)
      (.ok verdict))
    (same : engine.read ports.first.pci snapshot :: links <+: events)
    (only : snapshotsRead events = [snapshot]) :
    ∃ desired, device.wanted? configuration.template ports events = some (snapshot, .ok desired) ∧
      (verdict.updateNeeded = false ↔ desired ⊆ snapshot.nextBoot) := by
  obtain ⟨seen, desired, asking, split, asked, judged⟩ := exists_of_compared hc hp template compared
  cases split
  obtain ⟨others, rfl⟩ := same
  refine ⟨desired, ?_, ?_⟩
  · rcases runs_desiredNv_told hc hp asked with ⟨-, -, _, no⟩ | ⟨speed, told, worked⟩
    · cases no
    have settled : configuration.template.speedOf?
        (speedTold? (engine.read ports.first.pci snapshot :: links ++ others)) = some speed := by
      rw [speedTold?_append]
      exact Template.speedOf?_or told
    rw [NicDevice.wanted?, only, goesBy?_of_on on, settled, List.getLast?_singleton]
    show some (snapshot, configuration.template.desired ports.isDual speed snapshot.default
      device.name) = _
    cases wanted : configuration.template.desired ports.isDual speed snapshot.default
        device.name with
    | error fault =>
        rw [wanted] at worked
        cases worked
    | ok parameters =>
        rw [wanted] at worked
        cases worked
        rfl
  · rcases snapshot.verdict_cases desired device.name with
      ⟨name, -, -, eq⟩ | ⟨-, found, eq, staged, -⟩
    · rw [eq] at judged
      cases judged
    · rw [eq] at judged
      cases judged
      exact staged

theorem Course.agrees {answer : Except EngineError Bool} {links : List (Event hostService)}
    {verdict : Verdict} (h : Course engine device configuration.template ports events answer)
    (hc : device.configuration = .ok configuration) (hp : device.ports = .ok ports)
    (template : configuration.resetToDefault = false) (on : gateOn snapshot.current = true)
    (compared : (engine.validateNv device).run.Runs (engine.read ports.first.pci snapshot :: links)
      (.ok verdict))
    (same : engine.read ports.first.pci snapshot :: links <+: events)
    (only : snapshotsRead events = [snapshot])
    (right : ∀ fault, answer ≠ .error (.incorrectSpec fault)) :
    changes events = [] ↔ verdict.updateNeeded = false := by
  obtain ⟨desired, wanted, spared⟩ := wanted?_of_compared hc hp template on compared same only
  have gate : engine.gateCalls ports.first.pci (snapshotsRead events) = [] := by
    rw [only, gateCalls_of_on on]
  have unwritten : writeCalls ports.first.pci snapshot desired = [] ↔ desired ⊆ snapshot.nextBoot :=
    writeCalls_eq_nil_iff
  rw [spared, ← unwritten]
  cases h with
  | stopped unknown made failed => cases wanted.symm.trans unknown
  | rejected known made => exact absurd rfl (right _)
  | unsupported known missing made => exact absurd rfl (right _)
  | interrupted known complete begun own made failed =>
      cases wanted.symm.trans known
      rw [made, gate, List.nil_append]
      refine ⟨fun none => absurd none begun, fun none => ?_⟩
      rw [none] at own
      exact List.prefix_nil.1 own
  | staged known complete made =>
      cases wanted.symm.trans known
      rw [made, gate, List.nil_append]

theorem followsPlan_of_template {answer : Except EngineError Bool}
    (hc : device.configuration = .ok configuration) (hp : device.ports = .ok ports)
    (template : configuration.resetToDefault = false)
    (h : (engine.applyNv device).run.Runs events answer) :
    FollowsPlan engine device configuration ports events answer := by
  have course := course_of_runs hc hp template h
  have once : ∀ first later, snapshotsRead events = first :: later →
      gateOn first.current = true → later = [] := by
    obtain ⟨before, result, gate, same⟩ := exists_gateRun hc hp template h
    intro first later read
    rw [same] at read
    exact gate.once read
  have clean : answer = .ok true → AllSucceed events := by
    rintro rfl
    exact allSucceed_of_ok h
  have truthful : answer ≠ .ok false := by
    rintro rfl
    cases runs_applyNv_ok h
  refine ⟨course.planned template, cut_of_runs h, fun all => ?_, truthful, fun _ => once,
    ?_, ?_, ?_⟩
  · rcases course.uncut template all with done | ⟨wrong, made⟩
    · exact .inl done
    · exact .inr ⟨template, wrong, made⟩
  · rw [course.ok_iff clean]
    exact and_congr_right fun _ => ⟨fun known _ => known, fun known => known template⟩
  · exact fun _ _ _ known _ own lacking => course.unsupported_of_lacking known own lacking
  · intro _ snapshot links verdict on compared same right
    refine course.agrees hc hp template on compared same ?_ right
    obtain ⟨others, rfl⟩ := same
    rw [List.cons_append] at once ⊢
    exact congrArg _ (once snapshot _ rfl on)

/-- Staging does what its plan says, and what follows from the answers of the host is the plan. -/
theorem staging_follows_plan (engine : Engine) {answer : Except EngineError Bool}
    (hc : device.configuration = .ok configuration) (hp : device.ports = .ok ports)
    (h : (engine.applyNv device).run.Runs events answer) :
    FollowsPlan engine device configuration ports events answer := by
  cases reset : configuration.resetToDefault with
  | true => exact followsPlan_of_reset hc hp reset h
  | false => exact followsPlan_of_template hc hp reset h

end Engine

namespace Sample

/-- The parameters of the tuned device before anything is staged and before the gate is opened. -/
def closedSnapshot : NvSnapshot where
  default := tunedSnapshot.default
  current := .ofList [(gateParameter, offValue)]
  nextBoot := .ofList [(gateParameter, offValue)]

/-- The same with the gate open. -/
def openedSnapshot : NvSnapshot where
  default := tunedSnapshot.default
  current := tunedSnapshot.default.insert gateParameter onValue
  nextBoot := tunedSnapshot.default.insert gateParameter onValue

/-- The gate is opened, the link is fast, and the second of three writes fails. -/
def cutStaging : List (Event hostService) :=
  engine.opening "p0" closedSnapshot ++
    [engine.read "p0" openedSnapshot, ⟨.linkSpeed "p0", .ok 16⟩,
      ⟨.setNv "p0" "MAX_ACC_OUT_READ" "44", .ok ()⟩,
      ⟨.setNv "p0" "NUM_OF_VFS" "4", .error (.notFound "p0")⟩]

end Sample

namespace Engine

/-- The plan of a run that is cut off: one write of it is not made. -/
theorem cutStaging_follows_plan :
    (Sample.engine.applyNv Sample.tunedDevice).run.Runs Sample.cutStaging
        (.error (.host (.notFound "p0"))) ∧
      ∃ configuration, Sample.tunedDevice.configuration = .ok configuration ∧
        FollowsPlan Sample.engine Sample.tunedDevice configuration Sample.ports Sample.cutStaging
          (.error (.host (.notFound "p0"))) ∧
        Sample.engine.plan Sample.tunedDevice configuration Sample.ports Sample.cutStaging =
          changes Sample.cutStaging ++ [.setNv "p0" "SRIOV_EN" onValue] := by
  have runs : (Sample.engine.applyNv Sample.tunedDevice).run.Runs Sample.cutStaging
      (.error (.host (.notFound "p0"))) :=
    .ask (.ask (.ask (.ask (.ask (.ask (.ask (.done _)))))))
  exact ⟨runs, _, rfl, staging_follows_plan Sample.engine rfl rfl runs, rfl⟩

end Engine

end NicKeeper
