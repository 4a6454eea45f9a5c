import NicKeeper.Proofs.ExactVerdict
import NicKeeper.Proofs.FirstFailure
import NicKeeper.Proofs.ResetRuns

/-!
# The course of staging a template

What staging a template does follows from a few of the answers that it gets: the snapshots that it
reads, and the speed of the link where the template depends on it. They settle which calls open the
gate, what the template comes to and which values are left to write (`NicDevice.wanted?`). This
file goes through the steps of staging one by one, and from what each of them can do lists the
courses that the whole can take (`Course`), whatever the host answers.
-/

namespace NicKeeper

open Program

/-! ## What the host has told -/

/-- The snapshots that were read, in order. -/
def snapshotsRead (events : List (Event hostService)) : List NvSnapshot :=
  events.filterMap fun
    | ⟨.queryNv _ _, some (.ok snapshot)⟩ => some snapshot
    | _ => none

/-- The speed of a link, if it was read. -/
def speedTold? (events : List (Event hostService)) : Option UInt32 :=
  events.findSome? fun
    | ⟨.linkSpeed _, .ok speed⟩ => some speed
    | _ => none

@[simp] theorem snapshotsRead_append (first last : List (Event hostService)) :
    snapshotsRead (first ++ last) = snapshotsRead first ++ snapshotsRead last :=
  List.filterMap_append

@[simp] theorem speedTold?_append (first last : List (Event hostService)) :
    speedTold? (first ++ last) = (speedTold? first).or (speedTold? last) :=
  List.findSome?_append

theorem snapshotsRead_append_of_silent {first last : List (Event hostService)}
    (shown : snapshotsRead last = []) : snapshotsRead (first ++ last) = snapshotsRead first := by
  rw [snapshotsRead_append, shown, List.append_nil]

theorem snapshotsRead_of_queries {events : List (Event hostService)} (none : queries events = []) :
    snapshotsRead events = [] := by
  refine List.filterMap_eq_nil_iff.2 fun event mem => ?_
  have other : event.call.isQuery ≠ true :=
    List.filter_eq_nil_iff.1 none _ (List.mem_map_of_mem mem)
  obtain ⟨call, answer⟩ := event
  cases call with
  | queryNv pci limit => exact absurd rfl other
  | _ => rfl

/-- The speed that the template is worked out with, once that is settled. -/
def Template.speedOf? (template : Template) (told : Option UInt32) : Option (Option UInt32) :=
  if template.needsLinkSpeed then told.map some else some none

/-- Once it is settled, nothing that is told later unsettles it. -/
theorem Template.speedOf?_or {template : Template} {told more : Option UInt32}
    {speed : Option UInt32} (settled : template.speedOf? told = some speed) :
    template.speedOf? (told.or more) = some speed := by
  rw [speedOf?] at settled ⊢
  split
  · next needed =>
      rw [if_pos needed, Option.map_eq_some_iff] at settled
      obtain ⟨value, rfl, rfl⟩ := settled
      rfl
  · next spared =>
      rw [if_neg spared] at settled
      exact settled

/-- The snapshot that staging goes by, once it has one: the last that was read, which has to be
another than the first if the gate was off there. -/
def goesBy? : List NvSnapshot → Option NvSnapshot
  | [] => none
  | first :: later =>
    if gateOn first.current then (first :: later).getLast? else later.getLast?

theorem goesBy?_of_on {first : NvSnapshot} (on : gateOn first.current = true)
    (later : List NvSnapshot) : goesBy? (first :: later) = (first :: later).getLast? :=
  if_pos on

theorem goesBy?_of_off {first : NvSnapshot} (off : gateOn first.current = false)
    (later : List NvSnapshot) : goesBy? (first :: later) = later.getLast? :=
  if_neg (by rw [off]; exact Bool.false_ne_true)

/-- The snapshot that staging goes by, and what the template comes to on it. -/
def NicDevice.wanted? (device : NicDevice) (template : Template) (ports : NicDevice.Ports)
    (events : List (Event hostService)) :
    Option (NvSnapshot × Except SpecFault (Dict String)) := do
  let snapshot ← goesBy? (snapshotsRead events)
  let speed ← template.speedOf? (speedTold? events)
  return (snapshot, template.desired ports.isDual speed snapshot.default device.name)

namespace Engine

/-! ## The calls that change something -/

/-- The calls that open the gate, if the first of the snapshots shows it closed. -/
def gateCalls (engine : Engine) (pci : String) : List NvSnapshot → List HostCall
  | [] => []
  | first :: _ =>
    if gateOn first.current then []
    else [.setNv pci gateParameter onValue, .resetFirmware pci (some engine.limits.reset)]

/-- The calls that stage the desired values that are not staged. -/
def writeCalls (pci : String) (snapshot : NvSnapshot) (desired : Dict String) : List HostCall :=
  (desired.entries.filter fun entry => !snapshot.isStaged entry).map fun entry =>
    .setNv pci entry.1 entry.2

variable {engine : Engine} {device : NicDevice} {configuration : Configuration}
  {ports : NicDevice.Ports} {pci : String} {events : List (Event hostService)}
  {snapshot : NvSnapshot} {desired : Dict String}

theorem gateCalls_of_on (on : gateOn snapshot.current = true) (later : List NvSnapshot) :
    engine.gateCalls pci (snapshot :: later) = [] :=
  if_pos on

theorem gateCalls_of_off (off : gateOn snapshot.current = false) (later : List NvSnapshot) :
    engine.gateCalls pci (snapshot :: later) =
      [.setNv pci gateParameter onValue, .resetFirmware pci (some engine.limits.reset)] :=
  if_neg (by rw [off]; exact Bool.false_ne_true)

theorem writeCalls_eq_nil_iff :
    writeCalls pci snapshot desired = [] ↔ desired ⊆ snapshot.nextBoot := by
  rw [writeCalls, List.map_eq_nil_iff, List.filter_eq_nil_iff,
    ← NvSnapshot.any_not_isStaged_eq_false_iff, List.any_eq_false]

/-! ## Step by step -/

/-- How reading the configuration with the gate on can go. -/
inductive GateRun (engine : Engine) (pci : String) :
    List (Event hostService) → Except EngineError NvSnapshot → Prop where
  | unread {found : Option (Except HostError NvSnapshot)} {e : EngineError}
      (failed : Work.ofLimited .query pci engine.limits.query found = .error e) :
      GateRun engine pci [⟨.queryNv pci (some engine.limits.query), found⟩] (.error e)
  | on {snapshot : NvSnapshot} (on : gateOn snapshot.current = true) :
      GateRun engine pci [engine.read pci snapshot] (.ok snapshot)
  | unset {seen : NvSnapshot} {found : Except HostError Unit} {e : EngineError}
      (off : gateOn seen.current = false) (failed : Work.ofHost found = .error e) :
      GateRun engine pci [engine.read pci seen, ⟨.setNv pci gateParameter onValue, found⟩]
        (.error e)
  | unreset {seen : NvSnapshot} {found : Option (Except HostError Unit)} {e : EngineError}
      (off : gateOn seen.current = false)
      (failed : Work.ofLimited .reset pci engine.limits.reset found = .error e) :
      GateRun engine pci
        [engine.read pci seen, ⟨.setNv pci gateParameter onValue, .ok ()⟩,
          ⟨.resetFirmware pci (some engine.limits.reset), found⟩]
        (.error e)
  | unseen {seen : NvSnapshot} {found : Option (Except HostError NvSnapshot)} {e : EngineError}
      (off : gateOn seen.current = false)
      (failed : Work.ofLimited .query pci engine.limits.query found = .error e) :
      GateRun engine pci
        (engine.opening pci seen ++ [⟨.queryNv pci (some engine.limits.query), found⟩]) (.error e)
  | opened {seen snapshot : NvSnapshot} (off : gateOn seen.current = false) :
      GateRun engine pci (engine.opening pci seen ++ [engine.read pci snapshot]) (.ok snapshot)

theorem gateRun_of_runs {answer : Except EngineError NvSnapshot}
    (h : (engine.queryWithGate pci).run.Runs events answer) : GateRun engine pci events answer := by
  rcases runs_bindT_iff.1 h with ⟨e, rfl, hq⟩ | ⟨seen, query, rest, rfl, hq, hg⟩
  · obtain ⟨found, rfl, failed⟩ := Work.runs_call hq
    exact .unread failed.symm
  obtain rfl := runs_queryNv_ok hq
  split at hg
  · next on =>
      obtain ⟨rfl, rfl⟩ := runs_pureT_iff.1 hg
      exact .on on
  next off =>
  have off := Bool.eq_false_iff.2 off
  rcases runs_bindT_iff.1 hg with ⟨e, rfl, hs⟩ | ⟨_, set, rest, rfl, hs, hr⟩
  · obtain ⟨found, rfl, failed⟩ := Work.runs_call hs
    exact .unset off failed.symm
  obtain rfl := runs_setNv_ok hs
  rcases runs_bindT_iff.1 hr with ⟨e, rfl, hf⟩ | ⟨_, reset, last, rfl, hf, hl⟩
  · obtain ⟨found, rfl, failed⟩ := Work.runs_call hf
    exact .unreset off failed.symm
  obtain rfl := runs_resetFirmware_ok hf
  cases answer with
  | error e =>
      obtain ⟨found, rfl, failed⟩ := Work.runs_call hl
      exact .unseen off failed.symm
  | ok snapshot =>
      obtain rfl := runs_queryNv_ok hl
      exact .opened off

/-- A query that failed has shown nothing. -/
theorem snapshotsRead_of_failed {limit : Duration} {found : Option (Except HostError NvSnapshot)}
    {e : EngineError} (failed : Work.ofLimited .query pci limit found = .error e) :
    snapshotsRead [⟨.queryNv pci (some limit), found⟩] = [] := by
  match found with
  | some (.ok _) => cases failed
  | some (.error _) => rfl
  | none => rfl

theorem GateRun.speedTold? {answer : Except EngineError NvSnapshot}
    (h : GateRun engine pci events answer) : speedTold? events = none := by
  cases h <;> rfl

/-- With the gate open the calls for it are made, and the configuration was shown. -/
theorem GateRun.of_ok (h : GateRun engine pci events (.ok snapshot)) :
    changes events = engine.gateCalls pci (snapshotsRead events) ∧
      goesBy? (snapshotsRead events) = some snapshot := by
  cases h with
  | on on => exact ⟨(gateCalls_of_on on []).symm, goesBy?_of_on on []⟩
  | opened off => exact ⟨(gateCalls_of_off off [snapshot]).symm, goesBy?_of_off off [snapshot]⟩

theorem GateRun.of_error {e : EngineError} (h : GateRun engine pci events (.error e)) :
    changes events <+: engine.gateCalls pci (snapshotsRead events) ∧
      goesBy? (snapshotsRead events) = none := by
  cases h with
  | unread failed =>
      rw [snapshotsRead_of_failed failed]
      exact ⟨List.nil_prefix, rfl⟩
  | @unset seen _ _ off failed =>
      rw [show snapshotsRead _ = [seen] from rfl, gateCalls_of_off off]
      exact ⟨⟨_, rfl⟩, goesBy?_of_off off []⟩
  | @unreset seen _ _ off failed =>
      rw [show snapshotsRead _ = [seen] from rfl, gateCalls_of_off off]
      exact ⟨List.prefix_rfl, goesBy?_of_off off []⟩
  | @unseen seen _ _ off failed =>
      rw [snapshotsRead_append, snapshotsRead_of_failed failed, List.append_nil,
        show snapshotsRead _ = [seen] from rfl, gateCalls_of_off off]
      exact ⟨List.prefix_rfl, goesBy?_of_off off []⟩

/-- A snapshot with the gate on is not followed by another. -/
theorem GateRun.once {answer : Except EngineError NvSnapshot} (h : GateRun engine pci events answer)
    {later : List NvSnapshot} (read : snapshotsRead events = snapshot :: later)
    (on : gateOn snapshot.current = true) : later = [] := by
  have closed : ∀ seen rest, snapshotsRead events = seen :: rest → gateOn seen.current = true := by
    intro seen rest again
    cases read.symm.trans again
    exact on
  cases h with
  | unread failed =>
      rw [snapshotsRead_of_failed failed] at read
      cases read
  | on _ =>
      cases read
      rfl
  | unset off _ => cases off.symm.trans (closed _ _ rfl)
  | unreset off _ => cases off.symm.trans (closed _ _ rfl)
  | unseen off _ => cases off.symm.trans (closed _ _ rfl)
  | opened off => cases off.symm.trans (closed _ _ rfl)

/-- The template is worked out as soon as the speed of the link is settled, and not without it. -/
theorem runs_desiredNv_told {defaults : Dict String} {answer : Except EngineError (Dict String)}
    (hc : device.configuration = .ok configuration) (hp : device.ports = .ok ports)
    (h : (device.desiredNv defaults).run.Runs events answer) :
    (configuration.template.speedOf? (speedTold? events) = none ∧
        ¬ AllSucceed events ∧ ∃ e, answer = .error e) ∨
      ∃ speed, configuration.template.speedOf? (speedTold? events) = some speed ∧
        answer = Work.ofSpec
          (configuration.template.desired ports.isDual speed defaults device.name) := by
  rw [NicDevice.desiredNv, hc, hp] at h
  change (if configuration.template.needsLinkSpeed then _ else _ :
    Work (Dict String)).run.Runs events answer at h
  rw [Template.speedOf?]
  split at h
  · next needed =>
      rw [if_pos needed]
      rcases runs_bindT_iff.1 h with ⟨e, rfl, hs⟩ | ⟨speed, first, last, rfl, hs, hl⟩
      · obtain ⟨result, hs, same⟩ := runs_mapT hs
        obtain ⟨found, rfl, rfl⟩ := Work.runs_call hs
        cases found with
        | error cause =>
            cases same
            refine .inl ⟨rfl, fun all => ?_, _, rfl⟩
            cases all _ List.mem_cons_self
        | ok speed => cases same
      · obtain ⟨result, hs, same⟩ := runs_mapT hs
        obtain ⟨found, rfl, rfl⟩ := Work.runs_call hs
        cases found with
        | error cause => cases same
        | ok speed =>
            cases same
            obtain ⟨rfl, rfl⟩ := Work.runs_ofExcept hl
            exact .inr ⟨some speed, rfl, rfl⟩
  · next spared =>
      rw [if_neg spared]
      obtain ⟨rfl, rfl⟩ := Work.runs_ofExcept h
      exact .inr ⟨none, rfl, rfl⟩

/-- Writing tells nothing, and makes the writes one after the other, the first one in any case. -/
theorem runs_writeAll {entries : List (String × String)} {answer : Except EngineError Unit}
    (h : (writeAll pci entries).run.Runs events answer) :
    snapshotsRead events = [] ∧ speedTold? events = none ∧
      changes events <+: entries.map (fun entry => .setNv pci entry.1 entry.2) ∧
      (entries ≠ [] → changes events ≠ []) ∧
      (answer = .ok () → changes events = entries.map fun entry => .setNv pci entry.1 entry.2) := by
  induction entries generalizing events with
  | nil =>
      obtain ⟨rfl, -⟩ := runs_pureT_iff.1 h
      exact ⟨rfl, rfl, List.prefix_rfl, fun no => absurd rfl no, fun _ => rfl⟩
  | cons entry rest ih =>
      rcases runs_bindT_iff.1 h with ⟨e, rfl, hs⟩ | ⟨_, first, last, rfl, hs, hl⟩
      · obtain ⟨found, rfl, -⟩ := Work.runs_call hs
        exact ⟨rfl, rfl, ⟨_, rfl⟩, fun _ => nofun, nofun⟩
      · obtain rfl := runs_setNv_ok hs
        obtain ⟨shown, told, written, -, whole⟩ := ih hl
        rw [snapshotsRead_append, speedTold?_append, changes_append, shown, told]
        refine ⟨rfl, rfl, ?_, fun _ => nofun, fun ok => ?_⟩
        · exact List.prefix_append_right_inj _ |>.2 written
        · rw [whole ok]
          rfl

/-! ## Staging a template -/

/-- How far staging a template can come, what it has changed by then and what it ends in. -/
inductive Course (engine : Engine) (device : NicDevice) (template : Template)
    (ports : NicDevice.Ports) (events : List (Event hostService)) :
    Except EngineError Bool → Prop where
  /-- A call failed before the template was worked out. -/
  | stopped {e : EngineError} (unknown : device.wanted? template ports events = none)
      (made : changes events <+: engine.gateCalls ports.first.pci (snapshotsRead events))
      (failed : ¬ AllSucceed events) : Course engine device template ports events (.error e)
  | rejected {snapshot : NvSnapshot} {fault : SpecFault}
      (known : device.wanted? template ports events = some (snapshot, .error fault))
      (made : changes events = engine.gateCalls ports.first.pci (snapshotsRead events)) :
      Course engine device template ports events (.error (.incorrectSpec fault))
  | unsupported {snapshot : NvSnapshot} {desired : Dict String} {name : String}
      (known : device.wanted? template ports events = some (snapshot, .ok desired))
      (missing : desired.missing? snapshot.nextBoot = some name)
      (made : changes events = engine.gateCalls ports.first.pci (snapshotsRead events)) :
      Course engine device template ports events
        (.error (.incorrectSpec (.unsupported name device.name)))
  /-- A write failed, so there was something to write. -/
  | interrupted {snapshot : NvSnapshot} {desired : Dict String} {e : EngineError}
      {writes : List HostCall}
      (known : device.wanted? template ports events = some (snapshot, .ok desired))
      (complete : desired.missing? snapshot.nextBoot = none)
      (begun : writes ≠ []) (own : writes <+: writeCalls ports.first.pci snapshot desired)
      (made : changes events =
        engine.gateCalls ports.first.pci (snapshotsRead events) ++ writes)
      (failed : ¬ AllSucceed events) : Course engine device template ports events (.error e)
  | staged {snapshot : NvSnapshot} {desired : Dict String}
      (known : device.wanted? template ports events = some (snapshot, .ok desired))
      (complete : desired.missing? snapshot.nextBoot = none)
      (made : changes events = engine.gateCalls ports.first.pci (snapshotsRead events) ++
        writeCalls ports.first.pci snapshot desired) :
      Course engine device template ports events (.ok true)

/-- What is asked for is settled by the events that tell something. -/
theorem wanted?_append_of_silent {template : Template} {last : List (Event hostService)}
    (shown : snapshotsRead last = []) (told : speedTold? last = none) :
    device.wanted? template ports (events ++ last) = device.wanted? template ports events := by
  rw [NicDevice.wanted?, NicDevice.wanted?, snapshotsRead_append_of_silent shown,
    speedTold?_append, told, Option.or_none]

/-- The end of staging a template, once it is known what is asked for. -/
theorem course_of_writeMissing {before last : List (Event hostService)}
    {answer : Except EngineError Bool}
    (known : device.wanted? configuration.template ports before = some (snapshot, .ok desired))
    (gate : changes before = engine.gateCalls ports.first.pci (snapshotsRead before))
    (h : (writeMissing device ports.first.pci snapshot desired).run.Runs last answer) :
    Course engine device configuration.template ports (before ++ last) answer := by
  rw [writeMissing] at h
  rcases snapshot.missing_cases desired device.name with ⟨name, missing, eq⟩ | ⟨complete, eq⟩
  · rw [eq] at h
    rcases Work.runs_ofExcept_bind h with ⟨e, same, rfl, rfl⟩ | ⟨_, no, -⟩
    · cases same
      rw [List.append_nil]
      exact .unsupported known missing gate
    · cases no
  · rw [eq] at h
    rcases Work.runs_ofExcept_bind h with ⟨_, no, -⟩ | ⟨entries, same, h⟩
    · cases no
    cases same
    rcases runs_bindT_iff.1 h with ⟨e, rfl, hw⟩ | ⟨_, writes, rest, rfl, hw, hl⟩
    · obtain ⟨shown, told, own, begun, -⟩ := runs_writeAll hw
      rw [← wanted?_append_of_silent shown told] at known
      refine .interrupted known complete (begun fun none => ?_) own ?_ fun all => ?_
      · rw [none] at hw
        cases (runs_pureT_iff.1 hw).2
      · rw [changes_append, gate, snapshotsRead_append_of_silent shown]
      · obtain ⟨_, no⟩ := (specFree_writeAll _ _).plain _ _ hw (allSucceed_append.1 all).2
        cases no
    · obtain ⟨rfl, rfl⟩ := runs_pureT_iff.1 hl
      rw [List.append_nil]
      obtain ⟨shown, told, -, -, whole⟩ := runs_writeAll hw
      rw [← wanted?_append_of_silent shown told] at known
      refine .staged known complete ?_
      rw [changes_append, gate, snapshotsRead_append_of_silent shown, whole rfl]
      rfl

/-- Working out a template, after the snapshot that it is worked out on was read. -/
theorem wanted?_of_runs_desiredNv {before asking : List (Event hostService)}
    {answer : Except EngineError (Dict String)} (hc : device.configuration = .ok configuration)
    (hp : device.ports = .ok ports) (seen : goesBy? (snapshotsRead before) = some snapshot)
    (untold : speedTold? before = none)
    (h : (device.desiredNv snapshot.default).run.Runs asking answer) :
    snapshotsRead (before ++ asking) = snapshotsRead before ∧
      changes (before ++ asking) = changes before ∧
      ((device.wanted? configuration.template ports (before ++ asking) = none ∧
          ¬ AllSucceed asking ∧ ∃ e, answer = .error e) ∨
        ∃ result,
          device.wanted? configuration.template ports (before ++ asking) = some (snapshot, result) ∧
            answer = Work.ofSpec result) := by
  obtain ⟨unchanged, silent⟩ := runs_desiredNv h
  have shown : snapshotsRead (before ++ asking) = snapshotsRead before :=
    snapshotsRead_append_of_silent (snapshotsRead_of_queries silent)
  refine ⟨shown, by rw [changes_append, unchanged, List.append_nil], ?_⟩
  rw [NicDevice.wanted?, shown, seen, speedTold?_append, untold, Option.none_or]
  rcases runs_desiredNv_told hc hp h with ⟨unknown, failed⟩ | ⟨speed, told, rfl⟩
  · rw [unknown]
    exact .inl ⟨rfl, failed⟩
  · rw [told]
    exact .inr ⟨_, rfl, rfl⟩

/-- Every run of staging a template takes one of these courses. -/
theorem course_of_runs {answer : Except EngineError Bool}
    (hc : device.configuration = .ok configuration) (hp : device.ports = .ok ports)
    (template : configuration.resetToDefault = false)
    (h : (engine.applyNv device).run.Runs events answer) :
    Course engine device configuration.template ports events answer := by
  rw [engine.applyNv_of_template hc hp template] at h
  rcases runs_bindT_iff.1 h with ⟨e, rfl, hg⟩ | ⟨snapshot, before, after, rfl, hg, hd⟩
  · obtain ⟨made, unseen⟩ := (gateRun_of_runs hg).of_error
    refine .stopped ?_ made fun all => ?_
    · rw [NicDevice.wanted?, unseen]
      rfl
    · obtain ⟨_, no⟩ := (engine.specFree_queryWithGate _).plain _ _ hg all
      cases no
  have gate := gateRun_of_runs hg
  obtain ⟨made, seen⟩ := gate.of_ok
  rcases runs_bindT_iff.1 hd with ⟨e, rfl, ha⟩ | ⟨desired, asking, last, rfl, ha, hw⟩
  · obtain ⟨shown, unchanged, known⟩ := wanted?_of_runs_desiredNv hc hp seen gate.speedTold? ha
    have made : changes (before ++ after) =
        engine.gateCalls ports.first.pci (snapshotsRead (before ++ after)) := by
      rw [shown, unchanged, made]
    rcases known with ⟨unknown, failed, -⟩ | ⟨result, known, same⟩
    · exact .stopped unknown (made ▸ List.prefix_rfl) fun all => failed (allSucceed_append.1 all).2
    · cases result with
      | error fault =>
          cases same
          exact .rejected known made
      | ok desired => cases same
  · obtain ⟨shown, unchanged, known⟩ := wanted?_of_runs_desiredNv hc hp seen gate.speedTold? ha
    rcases known with ⟨-, -, _, no⟩ | ⟨result, known, same⟩
    · cases no
    cases result with
    | error fault => cases same
    | ok parameters =>
        cases same
        rw [← List.append_assoc]
        refine course_of_writeMissing known ?_ hw
        rw [shown, unchanged, made]

theorem snapshotsRead_of_writeMissing {answer : Except EngineError Bool}
    (h : (writeMissing device pci snapshot desired).run.Runs events answer) :
    snapshotsRead events = [] := by
  rcases Work.runs_ofExcept_bind h with ⟨_, -, rfl, -⟩ | ⟨entries, -, h⟩
  · rfl
  rcases runs_bindT_iff.1 h with ⟨_, -, hw⟩ | ⟨_, writes, rest, rfl, hw, hl⟩
  · exact (runs_writeAll hw).1
  · obtain ⟨rfl, -⟩ := runs_pureT_iff.1 hl
    rw [List.append_nil]
    exact (runs_writeAll hw).1

/-- Staging a template reads the configuration first of all, and never again. -/
theorem exists_gateRun {answer : Except EngineError Bool}
    (hc : device.configuration = .ok configuration) (hp : device.ports = .ok ports)
    (template : configuration.resetToDefault = false)
    (h : (engine.applyNv device).run.Runs events answer) :
    ∃ before result, GateRun engine ports.first.pci before result ∧
      snapshotsRead events = snapshotsRead before := by
  rw [engine.applyNv_of_template hc hp template] at h
  rcases runs_bindT_iff.1 h with ⟨e, rfl, hg⟩ | ⟨found, before, after, rfl, hg, hd⟩
  · exact ⟨_, _, gateRun_of_runs hg, rfl⟩
  refine ⟨_, _, gateRun_of_runs hg, snapshotsRead_append_of_silent ?_⟩
  rcases runs_bindT_iff.1 hd with ⟨e, rfl, ha⟩ | ⟨wanted, asking, last, rfl, ha, hw⟩
  · exact snapshotsRead_of_queries (runs_desiredNv ha).2
  · rw [snapshotsRead_append_of_silent (snapshotsRead_of_writeMissing hw)]
    exact snapshotsRead_of_queries (runs_desiredNv ha).2

end Engine

end NicKeeper
