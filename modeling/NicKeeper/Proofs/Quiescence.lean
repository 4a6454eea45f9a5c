import NicKeeper.Proofs.SetUp
import NicKeeper.Proofs.WorkOnMemory

/-!
# Passes come to rest

Passes over a device are repeated, and each report goes into the device's status. Where nothing else
changes, they soon have nothing left to do. What the first pass finds to be staged or stages itself
is staged for good, so no later one stages anything (`Step.still`). The second pass brings the live
settings about and reports for the last time: from the third on the work is a single query with the
same result, and the status says so already (`AtRest`).

The way may end in a failure that repeats itself: no firmware parameters, no gate to open, or a port
without an interface.
-/

namespace NicKeeper

open Program MemoryHost

namespace NvMemory

variable {nv nv' : NvMemory} {reset : Bool} {device : String}
  {desired : Except EngineError (Dict String)} {parameters : Dict String} {result : Pass.Result}

/-- A pass finds nothing to stage. -/
def Still (nv : NvMemory) (reset : Bool) (device : String)
    (desired : Except EngineError (Dict String)) : Prop :=
  ∀ verdict, nv.judge reset device desired = .ok verdict → verdict.updateNeeded = false

theorem still_of_error {e : EngineError} (judged : nv.judge reset device desired = .error e) :
    nv.Still reset device desired := by
  intro verdict right
  cases judged.symm.trans right

theorem still_of_ok {verdict : Verdict} (judged : nv.judge reset device desired = .ok verdict)
    (spared : verdict.updateNeeded = false) : nv.Still reset device desired := by
  intro verdict' same
  cases judged.symm.trans same
  exact spared

theorem still_of_subset (on : gateOn nv.stored.current = true)
    (staged : parameters ⊆ nv.stored.nextBoot) : nv.Still false device (.ok parameters) := by
  rcases nv.judge_cases device parameters with ⟨_, -, -, wrong⟩ | ⟨-, verdict, judged, update, -⟩
  · exact still_of_error wrong
  · rw [shown_of_gateOn on] at update
    exact still_of_ok judged (update.2 staged)

theorem still_of_defaults (staged : nv.DefaultsStaged) : nv.Still true device desired := by
  intro verdict judged
  have same : nv.judge true device desired = .ok nv.shown.resetVerdict := rfl
  cases same.symm.trans judged
  exact staged.spared

/-- A pass leaves nothing to stage, or it found no gate to open. -/
theorem Step.still (nested : nv.Nested) (h : nv.Step reset device desired result nv') :
    nv'.Still reset device desired ∨ (reset = false ∧ nv' = nv ∧ ¬ nv.Gated ∧
      ∃ verdict, nv.judge false device desired = .ok verdict ∧ verdict.updateNeeded = true) := by
  cases h with
  | invalid judged => exact .inl (still_of_error judged)
  | waiting judged spared => exact .inl (still_of_ok judged spared)
  | live judged spared => exact .inl (still_of_ok judged spared)
  | staged judged needed staging =>
      cases staging with
      | ungated closed => exact .inr ⟨rfl, rfl, closed, _, judged, needed⟩
      | invalid _ wanted =>
          subst wanted
          cases judged
      | unsupported _ wanted missing =>
          subst wanted
          -- The values in effect with the gate on have the names that this pass found to be staged.
          cases on : gateOn nv.stored.current with
          | false =>
              have opened := nv.gateOn_withGate
              rw [withGate_of_off on] at missing opened ⊢
              exact .inl (still_of_error (judge_of_missing opened missing))
          | true =>
              rw [withGate_of_on on] at missing
              rcases nv.judge_cases device _ with ⟨_, -, -, wrong⟩ | ⟨complete, -⟩
              · cases wrong.symm.trans judged
              · have all := Dict.missing?_eq_none_iff.1 (complete on)
                have none := Dict.missing?_eq_none_iff.2 fun name asked =>
                  nested.staged name (all name asked)
                cases none.symm.trans missing
      | staged _ wanted complete =>
          subst wanted
          refine .inl (still_of_subset ?_ (subset_stageDesired _ _))
          exact nv.gateOn_withGate
      | reset known =>
          refine .inl (still_of_defaults fun name other => ?_)
          exact (Dict.get?_insert _ _ _ _).trans (if_neg other.symm)
      | resetUngated unknown => exact .inl (still_of_defaults fun _ _ => rfl)

end NvMemory

namespace Engine

variable {engine : Engine} {device : NicDevice} {configuration : Configuration}
  {ports : NicDevice.Ports} {host after : MemoryHost} {updated : Bool} {result : Pass.Result}
  {desired : Except EngineError (Dict String)} {nv : NvMemory}

/-! ## The work of later passes -/

variable (engine device ports nv) in
/-- The work of a pass comes to `result` and does nothing but query, however often it has done so.
-/
def Idle (host : MemoryHost) (result : Pass.Result) : Prop :=
  ∀ calls, (engine.work device).run MemoryHost.handle (host.withNv ports.first.pci nv calls) =
    ((false, result), host.withNv ports.first.pci nv
      (calls ++ [.queryNv ports.first.pci (some engine.limits.query)]))

variable (engine device ports desired nv) in
/-- The work of a pass on a host with these parameters fails and leaves them as they are. -/
def Failing : Prop :=
  ∀ host updated result after, Hosts engine device ports desired host nv →
    (engine.work device).run MemoryHost.handle host = ((updated, result), after) →
      result.outcome = .failed ∧ Hosts engine device ports desired after nv

section Work

variable (hc : device.configuration = .ok configuration) (hp : device.ports = .ok ports)

include hc hp

theorem failing_of_noInterface {verdict : Verdict} {settings : LiveSettings} {port : Port}
    (judged : nv.judge configuration.resetToDefault device.name desired = .ok verdict)
    (spared : verdict.updateNeeded = false) (settled : verdict.rebootNeeded = false)
    (hs : device.liveSettings = .ok settings) (mem : port ∈ ports.configured)
    (none : port.networkInterface = "") : Failing engine device ports desired nv := by
  intro host updated result after hosts ran
  have mid := hosts.withNv hc hp nv rfl
    [.queryNv ports.first.pci (some engine.limits.query)]
  rw [hosts.run_work_spared hc hp judged spared, settled] at ran
  change ((false, ofLive _), _) = _ at ran
  obtain ⟨answer, readRequests, qos, calls, same⟩ := applyLive_withLive hp mid.healthy
  obtain ⟨fault, failed⟩ := applyLive_noInterface hs hp mid.healthy mem none
  rw [same] at ran failed
  obtain rfl : answer = .error (.invalidDevice fault) := failed
  cases ran
  exact ⟨rfl, mid.withLive hc hp _ _ _⟩

theorem failing_of_ungated (template : configuration.resetToDefault = false) (closed : ¬ nv.Gated)
    {verdict : Verdict} (judged : nv.judge false device.name desired = .ok verdict)
    (needed : verdict.updateNeeded = true) : Failing engine device ports desired nv := by
  intro host updated result after hosts ran
  obtain ⟨nv', step, hosts'⟩ := (workedOn_of_run ran).step hc hp hosts
  rw [template] at step
  obtain ⟨rfl, rfl⟩ := step.of_ungated closed judged needed
  exact ⟨rfl, hosts'⟩

variable (hosts : Hosts engine device ports desired host nv)

include hosts

theorem idle_of_invalid {e : EngineError}
    (judged : nv.judge configuration.resetToDefault device.name desired = .error e) :
    Idle engine device ports nv host (.error e) := by
  intro calls
  have later := hosts.withNv hc hp nv rfl calls
  rw [later.run_work_invalid hc hp judged, withNv_withNv]

theorem idle_of_waiting {verdict : Verdict}
    (judged : nv.judge configuration.resetToDefault device.name desired = .ok verdict)
    (spared : verdict.updateNeeded = false) (waits : verdict.rebootNeeded = true) :
    Idle engine device ports nv host .rebootRequired := by
  intro calls
  have later := hosts.withNv hc hp nv rfl calls
  rw [later.run_work_spared hc hp judged spared, waits, withNv_withNv]
  rfl

/-- Live settings that cannot be worked out, or are in place already. -/
theorem idle_of_live {verdict : Verdict} {answer : Except EngineError Unit}
    (judged : nv.judge configuration.resetToDefault device.name desired = .ok verdict)
    (spared : verdict.updateNeeded = false) (settled : verdict.rebootNeeded = false)
    (kept : ∀ calls, (applyLive device).on (host.withNv ports.first.pci nv calls) =
      (answer, host.withNv ports.first.pci nv calls)) :
    Idle engine device ports nv host (ofLive answer) := by
  intro calls
  have later := hosts.withNv hc hp nv rfl calls
  rw [later.run_work_spared hc hp judged spared, settled, withNv_withNv]
  show ((false, ofLive _), _) = _
  rw [kept]

/-- A pass that finds nothing to stage leaves nothing to do, unless a port has no interface. -/
theorem idle_or_failing (still : nv.Still configuration.resetToDefault device.name desired)
    (ran : (engine.work device).run MemoryHost.handle host = ((updated, result), after)) :
    Hosts engine device ports desired after nv ∧
      (Idle engine device ports nv after result ∨ Failing engine device ports desired nv) := by
  have mid := hosts.withNv hc hp nv rfl
    [.queryNv ports.first.pci (some engine.limits.query)]
  cases judged : nv.judge configuration.resetToDefault device.name desired with
  | error e =>
      cases (hosts.run_work_invalid hc hp judged).symm.trans ran
      exact ⟨mid, .inl (idle_of_invalid hc hp mid judged)⟩
  | ok verdict =>
      have spared := still verdict judged
      have whole := ran
      rw [hosts.run_work_spared hc hp judged spared] at ran
      cases reboot : verdict.rebootNeeded with
      | true =>
          rw [reboot] at ran
          cases ran
          exact ⟨mid, .inl (idle_of_waiting hc hp mid judged spared reboot)⟩
      | false =>
          rw [reboot] at ran
          change ((false, ofLive _), _) = _ at ran
          cases hs : device.liveSettings with
          | error e =>
              rw [applyLive_wrong hs] at ran
              cases ran
              exact ⟨mid, .inl (idle_of_live hc hp mid judged spared reboot
                fun calls => applyLive_wrong hs)⟩
          | ok settings =>
              by_cases all : ∀ port ∈ ports.configured, port.networkInterface ≠ ""
              · obtain ⟨readRequests, qos, calls, set, has⟩ := applyLive_set hs hp mid.healthy all
                rw [set] at ran
                cases ran
                have left := mid.withLive hc hp readRequests qos calls
                refine ⟨left, .inl (idle_of_live hc hp left judged spared reboot fun calls => ?_)⟩
                exact applyLive_kept hs hp (left.withNv hc hp nv rfl calls).healthy has
              · obtain ⟨port, mem, none⟩ :
                    ∃ port ∈ ports.configured, port.networkInterface = "" := by
                  simpa using all
                have failing : Failing engine device ports desired nv :=
                  failing_of_noInterface hc hp judged spared reboot hs mem none
                exact ⟨(failing _ _ _ _ hosts whole).2, .inr failing⟩

theorem still_or_failing (nested : nv.Nested)
    (ran : (engine.work device).run MemoryHost.handle host = ((updated, result), after)) :
    ∃ nv', Hosts engine device ports desired after nv' ∧
      (nv'.Still configuration.resetToDefault device.name desired ∨
        Failing engine device ports desired nv') := by
  obtain ⟨nv', step, left⟩ := (workedOn_of_run ran).step hc hp hosts
  rcases step.still nested with still | ⟨template, rfl, closed, verdict, judged, needed⟩
  · exact ⟨nv', left, .inl still⟩
  · exact ⟨nv', left, .inr (failing_of_ungated hc hp template closed judged needed)⟩

end Work

end Engine

/-! ## Reports in the status -/

namespace NicDevice

variable {device : NicDevice}

/-- The device with a report in its status, written at a time. -/
def reporting (device : NicDevice) (report : Report) (time : Timestamp) : NicDevice :=
  { device with status := device.status.map fun status =>
      { status with toReport := report, lastReconciled := some time } }

theorem reporting_agrees (device : NicDevice) (report : Report) (time : Timestamp) :
    (device.reporting report time).Agrees device := by
  refine ⟨rfl, rfl, ?_⟩
  obtain ⟨metadata, spec, status⟩ := device
  match status with
  | none => rfl
  | some { ports := [], .. } => rfl
  | some { ports := _ :: _, .. } => rfl

theorem matches_reporting {ports : Ports} (hp : device.ports = .ok ports) (report : Report)
    (time : Timestamp) : report.matchesStatus (device.reporting report time).status = true := by
  obtain ⟨metadata, spec, status⟩ := device
  cases status with
  | none => cases hp
  | some status => exact beq_self_eq_true report

end NicDevice

/-- The resource of a device, and the reports that were written to its status. -/
structure StatusRecord where
  device : NicDevice
  written : List Report := []

namespace StatusRecord

/-- Writes a report at the time that a clock tells. -/
def keep (clock : List Report → Timestamp) (_ : NicDevice) (report : Report)
    (record : StatusRecord) : StatusRecord :=
  { device := record.device.reporting report (clock record.written)
    written := record.written ++ [report] }

def keepAll (clock : List Report → Timestamp) (record : StatusRecord) (reports : List Report) :
    StatusRecord :=
  reports.foldl (fun after report => keep clock record.device report after) record

/-- After a pass the status says what the pass came to, and the device is the same otherwise. -/
theorem keepAll_reports (clock : List Report → Timestamp) {record : StatusRecord}
    {ports : NicDevice.Ports} (hp : record.device.ports = .ok ports) (updated : Bool)
    (result : Pass.Result) :
    (record.keepAll clock (Pass.reports record.device updated result)).device.Agrees
        record.device ∧
      result.report.matchesStatus (record.keepAll clock
        (Pass.reports record.device updated result)).device.status = true := by
  rw [Pass.reports]
  split
  · have first := record.device.reporting_agrees (.ofState .updating) (clock record.written)
    refine ⟨(NicDevice.reporting_agrees _ _ _).trans first, ?_⟩
    exact NicDevice.matches_reporting (first.ports.trans hp) _ _
  · rw [Pass.lastReports]
    split
    · exact ⟨NicDevice.reporting_agrees _ _ _, NicDevice.matches_reporting hp _ _⟩
    · next said =>
        rw [Bool.false_or, Bool.not_eq_true, Bool.not_eq_false'] at said
        exact ⟨.refl _, said⟩

theorem keepAll_said (clock : List Report → Timestamp) {record : StatusRecord}
    {result : Pass.Result} (said : result.report.matchesStatus record.device.status = true) :
    record.keepAll clock (Pass.reports record.device false result) = record := by
  have none : Pass.reports record.device false result = [] := by
    show Pass.lastReports record.device false result = []
    rw [Pass.lastReports, said]
    rfl
  rw [none]
  rfl

end StatusRecord

/-! ## Passes one after the other -/

namespace Engine

variable {engine : Engine} {device : NicDevice} {configuration : Configuration}
  {ports : NicDevice.Ports} {host after : MemoryHost} {record : StatusRecord}
  {clock : List Report → Timestamp} {updated : Bool} {result : Pass.Result} {nv : NvMemory}
  {desired : Except EngineError (Dict String)} {state start : MemoryHost × StatusRecord}

/-- A pass over the device as its resource is, with the reports written to it. -/
def recordedPass (engine : Engine) (clock : List Report → Timestamp)
    (state : MemoryHost × StatusRecord) :
    Except DaemonError Outcome × MemoryHost × StatusRecord :=
  (engine.pass state.2.device).run (onHost (accepting (StatusRecord.keep clock))) state

/-- The host and the resource before pass number `k`. -/
def passes (engine : Engine) (clock : List Report → Timestamp) (start : MemoryHost × StatusRecord) :
    Nat → MemoryHost × StatusRecord
  | 0 => start
  | k + 1 => (engine.recordedPass clock (passes engine clock start k)).2

theorem recordedPass_eq (clock : List Report → Timestamp) (same : state.2.device.Agrees device)
    (ran : (engine.work device).run MemoryHost.handle state.1 = ((updated, result), after)) :
    engine.recordedPass clock state =
      (.ok result.outcome, after,
        state.2.keepAll clock (Pass.reports state.2.device updated result)) := by
  obtain ⟨host, record⟩ := state
  rw [recordedPass, run_pass_accepting, same.work_eq engine, ran]
  rfl

theorem passes_agrees (engine : Engine) (clock : List Report → Timestamp)
    (same : start.2.device.Agrees device) (hp : device.ports = .ok ports)
    (k : Nat) : (engine.passes clock start k).2.device.Agrees device := by
  induction k with
  | zero => exact same
  | succ k ih =>
      match ran : (engine.work device).run MemoryHost.handle (engine.passes clock start k).1 with
      | ((updated, result), after) =>
          rw [passes, recordedPass_eq clock ih ran]
          exact (StatusRecord.keepAll_reports clock (ih.ports.trans hp) updated result).1.trans ih

/-- There is nothing left to do, and the status says so. -/
structure AtRest (engine : Engine) (device : NicDevice) (ports : NicDevice.Ports) (nv : NvMemory)
    (result : Pass.Result) (state : MemoryHost × StatusRecord) : Prop where
  idle : Idle engine device ports nv state.1 result
  found : state.1.nv.get? ports.first.pci = some nv
  agrees : state.2.device.Agrees device
  said : result.report.matchesStatus state.2.device.status = true

theorem AtRest.recordedPass (h : AtRest engine device ports nv result state) :
    engine.recordedPass clock state = (.ok result.outcome,
      state.1.withNv ports.first.pci nv
        [.queryNv ports.first.pci (some engine.limits.query)], state.2) := by
  have ran := h.idle []
  rw [withNv_self h.found, List.nil_append] at ran
  rw [recordedPass_eq clock h.agrees ran, StatusRecord.keepAll_said clock h.said]

theorem AtRest.next (h : AtRest engine device ports nv result state) :
    AtRest engine device ports nv result (engine.recordedPass clock state).2 := by
  rw [h.recordedPass]
  refine ⟨fun calls => ?_, get?_withNv, h.agrees, h.said⟩
  have later := h.idle ([.queryNv ports.first.pci (some engine.limits.query)] ++ calls)
  rw [withNv_withNv, withNv_withNv, ← List.append_assoc]
  exact later

theorem mutatingCalls_withNv_query {pci : String} {limit : Option Duration} :
    (host.withNv pci nv [.queryNv pci limit]).mutatingCalls = host.mutatingCalls := by
  show (host.calls ++ [HostCall.queryNv pci limit]).filter (·.mutates) = _
  rw [List.filter_append]
  exact List.append_nil _

theorem passes_absent (engine : Engine) (clock : List Report → Timestamp)
    (start : MemoryHost × StatusRecord) (same : start.2.device.Agrees device)
    (hc : device.configuration = .ok configuration) (hp : device.ports = .ok ports)
    (absent : start.1.nv.get? ports.first.pci = none) (k : Nat) :
    (engine.passes clock start k).1.nv.get? ports.first.pci = none := by
  induction k with
  | zero => exact absent
  | succ k ih =>
      match ran : (engine.work device).run MemoryHost.handle (engine.passes clock start k).1 with
      | ((updated, result), after) =>
          obtain ⟨-, rfl⟩ := (workedOn_of_run ran).absent hc hp ih
          rw [passes, recordedPass_eq clock (passes_agrees engine clock same hp k) ran]
          exact ih

/-- After two passes there is nothing left to do, or the third one fails. -/
theorem rest_or_failed (clock : List Report → Timestamp) (start : MemoryHost × StatusRecord)
    (same : start.2.device.Agrees device)
    (hc : device.configuration = .ok configuration) (hp : device.ports = .ok ports)
    (hosts : Hosts engine device ports desired start.1 nv) (nested : nv.Nested) :
    (∃ nv result, AtRest engine device ports nv result (engine.passes clock start 2)) ∨
      (engine.recordedPass clock (engine.passes clock start 2)).1 = .ok .failed := by
  have agrees := engine.passes_agrees clock same hp
  have failed : ∀ nv, Failing engine device ports desired nv →
      Hosts engine device ports desired (engine.passes clock start 2).1 nv →
        (engine.recordedPass clock (engine.passes clock start 2)).1 = .ok .failed := by
    intro nv failing third
    match ran : (engine.work device).run MemoryHost.handle (engine.passes clock start 2).1 with
    | ((updated, result), after) =>
        rw [recordedPass_eq clock (agrees 2) ran, (failing _ _ _ _ third ran).1]
  -- The first pass leaves nothing to stage, and the second one brings the live settings about.
  match first : (engine.work device).run MemoryHost.handle (engine.passes clock start 0).1 with
  | ((updated, result), after) =>
      obtain ⟨nv, second, next⟩ := still_or_failing hc hp hosts nested first
      have left : (engine.passes clock start 1).1 = after := by
        rw [passes, recordedPass_eq clock (agrees 0) first]
      rw [← left] at second
      match ran : (engine.work device).run MemoryHost.handle (engine.passes clock start 1).1 with
      | ((updated, result), after) =>
          have record := recordedPass_eq clock (agrees 1) ran
          have left : (engine.passes clock start 2).1 = after := by
            rw [passes, record]
          rcases next with still | failing
          · obtain ⟨third, idle | failing⟩ := idle_or_failing hc hp second still ran
            · refine .inl ⟨nv, result, ?_, ?_, agrees 2, ?_⟩
              · rw [left]
                exact idle
              · rw [left]
                exact third.found
              · rw [passes, record]
                exact (StatusRecord.keepAll_reports clock ((agrees 1).ports.trans hp) _ _).2
            · rw [← left] at third
              exact .inr (failed nv failing third)
          · have third := (failing _ _ _ _ second ran).2
            rw [← left] at third
            exact .inr (failed nv failing third)

theorem passes_at_rest (h : AtRest engine device ports nv result (engine.passes clock start 2))
    (n : Nat) : AtRest engine device ports nv result (engine.passes clock start (n + 2)) := by
  induction n with
  | zero => exact h
  | succ n ih => exact ih.next

/-- Passes over a device that nothing else works on come to rest: if the third one does not fail,
then it and all later ones come to the same, write no report and change nothing on the host. -/
theorem passes_come_to_rest (setUp : host.SetUp) (healthy : host.Healthy engine.limits)
    (hc : device.configuration = .ok configuration) (hp : device.ports = .ok ports)
    (third : (engine.recordedPass clock (engine.passes clock (host, { device }) 2)).1 ≠ .ok .failed)
    {k : Nat} (later : 2 ≤ k) :
    (engine.recordedPass clock (engine.passes clock (host, { device }) k)).1 =
        (engine.recordedPass clock (engine.passes clock (host, { device }) 2)).1 ∧
      (engine.passes clock (host, { device }) (k + 1)).2 =
        (engine.passes clock (host, { device }) k).2 ∧
      (engine.passes clock (host, { device }) (k + 1)).1.mutatingCalls =
        (engine.passes clock (host, { device }) k).1.mutatingCalls := by
  have same := NicDevice.Agrees.refl device
  cases found : host.nv.get? ports.first.pci with
  | none =>
      have absent := engine.passes_absent clock (host, { device }) same hc hp found 2
      match ran : (engine.work device).run MemoryHost.handle
        (engine.passes clock (host, { device }) 2).1 with
      | ((updated, result), after) =>
          rw [recordedPass_eq clock (passes_agrees engine clock same hp 2) ran,
            ((workedOn_of_run ran).absent hc hp absent).1] at third
          exact absurd rfl third
  | some nv =>
      have hosts : Hosts engine device ports _ host nv := ⟨healthy, found, rfl⟩
      rcases rest_or_failed clock (host, { device }) same hc hp hosts
        (setUp.nested _ _ found) with ⟨nv, result, rest⟩ | failed
      · obtain ⟨n, rfl⟩ : ∃ n, k = n + 2 := ⟨k - 2, by omega⟩
        have now := passes_at_rest rest n
        have next : engine.passes clock (host, { device }) (n + 2 + 1) =
          (engine.recordedPass clock (engine.passes clock (host, { device }) (n + 2))).2 := rfl
        rw [next, now.recordedPass, rest.recordedPass]
        exact ⟨rfl, rfl, mutatingCalls_withNv_query⟩
      · exact absurd failed third

/-- The staged values are in effect but cannot be seen, so that the first pass opens the gate and
waits for a boot, and the second one finds everything in place. -/
def samplePasses : Nat → MemoryHost × StatusRecord :=
  Sample.engine.passes (fun _ => default) (Sample.host offValue "4", { device := Sample.device [] })

theorem sample_passes_rest :
    (Sample.engine.recordedPass (fun _ => default) (samplePasses 2)).1 ≠ .ok .failed ∧
      (Sample.engine.recordedPass (fun _ => default) (samplePasses 3)).1 =
        (Sample.engine.recordedPass (fun _ => default) (samplePasses 2)).1 ∧
      (samplePasses 4).2 = (samplePasses 3).2 ∧
      (samplePasses 4).1.mutatingCalls = (samplePasses 3).1.mutatingCalls := by
  have setUp : (Sample.host offValue "4").SetUp :=
    .addDefault (.addAdvanced (.addParameter (.addParameter .new _ _ _ _ _) _ _ _ _ _)
      _ _ _ _ _) _ _ _
  have healthy : (Sample.host offValue "4").Healthy Sample.engine.limits := ⟨rfl, rfl, nofun⟩
  have applied : (Sample.engine.recordedPass (fun _ => default) (samplePasses 2)).1.toOption =
    some .applied := by decide +kernel
  have third : (Sample.engine.recordedPass (fun _ => default) (samplePasses 2)).1 ≠
      .ok .failed := by
    intro failed
    rw [failed] at applied
    cases applied
  have ports : (Sample.device []).ports = .ok Sample.ports := rfl
  exact ⟨third, passes_come_to_rest setUp healthy rfl ports third (by decide)⟩

end Engine

end NicKeeper
