import NicKeeper.Proofs.FaultyHost
import NicKeeper.Proofs.WorkOnMemory

/-!
# Staging that was cut off is resumed

Staging takes several calls, and the first that fails ends it, with nothing taken back. `Partway`
lists the parameters that can be left then: between the steps that open the gate, before or amid the
writes, or between a reset and the gate's switching on again.

From each of these places a run that nothing hinders comes to where it would have come from the
start (`Partway.staging`), although it may get there by another way: with the gate open already it
does not reset the firmware again, and what has been written is not written a second time. So it
does no harm to break off and to begin anew.
-/

namespace NicKeeper

open Program MemoryHost

namespace NvMemory

variable {nv mid after : NvMemory} {reset : Bool} {device : String}
  {desired : Except EngineError (Dict String)} {parameters : Dict String}

/-- The parameters at some point of staging. -/
inductive Partway (nv : NvMemory) (desired : Except EngineError (Dict String)) :
    Bool → NvMemory → Prop where
  | untouched {reset : Bool} : Partway nv desired reset nv
  | gateStaged (off : gateOn nv.stored.current = false)
      (known : nv.stored.default.contains gateParameter = true) :
      Partway nv desired false (nv.stage gateParameter onValue)
  | opened (gated : nv.Gated) : Partway nv desired false nv.withGate
  | writing {parameters : Dict String} {written : List (String × String)} (gated : nv.Gated)
      (wanted : desired = .ok parameters)
      (complete : parameters.missing? nv.withGate.stored.nextBoot = none)
      (own : ∀ entry ∈ written, entry ∈ parameters.entries) :
      Partway nv desired false (nv.withGate.stageAll written)
  | defaults : Partway nv desired true nv.stageDefaults
  | reset : Partway nv desired true (nv.stageDefaults.stage gateParameter onValue)

theorem Partway.default_eq (h : nv.Partway desired reset mid) :
    mid.stored.default = nv.stored.default := by
  cases h with
  | untouched => rfl
  | gateStaged => rfl
  | opened => exact default_withGate
  | writing => exact default_withGate
  | defaults => rfl
  | reset => rfl

theorem withGate_withGate (nv : NvMemory) : nv.withGate.withGate = nv.withGate :=
  withGate_of_on nv.gateOn_withGate

theorem withGate_stage_gate (off : gateOn nv.stored.current = false) :
    (nv.stage gateParameter onValue).withGate = nv.withGate := by
  have still : gateOn (nv.stage gateParameter onValue).stored.current = false := off
  rw [withGate_of_off off, withGate_of_off still, stage, stage, Dict.insert_insert]

theorem get?_stageDesired (on : gateOn nv.stored.current = true) (parameters : Dict String)
    (name : String) : (nv.stageDesired parameters).stored.nextBoot.get? name =
      (parameters.get? name).or (nv.stored.nextBoot.get? name) := by
  refine Dict.get?_insertAll_filter (fun entry _ spared => ?_) name
  rw [shown_of_gateOn on, Bool.not_eq_false', NvSnapshot.isStaged, beq_iff_eq] at spared
  exact spared

/-- What was written of a template does not have to be written again. -/
theorem stageDesired_stageAll (on : gateOn nv.stored.current = true)
    {written : List (String × String)} (own : ∀ entry ∈ written, entry ∈ parameters.entries) :
    (nv.stageAll written).stageDesired parameters = nv.stageDesired parameters := by
  have on' : gateOn (nv.stageAll written).stored.current = true := on
  have same : ((nv.stageAll written).stageDesired parameters).stored.nextBoot =
      (nv.stageDesired parameters).stored.nextBoot := by
    apply Dict.ext_get?
    intro name
    rw [get?_stageDesired on', get?_stageDesired on]
    cases found : parameters.get? name with
    | some value => rfl
    | none =>
        refine Dict.get?_insertAll_of_notMem _ fun entry mem eq => ?_
        have asked := Dict.mem_entries_iff.1 (own entry mem)
        rw [eq, found] at asked
        cases asked
  have whole : ∀ nv' : NvMemory, nv'.stageDesired parameters =
      { nv' with stored := { nv'.stored with
          nextBoot := (nv'.stageDesired parameters).stored.nextBoot } } := fun _ => rfl
  rw [whole (nv.stageAll written), whole nv, same]
  rfl

/-- Staging is the same from parameters that differ only in how far the gate has been opened. -/
theorem Staging.of_withGate_eq {answer : Except EngineError Bool}
    (h : Staging nv device desired false answer after) (same : mid.withGate = nv.withGate)
    (gated : nv.Gated) (gated' : mid.Gated) : Staging mid device desired false answer after := by
  cases h with
  | ungated closed => exact absurd gated closed
  | invalid _ wanted =>
      rw [← same]
      exact .invalid gated' wanted
  | unsupported _ wanted missing =>
      rw [← same] at missing ⊢
      exact .unsupported gated' wanted missing
  | staged _ wanted complete =>
      rw [← same] at complete ⊢
      exact .staged gated' wanted complete

/-- Amid the writes what is left of staging is to write what is not staged yet. -/
theorem Staging.of_written {written : List (String × String)} {answer : Except EngineError Bool}
    (h : Staging nv device (.ok parameters) false answer after) (gated : nv.Gated)
    (complete : parameters.missing? nv.withGate.stored.nextBoot = none)
    (own : ∀ entry ∈ written, entry ∈ parameters.entries) :
    Staging (nv.withGate.stageAll written) device (.ok parameters) false answer after := by
  have on : gateOn (nv.withGate.stageAll written).stored.current = true := nv.gateOn_withGate
  have open' := withGate_of_on on
  have complete' : parameters.missing?
      (nv.withGate.stageAll written).withGate.stored.nextBoot = none := by
    rw [open', Dict.missing?_eq_none_iff]
    intro name asked
    exact Dict.contains_insertAll _ (Dict.missing?_eq_none_iff.1 complete name asked)
  cases h with
  | ungated closed => exact absurd gated closed
  | invalid _ wanted => cases wanted
  | unsupported _ wanted missing =>
      cases wanted
      cases complete.symm.trans missing
  | staged _ wanted _ =>
      cases wanted
      rw [← stageDesired_stageAll nv.gateOn_withGate own]
      have staged : Staging (nv.withGate.stageAll written) device (.ok parameters) false (.ok true)
        ((nv.withGate.stageAll written).withGate.stageDesired parameters) :=
          .staged (.inl on) rfl complete'
      rw [open'] at staged
      exact staged

/-- Wherever staging was cut off, it ends as it would have ended from the start. -/
theorem Partway.staging {answer : Except EngineError Bool} (h : nv.Partway desired reset mid)
    (whole : Staging nv device desired reset answer after) :
    Staging mid device desired reset answer after := by
  cases h with
  | untouched => exact whole
  | gateStaged off known =>
      exact whole.of_withGate_eq (withGate_stage_gate off) (.inr known) (.inr known)
  | opened gated =>
      exact whole.of_withGate_eq nv.withGate_withGate gated (.inl nv.gateOn_withGate)
  | writing gated wanted complete own =>
      subst wanted
      exact whole.of_written gated complete own
  | defaults =>
      cases whole with
      | reset known => exact .reset known
      | resetUngated unknown => exact .resetUngated unknown
  | reset =>
      cases whole with
      | reset known => exact .reset known
      | resetUngated unknown => exact .resetUngated unknown

/-- Where nothing fails, staging has one outcome. -/
theorem Staging.unique {answer answer' : Except EngineError Bool} {after' : NvMemory}
    (h : Staging nv device desired reset answer after)
    (h' : Staging nv device desired reset answer' after') : answer = answer' ∧ after = after' := by
  cases h with
  | ungated closed => cases h' <;> simp_all
  | invalid gated wanted => cases h' <;> simp_all
  | unsupported gated wanted missing => cases h' <;> simp_all
  | staged gated wanted complete => cases h' <;> simp_all
  | reset known => cases h' <;> simp_all
  | resetUngated unknown => cases h' <;> simp_all

end NvMemory

/-! ## Where staging can be cut off -/

namespace MemoryHost

variable {host : MemoryHost} {device : NicDevice} {configuration : Configuration}
  {ports : NicDevice.Ports} {defaults parameters : Dict String}

/-- A speed that could be read although there were faults is read without them too. -/
theorem speedFor_faulty {template : Template} {pci : String} {speed : Option UInt32}
    (h : host.speedFor template pci = .ok speed) :
    (host.faulty {}).speedFor template pci = .ok speed := by
  rw [speedFor] at h ⊢
  split
  · next needed =>
      rw [if_pos needed] at h
      rcases host.check_cases {} .linkSpeed with ok | ⟨-, e, failed⟩
      · rw [readTable, ok] at h
        exact h
      · rw [readTable, failed] at h
        cases h
  · next spared =>
      rw [if_neg spared] at h
      exact h

theorem desiredNv_faulty (hc : device.configuration = .ok configuration)
    (hp : device.ports = .ok ports) (h : host.desiredNv device defaults = .ok parameters) :
    (host.faulty {}).desiredNv device defaults = .ok parameters := by
  rw [desiredNv_eq hc hp] at h ⊢
  cases read : host.speedFor configuration.template ports.first.pci with
  | error e =>
      rw [read] at h
      cases h
  | ok speed =>
      rw [read] at h
      rw [speedFor_faulty read]
      exact h

end MemoryHost

namespace Engine

open Work

variable {engine : Engine} {device : NicDevice} {configuration : Configuration}
  {ports : NicDevice.Ports} {host : MemoryHost} {pci : String} {nv : NvMemory}
  {desired : Except EngineError (Dict String)}

theorem queryWithGate_stops (engine : Engine) (desired : Except EngineError (Dict String))
    (found : host.nv.get? pci = some nv) :
    Stops (engine.queryWithGate pci) host pci fun answer after =>
      (∃ e, answer = .error e) ∧ nv.Partway desired false after ∨
        answer = .ok nv.withGate.stored ∧ nv.Gated ∧ after = nv.withGate := by
  refine Stops.bind (engine.queryNv_stops found) ?_ ?_
  · rintro e after ⟨rfl, -⟩
    exact .inl ⟨⟨e, rfl⟩, .untouched⟩
  rintro snapshot after calls ⟨rfl, seen⟩
  obtain rfl := seen snapshot rfl
  rw [NvMemory.gateOn_shown]
  cases on : gateOn after.stored.current with
  | true =>
      rw [NvMemory.withGate_of_on on, NvMemory.shown_of_gateOn on]
      refine (stops_pure get?_withNv _).mono ?_
      rintro _ _ ⟨rfl, rfl⟩
      exact .inr ⟨rfl, .inl on, rfl⟩
  | false =>
      refine Stops.bind (setNv_stops get?_withNv gateParameter onValue) ?_ ?_
      · rintro e _ (⟨-, rfl⟩ | ⟨no, -⟩)
        · exact .inl ⟨⟨e, rfl⟩, .untouched⟩
        · cases no
      rintro _ staged calls (⟨⟨e, no⟩, -⟩ | ⟨-, known, rfl⟩)
      · cases no
      have opened := after.gateOn_withGate
      have gated : after.Gated := .inr known
      refine Stops.bind (engine.resetFirmware_stops get?_withNv) ?_ ?_
      · rintro e _ (⟨-, rfl⟩ | ⟨no, -⟩)
        · exact .inl ⟨⟨e, rfl⟩, .gateStaged on known⟩
        · cases no
      rintro _ reset calls (⟨⟨e, no⟩, -⟩ | ⟨-, rfl⟩)
      · cases no
      rw [← NvMemory.withGate_of_off on]
      refine (engine.queryNv_stops get?_withNv).mono ?_
      rintro answer _ ⟨rfl, seen⟩
      cases answer with
      | error e => exact .inl ⟨⟨e, rfl⟩, .opened gated⟩
      | ok snapshot =>
          rw [seen snapshot rfl, NvMemory.shown_of_gateOn opened]
          exact .inr ⟨rfl, gated, rfl⟩

theorem writeAll_stops (found : host.nv.get? pci = some nv) (entries : List (String × String)) :
    Stops (writeAll pci entries) host pci fun _ after =>
      ∃ written, (∀ entry ∈ written, entry ∈ entries) ∧ after = nv.stageAll written := by
  induction entries generalizing host nv with
  | nil =>
      refine (stops_pure found ()).mono ?_
      rintro _ _ ⟨-, rfl⟩
      exact ⟨[], by simp, rfl⟩
  | cons entry rest ih =>
      refine Stops.bind (setNv_stops found entry.1 entry.2) ?_ ?_
      · rintro e _ (⟨-, rfl⟩ | ⟨no, -⟩)
        · exact ⟨[], by simp, rfl⟩
        · cases no
      rintro _ _ calls (⟨⟨e, no⟩, -⟩ | ⟨-, -, rfl⟩)
      · cases no
      refine (ih get?_withNv).mono ?_
      rintro _ _ ⟨written, own, rfl⟩
      refine ⟨entry :: written, fun other mem => ?_, rfl⟩
      rcases List.mem_cons.1 mem with rfl | mem
      · exact List.mem_cons_self
      · exact List.mem_cons_of_mem _ (own other mem)

theorem desiredNv_stops (hc : device.configuration = .ok configuration)
    (hp : device.ports = .ok ports) (found : host.nv.get? pci = some nv) (defaults : Dict String) :
    Stops (device.desiredNv defaults) host pci fun answer after =>
      answer = host.desiredNv device defaults ∧ after = nv := by
  refine ⟨_, nv, [], ?_, rfl, rfl⟩
  rw [withNv_self found]
  exact on_desiredNv hc hp defaults host

theorem writeMissing_stops {parameters : Dict String} (gated : nv.Gated)
    (wanted : desired = .ok parameters) (found : host.nv.get? pci = some nv.withGate) :
    Stops (writeMissing device pci nv.withGate.stored parameters) host pci
      fun _ after => nv.Partway desired false after := by
  rcases nv.withGate.stored.missing_cases parameters device.name with
    ⟨name, missing, eq⟩ | ⟨complete, eq⟩
  · rw [writeMissing, eq]
    refine Stops.bind (stops_ofExcept found _) ?_ ?_
    · rintro e _ ⟨-, rfl⟩
      exact .opened gated
    · rintro _ _ _ ⟨no, -⟩
      cases no
  · rw [writeMissing, eq]
    refine Stops.bind (stops_ofExcept found _) ?_ ?_
    · rintro e _ ⟨no, -⟩
      cases no
    rintro entries _ calls ⟨same, rfl⟩
    cases same
    have left : ∀ after, (∃ written, (∀ entry ∈ written, entry ∈ parameters.entries.filter
          fun entry => !nv.withGate.stored.isStaged entry) ∧
        after = nv.withGate.stageAll written) → nv.Partway desired false after := by
      rintro _ ⟨written, own, rfl⟩
      exact .writing gated wanted complete fun entry mem => (List.mem_filter.1 (own entry mem)).1
    refine Stops.bind (writeAll_stops get?_withNv _) (fun _ after => left after) ?_
    intro _ after calls written
    refine (stops_pure get?_withNv true).mono ?_
    rintro _ _ ⟨-, rfl⟩
    exact left _ written

/-- Whatever fails, staging is cut off at one of these places, or comes to its end. -/
theorem applyNv_stops (engine : Engine) (hc : device.configuration = .ok configuration)
    (hp : device.ports = .ok ports) (found : host.nv.get? ports.first.pci = some nv) :
    Stops (engine.applyNv device) host ports.first.pci fun _ after =>
      nv.Partway ((host.faulty {}).desiredNv device nv.stored.default)
        configuration.resetToDefault after := by
  cases reset : configuration.resetToDefault with
  | true =>
      rw [engine.applyNv_of_reset hc hp reset]
      refine Stops.bind (resetNv_stops found) ?_ ?_
      · rintro e _ (⟨-, rfl⟩ | ⟨no, -⟩)
        · exact .untouched
        · cases no
      rintro _ _ calls (⟨⟨e, no⟩, -⟩ | ⟨-, rfl⟩)
      · cases no
      refine Stops.bind (setNv_stops get?_withNv gateParameter onValue) ?_ ?_
      · rintro e _ (⟨-, rfl⟩ | ⟨no, -⟩)
        · exact .defaults
        · cases no
      rintro _ _ calls (⟨⟨e, no⟩, -⟩ | ⟨-, -, rfl⟩)
      · cases no
      refine (stops_pure get?_withNv true).mono ?_
      rintro _ _ ⟨-, rfl⟩
      exact .reset
  | false =>
      rw [engine.applyNv_of_template hc hp reset]
      refine Stops.bind (engine.queryWithGate_stops
        ((host.faulty {}).desiredNv device nv.stored.default) found) ?_ ?_
      · rintro e after (⟨-, partway⟩ | ⟨no, -⟩)
        · exact partway
        · cases no
      rintro snapshot _ calls (⟨⟨e, no⟩, -⟩ | ⟨same, gated, rfl⟩)
      · cases no
      cases same
      refine Stops.bind (desiredNv_stops hc hp get?_withNv _) ?_ ?_
      · rintro e _ ⟨-, rfl⟩
        exact .opened gated
      rintro parameters _ calls ⟨wanted, rfl⟩
      refine writeMissing_stops gated ?_ get?_withNv
      rw [desiredNv_withNv hc hp, NvMemory.default_withGate] at wanted
      exact desiredNv_faulty hc hp wanted.symm

/-- A device without firmware parameters cannot have any staged. -/
theorem applyNv_absent (engine : Engine) (hc : device.configuration = .ok configuration)
    (hp : device.ports = .ok ports) (absent : host.nv.get? ports.first.pci = none) :
    ∃ cause call, (engine.applyNv device).on host = (.error (.host cause), host.record call) ∧
      (host.Healthy engine.limits → cause = .notFound s!"NV config of {ports.first.pci}") := by
  cases reset : configuration.resetToDefault with
  | true =>
      rw [engine.applyNv_of_reset hc hp reset]
      obtain ⟨cause, read, healthy⟩ := resetNv_absent absent
      exact ⟨cause, _, on_bind_error read, healthy⟩
  | false =>
      rw [engine.applyNv_of_template hc hp reset]
      obtain ⟨cause, read, healthy⟩ := engine.queryNv_absent absent
      exact ⟨cause, _, on_bind_error (on_bind_error read), healthy⟩

theorem applyNv_of_noConfiguration (engine : Engine) {e : EngineError}
    (hc : device.configuration = .error e) (host : MemoryHost) :
    (engine.applyNv device).on host = (.error e, host) := by
  rw [applyNv, hc]
  rfl

theorem applyNv_of_noPorts (engine : Engine) {e : EngineError}
    (hc : device.configuration = .ok configuration) (hp : device.ports = .error e)
    (host : MemoryHost) : (engine.applyNv device).on host = (.error e, host) := by
  rw [applyNv, hc, hp]
  rfl

/-- From where staging was cut off it goes on to the end that it has from the start. -/
theorem applyNv_resumes (hc : device.configuration = .ok configuration)
    (hp : device.ports = .ok ports) {mid : NvMemory} (calls : List HostCall)
    (hosts : Hosts engine device ports desired host nv)
    (partway : nv.Partway desired configuration.resetToDefault mid) :
    let straight := (engine.applyNv device).on host
    let resumed := (engine.applyNv device).on (host.withNv ports.first.pci mid calls)
    resumed.1 = straight.1 ∧ resumed.2.clearCalls = straight.2.clearCalls := by
  obtain ⟨answer, after, made, staging, straight⟩ := hosts.applyNv_on hc hp
  have left := hosts.withNv hc hp mid partway.default_eq calls
  obtain ⟨answer', after', made', staging', resumed⟩ := left.applyNv_on hc hp
  obtain ⟨rfl, rfl⟩ := (partway.staging staging).unique staging'
  rw [straight, resumed, withNv_withNv]
  exact ⟨rfl, rfl⟩

theorem applyNv_resumes_absent (hc : device.configuration = .ok configuration)
    (hp : device.ports = .ok ports) (absent : host.nv.get? ports.first.pci = none)
    (healthy : host.Healthy engine.limits) (call : HostCall) :
    let straight := (engine.applyNv device).on host
    let resumed := (engine.applyNv device).on (host.record call)
    resumed.1 = straight.1 ∧ resumed.2.clearCalls = straight.2.clearCalls := by
  have absent' : (host.record call).nv.get? ports.first.pci = none := absent
  obtain ⟨cause, made, straight, known⟩ := engine.applyNv_absent hc hp absent
  obtain ⟨cause', made', resumed, known'⟩ := engine.applyNv_absent hc hp absent'
  rw [straight, resumed, known healthy, known' healthy]
  exact ⟨rfl, rfl⟩

/-- Staging that is cut off, by whatever faults, and is begun again where there are none comes to
the same as staging that was not cut off, and leaves the same host, but for the calls made. -/
theorem staging_resumes (engine : Engine) (device : NicDevice) (host : MemoryHost)
    (faults : Faults) :
    let straight := (engine.applyNv device).on (host.faulty {})
    let stopped := (engine.applyNv device).on (host.faulty faults)
    let resumed := (engine.applyNv device).on (stopped.2.faulty {})
    resumed.1 = straight.1 ∧ resumed.2.clearCalls = straight.2.clearCalls := by
  intro straight stopped resumed
  have again : ∀ left, stopped.2.faulty {} = left → resumed = (engine.applyNv device).on left := by
    rintro _ rfl
    rfl
  cases hc : device.configuration with
  | error e =>
      have stays := engine.applyNv_of_noConfiguration hc (host.faulty faults)
      rw [again (host.faulty {}) (by rw [show stopped = _ from stays]; rfl)]
      exact ⟨rfl, rfl⟩
  | ok configuration =>
  cases hp : device.ports with
  | error e =>
      have stays := engine.applyNv_of_noPorts hc hp (host.faulty faults)
      rw [again (host.faulty {}) (by rw [show stopped = _ from stays]; rfl)]
      exact ⟨rfl, rfl⟩
  | ok ports =>
  have healthy := host.healthy_faulty engine.limits
  cases found : host.nv.get? ports.first.pci with
  | none =>
      have absent : ∀ faults, (host.faulty faults).nv.get? ports.first.pci = none := fun _ => found
      obtain ⟨_, call, failed, -⟩ := engine.applyNv_absent hc hp (absent faults)
      rw [again ((host.faulty {}).record call) (by rw [show stopped = _ from failed]; rfl)]
      exact applyNv_resumes_absent hc hp (absent {}) healthy call
  | some nv =>
      have found' : (host.faulty faults).nv.get? ports.first.pci = some nv := found
      obtain ⟨_, mid, calls, cut, partway⟩ := engine.applyNv_stops hc hp found'
      rw [again ((host.faulty {}).withNv ports.first.pci mid calls)
        (by rw [show stopped = _ from cut]; rfl)]
      exact applyNv_resumes hc hp calls ⟨healthy, found, rfl⟩ partway

/-- The firmware is too slow to be reset, so that the gate is staged as on and not open yet. -/
example :
    let stopped := (Sample.engine.applyNv (Sample.device [])).on
      ((Sample.host offValue "0").faulty { resetDelay := some (.ofSeconds 301) })
    stopped.1.toOption = none ∧ stopped.2.currentValue? "p0" gateParameter = some offValue ∧
      stopped.2.nextBootValue? "p0" gateParameter = some onValue := by
  decide

end Engine

end NicKeeper
