import NicKeeper.Proofs.WorkOnMemory

/-!
# Reboots come to an end

A device whose firmware configuration is staged waits for a boot, and after the boot it is looked at
again. It never waits for a third one. The first boot makes the values in effect equal to the staged
ones; from then on what a pass stages is in effect after the next boot, if it can be staged at all.
So after the second boot the parameters are calm: no later pass changes them or asks for a boot
again.

Two boots may be needed. If the gate is on and is staged as off, the first pass cannot tell, and the
first boot closes the gate on parameters that the next pass then cannot see to be staged.
-/

namespace NicKeeper

open Program MemoryHost

namespace NvMemory

variable {nv nv' : NvMemory} {device : String} {desired : Except EngineError (Dict String)}
  {parameters : Dict String} {result : Pass.Result}

/-- After a boot the staged values are in effect. -/
def Booted (nv : NvMemory) : Prop := nv.stored.current = nv.stored.nextBoot

theorem booted_activate : nv.activate.Booted := rfl

theorem Booted.activate_eq (h : nv.Booted) : nv.activate = nv := by
  obtain ⟨⟨default, current, nextBoot⟩, advanced⟩ := nv
  obtain rfl : current = nextBoot := h
  rfl

theorem Booted.shown_eq (h : nv.Booted) : nv.shown.current = nv.shown.nextBoot := by
  show nv.visible nv.stored.current = nv.visible nv.stored.nextBoot
  rw [show nv.stored.current = nv.stored.nextBoot from h]

theorem Booted.withGate (h : nv.Booted) : nv.withGate.Booted := by
  rw [NvMemory.withGate]
  split
  · exact h
  · rfl

/-- No pass changes the parameters or asks for a boot, and neither does a boot change them. -/
def Calm (nv : NvMemory) (device : String) (desired : Except EngineError (Dict String)) : Prop :=
  nv.Booted ∧ ∀ result nv', nv.Step false device desired result nv' →
    nv' = nv ∧ result ≠ .rebootRequired

theorem calm_of_invalid (booted : nv.Booted) {e : EngineError}
    (judged : nv.judge false device desired = .error e) : nv.Calm device desired := by
  refine ⟨booted, fun result nv' step => ?_⟩
  cases step with
  | invalid => exact ⟨rfl, nofun⟩
  | waiting right => cases judged.symm.trans right
  | live right => cases judged.symm.trans right
  | staged right => cases judged.symm.trans right

theorem calm_of_settled (booted : nv.Booted) {verdict : Verdict}
    (judged : nv.judge false device desired = .ok verdict) (spared : verdict.updateNeeded = false)
    (settled : verdict.rebootNeeded = false) : nv.Calm device desired := by
  refine ⟨booted, fun result nv' step => ?_⟩
  cases step with
  | invalid wrong => cases judged.symm.trans wrong
  | waiting same _ waits =>
      cases judged.symm.trans same
      cases settled.symm.trans waits
  | live _ _ _ answer =>
      cases answer with
      | error e => exact ⟨rfl, nofun⟩
      | ok _ => exact ⟨rfl, nofun⟩
  | staged same needed =>
      cases judged.symm.trans same
      cases spared.symm.trans needed

theorem calm_of_ungated (booted : nv.Booted) {verdict : Verdict}
    (judged : nv.judge false device desired = .ok verdict) (needed : verdict.updateNeeded = true)
    (closed : ¬ nv.Gated) : nv.Calm device desired := by
  refine ⟨booted, fun result nv' step => ?_⟩
  obtain ⟨rfl, rfl⟩ := step.of_ungated closed judged needed
  exact ⟨rfl, nofun⟩

theorem calm_of_subset (booted : nv.Booted) (on : gateOn nv.stored.current = true)
    (has : parameters ⊆ nv.stored.current) : nv.Calm device (.ok parameters) := by
  have staged : parameters ⊆ nv.stored.nextBoot := booted ▸ has
  rcases nv.judge_cases device parameters with
    ⟨_, -, -, wrong⟩ | ⟨-, verdict, judged, update, reboot⟩
  · exact calm_of_invalid booted wrong
  · rw [shown_of_gateOn on] at update reboot
    exact calm_of_settled booted judged (update.2 staged) (reboot.2 ⟨staged, has⟩)

/-- Staging leaves the gate on, unless it is told to switch it off. -/
theorem gateOn_stageDesired (booted : nv.Booted) (on : gateOn nv.stored.current = true)
    (gate : ∀ value, parameters.get? gateParameter = some value → value = onValue) :
    gateOn (nv.stageDesired parameters).stored.nextBoot = true := by
  cases asked : parameters.get? gateParameter with
  | some value =>
      obtain rfl := gate value asked
      have staged := nv.subset_stageDesired parameters _ _ asked
      rw [gateOn, staged]
      rfl
  | none =>
      have untouched : ∀ entry ∈ parameters.entries.filter fun entry => !nv.shown.isStaged entry,
          entry.1 ≠ gateParameter := by
        intro entry mem eq
        have found := Dict.mem_entries_iff.1 (List.mem_filter.1 mem).1
        rw [eq, asked] at found
        cases found
      rw [show nv.stored.current = nv.stored.nextBoot from booted] at on
      rw [gateOn, stageDesired, stageAll, Dict.get?_insertAll_of_notMem _ untouched]
      exact on

/-- One more pass and one more boot are enough. -/
theorem Step.calm (booted : nv.Booted)
    (gate : ∀ parameters, desired = .ok parameters →
      ∀ value, parameters.get? gateParameter = some value → value = onValue)
    (h : nv.Step false device desired result nv') : nv'.activate.Calm device desired := by
  cases h with
  | invalid judged =>
      rw [booted.activate_eq]
      exact calm_of_invalid booted judged
  | @waiting verdict judged spared waits =>
      -- What is staged was staged when the device booted.
      cases desired with
      | error e => cases judged
      | ok parameters =>
          rcases nv.judge_cases device parameters with
            ⟨_, -, -, wrong⟩ | ⟨-, _, same, update, reboot⟩
          · cases wrong.symm.trans judged
          · cases same.symm.trans judged
            have staged := update.1 spared
            have settled := reboot.2 ⟨staged, booted.shown_eq ▸ staged⟩
            cases settled.symm.trans waits
  | live judged spared settled =>
      rw [booted.activate_eq]
      exact calm_of_settled booted judged spared settled
  | staged judged needed staging =>
      cases staging with
      | ungated closed =>
          rw [booted.activate_eq]
          exact calm_of_ungated booted judged needed closed
      | invalid _ wanted =>
          subst wanted
          cases judged
      | unsupported _ wanted missing =>
          subst wanted
          rw [booted.withGate.activate_eq]
          rw [← show nv.withGate.stored.current = _ from booted.withGate] at missing
          exact calm_of_invalid booted.withGate (judge_of_missing nv.gateOn_withGate missing)
      | staged _ wanted complete =>
          subst wanted
          have on := gateOn_stageDesired booted.withGate nv.gateOn_withGate (gate _ rfl)
          exact calm_of_subset booted_activate on (subset_stageDesired _ _)

end NvMemory

/-! ## Passes and boots on a host -/

theorem MemoryHost.gate_of_desiredNv (host : MemoryHost) (defaults : Dict String)
    {device : NicDevice} {configuration : Configuration} {ports : NicDevice.Ports}
    (hc : device.configuration = .ok configuration) (hp : device.ports = .ok ports)
    (raw : ∀ param ∈ configuration.template.rawNv, param.name = gateParameter →
      param.value = onValue)
    (parameters : Dict String) (wanted : host.desiredNv device defaults = .ok parameters)
    (value : String) (asked : parameters.get? gateParameter = some value) : value = onValue := by
  obtain ⟨speed, wanted⟩ := desired_of_desiredNv hc hp wanted
  exact Template.gate_of_desired raw wanted asked

theorem MemoryHost.boot_eq_withNv {host : MemoryHost} {pci : String} {nv : NvMemory}
    (found : host.nv.get? pci = some nv) : host.boot pci = host.withNv pci nv.activate [] := by
  rw [boot, Dict.contains, found]
  show host.updateNv pci _ = _
  rw [updateNv, found, withNv, List.append_nil]
  rfl

theorem MemoryHost.boot_absent {host : MemoryHost} {pci : String}
    (absent : host.nv.get? pci = none) : host.boot pci = host := by
  rw [boot, Dict.contains, absent]
  rfl

namespace Engine

variable {ω : Type} {engine : Engine} {device : NicDevice} {configuration : Configuration}
  {ports : NicDevice.Ports} {host : MemoryHost} {log : ω}

/-- The host and the log before pass number `k`, where each pass is followed by a boot. What the
status of the device reports may be another at every pass. -/
def rounds (engine : Engine) (devices : Nat → NicDevice) (pci : String)
    (keep : NicDevice → Report → ω → ω) (start : MemoryHost × ω) : Nat → MemoryHost × ω
  | 0 => start
  | k + 1 =>
    let before := rounds engine devices pci keep start k
    let (host, log) := ((engine.pass (devices k)).run (onHost (accepting keep)) before).2
    (host.boot pci, log)

theorem run_pass_agrees {other : NicDevice} (same : other.Agrees device)
    (keep : NicDevice → Report → ω → ω) {updated : Bool} {result : Pass.Result}
    {after : MemoryHost} {before : MemoryHost × ω}
    (h : (engine.work device).run MemoryHost.handle before.1 = ((updated, result), after)) :
    ∃ log, (engine.pass other).run (onHost (accepting keep)) before =
      (.ok result.outcome, after, log) := by
  obtain ⟨host, log⟩ := before
  rw [run_pass_accepting, same.work_eq engine, h]
  exact ⟨_, rfl⟩

/-- What is known of the parameters before pass number `k`. -/
def Progress (k : Nat) (device : String) (desired : Except EngineError (Dict String))
    (nv : NvMemory) : Prop :=
  (1 ≤ k → nv.Booted) ∧ (2 ≤ k → nv.Calm device desired)

section Rounds

variable {devices : Nat → NicDevice} {keep : NicDevice → Report → ω → ω}

theorem rounds_succ (same : ∀ k, (devices k).Agrees device) {pci : String} {start : MemoryHost × ω}
    {k : Nat} {updated : Bool} {result : Pass.Result} {after : MemoryHost}
    (h : (engine.work device).run MemoryHost.handle
      (engine.rounds devices pci keep start k).1 = ((updated, result), after)) :
    (engine.rounds devices pci keep start (k + 1)).1 = after.boot pci ∧
      ((engine.pass (devices k)).run (onHost (accepting keep))
        (engine.rounds devices pci keep start k)).1 = .ok result.outcome := by
  obtain ⟨log, ran⟩ := run_pass_agrees (same k) keep h
  rw [rounds, ran]
  exact ⟨rfl, rfl⟩

theorem rounds_progress (log : ω) (same : ∀ k, (devices k).Agrees device)
    (hc : device.configuration = .ok configuration)
    (template : configuration.resetToDefault = false) (hp : device.ports = .ok ports)
    {desired : Except EngineError (Dict String)} {nv : NvMemory}
    (gate : ∀ parameters, desired = .ok parameters →
      ∀ value, parameters.get? gateParameter = some value → value = onValue)
    (hosts : Hosts engine device ports desired host nv) (k : Nat) :
    ∃ nv, Hosts engine device ports desired
        (engine.rounds devices ports.first.pci keep (host, log) k).1 nv ∧
      Progress k device.name desired nv := by
  induction k with
  | zero => exact ⟨nv, hosts, nofun, nofun⟩
  | succ k ih =>
      obtain ⟨nv, hosts, progress⟩ := ih
      match ran : (engine.work device).run MemoryHost.handle
        (engine.rounds devices ports.first.pci keep (host, log) k).1 with
      | ((updated, result), after) =>
          obtain ⟨nv', step, hosts'⟩ := (workedOn_of_run ran).step hc hp hosts
          rw [template] at step
          rw [(rounds_succ same ran).1, MemoryHost.boot_eq_withNv hosts'.found]
          -- Only a pass over a device that has booted before leads to calm.
          refine ⟨nv'.activate, hosts'.withNv hc hp nv'.activate rfl [],
            fun _ => NvMemory.booted_activate, fun later => ?_⟩
          exact step.calm (progress.1 (by omega)) gate

theorem rounds_absent (same : ∀ k, (devices k).Agrees device)
    (hc : device.configuration = .ok configuration) (hp : device.ports = .ok ports)
    (absent : host.nv.get? ports.first.pci = none) (k : Nat) :
    (engine.rounds devices ports.first.pci keep (host, log) k).1.nv.get? ports.first.pci =
      none := by
  induction k with
  | zero => exact absent
  | succ k ih =>
      match ran : (engine.work device).run MemoryHost.handle
        (engine.rounds devices ports.first.pci keep (host, log) k).1 with
      | ((updated, result), after) =>
          obtain ⟨-, left⟩ := (workedOn_of_run ran).absent hc hp ih
          have absent' : after.nv.get? ports.first.pci = none := by
            rw [left]
            exact ih
          rw [(rounds_succ same ran).1, MemoryHost.boot_absent absent']
          exact absent'

/-- Where nothing fails and the template does not switch the gate off, a device that has been passed
over and booted twice never waits for a boot again. -/
theorem third_pass_wants_no_reboot (hc : device.configuration = .ok configuration)
    (template : configuration.resetToDefault = false) (hp : device.ports = .ok ports)
    (raw : ∀ param ∈ configuration.template.rawNv, param.name = gateParameter →
      param.value = onValue)
    (same : ∀ k, (devices k).Agrees device) (healthy : host.Healthy engine.limits)
    {k : Nat} (later : 2 ≤ k) :
    ((engine.pass (devices k)).run (onHost (accepting keep))
      (engine.rounds devices ports.first.pci keep (host, log) k)).1 ≠ .ok .rebootRequired := by
  match ran : (engine.work device).run MemoryHost.handle
    (engine.rounds devices ports.first.pci keep (host, log) k).1 with
  | ((updated, result), after) =>
      rw [(rounds_succ same ran).2]
      intro waits
      cases found : host.nv.get? ports.first.pci with
      | none =>
          obtain ⟨failed, -⟩ :=
            (workedOn_of_run ran).absent hc hp (rounds_absent same hc hp found k)
          rw [failed] at waits
          cases waits
      | some nv =>
          have gate := host.gate_of_desiredNv nv.stored.default hc hp raw
          obtain ⟨nv', hosts, progress⟩ :=
            rounds_progress log same hc template hp gate ⟨healthy, found, rfl⟩ k
          obtain ⟨_, step, -⟩ := (workedOn_of_run ran).step hc hp hosts
          rw [template] at step
          obtain ⟨-, calm⟩ := (progress.2 later).2 _ _ step
          cases result with
          | applied => cases waits
          | rebootRequired => exact calm rfl
          | error cause => exact (Pass.Result.outcome_error_ne cause).2 (Except.ok.inj waits)

end Rounds

/-- The gate is on and staged as off, so that two boots are needed. -/
def sampleRounds : Nat → MemoryHost × Unit :=
  Sample.engine.rounds (fun _ => Sample.device []) "p0" (fun _ _ log => log)
    (Sample.host onValue "0", ())

theorem sample_third_pass :
    (Sample.pass (Sample.device []) (sampleRounds 0).1).1 = .ok .rebootRequired ∧
      (Sample.pass (Sample.device []) (sampleRounds 1).1).1 = .ok .rebootRequired ∧
      (Sample.pass (Sample.device []) (sampleRounds 2).1).1 ≠ .ok .rebootRequired := by
  have healthy : (Sample.host onValue "0").Healthy Sample.engine.limits := ⟨rfl, rfl, nofun⟩
  refine ⟨rfl, rfl, ?_⟩
  have ports : (Sample.device []).ports = .ok Sample.ports := rfl
  exact third_pass_wants_no_reboot rfl rfl ports
    (List.forall_mem_nil _) (fun _ => ⟨rfl, rfl, rfl⟩) healthy (Nat.le_refl 2)

end Engine

end NicKeeper
