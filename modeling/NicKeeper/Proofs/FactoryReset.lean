import NicKeeper.Proofs.Histories
import NicKeeper.Proofs.Reboots

/-!
# Factory resets

A device that asks for its defaults is passed over again and again, under faults that come and go,
and it is booted now and then. Through all of this it is reset at most once. A reset that has
succeeded leaves the defaults staged, a pass that finds them staged lets the firmware parameters
alone, and neither does a boot make them differ again (`history_of_defaults`). After a boot the
defaults are in effect and nothing is left to do.

A reset takes two calls, and the second one switches the gate on again. The comparison with the
defaults passes over the gate. So a reset whose second call fails is not made up for: the device
waits for a boot as if all were well, with the gate at its default.
-/

namespace NicKeeper

open Program MemoryHost

/-- The devices that were reset, once for each reset that succeeded. -/
def resets (events : List (Event hostService)) : List String :=
  events.filterMap fun
    | ⟨.resetNv pci, .ok ()⟩ => some pci
    | _ => none

@[simp] theorem resets_append (first last : List (Event hostService)) :
    resets (first ++ last) = resets first ++ resets last :=
  List.filterMap_append

theorem mem_resets_of_mem {events : List (Event hostService)} {pci : String}
    (issued : ⟨.resetNv pci, .ok ()⟩ ∈ events) : pci ∈ resets events :=
  List.mem_filterMap.2 ⟨_, issued, rfl⟩

theorem resets_of_spared {events : List (Event hostService)} (spares : SparesNv events) :
    resets events = [] := by
  rw [resets, List.filterMap_eq_nil_iff]
  intro event mem
  have spared := spares event mem
  obtain ⟨call, answer⟩ := event
  cases call with
  | resetNv pci => cases spared
  | _ => rfl

namespace NvMemory

variable {nv : NvMemory}

theorem defaultsStaged_stageDefaults (nv : NvMemory) : nv.stageDefaults.DefaultsStaged :=
  fun _ _ => rfl

theorem DefaultsStaged.gate (staged : nv.DefaultsStaged) (value : String) :
    (nv.stage gateParameter value).DefaultsStaged := by
  intro name other
  have kept := (Dict.get?_insert nv.stored.nextBoot gateParameter name value).trans
    (if_neg other.symm)
  exact kept.trans (staged name other)

theorem DefaultsStaged.activate (staged : nv.DefaultsStaged) : nv.activate.DefaultsStaged := staged

/-- Defaults that were staged when the device booted are in effect. -/
theorem DefaultsStaged.settled (staged : nv.DefaultsStaged) :
    nv.activate.shown.resetVerdict = ⟨false, false⟩ := by
  have recognised : nv.activate.shown.isDefault nv.activate.shown.current = true :=
    isDefault_visible staged
  rw [NvSnapshot.resetVerdict, recognised]
  rfl

end NvMemory

namespace Engine

variable {engine : Engine} {device other : NicDevice} {configuration : Configuration}
  {ports : NicDevice.Ports} {host : MemoryHost} {weather : Weather} {nv : NvMemory}
  {moments : List Moment}

/-! ## One pass -/

/-- The gate is switched on, with success. -/
def gateEvent (pci : String) : Event hostService :=
  ⟨.setNv pci gateParameter onValue, .ok ()⟩

/-- What a pass over a device that asks for its defaults does about the firmware parameters, and
what it leaves of them: all as it was, the defaults, or the defaults with the gate on. -/
inductive ResetPass (pci : String) (host : MemoryHost) (passed : Passage) : Prop where
  | spared (spares : SparesNv passed.events)
      (kept : passed.host.nv.get? pci = host.nv.get? pci)
  | refused {nv : NvMemory} (found : host.nv.get? pci = some nv)
      (needed : nv.shown.resetVerdict.updateNeeded = true) (none : resets passed.events = [])
      (kept : passed.host.nv.get? pci = some nv)
  | ungated {nv : NvMemory} (found : host.nv.get? pci = some nv)
      (needed : nv.shown.resetVerdict.updateNeeded = true) (once : resets passed.events = [pci])
      (gate : gateEvent pci ∉ passed.events)
      (left : passed.host.nv.get? pci = some nv.stageDefaults)
  | reset {nv : NvMemory} (found : host.nv.get? pci = some nv)
      (needed : nv.shown.resetVerdict.updateNeeded = true) (once : resets passed.events = [pci])
      (gate : gateEvent pci ∈ passed.events)
      (left : passed.host.nv.get? pci = some (nv.stageDefaults.stage gateParameter onValue))

theorem passIn_reset (engine : Engine) (hc : device.configuration = .ok configuration)
    (reset : configuration.resetToDefault = true) (hp : device.ports = .ok ports)
    (same : other.Agrees device) (weather : Weather) (host : MemoryHost) :
    ResetPass ports.first.pci host (engine.passIn other weather host) := by
  have left := engine.passIn_nv other weather host ports.first.pci
  have seen : ∀ {limit snapshot rest}, (engine.passIn other weather host).events =
      ⟨.queryNv ports.first.pci limit, some (.ok snapshot)⟩ :: rest →
        ∃ nv, host.nv.get? ports.first.pci = some nv ∧ snapshot = nv.shown :=
    fun first => engine.passIn_query other weather host first
  have resetting := (engine.passIn_begun other weather host).resetting
    (same.configuration_eq.trans hc) (same.ports.trans hp) reset
  generalize engine.passIn other weather host = passed at left seen resetting
  obtain ⟨events, answer, after⟩ := passed
  dsimp only at left seen resetting
  cases resetting with
  | spared spares =>
      refine .spared spares (left.trans ?_)
      cases host.nv.get? ports.first.pci with
      | none => rfl
      | some nv => exact congrArg some (NvMemory.foldl_after_of_spared spares)
  | staged needed staged =>
      -- The snapshot that made the pass go on is what the host has.
      obtain ⟨nv, found, rfl⟩ := seen rfl
      rw [found] at left
      cases staged with
      | refused cause => exact .refused found needed rfl left
      | ungated cause =>
          refine .ungated found needed rfl (by simp [gateEvent]) (left.trans ?_)
          simp [NvMemory.after]
      | reset =>
          refine .reset found needed rfl (by simp [gateEvent]) (left.trans ?_)
          simp [NvMemory.after]

/-- A pass that finds the defaults staged lets the firmware parameters alone. -/
theorem ResetPass.of_defaults {pci : String} {passed : Passage} (h : ResetPass pci host passed)
    (found : host.nv.get? pci = some nv) (staged : nv.DefaultsStaged) :
    SparesNv passed.events ∧ passed.host.nv.get? pci = some nv := by
  have spared : ∀ other : NvMemory, host.nv.get? pci = some other →
      other.shown.resetVerdict.updateNeeded = true → False := by
    intro other same needed
    cases found.symm.trans same
    cases needed.symm.trans staged.spared
  cases h with
  | spared spares kept => exact ⟨spares, kept.trans found⟩
  | refused same needed => exact (spared _ same needed).elim
  | ungated same needed => exact (spared _ same needed).elim
  | reset same needed => exact (spared _ same needed).elim

/-- No reset succeeded, or one did: it leaves the defaults staged, and the gate as the second call
left it. -/
theorem ResetPass.resets_cases {pci : String} {passed : Passage} (h : ResetPass pci host passed) :
    resets passed.events = [] ∨ resets passed.events = [pci] ∧
      ∃ nv nv', host.nv.get? pci = some nv ∧ passed.host.nv.get? pci = some nv' ∧
        nv'.DefaultsStaged ∧
        (gateEvent pci ∈ passed.events → nv'.stored.nextBoot.get? gateParameter = some onValue) ∧
        (gateEvent pci ∉ passed.events →
          nv'.stored.nextBoot.get? gateParameter = nv.stored.default.get? gateParameter) := by
  cases h with
  | spared spares => exact .inl (resets_of_spared spares)
  | refused _ _ none => exact .inl none
  | @ungated nv found _ once gate left =>
      refine .inr ⟨once, nv, _, found, left, nv.defaultsStaged_stageDefaults, ?_, fun _ => rfl⟩
      exact fun done => absurd done gate
  | @reset nv found _ once gate left =>
      have staged := nv.defaultsStaged_stageDefaults.gate onValue
      refine .inr ⟨once, nv, _, found, left, staged, fun _ => Dict.get?_insert_self _ _ _, ?_⟩
      exact fun missed => absurd gate missed

theorem ResetPass.of_issued {pci : String} {passed : Passage} (h : ResetPass pci host passed)
    (issued : ⟨.resetNv pci, .ok ()⟩ ∈ passed.events) :
    ∃ nv nv', host.nv.get? pci = some nv ∧ passed.host.nv.get? pci = some nv' ∧
      nv'.DefaultsStaged ∧
      (gateEvent pci ∈ passed.events → nv'.stored.nextBoot.get? gateParameter = some onValue) ∧
      (gateEvent pci ∉ passed.events →
        nv'.stored.nextBoot.get? gateParameter = nv.stored.default.get? gateParameter) := by
  rcases h.resets_cases with none | ⟨-, left⟩
  · have mem := mem_resets_of_mem issued
    rw [none] at mem
    cases mem
  · exact left

/-- A pass that resets the device and ends in waiting for a boot has switched the gate on. -/
theorem Worked.gate {events : List (Event hostService)} {updated : Bool} {result : Pass.Result}
    (h : Worked engine device events updated result)
    (hc : device.configuration = .ok configuration) (reset : configuration.resetToDefault = true)
    (hp : device.ports = .ok ports) (waits : result.outcome = .rebootRequired)
    (issued : ⟨.resetNv ports.first.pci, .ok ()⟩ ∈ events) :
    gateEvent ports.first.pci ∈ events := by
  have spares : ∀ {first answer}, (engine.validateNv device).run.Runs first answer →
      ⟨.resetNv ports.first.pci, .ok ()⟩ ∉ first := by
    intro first answer compared mem
    cases sparesNv_of_changes (runs_validateNv compared).1 _ mem
  cases h with
  | invalid compared => exact absurd issued (spares compared)
  | waiting compared => exact absurd issued (spares compared)
  | live compared set =>
      rcases List.mem_append.1 issued with early | late
      · exact absurd early (spares compared)
      · cases applyLive_spares set _ late
  | staged compared staged =>
      rcases List.mem_append.1 issued with early | late
      · exact absurd early (spares compared)
      cases stagedReset_of_runs hc hp reset staged with
      | refused cause => cases waits
      | ungated cause => cases waits
      | reset => exact List.mem_append_right _ (by simp [gateEvent])

theorem passIn_gate (engine : Engine) (hc : device.configuration = .ok configuration)
    (reset : configuration.resetToDefault = true) (hp : device.ports = .ok ports)
    (same : other.Agrees device)
    (waits : (engine.passIn other weather host).answer = .ok .rebootRequired)
    (issued : ⟨.resetNv ports.first.pci, .ok ()⟩ ∈ (engine.passIn other weather host).events) :
    gateEvent ports.first.pci ∈ (engine.passIn other weather host).events := by
  have runs := runs_trace weather.handle (engine.pass other) (host, 0)
  rcases pass_ended runs with
    ⟨_, failed, -⟩ | ⟨_, cause, ended, -⟩ | ⟨updated, result, work, ended, -⟩
  · cases waits.symm.trans failed
  · exact absurd (Except.ok.inj (ended.symm.trans waits))
      (Pass.Result.outcome_error_ne cause).2
  · have outcome := Except.ok.inj (waits.symm.trans ended)
    exact (worked_of_runs work).gate (same.configuration_eq.trans hc) reset
      (same.ports.trans hp) outcome.symm issued

/-! ## Passes and boots -/

section Histories

variable (engine) (hc : device.configuration = .ok configuration)
  (reset : configuration.resetToDefault = true) (hp : device.ports = .ok ports)
  (own : ∀ moment ∈ moments, moment.IsOf device)

include hc reset hp own

/-- With the defaults staged no firmware parameter is touched again, and only a boot makes a
difference: it puts the staged values into effect. -/
theorem history_of_defaults (found : host.nv.get? ports.first.pci = some nv)
    (staged : nv.DefaultsStaged) :
    SparesNv (engine.history ports.first.pci host moments).1 ∧
      ∃ nv', (engine.history ports.first.pci host moments).2.nv.get? ports.first.pci = some nv' ∧
        (nv' = nv ∧ .boot ∉ moments ∨ nv' = nv.activate) := by
  -- What carries the induction is that the defaults stay staged, over a boot too.
  induction moments generalizing host nv with
  | nil => exact ⟨nofun, nv, found, .inl ⟨rfl, nofun⟩⟩
  | cons moment rest ih =>
      obtain ⟨first, others⟩ := List.forall_mem_cons.1 own
      cases moment with
      | pass other weather =>
          have passed := engine.passIn_reset hc reset hp first weather host
          obtain ⟨spares, kept⟩ := passed.of_defaults found staged
          obtain ⟨later, nv', left, cases⟩ := ih others kept staged
          refine ⟨sparesNv_append.2 ⟨spares, later⟩, nv', left, ?_⟩
          rcases cases with ⟨same, none⟩ | booted
          · exact .inl ⟨same, by simp [none]⟩
          · exact .inr booted
      | boot =>
          have booted : (host.boot ports.first.pci).nv.get? ports.first.pci = some nv.activate := by
            rw [boot_eq_withNv found]
            exact get?_withNv
          obtain ⟨later, nv', left, cases⟩ := ih others booted staged.activate
          refine ⟨later, nv', left, .inr ?_⟩
          rcases cases with ⟨same, -⟩ | same
          · exact same
          · exact same

theorem resets_le_one : (resets (engine.history ports.first.pci host moments).1).length ≤ 1 := by
  induction moments generalizing host with
  | nil => exact Nat.zero_le 1
  | cons moment rest ih =>
      obtain ⟨first, others⟩ := List.forall_mem_cons.1 own
      cases moment with
      | pass other weather =>
          have passed := engine.passIn_reset hc reset hp first weather host
          rw [history, resets_append]
          -- The first reset that succeeds is the last one.
          rcases passed.resets_cases with none | ⟨once, _, nv, -, left, staged, -⟩
          · rw [none]
            exact ih others
          · have spares := (history_of_defaults engine hc reset hp others left staged).1
            rw [once, resets_of_spared spares]
            exact Nat.le_refl 1
      | boot => exact ih others

end Histories

theorem validateNv_settled (engine : Engine) (hc : device.configuration = .ok configuration)
    (reset : configuration.resetToDefault = true) (hp : device.ports = .ok ports)
    (found : host.nv.get? ports.first.pci = some nv.activate) (staged : nv.DefaultsStaged)
    {snapshot : NvSnapshot}
    (answered : ((engine.queryNv ports.first.pci).on host).1 = .ok snapshot) :
    ((engine.validateNv device).on host).1 = .ok ⟨false, false⟩ := by
  obtain ⟨answer, after, calls, on, rfl, seen⟩ := engine.queryNv_stops found
  rw [on] at answered
  obtain rfl : answer = .ok snapshot := answered
  obtain rfl := seen snapshot rfl
  rw [engine.validateNv_of_reset hc hp reset, Work.on_bind_ok on, staged.settled]
  rfl

/-- After a reset the gate stays as the call after it left it, through whatever passes and boots
follow: on where that call succeeded, and at its default where it did not. A pass that resets the
device and ends in waiting for a boot has switched the gate on; later ones do not see to it. -/
theorem gate_after_reset (engine : Engine) (host : MemoryHost)
    (hc : device.configuration = .ok configuration)
    (reset : configuration.resetToDefault = true) (hp : device.ports = .ok ports)
    {later : List Moment} (same : other.Agrees device)
    (own : ∀ moment ∈ later, moment.IsOf device)
    (issued : ⟨.resetNv ports.first.pci, .ok ()⟩ ∈ (engine.passIn other weather host).events) :
    let passed := engine.passIn other weather host
    let left := (engine.history ports.first.pci passed.host later).2
    (gateEvent ports.first.pci ∈ passed.events →
        left.nextBootValue? ports.first.pci gateParameter = some onValue) ∧
      (gateEvent ports.first.pci ∉ passed.events →
        left.nextBootValue? ports.first.pci gateParameter =
          (host.nv.get? ports.first.pci).bind (·.stored.default.get? gateParameter)) ∧
      (passed.answer = .ok .rebootRequired → gateEvent ports.first.pci ∈ passed.events) := by
  intro passed left
  obtain ⟨nv, nv', found, kept, staged, on, off⟩ :=
    (engine.passIn_reset hc reset hp same weather host).of_issued issued
  obtain ⟨-, last, there, cases⟩ := history_of_defaults engine hc reset hp own kept staged
  have value : left.nextBootValue? ports.first.pci gateParameter =
      nv'.stored.nextBoot.get? gateParameter := by
    rw [nextBootValue?, there]
    rcases cases with ⟨rfl, -⟩ | rfl
    · rfl
    · rfl
  rw [value, found]
  exact ⟨on, off, fun waits => engine.passIn_gate hc reset hp same waits issued⟩

theorem sample_gate_after_reset :
    let passed := Sample.engine.passIn Sample.resetDevice {} (Sample.host onValue "0")
    let left := (Sample.engine.history "p0" passed.host [.pass Sample.resetDevice {}, .boot]).2
    passed.answer = .ok .rebootRequired ∧ ⟨.resetNv "p0", .ok ()⟩ ∈ passed.events ∧
      left.nextBootValue? "p0" gateParameter = some onValue := by
  intro passed left
  have hp : Sample.resetDevice.ports = .ok Sample.ports := rfl
  have own : ∀ moment ∈ [Moment.pass Sample.resetDevice {}, .boot],
      moment.IsOf Sample.resetDevice := by
    simp [Moment.IsOf, NicDevice.Agrees.refl]
  have issued : ⟨.resetNv "p0", .ok ()⟩ ∈ passed.events := .tail _ (.head _)
  obtain ⟨on, -, waits⟩ := gate_after_reset Sample.engine (Sample.host onValue "0") rfl rfl hp
    (NicDevice.Agrees.refl _) own issued
  exact ⟨rfl, issued, on (waits rfl)⟩

/-- Switching the gate on fails, and the next pass waits for a boot without it. -/
theorem reset_loses_gate :
    let failed := Sample.engine.passIn Sample.resetDevice
      (.steady { parameters := [gateParameter] }) (Sample.host onValue "0")
    let waiting := Sample.engine.passIn Sample.resetDevice {} failed.host
    ⟨.resetNv "p0", .ok ()⟩ ∈ failed.events ∧ failed.answer = .ok .failed ∧
      waiting.answer = .ok .rebootRequired ∧
      waiting.host.nextBootValue? "p0" gateParameter = some offValue :=
  ⟨.tail _ (.head _), rfl, rfl, rfl⟩

/-- A device that asks for its defaults is reset at most once, however often it boots. When it has
been reset no later pass touches its firmware parameters, and if it has booted since, a comparison
with the defaults finds nothing to update and nothing to boot for. -/
theorem reset_settles (engine : Engine) (host : MemoryHost)
    (hc : device.configuration = .ok configuration)
    (reset : configuration.resetToDefault = true) (hp : device.ports = .ok ports)
    (own : ∀ moment ∈ moments, moment.IsOf device) :
    (resets (engine.history ports.first.pci host moments).1).length ≤ 1 ∧
      ∀ first other weather later, moments = first ++ .pass other weather :: later →
        let passed := engine.passIn other weather (engine.history ports.first.pci host first).2
        let left := (engine.history ports.first.pci host moments).2
        ⟨.resetNv ports.first.pci, .ok ()⟩ ∈ passed.events →
          SparesNv (engine.history ports.first.pci passed.host later).1 ∧
            (.boot ∈ later → ∀ faults snapshot,
              ((engine.queryNv ports.first.pci).on (left.faulty faults)).1 = .ok snapshot →
                ((engine.validateNv device).on (left.faulty faults)).1 =
                  .ok ⟨false, false⟩) := by
  refine ⟨resets_le_one engine hc reset hp own, ?_⟩
  intro first other weather later same passed left issued
  subst same
  obtain ⟨-, here, others⟩ : _ ∧ _ ∧ _ := by
    simpa only [List.forall_mem_append, List.forall_mem_cons] using own
  have pass := engine.passIn_reset hc reset hp here weather
    (engine.history ports.first.pci host first).2
  obtain ⟨_, nv, -, kept, staged, -⟩ := pass.of_issued issued
  obtain ⟨spares, nv', found, cases⟩ := history_of_defaults engine hc reset hp others kept staged
  refine ⟨spares, ?_⟩
  intro boots faults snapshot answered
  rcases cases with ⟨-, none⟩ | rfl
  · exact absurd boots none
  · have last : left = (engine.history ports.first.pci passed.host later).2 := by
      show (engine.history ports.first.pci host (first ++ .pass other weather :: later)).2 = _
      rw [history_append]
      rfl
    rw [← last] at found
    have found' : (left.faulty faults).nv.get? ports.first.pci = some nv.activate := found
    exact engine.validateNv_settled hc reset hp found' staged answered

/-- Two passes with a boot in between. -/
def sampleMoments : List Moment :=
  [.pass Sample.resetDevice {}, .boot, .pass Sample.resetDevice {}]

theorem sample_reset_settles :
    let passed := Sample.engine.passIn Sample.resetDevice {} (Sample.host onValue "0")
    let whole := Sample.engine.history "p0" (Sample.host onValue "0") sampleMoments
    (resets whole.1).length ≤ 1 ∧ ⟨.resetNv "p0", .ok ()⟩ ∈ passed.events ∧
      SparesNv (Sample.engine.history "p0" passed.host [.boot, .pass Sample.resetDevice {}]).1 ∧
      ((Sample.engine.validateNv Sample.resetDevice).on (whole.2.faulty {})).1 =
        .ok ⟨false, false⟩ := by
  intro passed whole
  have own : ∀ moment ∈ sampleMoments, moment.IsOf Sample.resetDevice := by
    simp [sampleMoments, Moment.IsOf, NicDevice.Agrees.refl]
  have hp : Sample.resetDevice.ports = .ok Sample.ports := rfl
  obtain ⟨once, settles⟩ := reset_settles Sample.engine (Sample.host onValue "0") rfl rfl hp own
  have issued : ⟨.resetNv "p0", .ok ()⟩ ∈ passed.events := .tail _ (.head _)
  obtain ⟨spares, settled⟩ := settles [] _ _ _ rfl issued
  exact ⟨once, issued, spares, settled (by simp) {} _ rfl⟩

end Engine

end NicKeeper
