import NicKeeper.Proofs.OnMemory

/-!
# Hosts that fail

A host in memory fails where it was made to. `Faults` is all that it can be made to do wrong, and
`host.faulty faults` is the host with these faults in the place of those it had; without faults it
is healthy.

A call that fails changes nothing. So whatever the faults are, work on the firmware parameters of a
device leaves the host as it was, but for those parameters and the recorded calls. `Work.Stops` says
this of a piece of work, together with what it can have come to and which parameters it can have
left, and it goes along the steps of the work (`Stops.bind`).
-/

namespace NicKeeper

open Program

/-- What a host is made to do wrong. -/
structure Faults where
  operations : List HostOperation := []
  parameters : List String := []
  resetDelay : Option Duration := none

namespace MemoryHost

/-- The host with these faults and no others. -/
def faulty (host : MemoryHost) (faults : Faults) : MemoryHost :=
  { host with
    failingOperations := faults.operations
    failingParameters := faults.parameters
    resetDelay := faults.resetDelay }

theorem healthy_faulty (host : MemoryHost) (limits : Limits) : (host.faulty {}).Healthy limits :=
  ⟨rfl, rfl, nofun⟩

end MemoryHost

namespace Work

variable {α β : Type} {work : Work α} {next : α → Work β} {host : MemoryHost} {pci : String}
  {nv : NvMemory}

/-- The work changes nothing on the host but the parameters of one device, and what it comes to and
the parameters that it leaves are as `post` says. -/
def Stops (work : Work α) (host : MemoryHost) (pci : String)
    (post : Except EngineError α → NvMemory → Prop) : Prop :=
  ∃ answer nv calls, work.on host = (answer, host.withNv pci nv calls) ∧ post answer nv

theorem stops_pure (found : host.nv.get? pci = some nv) (value : α) :
    Stops (pure value) host pci fun answer after => answer = .ok value ∧ after = nv := by
  refine ⟨.ok value, nv, [], ?_, rfl, rfl⟩
  rw [MemoryHost.withNv_self found]
  rfl

theorem stops_ofExcept (found : host.nv.get? pci = some nv) (result : Except EngineError α) :
    Stops (ofExcept result) host pci fun answer after => answer = result ∧ after = nv := by
  refine ⟨result, nv, [], ?_, rfl, rfl⟩
  rw [MemoryHost.withNv_self found]
  rfl

theorem Stops.mono {mid post : Except EngineError α → NvMemory → Prop}
    (h : Stops work host pci mid) (weaker : ∀ answer after, mid answer after → post answer after) :
    Stops work host pci post := by
  obtain ⟨answer, after, calls, on, holds⟩ := h
  exact ⟨answer, after, calls, on, weaker answer after holds⟩

/-- The first step ends the work with its error, or the second one goes on from what it left. -/
theorem Stops.bind {mid : Except EngineError α → NvMemory → Prop}
    {post : Except EngineError β → NvMemory → Prop} (first : Stops work host pci mid)
    (failed : ∀ e after, mid (.error e) after → post (.error e) after)
    (rest : ∀ value after calls, mid (.ok value) after →
      Stops (next value) (host.withNv pci after calls) pci post) :
    Stops (work >>= next) host pci post := by
  obtain ⟨answer, after, calls, on, holds⟩ := first
  cases answer with
  | error e => exact ⟨.error e, after, calls, on_bind_error on, failed e after holds⟩
  | ok value =>
      obtain ⟨answer', after', calls', on', holds'⟩ := rest value after calls holds
      refine ⟨answer', after', calls ++ calls', ?_, holds'⟩
      rw [on_bind_ok on, on', MemoryHost.withNv_withNv]

end Work

namespace Engine

open MemoryHost Work

variable {engine : Engine} {host : MemoryHost} {pci name value : String} {nv : NvMemory}

/-! ## The single calls -/

theorem queryNv_stops (engine : Engine) (found : host.nv.get? pci = some nv) :
    Stops (engine.queryNv pci) host pci fun answer after =>
      after = nv ∧ ∀ snapshot, answer = .ok snapshot → snapshot = nv.shown := by
  have answered : (engine.queryNv pci).on host =
      (ofLimited .query pci engine.limits.query
        (some ((host.readTable .queryNv host.nv "NV config" pci).map (·.shown))),
        host.record (.queryNv pci (some engine.limits.query))) := rfl
  rw [record_eq_withNv found, readTable, found] at answered
  rcases host.check_cases engine.limits .queryNv with ok | ⟨-, e, failed⟩
  · rw [ok] at answered
    refine ⟨_, nv, _, answered, rfl, fun snapshot same => ?_⟩
    cases same
    rfl
  · rw [failed] at answered
    refine ⟨_, nv, _, answered, rfl, fun snapshot same => ?_⟩
    cases same

theorem setNv_stops (found : host.nv.get? pci = some nv) (name value : String) :
    Stops (setNv pci name value) host pci fun answer after =>
      (∃ e, answer = .error e) ∧ after = nv ∨
        answer = .ok () ∧ nv.stored.default.contains name = true ∧
          after = nv.stage name value := by
  have answered : (setNv pci name value).on host = settled
      ((host.record (.setNv pci name value)).commit
        ((host.record (.setNv pci name value)).stageParameter pci name value)) := rfl
  have same : (host.record (.setNv pci name value)).nv.get? pci = some nv := found
  have kept := record_eq_withNv found (.setNv pci name value)
  rcases stageParameter_cases same {} name value with staged | ⟨-, e, failed⟩
  · cases known : nv.stored.default.contains name with
    | true =>
        rw [staged, known] at answered
        exact ⟨_, _, _, answered, .inr ⟨rfl, rfl, rfl⟩⟩
    | false =>
        rw [staged, known, kept] at answered
        exact ⟨_, _, _, answered, .inl ⟨⟨_, rfl⟩, rfl⟩⟩
  · rw [failed, kept] at answered
    exact ⟨_, _, _, answered, .inl ⟨⟨_, rfl⟩, rfl⟩⟩

theorem resetFirmware_stops (engine : Engine) (found : host.nv.get? pci = some nv) :
    Stops (engine.resetFirmware pci) host pci fun answer after =>
      (∃ e, answer = .error e) ∧ after = nv ∨ answer = .ok () ∧ after = nv.activate := by
  have answered : (engine.resetFirmware pci).on host =
      (ofLimited .reset pci engine.limits.reset
          ((host.record (.resetFirmware pci (some engine.limits.reset))).resetFirmware pci
            (some engine.limits.reset)).1,
        ((host.record (.resetFirmware pci (some engine.limits.reset))).resetFirmware pci
          (some engine.limits.reset)).2) := rfl
  have same : (host.record (.resetFirmware pci (some engine.limits.reset))).nv.get? pci = some nv :=
    found
  have kept := record_eq_withNv found (.resetFirmware pci (some engine.limits.reset))
  rcases resetFirmware_cases same engine.limits with reset | ⟨-, cut | ⟨e, failed⟩⟩
  · rw [reset] at answered
    exact ⟨_, _, _, answered, .inr ⟨rfl, rfl⟩⟩
  · rw [cut, kept] at answered
    exact ⟨_, _, _, answered, .inl ⟨⟨_, rfl⟩, rfl⟩⟩
  · rw [failed, kept] at answered
    exact ⟨_, _, _, answered, .inl ⟨⟨_, rfl⟩, rfl⟩⟩

theorem resetNv_stops (found : host.nv.get? pci = some nv) :
    Stops (resetNv pci) host pci fun answer after =>
      (∃ e, answer = .error e) ∧ after = nv ∨ answer = .ok () ∧ after = nv.stageDefaults := by
  have answered : (resetNv pci).on host =
      settled ((host.record (.resetNv pci)).commit do
        (host.record (.resetNv pci)).check .resetNv
        (host.record (.resetNv pci)).changeNv pci fun nv => .ok nv.stageDefaults) := rfl
  have same : (host.record (.resetNv pci)).nv.get? pci = some nv := found
  have kept := record_eq_withNv found (.resetNv pci)
  rw [changeNv_found same] at answered
  rcases (host.record (.resetNv pci)).check_cases {} .resetNv with ok | ⟨-, e, failed⟩
  · rw [ok] at answered
    exact ⟨_, _, _, answered, .inr ⟨rfl, rfl⟩⟩
  · rw [failed, kept] at answered
    exact ⟨_, _, _, answered, .inl ⟨⟨_, rfl⟩, rfl⟩⟩

end Engine

end NicKeeper
