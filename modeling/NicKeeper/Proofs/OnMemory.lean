import NicKeeper.Proofs.EngineRuns
import NicKeeper.Proofs.Parameters

/-!
# The engine on a host in memory

What each piece of the engine's work on firmware parameters comes to on a host in memory, and what
it leaves there. Such a host fails only where it was made to, so each piece has one outcome that is
due to its tables, and any other outcome is an error that a healthy host does not give
(`Work.Yields`). Of the host the work changes nothing but the parameters of one device, and it
records its calls (`MemoryHost.withNv`).
-/

namespace NicKeeper

open Program

namespace MemoryHost

variable {host : MemoryHost} {pci : String} {nv nv' : NvMemory} {calls calls' : List HostCall}

/-- The host with parameters of a device in the place of those it had, and with calls made since. -/
def withNv (host : MemoryHost) (pci : String) (nv : NvMemory) (calls : List HostCall) :
    MemoryHost :=
  { host with nv := host.nv.insert pci nv, calls := host.calls ++ calls }

theorem get?_withNv : (host.withNv pci nv calls).nv.get? pci = some nv :=
  Dict.get?_insert_self _ _ _

theorem withNv_self (found : host.nv.get? pci = some nv) : host.withNv pci nv [] = host := by
  rw [withNv, Dict.insert_get?_self found, List.append_nil]

theorem withNv_withNv :
    (host.withNv pci nv calls).withNv pci nv' calls' = host.withNv pci nv' (calls ++ calls') := by
  rw [withNv, withNv, withNv, Dict.insert_insert, List.append_assoc]

theorem record_eq_withNv (found : host.nv.get? pci = some nv) (call : HostCall) :
    host.record call = host.withNv pci nv [call] := by
  rw [record, withNv, Dict.insert_get?_self found]

/-- Nothing is made to fail, and a firmware reset is over within its limit. -/
def Healthy (host : MemoryHost) (limits : Limits) : Prop :=
  host.failingOperations = [] ∧ host.failingParameters = [] ∧
    ∀ delay, host.resetDelay = some delay → delay ≤ limits.reset

theorem check_cases (host : MemoryHost) (limits : Limits) (operation : HostOperation) :
    host.check operation = .ok () ∨
      ¬ host.Healthy limits ∧ ∃ e, host.check operation = .error e := by
  rw [check]
  split
  · next failing =>
      refine .inr ⟨fun healthy => ?_, _, rfl⟩
      rw [healthy.1] at failing
      cases failing
  · exact .inl rfl

theorem resetsWithin_cases (host : MemoryHost) (limits : Limits) :
    host.resetsWithin (some limits.reset) = true ∨ ¬ host.Healthy limits := by
  unfold resetsWithin
  cases slow : host.resetDelay with
  | none => exact .inl rfl
  | some delay =>
      by_cases h : delay ≤ limits.reset
      · rw [Duration.le_iff] at h
        exact .inl (decide_eq_true (by omega))
      · exact .inr fun healthy => h (healthy.2.2 delay slow)

end MemoryHost

namespace Work

variable {α β : Type} {limits : Limits} {work : Work α} {next : α → Work β}
  {host mid after later : MemoryHost}

/-- What work comes to on a host in memory, and the host it leaves. -/
def on (work : Work α) (host : MemoryHost) : Except EngineError α × MemoryHost :=
  work.run.run MemoryHost.handle host

theorem on_bind_ok {value : α} (h : work.on host = (.ok value, mid)) :
    on (work >>= next) host = (next value).on mid :=
  run_bindT_of_ok h

theorem on_bind_error {e : EngineError} (h : work.on host = (.error e, mid)) :
    on (work >>= next) host = (.error e, mid) :=
  run_bindT_of_error h

theorem on_ofExcept_bind (value : α) :
    on (ofExcept (.ok value) >>= next) host = (next value).on host := rfl

/-- What the engine makes of a host's answer to a change. -/
def settled (change : Except HostError α × MemoryHost) : Except EngineError α × MemoryHost :=
  (ofHost change.1, change.2)

/-- The work comes to `answer` and leaves `after`, unless the host is made to fail: then it may also
end in some error. -/
def Yields (limits : Limits) (work : Work α) (host : MemoryHost) (answer : Except EngineError α)
    (after : MemoryHost) : Prop :=
  work.on host = (answer, after) ∨
    ¬ host.Healthy limits ∧ ∃ e later, work.on host = (.error e, later)

theorem Yields.of_healthy {answer : Except EngineError α} (h : Yields limits work host answer after)
    (healthy : host.Healthy limits) : work.on host = (answer, after) := by
  rcases h with same | ⟨failing, -⟩
  · exact same
  · exact absurd healthy failing

theorem Yields.of_ok {answer : Except EngineError α} {value : α}
    (h : Yields limits work host answer after) (ok : work.on host = (.ok value, later)) :
    answer = .ok value ∧ after = later := by
  rcases h with same | ⟨-, e, later, failed⟩
  · cases same.symm.trans ok
    exact ⟨rfl, rfl⟩
  · cases failed.symm.trans ok

theorem yields_pure (value : α) : Yields limits (pure value) host (.ok value) host := .inl rfl

theorem Yields.ofExcept_bind {value : α} {answer : Except EngineError β}
    (h : Yields limits (next value) host answer after) :
    Yields limits (ofExcept (.ok value) >>= next) host answer after := h

theorem Yields.bind {value : α} {answer : Except EngineError β}
    (first : Yields limits work host (.ok value) mid)
    (rest : Yields limits (next value) mid answer after)
    (healthy : host.Healthy limits → mid.Healthy limits) :
    Yields limits (work >>= next) host answer after := by
  rcases first with first | ⟨failing, e, later, first⟩
  · rcases rest with rest | ⟨failing, e, later, rest⟩
    · exact .inl ((on_bind_ok first).trans rest)
    · exact .inr ⟨fun h => failing (healthy h), e, later, (on_bind_ok first).trans rest⟩
  · exact .inr ⟨failing, e, later, on_bind_error first⟩

theorem Yields.bind_error {e : EngineError} (first : Yields limits work host (.error e) after) :
    Yields limits (work >>= next) host (.error e) after := by
  rcases first with first | ⟨failing, e', later, first⟩
  · exact .inl (on_bind_error first)
  · exact .inr ⟨failing, e', later, on_bind_error first⟩

/-- The same for work on the parameters of one device, whatever calls it makes. -/
def Leaves (limits : Limits) (work : Work α) (host : MemoryHost) (pci : String)
    (answer : Except EngineError α) (nv : NvMemory) : Prop :=
  ∃ calls, Yields limits work host answer (host.withNv pci nv calls)

theorem leaves_pure {pci : String} {nv : NvMemory} (found : host.nv.get? pci = some nv)
    (value : α) :
    Leaves limits (pure value) host pci (.ok value) nv := by
  refine ⟨[], ?_⟩
  rw [MemoryHost.withNv_self found]
  exact yields_pure value

theorem Leaves.bind {pci : String} {nv nv' : NvMemory} {value : α} {answer : Except EngineError β}
    (first : Leaves limits work host pci (.ok value) nv)
    (rest : ∀ calls, Leaves limits (next value) (host.withNv pci nv calls) pci answer nv') :
    Leaves limits (work >>= next) host pci answer nv' := by
  obtain ⟨calls, first⟩ := first
  obtain ⟨calls', rest⟩ := rest calls
  rw [MemoryHost.withNv_withNv] at rest
  exact ⟨_, first.bind rest id⟩

theorem Leaves.bind_error {pci : String} {nv : NvMemory} {e : EngineError}
    (first : Leaves limits work host pci (.error e) nv) :
    Leaves limits (work >>= next) host pci (.error e) nv := by
  obtain ⟨calls, first⟩ := first
  exact ⟨calls, first.bind_error⟩

end Work

namespace Engine

open MemoryHost Work

variable {engine : Engine} {limits : Limits} {device : NicDevice} {host : MemoryHost}
  {pci name value : String} {nv : NvMemory}

/-! ## The single calls -/

/-- Reads the table of a query: what is found is shown, and what is absent is an error. -/
theorem queryNv_yields (found : host.nv.get? pci = some nv) :
    Yields engine.limits (engine.queryNv pci) host (.ok nv.shown)
      (host.withNv pci nv [.queryNv pci (some engine.limits.query)]) := by
  rw [← record_eq_withNv found]
  show (ofLimited _ _ _ (some ((host.readTable .queryNv host.nv _ pci).map _)), _) = _ ∨
    _ ∧ ∃ e later, (ofLimited _ _ _ (some ((host.readTable .queryNv host.nv _ pci).map _)), _) = _
  rw [readTable, found]
  rcases host.check_cases engine.limits .queryNv with ok | ⟨failing, e, failed⟩
  · rw [ok]
    exact .inl rfl
  · rw [failed]
    exact .inr ⟨failing, _, _, rfl⟩

theorem queryNv_absent (engine : Engine) (absent : host.nv.get? pci = none) :
    ∃ cause, (engine.queryNv pci).on host =
        (.error (.host cause), host.record (.queryNv pci (some engine.limits.query))) ∧
      (host.Healthy engine.limits → cause = .notFound s!"NV config of {pci}") := by
  have answered : (engine.queryNv pci).on host =
      (ofLimited .query pci engine.limits.query
        (some ((host.readTable .queryNv host.nv "NV config" pci).map (·.shown))),
        host.record (.queryNv pci (some engine.limits.query))) := rfl
  rw [readTable, absent] at answered
  rcases host.check_cases engine.limits .queryNv with ok | ⟨failing, e, failed⟩
  · rw [ok] at answered
    exact ⟨_, answered, fun _ => rfl⟩
  · rw [failed] at answered
    exact ⟨_, answered, fun healthy => absurd healthy failing⟩

theorem changeNv_found (found : host.nv.get? pci = some nv)
    (change : NvMemory → Except HostError NvMemory) :
    host.changeNv pci change =
      (change nv).map fun nv => { host with nv := host.nv.insert pci nv } := by
  rw [changeNv, found]
  show (change nv).bind _ = _
  cases change nv with
  | error e => rfl
  | ok changed => rfl

theorem stageParameter_cases (found : host.nv.get? pci = some nv) (limits : Limits)
    (name value : String) :
    host.stageParameter pci name value =
        (if nv.stored.default.contains name then
          .ok { host with nv := host.nv.insert pci (nv.stage name value) }
        else .error (.invalidArgument (.unknownParameter name))) ∨
      ¬ host.Healthy limits ∧ ∃ e, host.stageParameter pci name value = .error e := by
  rw [stageParameter, changeNv_found found]
  rcases host.check_cases limits .setNv with ok | ⟨failing, e, failed⟩
  · rw [ok]
    cases refused : host.failingParameters.contains name with
    | false =>
        cases nv.stored.default.contains name with
        | true => exact .inl rfl
        | false => exact .inl rfl
    | true =>
        refine .inr ⟨fun healthy => ?_, _, rfl⟩
        rw [healthy.2.1] at refused
        cases refused
  · rw [failed]
    exact .inr ⟨failing, _, rfl⟩

theorem setNv_known (found : host.nv.get? pci = some nv)
    (known : nv.stored.default.contains name = true) :
    Yields limits (setNv pci name value) host (.ok ())
      (host.withNv pci (nv.stage name value) [.setNv pci name value]) := by
  have answered : (setNv pci name value).on host = settled
      ((host.record (.setNv pci name value)).commit
        ((host.record (.setNv pci name value)).stageParameter pci name value)) := rfl
  have same : (host.record (.setNv pci name value)).nv.get? pci = some nv := found
  rcases stageParameter_cases same limits name value with staged | ⟨failing, e, failed⟩
  · rw [staged, known] at answered
    exact .inl answered
  · rw [failed] at answered
    exact .inr ⟨failing, _, _, answered⟩

theorem setNv_unknown (found : host.nv.get? pci = some nv)
    (unknown : nv.stored.default.contains name = false) :
    Yields limits (setNv pci name value) host
      (.error (.host (.invalidArgument (.unknownParameter name))))
      (host.withNv pci nv [.setNv pci name value]) := by
  have answered : (setNv pci name value).on host = settled
      ((host.record (.setNv pci name value)).commit
        ((host.record (.setNv pci name value)).stageParameter pci name value)) := rfl
  have same : (host.record (.setNv pci name value)).nv.get? pci = some nv := found
  rw [← record_eq_withNv found]
  rcases stageParameter_cases same limits name value with staged | ⟨failing, e, failed⟩
  · rw [staged, unknown] at answered
    exact .inl answered
  · rw [failed] at answered
    exact .inr ⟨failing, _, _, answered⟩

theorem resetFirmware_cases (found : host.nv.get? pci = some nv) (limits : Limits) :
    host.resetFirmware pci (some limits.reset) =
        (some (.ok ()), { host with nv := host.nv.insert pci nv.activate }) ∨
      ¬ host.Healthy limits ∧ (host.resetFirmware pci (some limits.reset) = (none, host) ∨
        ∃ e, host.resetFirmware pci (some limits.reset) = (some (.error e), host)) := by
  rw [MemoryHost.resetFirmware, changeNv_found found]
  rcases host.check_cases limits .resetFirmware with ok | ⟨failing, e, failed⟩
  · rw [ok]
    rcases host.resetsWithin_cases limits with soon | failing
    · rw [soon]
      exact .inl rfl
    · cases host.resetsWithin (some limits.reset) with
      | true => exact .inl rfl
      | false => exact .inr ⟨failing, .inl rfl⟩
  · rw [failed]
    exact .inr ⟨failing, .inr ⟨e, rfl⟩⟩

theorem resetFirmware_yields (found : host.nv.get? pci = some nv) :
    Yields engine.limits (engine.resetFirmware pci) host (.ok ())
      (host.withNv pci nv.activate [.resetFirmware pci (some engine.limits.reset)]) := by
  have answered : (engine.resetFirmware pci).on host =
      (ofLimited .reset pci engine.limits.reset
          ((host.record (.resetFirmware pci (some engine.limits.reset))).resetFirmware pci
            (some engine.limits.reset)).1,
        ((host.record (.resetFirmware pci (some engine.limits.reset))).resetFirmware pci
          (some engine.limits.reset)).2) := rfl
  have same : (host.record (.resetFirmware pci (some engine.limits.reset))).nv.get? pci = some nv :=
    found
  rcases resetFirmware_cases same engine.limits with reset | ⟨failing, cut | ⟨e, failed⟩⟩
  · rw [reset] at answered
    exact .inl answered
  · rw [cut] at answered
    exact .inr ⟨failing, _, _, answered⟩
  · rw [failed] at answered
    exact .inr ⟨failing, _, _, answered⟩

theorem resetNv_yields (found : host.nv.get? pci = some nv) :
    Yields limits (resetNv pci) host (.ok ())
      (host.withNv pci nv.stageDefaults [.resetNv pci]) := by
  have answered : (resetNv pci).on host =
      settled ((host.record (.resetNv pci)).commit do
        (host.record (.resetNv pci)).check .resetNv
        (host.record (.resetNv pci)).changeNv pci fun nv => .ok nv.stageDefaults) := rfl
  have same : (host.record (.resetNv pci)).nv.get? pci = some nv := found
  rw [changeNv_found same] at answered
  rcases (host.record (.resetNv pci)).check_cases limits .resetNv with ok | ⟨failing, e, failed⟩
  · rw [ok] at answered
    exact .inl answered
  · rw [failed] at answered
    exact .inr ⟨failing, _, _, answered⟩

theorem resetNv_absent (absent : host.nv.get? pci = none) :
    ∃ cause, (resetNv pci).on host = (.error (.host cause), host.record (.resetNv pci)) ∧
      (host.Healthy limits → cause = .notFound s!"NV config of {pci}") := by
  have answered : (resetNv pci).on host =
      settled ((host.record (.resetNv pci)).commit do
        (host.record (.resetNv pci)).check .resetNv
        (host.record (.resetNv pci)).changeNv pci fun nv => .ok nv.stageDefaults) := rfl
  have same : (host.record (.resetNv pci)).nv.get? pci = none := absent
  rw [changeNv, same] at answered
  rcases (host.record (.resetNv pci)).check_cases limits .resetNv with ok | ⟨failing, e, failed⟩
  · rw [ok] at answered
    exact ⟨_, answered, fun _ => rfl⟩
  · rw [failed] at answered
    exact ⟨_, answered, fun healthy => absurd healthy failing⟩

end Engine

end NicKeeper
