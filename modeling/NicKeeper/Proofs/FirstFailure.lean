import NicKeeper.Proofs.EngineRuns

/-!
# The first failure ends the work

Staging asks the host for one thing after the other and gives up at the first that fails, with an
error that is not the fault of the spec. So every run of it goes one of two ways: all its calls
succeed, or all but the last do and the work is cut off there (`Work.Orderly`). What is wrong with a
spec is found out between calls that succeed. Work that has nothing to do with the spec comes to a
result whenever its calls succeed (`Work.Plain`).

Both are stated for runs, whatever the host answers, and both go along the steps of the work, so
each piece of staging has them from its single calls. Most pieces have both (`Work.SpecFree`).
-/

namespace NicKeeper

open Program

/-- Whether the host did what it was asked to, in time. -/
def HostCall.succeeded : (call : HostCall) → call.Answer → Bool
  | .listFunctions, answer => answer.isOk
  | .isVirtualFunction _, _ => true
  | .cardLabel _, answer => answer.isOk
  | .firmwareLabel _, answer => answer.isOk
  | .interfaceName _, _ => true
  | .rdmaInterfaceName _, _ => true
  | .linkSpeed _, answer => answer.isOk
  | .queryNv _ _, answer => answer.any (·.isOk)
  | .setNv _ _ _, answer => answer.isOk
  | .resetNv _, answer => answer.isOk
  | .resetFirmware _ _, answer => answer.any (·.isOk)
  | .readRequest _, answer => answer.isOk
  | .setReadRequest _ _, answer => answer.isOk
  | .qos _, answer => answer.isOk
  | .setQos _ _ _, answer => answer.isOk

/-- No call of these failed. -/
def AllSucceed (events : List (Event hostService)) : Prop :=
  ∀ event ∈ events, event.call.succeeded event.answer = true

theorem allSucceed_nil : AllSucceed [] := List.forall_mem_nil _

theorem allSucceed_append {first last : List (Event hostService)} :
    AllSucceed (first ++ last) ↔ AllSucceed first ∧ AllSucceed last :=
  List.forall_mem_append

theorem allSucceed_singleton {call : HostCall} {answer : call.Answer} :
    AllSucceed [⟨call, answer⟩] ↔ call.succeeded answer = true :=
  List.forall_mem_singleton

/-- The last call failed and no other did, and the work ended in an error because of it. -/
def CutOff {α : Type} (events : List (Event hostService)) (answer : Except EngineError α) : Prop :=
  ∃ before last e, events = before ++ [last] ∧ AllSucceed before ∧
    last.call.succeeded last.answer = false ∧ answer = .error e ∧ e.isSpecError = false

theorem CutOff.dropLast {α : Type} {events : List (Event hostService)}
    {answer : Except EngineError α} (h : CutOff events answer) : AllSucceed events.dropLast := by
  obtain ⟨before, last, e, rfl, clean, -⟩ := h
  rw [List.dropLast_concat]
  exact clean

theorem cutOff_singleton {α : Type} {call : HostCall} {answer : call.Answer} {e : EngineError}
    (failed : call.succeeded answer = false) (fault : e.isSpecError = false) :
    CutOff [⟨call, answer⟩] (.error e : Except EngineError α) :=
  ⟨[], ⟨call, answer⟩, e, rfl, allSucceed_nil, failed, rfl, fault⟩

namespace Work

variable {α β : Type} {work : Work α} {next : α → Work β}

/-- The work ends at the first call that fails, with an error that no change of the spec can
mend. -/
def Orderly (work : Work α) : Prop :=
  ∀ events answer, work.run.Runs events answer → AllSucceed events ∨ CutOff events answer

/-- The work comes to a result unless a call fails. -/
def Plain (work : Work α) : Prop :=
  ∀ events answer, work.run.Runs events answer → AllSucceed events → ∃ value, answer = .ok value

theorem orderly_pure (value : α) : Orderly (pure value) := by
  intro events answer h
  obtain ⟨rfl, -⟩ := runs_pureT_iff.1 h
  exact .inl allSucceed_nil

theorem orderly_ofExcept (result : Except EngineError α) : Orderly (ofExcept result) := by
  intro events answer h
  obtain ⟨rfl, -⟩ := runs_ofExcept h
  exact .inl allSucceed_nil

/-- A step that comes to a result has not been cut off. -/
theorem Orderly.allSucceed {events : List (Event hostService)} {value : α} (h : work.Orderly)
    (runs : work.run.Runs events (.ok value)) : AllSucceed events := by
  rcases h events _ runs with all | ⟨_, _, _, -, -, -, no, -⟩
  · exact all
  · cases no

theorem Orderly.bind (first : work.Orderly) (rest : ∀ value, (next value).Orderly) :
    Orderly (work >>= next) := by
  intro events answer h
  rcases runs_bindT_iff.1 h with ⟨e, rfl, hf⟩ | ⟨value, before, after, rfl, hf, hl⟩
  · rcases first _ _ hf with all | ⟨before, last, cause, rfl, clean, failed, same, fault⟩
    · exact .inl all
    · cases same
      exact .inr ⟨before, last, e, rfl, clean, failed, rfl, fault⟩
  · have clean := first.allSucceed hf
    rcases rest value _ _ hl with all | ⟨middle, last, cause, rfl, clean', failed, rfl, fault⟩
    · exact .inl (allSucceed_append.2 ⟨clean, all⟩)
    · refine .inr ⟨before ++ middle, last, cause, ?_, ?_, failed, rfl, fault⟩
      · rw [List.append_assoc]
      · exact allSucceed_append.2 ⟨clean, clean'⟩

theorem plain_pure (value : α) : Plain (pure value) := by
  intro events answer h _
  obtain ⟨-, rfl⟩ := runs_pureT_iff.1 h
  exact ⟨value, rfl⟩

theorem Plain.bind (first : work.Plain) (rest : ∀ value, (next value).Plain) :
    Plain (work >>= next) := by
  intro events answer h all
  rcases runs_bindT_iff.1 h with ⟨e, rfl, hf⟩ | ⟨value, before, after, rfl, hf, hl⟩
  · obtain ⟨value, no⟩ := first _ _ hf all
    cases no
  · exact rest value _ _ hl (allSucceed_append.1 all).2

/-- The work has nothing to do with the spec: its calls alone decide how it ends. -/
structure SpecFree (work : Work α) : Prop where
  orderly : work.Orderly
  plain : work.Plain

theorem specFree_pure (value : α) : SpecFree (pure value) := ⟨orderly_pure value, plain_pure value⟩

theorem SpecFree.bind (first : work.SpecFree) (rest : ∀ value, (next value).SpecFree) :
    SpecFree (work >>= next) :=
  ⟨first.orderly.bind fun value => (rest value).orderly,
    first.plain.bind fun value => (rest value).plain⟩

/-! ## The single calls -/

/-- What the engine makes of an answer is a result if the call succeeded, and otherwise an error
that is not the fault of the spec. -/
def Reads (call : HostCall) (read : call.Answer → Except EngineError α) : Prop :=
  ∀ answer, (call.succeeded answer = true ∧ ∃ value, read answer = .ok value) ∨
    (call.succeeded answer = false ∧ ∃ e, read answer = .error e ∧ e.isSpecError = false)

theorem Reads.orderly {call : HostCall} {read : call.Answer → Except EngineError α}
    (h : Reads call read) : Orderly (ask call >>= fun found => ofExcept (read found)) := by
  intro events answer runs
  obtain ⟨found, rfl, rfl⟩ := runs_call runs
  rcases h found with ⟨succeeded, -⟩ | ⟨failed, e, same, fault⟩
  · exact .inl (allSucceed_singleton.2 succeeded)
  · rw [same]
    exact .inr (cutOff_singleton failed fault)

theorem Reads.plain {call : HostCall} {read : call.Answer → Except EngineError α}
    (h : Reads call read) : Plain (ask call >>= fun found => ofExcept (read found)) := by
  intro events answer runs all
  obtain ⟨found, rfl, rfl⟩ := runs_call runs
  rcases h found with ⟨-, result⟩ | ⟨failed, -⟩
  · exact result
  · cases failed.symm.trans (allSucceed_singleton.1 all)

theorem Reads.specFree {call : HostCall} {read : call.Answer → Except EngineError α}
    (h : Reads call read) : SpecFree (ask call >>= fun found => ofExcept (read found)) :=
  ⟨h.orderly, h.plain⟩

theorem ofHost_cases (answer : Except HostError α) :
    (answer.isOk = true ∧ ∃ value, ofHost answer = .ok value) ∨
      (answer.isOk = false ∧ ∃ e, ofHost answer = .error e ∧ e.isSpecError = false) := by
  cases answer with
  | ok value => exact .inl ⟨rfl, value, rfl⟩
  | error cause => exact .inr ⟨rfl, .host cause, rfl, rfl⟩

theorem ofLimited_cases (call : SlowCall) (pci : String) (limit : Duration)
    (answer : Option (Except HostError α)) :
    (answer.any (·.isOk) = true ∧ ∃ value, ofLimited call pci limit answer = .ok value) ∨
      (answer.any (·.isOk) = false ∧
        ∃ e, ofLimited call pci limit answer = .error e ∧ e.isSpecError = false) := by
  cases answer with
  | some answer => exact ofHost_cases answer
  | none => exact .inr ⟨rfl, .timeout call pci limit, rfl, rfl⟩

end Work

namespace Engine

open Work

variable {engine : Engine} {device : NicDevice} {events : List (Event hostService)}

theorem reads_queryNv (engine : Engine) (pci : String) :
    Reads (.queryNv pci (some engine.limits.query)) (ofLimited .query pci engine.limits.query) :=
  ofLimited_cases _ _ _

theorem reads_resetFirmware (engine : Engine) (pci : String) :
    Reads (.resetFirmware pci (some engine.limits.reset))
      (ofLimited .reset pci engine.limits.reset) :=
  ofLimited_cases _ _ _

theorem reads_setNv (pci name value : String) : Reads (.setNv pci name value) ofHost := ofHost_cases

theorem reads_resetNv (pci : String) : Reads (.resetNv pci) ofHost := ofHost_cases

theorem reads_linkSpeed (pci : String) : Reads (.linkSpeed pci) ofHost := ofHost_cases

/-! ## Staging -/

theorem specFree_queryWithGate (engine : Engine) (pci : String) :
    SpecFree (engine.queryWithGate pci) := by
  refine (reads_queryNv engine pci).specFree.bind fun snapshot => ?_
  split
  · exact specFree_pure snapshot
  · refine (reads_setNv pci _ _).specFree.bind fun _ => ?_
    exact (reads_resetFirmware engine pci).specFree.bind fun _ =>
      (reads_queryNv engine pci).specFree

theorem specFree_writeAll (pci : String) (entries : List (String × String)) :
    SpecFree (writeAll pci entries) := by
  induction entries with
  | nil => exact specFree_pure ()
  | cons entry rest ih => exact (reads_setNv pci _ _).specFree.bind fun _ => ih

theorem orderly_desiredNv (device : NicDevice) (defaults : Dict String) :
    Orderly (device.desiredNv defaults) := by
  refine (orderly_ofExcept _).bind fun configuration => (orderly_ofExcept _).bind fun ports => ?_
  dsimp only
  split
  · refine Orderly.bind ?_ fun speed => orderly_ofExcept _
    exact (reads_linkSpeed _).orderly.bind fun _ => orderly_pure _
  · exact orderly_ofExcept _

theorem orderly_applyNv (engine : Engine) (device : NicDevice) :
    Orderly (engine.applyNv device) := by
  refine (orderly_ofExcept _).bind fun configuration => (orderly_ofExcept _).bind fun ports => ?_
  dsimp only
  split
  · refine (reads_resetNv _).orderly.bind fun _ => ?_
    exact (reads_setNv _ _ _).orderly.bind fun _ => orderly_pure true
  · refine (specFree_queryWithGate engine _).orderly.bind fun snapshot => ?_
    refine (orderly_desiredNv device _).bind fun desired => ?_
    refine (orderly_ofExcept _).bind fun entries => ?_
    exact (specFree_writeAll _ _).orderly.bind fun _ => orderly_pure true

end Engine

end NicKeeper
