import NicKeeper.Proofs.FaultyHost
import NicKeeper.Proofs.ResetRuns
import NicKeeper.Proofs.WorkOnMemory

/-!
# What a device goes through

Passes over a device follow one another, with boots in between, and anything may fail at any time.
`Weather` is what a single pass meets with: faults of the host, which may be others at every call,
and status writes that are refused. A `Moment` is a pass in some weather, or a boot, and
`Engine.history` is what comes of a list of moments: all that was asked of the host, each call with
its answer, and the host at the end.

What becomes of the parameters of a device can be told from the calls and their answers alone. A
call that failed changed nothing, and what the others changed follows from what they ask for
(`NvMemory.after`). So the faults need not be looked at again: the events of a pass tell what it
made of the parameters (`passIn_nv`).
-/

namespace NicKeeper

open Program

/-- What a pass meets with. Its calls and writes are counted. -/
structure Weather where
  /-- The faults of the host at a call. -/
  faults : Nat → Faults := fun _ => {}
  /-- What becomes of a write. -/
  writes : Nat → Except DaemonError Unit := fun _ => .ok ()

namespace Weather

/-- The same faults at every call, and no write is refused. -/
def steady (faults : Faults) : Weather := { faults := fun _ => faults }

/-- A host in memory, and how many calls and writes there were before. -/
def handle (weather : Weather) : Handler nodeService (MemoryHost × Nat)
  | .host call, (host, count) =>
    let (answer, host) := MemoryHost.handle call (host.faulty (weather.faults count))
    (answer, host, count + 1)
  | .writeStatus _ _, (host, count) => (weather.writes count, host, count + 1)

end Weather

/-! ## The parameters of a device, by the calls -/

namespace NvMemory

variable {pci : String} {nv : NvMemory}

/-- What a call with its answer makes of the parameters of a device. -/
def after (pci : String) (nv : NvMemory) : Event hostService → NvMemory
  | ⟨.setNv target name value, .ok ()⟩ => if target = pci then nv.stage name value else nv
  | ⟨.resetNv target, .ok ()⟩ => if target = pci then nv.stageDefaults else nv
  | ⟨.resetFirmware target _, some (.ok ())⟩ => if target = pci then nv.activate else nv
  | _ => nv

theorem after_of_spared {event : Event hostService} (spared : event.call.changesNv = false) :
    nv.after pci event = nv := by
  obtain ⟨call, answer⟩ := event
  cases call with
  | setNv | resetNv | resetFirmware => cases spared
  | _ => rfl

theorem foldl_after_of_spared {events : List (Event hostService)} (spares : SparesNv events) :
    events.foldl (·.after pci) nv = nv := by
  induction events with
  | nil => rfl
  | cons event rest ih =>
      obtain ⟨spared, spares⟩ := List.forall_mem_cons.1 spares
      rw [List.foldl_cons, after_of_spared spared, ih spares]

end NvMemory

namespace MemoryHost

variable {host changed : MemoryHost} {pci target : String}

theorem check_bind_ok {α : Type} {operation : HostOperation} {next : Except HostError α} {value : α}
    (h : (host.check operation >>= fun _ => next) = .ok value) : next = .ok value := by
  cases checked : host.check operation with
  | error e =>
      rw [checked] at h
      cases h
  | ok _ =>
      rw [checked] at h
      exact h

theorem readTable_ok {α : Type} {operation : HostOperation} {table : Dict α} {what key : String}
    {value : α} (h : host.readTable operation table what key = .ok value) :
    table.get? key = some value := by
  have unchecked := check_bind_ok h
  cases found : table.get? key with
  | none =>
      rw [found] at unchecked
      cases unchecked
  | some value =>
      rw [found] at unchecked
      cases unchecked
      rfl

theorem changeNv_ok {change : NvMemory → NvMemory}
    (h : host.changeNv target (fun nv => .ok (change nv)) = .ok changed) :
    ∃ nv, host.nv.get? target = some nv ∧ changed.nv = host.nv.insert target (change nv) := by
  cases found : host.nv.get? target with
  | none =>
      rw [changeNv, found] at h
      cases h
  | some nv =>
      rw [Engine.changeNv_found found] at h
      cases h
      exact ⟨nv, rfl, rfl⟩

theorem stageParameter_ok {name value : String}
    (h : host.stageParameter target name value = .ok changed) :
    ∃ nv, host.nv.get? target = some nv ∧ nv.stored.default.contains name = true ∧
      changed.nv = host.nv.insert target (nv.stage name value) := by
  cases found : host.nv.get? target with
  | none =>
      rw [stageParameter, changeNv, found] at h
      have unchecked := check_bind_ok h
      cases refused : host.failingParameters.contains name with
      | false =>
          rw [refused] at unchecked
          cases unchecked
      | true =>
          rw [refused] at unchecked
          cases unchecked
  | some nv =>
      refine ⟨nv, rfl, ?_⟩
      rcases Engine.stageParameter_cases found {} name value with staged | ⟨-, e, failed⟩
      · rw [staged] at h
        split at h
        · next known =>
            cases h
            exact ⟨known, rfl⟩
        · cases h
      · rw [failed] at h
        cases h

theorem commit_nv {change : NvMemory → NvMemory} {result : Except HostError MemoryHost}
    (changes : ∀ changed, result = .ok changed → ∃ nv, host.nv.get? target = some nv ∧
      changed.nv = host.nv.insert target (change nv)) (pci : String) :
    (∃ e, host.commit result = (.error e, host)) ∨
      ∃ changed, host.commit result = (.ok (), changed) ∧ changed.nv.get? pci =
        (host.nv.get? pci).map fun nv => if target = pci then change nv else nv := by
  cases result with
  | error e => exact .inl ⟨e, rfl⟩
  | ok changed =>
      obtain ⟨nv, found, eq⟩ := changes changed rfl
      refine .inr ⟨changed, rfl, ?_⟩
      rw [eq, Dict.get?_insert]
      split
      · next same =>
          rw [← same, found]
          rfl
      · exact Option.map_id'.symm

/-- What a call makes of the parameters of a device can be told from the call and its answer. -/
theorem handle_nv (call : HostCall) (host : MemoryHost) (pci : String) :
    (handle call host).2.nv.get? pci =
      (host.nv.get? pci).map (·.after pci ⟨call, (handle call host).1⟩) := by
  cases call with
  | setNv target name value =>
      have answered : handle (.setNv target name value) host =
        (host.record (.setNv target name value)).commit
          ((host.record (.setNv target name value)).stageParameter target name value) := rfl
      rw [answered]
      rcases commit_nv (fun _ made => (stageParameter_ok made).imp fun _ => .imp_right And.right)
        pci with ⟨e, failed⟩ | ⟨changed, ok, left⟩
      · rw [failed]
        exact Option.map_id'.symm
      · rw [ok]
        exact left
  | resetNv target =>
      have answered : handle (.resetNv target) host =
        (host.record (.resetNv target)).commit ((host.record (.resetNv target)).check .resetNv >>=
          fun _ => (host.record (.resetNv target)).changeNv target
            fun nv => .ok nv.stageDefaults) := rfl
      rw [answered]
      rcases commit_nv (fun _ h => changeNv_ok (check_bind_ok h)) pci with
        ⟨e, failed⟩ | ⟨changed, ok, left⟩
      · rw [failed]
        exact Option.map_id'.symm
      · rw [ok]
        exact left
  | resetFirmware target limit =>
      have answered : handle (.resetFirmware target limit) host =
        (host.record (.resetFirmware target limit)).resetFirmware target limit := rfl
      rw [answered, resetFirmware]
      cases (host.record (.resetFirmware target limit)).check .resetFirmware with
      | error e => exact Option.map_id'.symm
      | ok _ =>
          dsimp only
          split
          · rcases commit_nv (fun _ => changeNv_ok) pci with ⟨e, failed⟩ | ⟨changed, ok, left⟩
            · rw [failed]
              exact Option.map_id'.symm
            · rw [ok]
              exact left
          · exact Option.map_id'.symm
  | setReadRequest target size =>
      have answered : handle (.setReadRequest target size) host =
        (host.record (.setReadRequest target size)).commit
          ((host.record (.setReadRequest target size)).check .setReadRequest >>= fun _ =>
            .ok ((host.record (.setReadRequest target size)).putReadRequest target size)) := rfl
      rw [answered]
      cases (host.record (.setReadRequest target size)).check .setReadRequest with
      | error e => exact Option.map_id'.symm
      | ok _ => exact Option.map_id'.symm
  | setQos interface trust pfc =>
      have answered : handle (.setQos interface trust pfc) host =
        (host.record (.setQos interface trust pfc)).commit
          ((host.record (.setQos interface trust pfc)).check .setQos >>= fun _ =>
            .ok ((host.record (.setQos interface trust pfc)).putQos interface trust pfc)) := rfl
      rw [answered]
      cases (host.record (.setQos interface trust pfc)).check .setQos with
      | error e => exact Option.map_id'.symm
      | ok _ => exact Option.map_id'.symm
  | _ => exact Option.map_id'.symm

/-- What is seen of the parameters of a device is what it has, as far as it can be seen. -/
theorem handle_queryNv_ok {pci : String} {limit : Option Duration} {snapshot : NvSnapshot}
    (h : (handle (.queryNv pci limit) host).1 = some (.ok snapshot)) :
    ∃ nv, host.nv.get? pci = some nv ∧ snapshot = nv.shown := by
  have answered : (handle (.queryNv pci limit) host).1 =
    some ((host.readTable .queryNv host.nv "NV config" pci).map (·.shown)) := rfl
  rw [answered, Option.some.injEq] at h
  cases read : host.readTable .queryNv host.nv "NV config" pci with
  | error e =>
      rw [read] at h
      cases h
  | ok nv =>
      rw [read] at h
      cases h
      exact ⟨nv, readTable_ok read, rfl⟩

end MemoryHost

/-! ## Passes in a weather -/

namespace Weather

variable {weather : Weather} {events : List (Event nodeService)}
  {before after : MemoryHost × Nat} {pci : String}

theorem follows_nv (h : Follows weather.handle before events after) (pci : String) :
    after.1.nv.get? pci = (before.1.nv.get? pci).map fun nv =>
      (hostEvents events).foldl (·.after pci) nv := by
  induction events generalizing before with
  | nil =>
      rw [show after = before from h]
      exact Option.map_id'.symm
  | cons event rest ih =>
      obtain ⟨answered, follows⟩ := h
      rw [ih follows]
      obtain ⟨call | ⟨device, report⟩, answer⟩ := event
      · have eq := MemoryHost.handle_nv call (before.1.faulty (weather.faults before.2)) pci
        have same : answer = (MemoryHost.handle call
          (before.1.faulty (weather.faults before.2))).1 := answered
        rw [← same] at eq
        have first : (weather.handle (.host call) before).2.1 =
          (MemoryHost.handle call (before.1.faulty (weather.faults before.2))).2 := rfl
        rw [first, eq, Option.map_map]
        rfl
      · rfl

theorem follows_query (h : Follows weather.handle before events after) {limit : Option Duration}
    {snapshot : NvSnapshot} {rest : List (Event hostService)}
    (first : hostEvents events = ⟨.queryNv pci limit, some (.ok snapshot)⟩ :: rest) :
    ∃ nv, before.1.nv.get? pci = some nv ∧ snapshot = nv.shown := by
  induction events generalizing before with
  | nil => cases first
  | cons event others ih =>
      obtain ⟨answered, follows⟩ := h
      obtain ⟨call | ⟨device, report⟩, answer⟩ := event
      · obtain ⟨same, -⟩ := List.cons.inj first
        cases same
        have seen : (MemoryHost.handle (.queryNv pci limit)
          (before.1.faulty (weather.faults before.2))).1 = some (.ok snapshot) := answered.symm
        obtain ⟨nv, found, same⟩ := MemoryHost.handle_queryNv_ok seen
        exact ⟨nv, found, same⟩
      · have later := ih follows first
        exact later

end Weather

/-- A pass that is over: what was asked of the host, what the pass came to, and the host it left. -/
structure Passage where
  events : List (Event hostService)
  answer : Except DaemonError Outcome
  host : MemoryHost

namespace Engine

variable {engine : Engine} {device : NicDevice}

def passIn (engine : Engine) (device : NicDevice) (weather : Weather) (host : MemoryHost) :
    Passage :=
  let left := (engine.pass device).run weather.handle (host, 0)
  { events := hostEvents ((engine.pass device).trace weather.handle (host, 0))
    answer := left.1
    host := left.2.1 }

section Passage

variable (engine : Engine) (device : NicDevice) (weather : Weather) (host : MemoryHost)

theorem passIn_begun : Begun engine device (engine.passIn device weather host).events :=
  begun_of_runs (runs_trace weather.handle (engine.pass device) (host, 0))

theorem passIn_nv (pci : String) :
    (engine.passIn device weather host).host.nv.get? pci = (host.nv.get? pci).map fun nv =>
      (engine.passIn device weather host).events.foldl (·.after pci) nv :=
  Weather.follows_nv (follows_trace weather.handle (engine.pass device) (host, 0)) pci

theorem passIn_query {pci : String} {limit : Option Duration} {snapshot : NvSnapshot}
    {rest : List (Event hostService)}
    (first : (engine.passIn device weather host).events =
      ⟨.queryNv pci limit, some (.ok snapshot)⟩ :: rest) :
    ∃ nv, host.nv.get? pci = some nv ∧ snapshot = nv.shown :=
  Weather.follows_query (follows_trace weather.handle (engine.pass device) (host, 0)) first

end Passage

end Engine

/-! ## Passes and boots -/

inductive Moment where
  | pass (device : NicDevice) (weather : Weather)
  | boot

/-- A pass is over this device, whatever its status reports by then. -/
def Moment.IsOf (device : NicDevice) : Moment → Prop
  | .pass other _ => other.Agrees device
  | .boot => True

namespace Engine

/-- What is asked of the host from moment to moment, and the host at the end. Boots are of the
device with this address. -/
def history (engine : Engine) (pci : String) (host : MemoryHost) :
    List Moment → List (Event hostService) × MemoryHost
  | [] => ([], host)
  | .pass device weather :: rest =>
    let passed := engine.passIn device weather host
    let (later, left) := engine.history pci passed.host rest
    (passed.events ++ later, left)
  | .boot :: rest => engine.history pci (host.boot pci) rest

theorem history_append (engine : Engine) (pci : String) (host : MemoryHost)
    (first last : List Moment) :
    engine.history pci host (first ++ last) =
      ((engine.history pci host first).1 ++
          (engine.history pci (engine.history pci host first).2 last).1,
        (engine.history pci (engine.history pci host first).2 last).2) := by
  induction first generalizing host with
  | nil => rfl
  | cons moment rest ih =>
      cases moment with
      | pass device weather =>
          rw [List.cons_append, history, ih]
          simp only [history, List.append_assoc]
      | boot =>
          rw [List.cons_append, history, ih]
          rfl

end Engine

end NicKeeper
