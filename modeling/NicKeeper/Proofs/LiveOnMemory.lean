import NicKeeper.Proofs.OnMemory

/-!
# Live settings on a host in memory

Reading the live settings back leaves a host as it is, and setting them changes nothing but their
two tables (`MemoryHost.withLive`). Ports may share an address or an interface. As every port is
given the same settings, what is set for one port is not undone for another, and after work that
succeeds every port has its settings (`setLive_on`, `applyLive_on`).
-/

namespace NicKeeper

open Program

namespace MemoryHost

variable {host : MemoryHost} {settings : LiveSettings}

/-- The host with other live settings, and with calls made since. -/
def withLive (host : MemoryHost) (readRequests : Dict UInt32) (qos : Dict (Trust × Pfc))
    (calls : List HostCall) : MemoryHost :=
  { host with readRequests, qos, calls := host.calls ++ calls }

theorem withLive_self (host : MemoryHost) :
    host.withLive host.readRequests host.qos [] = host := by
  rw [withLive, List.append_nil]

theorem withLive_withLive {readRequests readRequests' : Dict UInt32} {qos qos' : Dict (Trust × Pfc)}
    {calls calls' : List HostCall} :
    (host.withLive readRequests qos calls).withLive readRequests' qos' calls' =
      host.withLive readRequests' qos' (calls ++ calls') := by
  rw [withLive, withLive, withLive, List.append_assoc]

/-- A port has an interface and the settings. -/
def PortHas (host : MemoryHost) (settings : LiveSettings) (port : Port) : Prop :=
  port.networkInterface ≠ "" ∧
    (settings.readRequest ≠ 0 → host.readRequests.get? port.pci = some settings.readRequest) ∧
      host.qos.get? port.networkInterface = some (settings.trust, settings.pfc)

end MemoryHost

/-! ## Questions -/

namespace Work

variable {limits : Limits} {host : MemoryHost} {work work' : Work Bool} {P Q : Prop}

/-- The work finds out whether `P` holds and leaves the host as it is. Where the host is made to
fail it may miss that `P` holds. -/
def Decides (limits : Limits) (work : Work Bool) (host : MemoryHost) (P : Prop) : Prop :=
  ∃ answer, work.on host = (answer, host) ∧ (answer = .ok true → P) ∧
    (host.Healthy limits → P → answer = .ok true)

theorem decides_true (holds : P) : Decides limits (pure true) host P :=
  ⟨_, rfl, fun _ => holds, fun _ _ => rfl⟩

theorem decides_ofExcept_error {α : Type} {next : α → Work Bool} (e : EngineError) (not : ¬ P) :
    Decides limits (ofExcept (.error e) >>= next) host P :=
  ⟨.error e, rfl, nofun, fun _ holds => absurd holds not⟩

/-- Reads an entry of a table and compares it. -/
theorem decides_readTable {α : Type} [BEq α] [LawfulBEq α] {operation : HostOperation}
    {table : Dict α} {what key : String} {read : Work α}
    (asked : read.on host = (ofHost (host.readTable operation table what key), host)) (value : α) :
    Decides limits (read >>= fun found => pure (found == value)) host
      (table.get? key = some value) := by
  rw [MemoryHost.readTable] at asked
  rcases host.check_cases limits operation with ok | ⟨failing, e, failed⟩
  · rw [ok] at asked
    cases found : table.get? key with
    | none =>
        rw [found] at asked
        refine ⟨_, on_bind_error asked, fun no => ?_, fun _ no => ?_⟩
        · cases no
        · cases no
    | some other =>
        rw [found] at asked
        refine ⟨.ok (other == value), on_bind_ok asked, fun same => ?_, fun _ same => ?_⟩
        · rw [eq_of_beq (Except.ok.inj same)]
        · cases same
          rw [beq_self_eq_true]
  · rw [failed] at asked
    refine ⟨_, on_bind_error asked, fun no => ?_, fun healthy => absurd healthy failing⟩
    cases no

theorem Decides.and (first : Decides limits work host P) (second : Decides limits work' host Q) :
    Decides limits (work >>= fun found => if found then work' else pure false) host (P ∧ Q) := by
  obtain ⟨answer, first, sound, complete⟩ := first
  obtain ⟨answer', second, sound', complete'⟩ := second
  match answer with
  | .error e =>
      exact ⟨_, on_bind_error first, nofun, fun healthy both => nomatch complete healthy both.1⟩
  | .ok false =>
      exact ⟨_, on_bind_ok first, nofun, fun healthy both => nomatch complete healthy both.1⟩
  | .ok true =>
      refine ⟨answer', (on_bind_ok first).trans second, fun yes => ⟨sound rfl, sound' yes⟩, ?_⟩
      exact fun healthy both => complete' healthy both.2

theorem Decides.congr (h : Decides limits work host P) (same : P ↔ Q) :
    Decides limits work host Q := by
  obtain ⟨answer, on, sound, complete⟩ := h
  exact ⟨answer, on, fun yes => same.1 (sound yes), fun healthy holds =>
    complete healthy (same.2 holds)⟩

end Work

namespace Engine

open MemoryHost Work

variable {engine : Engine} {limits : Limits} {device : NicDevice} {host after : MemoryHost}
  {settings : LiveSettings} {ports : List Port}

theorem hasReadRequest_decides (port : Port) (size : UInt32) :
    Decides limits (hasReadRequest port size) host
      (size ≠ 0 → host.readRequests.get? port.pci = some size) := by
  rw [hasReadRequest]
  split
  · next zero => exact decides_true fun no => absurd zero no
  · next some =>
      have asked : (readRequest port.pci).on host = (ofHost (host.readTable .readRequest
        host.readRequests "max read request" port.pci), host) := rfl
      exact (decides_readTable asked size).congr ⟨fun has _ => has, fun has => has some⟩

theorem portIsSet_decides (port : Port) :
    Decides limits (portIsSet device settings port) host (host.PortHas settings port) := by
  have second : Decides limits (do
      let found ← qos (← Work.ofExcept (interfaceOf device port))
      return found == (settings.trust, settings.pfc)) host
      (port.networkInterface ≠ "" ∧
        host.qos.get? port.networkInterface = some (settings.trust, settings.pfc)) := by
    rw [interfaceOf]
    split
    · next none => exact decides_ofExcept_error _ fun has => has.1 none
    · next some =>
        have asked : (qos port.networkInterface).on host = (ofHost (host.readTable .qos host.qos
          "QoS" port.networkInterface), host) := rfl
        exact (decides_readTable asked (settings.trust, settings.pfc)).congr
          ⟨fun has => ⟨some, has⟩, And.right⟩
  refine ((hasReadRequest_decides port settings.readRequest).and second).congr ?_
  rw [PortHas, and_left_comm]

theorem portsAreSet_decides (ports : List Port) :
    Decides limits (portsAreSet device settings ports) host
      (∀ port ∈ ports, host.PortHas settings port) := by
  induction ports with
  | nil => exact decides_true (by simp)
  | cons port rest ih => exact ((portIsSet_decides port).and ih).congr (by simp)

/-! ## Setting -/

theorem setReadRequest_yields (limits : Limits) (pci : String) (size : UInt32) (host : MemoryHost) :
    Yields limits (setReadRequest pci size) host (.ok ())
      (host.withLive (host.readRequests.insert pci size) host.qos [.setReadRequest pci size]) := by
  have answered : (setReadRequest pci size).on host =
      settled ((host.record (.setReadRequest pci size)).commit do
        host.check .setReadRequest
        return (host.record (.setReadRequest pci size)).putReadRequest pci size) := rfl
  rcases host.check_cases limits .setReadRequest with ok | ⟨failing, e, failed⟩
  · rw [ok] at answered
    exact .inl answered
  · rw [failed] at answered
    exact .inr ⟨failing, _, _, answered⟩

theorem setQos_yields (limits : Limits) (interface : String) (trust : Trust) (pfc : Pfc)
    (host : MemoryHost) :
    Yields limits (setQos interface trust pfc) host (.ok ())
      (host.withLive host.readRequests (host.qos.insert interface (trust, pfc))
        [.setQos interface trust pfc]) := by
  have answered : (setQos interface trust pfc).on host =
      settled ((host.record (.setQos interface trust pfc)).commit do
        host.check .setQos
        return (host.record (.setQos interface trust pfc)).putQos interface trust pfc) := rfl
  rcases host.check_cases limits .setQos with ok | ⟨failing, e, failed⟩
  · rw [ok] at answered
    exact .inl answered
  · rw [failed] at answered
    exact .inr ⟨failing, _, _, answered⟩

theorem setReadRequests_yields (limits : Limits) (size : UInt32) (ports : List Port)
    (host : MemoryHost) :
    ∃ calls, Yields limits (setReadRequests size ports) host (.ok ())
      (host.withLive (host.readRequests.insertAll (ports.map fun port => (port.pci, size))) host.qos
        calls) := by
  induction ports generalizing host with
  | nil =>
      refine ⟨[], ?_⟩
      rw [withLive, List.append_nil]
      exact yields_pure ()
  | cons port rest ih =>
      have first := setReadRequest_yields limits port.pci size host
      obtain ⟨calls, others⟩ := ih (host.withLive (host.readRequests.insert port.pci size) host.qos
        [.setReadRequest port.pci size])
      rw [withLive_withLive] at others
      exact ⟨_, first.bind others id⟩

/-- Every port is given its settings, up to the first that has no interface. -/
theorem setQosOfAll_yields (ports : List Port) (host : MemoryHost) :
    ((∀ port ∈ ports, port.networkInterface ≠ "") ∧ ∃ calls,
        Yields limits (setQosOfAll device settings ports) host (.ok ())
          (host.withLive host.readRequests
            (host.qos.insertAll (ports.map fun port =>
              (port.networkInterface, (settings.trust, settings.pfc)))) calls)) ∨
      (∃ port ∈ ports, port.networkInterface = "" ∧ ∃ qos calls,
        Yields limits (setQosOfAll device settings ports) host
          (.error (.invalidDevice (.noInterface port.pci device.name)))
          (host.withLive host.readRequests qos calls)) := by
  induction ports generalizing host with
  | nil =>
      refine .inl ⟨by simp, [], ?_⟩
      rw [List.map_nil]
      exact (withLive_self host).symm ▸ yields_pure ()
  | cons port rest ih =>
      by_cases none : port.networkInterface = ""
      · refine .inr ⟨port, List.mem_cons_self, none, host.qos, [], ?_⟩
        rw [setQosOfAll, interfaceOf, if_pos none, withLive, List.append_nil]
        exact .inl rfl
      · have first := setQos_yields limits port.networkInterface settings.trust
          settings.pfc host
        rw [setQosOfAll, interfaceOf, if_neg none]
        rcases ih (host.withLive host.readRequests
            (host.qos.insert port.networkInterface (settings.trust, settings.pfc))
            [.setQos port.networkInterface settings.trust settings.pfc]) with
          ⟨all, calls, others⟩ | ⟨other, mem, without, qos, calls, others⟩
        · rw [withLive_withLive] at others
          refine .inl ⟨fun other mem => ?_, _, (first.bind others id).ofExcept_bind⟩
          rcases List.mem_cons.1 mem with rfl | mem
          · exact none
          · exact all other mem
        · rw [withLive_withLive] at others
          exact .inr ⟨other, List.mem_cons_of_mem _ mem, without, qos, _,
            (first.bind others id).ofExcept_bind⟩

/-- How setting everything can end where nothing is made to fail: every port has its settings, or a
port has no interface. -/
inductive SetLive (device : NicDevice) (host : MemoryHost) (settings : LiveSettings)
    (ports : List Port) : Except EngineError Unit → MemoryHost → Prop where
  | set {readRequests : Dict UInt32} {qos : Dict (Trust × Pfc)} {calls : List HostCall}
      (has : ∀ port ∈ ports, (host.withLive readRequests qos calls).PortHas settings port) :
      SetLive device host settings ports (.ok ()) (host.withLive readRequests qos calls)
  | noInterface {port : Port} (mem : port ∈ ports) (none : port.networkInterface = "")
      (readRequests : Dict UInt32) (qos : Dict (Trust × Pfc)) (calls : List HostCall) :
      SetLive device host settings ports
        (.error (.invalidDevice (.noInterface port.pci device.name)))
        (host.withLive readRequests qos calls)

/-- Once the read request sizes are set, setting the interfaces is all that is left. -/
theorem setQosOfAll_setLive (limits : Limits) (device : NicDevice) {mid : MemoryHost}
    (has : settings.readRequest ≠ 0 →
      ∀ port ∈ ports, mid.readRequests.get? port.pci = some settings.readRequest) :
    ∃ answer after, SetLive device mid settings ports answer after ∧
      Yields limits (setQosOfAll device settings ports) mid answer after := by
  rcases setQosOfAll_yields ports mid with
    ⟨all, calls, yields⟩ | ⟨port, mem, none, qos, calls, yields⟩
  · refine ⟨_, _, .set fun port mem => ⟨all port mem, fun some => has some port mem, ?_⟩, yields⟩
    refine Dict.get?_insertAll_of_same _ (fun entry mem => ?_) ?_
    · obtain ⟨_, -, rfl⟩ := List.mem_map.1 mem
      rfl
    · rw [List.map_map]
      exact List.mem_map.2 ⟨port, mem, rfl⟩
  · exact ⟨_, _, .noInterface mem none _ _ _, yields⟩

theorem SetLive.of_withLive {readRequests : Dict UInt32} {qos : Dict (Trust × Pfc)}
    {calls : List HostCall} {answer : Except EngineError Unit}
    (h : SetLive device (host.withLive readRequests qos calls) settings ports answer after) :
    SetLive device host settings ports answer after := by
  cases h with
  | set has =>
      rw [withLive_withLive] at has ⊢
      exact .set has
  | noInterface mem none =>
      rw [withLive_withLive]
      exact .noInterface mem none _ _ _

theorem setLive_yields (limits : Limits) (host : MemoryHost) {ports : NicDevice.Ports}
    (hs : device.liveSettings = .ok settings)
    (hp : device.ports = .ok ports) :
    ∃ answer after, SetLive device host settings ports.configured answer after ∧
      Yields limits (setLive device) host answer after := by
  rw [setLive, hs, hp]
  by_cases zero : settings.readRequest = 0
  · have kept : settings.readRequest ≠ 0 → ∀ port ∈ ports.configured,
        host.readRequests.get? port.pci = some settings.readRequest := fun some => absurd zero some
    obtain ⟨answer, after, ended, yields⟩ := setQosOfAll_setLive limits device kept
    refine ⟨answer, after, ended, Yields.ofExcept_bind (Yields.ofExcept_bind ?_)⟩
    rw [if_neg fun some => some zero]
    exact yields
  · obtain ⟨calls, first⟩ :=
      setReadRequests_yields limits settings.readRequest ports.configured host
    have set : settings.readRequest ≠ 0 → ∀ port ∈ ports.configured,
        (host.withLive (host.readRequests.insertAll
          (ports.configured.map fun port => (port.pci, settings.readRequest))) host.qos
          calls).readRequests.get? port.pci = some settings.readRequest :=
      fun _ port mem => Dict.get?_insertAll_of_same _ (by simp) (by simpa using ⟨port, mem, rfl⟩)
    obtain ⟨answer, after, ended, yields⟩ := setQosOfAll_setLive limits device set
    refine ⟨answer, after, ended.of_withLive, Yields.ofExcept_bind (Yields.ofExcept_bind ?_)⟩
    rw [if_pos zero]
    exact first.bind yields id

/-! ## Both -/

theorem applyLive_wrong {e : EngineError} (wrong : device.liveSettings = .error e) :
    (applyLive device).on host = (.error e, host) :=
  run_applyLive_of_wrong wrong

/-- What is seen to be set is not set again. -/
theorem applyLive_of_set (set : (hasLiveSettings device).on host = (.ok true, host)) :
    (applyLive device).on host = (.ok (), host) :=
  run_applyLive_of_set set

/-- What is set already is not set again, unless reading it back is made to fail. -/
theorem applyLive_cases {ports : NicDevice.Ports} (hs : device.liveSettings = .ok settings)
    (hp : device.ports = .ok ports) (limits : Limits) (host : MemoryHost) :
    ((∀ port ∈ ports.configured, host.PortHas settings port) ∧
        (applyLive device).on host = (.ok (), host)) ∨
      (host.Healthy limits → ¬ ∀ port ∈ ports.configured, host.PortHas settings port) ∧
        (applyLive device).on host = (setLive device).on host := by
  have decides : Decides limits (hasLiveSettings device) host
      (∀ port ∈ ports.configured, host.PortHas settings port) := by
    rw [hasLiveSettings, hs, hp]
    exact portsAreSet_decides ports.configured
  obtain ⟨answer, asked, sound, complete⟩ := decides
  by_cases set : answer = .ok true
  · exact .inl ⟨sound set, applyLive_of_set (set ▸ asked)⟩
  · exact .inr ⟨fun healthy has => set (complete healthy has),
      run_applyLive_of_unset hs asked set⟩

theorem applyLive_ok {ports : NicDevice.Ports} (hp : device.ports = .ok ports)
    (h : (applyLive device).on host = (.ok (), after)) :
    ∃ settings, device.liveSettings = .ok settings ∧
      (∀ port ∈ ports.configured, after.PortHas settings port) ∧
        ∃ readRequests qos calls, after = host.withLive readRequests qos calls := by
  cases hs : device.liveSettings with
  | error e => cases (applyLive_wrong hs).symm.trans h
  | ok settings =>
      refine ⟨settings, rfl, ?_⟩
      rcases applyLive_cases hs hp {} host with ⟨has, same⟩ | ⟨-, same⟩
      · cases same.symm.trans h
        exact ⟨has, _, _, _, (withLive_self host).symm⟩
      · obtain ⟨answer, later, ended, yields⟩ := setLive_yields {} host hs hp
        obtain ⟨rfl, rfl⟩ := yields.of_ok (same.symm.trans h)
        cases ended with
        | set has => exact ⟨has, _, _, _, rfl⟩

/-! ## Where nothing is made to fail -/

section Healthy

variable {ports : NicDevice.Ports} (hs : device.liveSettings = .ok settings)
  (hp : device.ports = .ok ports) (healthy : host.Healthy limits)

include hs hp healthy

theorem applyLive_kept (has : ∀ port ∈ ports.configured, host.PortHas settings port) :
    (applyLive device).on host = (.ok (), host) := by
  rcases applyLive_cases hs hp limits host with ⟨-, same⟩ | ⟨not, -⟩
  · exact same
  · exact absurd has (not healthy)

theorem applyLive_set (all : ∀ port ∈ ports.configured, port.networkInterface ≠ "") :
    ∃ readRequests qos calls,
      (applyLive device).on host = (.ok (), host.withLive readRequests qos calls) ∧
        ∀ port ∈ ports.configured,
          (host.withLive readRequests qos calls).PortHas settings port := by
  rcases applyLive_cases hs hp limits host with ⟨has, same⟩ | ⟨-, same⟩
  · refine ⟨host.readRequests, host.qos, [], ?_⟩
    rw [withLive_self]
    exact ⟨same, has⟩
  · obtain ⟨answer, after, ended, yields⟩ := setLive_yields limits host hs hp
    rw [same, yields.of_healthy healthy]
    cases ended with
    | set has => exact ⟨_, _, _, rfl, has⟩
    | noInterface mem none => exact absurd none (all _ mem)

theorem applyLive_noInterface {port : Port} (mem : port ∈ ports.configured)
    (none : port.networkInterface = "") :
    ∃ fault, ((applyLive device).on host).1 = .error (.invalidDevice fault) := by
  rcases applyLive_cases hs hp limits host with ⟨has, -⟩ | ⟨-, same⟩
  · exact absurd none (has port mem).1
  · obtain ⟨answer, after, ended, yields⟩ := setLive_yields limits host hs hp
    rw [same, yields.of_healthy healthy]
    cases ended with
    | set has => exact absurd none (has port mem).1
    | noInterface => exact ⟨_, rfl⟩

end Healthy

end Engine

end NicKeeper
