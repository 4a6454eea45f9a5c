import NicKeeper.Proofs.Node

/-!
# The engine on any host

What each piece of the engine's work can do, whatever the host answers: which calls it makes, and
which errors it may end in. `changes` are the calls of a run that change the host; comparing a
device with its spec makes none (`runs_validateNv`).

An error that only a change of the spec can mend comes from the spec alone. No answer of a host is
made into one, so the work that can still end in one has not written anything of the template yet:
for the firmware parameters at most the gate has been opened (`runs_applyNv_specError`), and for the
live settings no call at all was made (`runs_applyLive_specError`).

A pass is made of these pieces (`Worked`), also one that a refused status write has cut off
(`Begun`).
-/

namespace NicKeeper

/-- The calls that change the host. -/
def changes (events : List (Event hostService)) : List HostCall :=
  (events.map (·.call)).filter (·.mutates)

@[simp] theorem changes_append (first last : List (Event hostService)) :
    changes (first ++ last) = changes first ++ changes last := by
  rw [changes, List.map_append, List.filter_append]
  rfl

def HostCall.isQuery : HostCall → Bool
  | .queryNv _ _ => true
  | _ => false

/-- The calls that read the firmware configuration. -/
def queries (events : List (Event hostService)) : List HostCall :=
  (events.map (·.call)).filter (·.isQuery)

@[simp] theorem queries_append (first last : List (Event hostService)) :
    queries (first ++ last) = queries first ++ queries last := by
  rw [queries, List.map_append, List.filter_append]
  rfl

namespace Work

open Program

variable {α : Type}

theorem runs_ofExcept {result answer : Except EngineError α} {events : List (Event hostService)}
    (h : (ofExcept result).run.Runs events answer) : events = [] ∧ answer = result :=
  runs_done_iff.1 h

theorem runs_ofExcept_bind {β : Type} {result : Except EngineError α} {next : α → Work β}
    {events : List (Event hostService)} {answer : Except EngineError β}
    (h : (ofExcept result >>= next).run.Runs events answer) :
    (∃ e, result = .error e ∧ events = [] ∧ answer = .error e) ∨
      ∃ value, result = .ok value ∧ (next value).run.Runs events answer := by
  cases result with
  | error e =>
      obtain ⟨rfl, rfl⟩ := runs_done_iff.1 h
      exact .inl ⟨e, rfl, rfl, rfl⟩
  | ok value => exact .inr ⟨value, rfl, h⟩

/-- A call of the engine, and what it makes of the answer. -/
theorem runs_call {call : HostCall} {read : call.Answer → Except EngineError α}
    {events : List (Event hostService)} {answer : Except EngineError α}
    (h : (ask call >>= fun found => ofExcept (read found)).run.Runs events answer) :
    ∃ found, events = [⟨call, found⟩] ∧ answer = read found := by
  obtain ⟨found, rest, rfl, hr⟩ := runs_ask_iff.1 h
  obtain ⟨rfl, rfl⟩ := runs_ofExcept hr
  exact ⟨found, rfl, rfl⟩

theorem isSpecError_ofHost {answer : Except HostError α} {e : EngineError}
    (h : ofHost answer = .error e) : e.isSpecError = false := by
  cases answer with
  | ok value => cases h
  | error cause =>
      cases h
      rfl

theorem isSpecError_ofLimited {call : SlowCall} {pci : String} {limit : Duration}
    {answer : Option (Except HostError α)} {e : EngineError}
    (h : ofLimited call pci limit answer = .error e) : e.isSpecError = false := by
  cases answer with
  | some answer => exact isSpecError_ofHost h
  | none =>
      cases h
      rfl

end Work

namespace NicDevice

theorem isSpecError_ports {device : NicDevice} {e : EngineError} (h : device.ports = .error e) :
    e.isSpecError = false := by
  rw [ports] at h
  split at h
  · cases h
  · cases h
    rfl

end NicDevice

namespace Engine

open Program

variable {engine : Engine} {device : NicDevice} {events : List (Event hostService)}

/-! ## The single calls -/

theorem runs_queryNv_ok {pci : String} {snapshot : NvSnapshot}
    (h : (engine.queryNv pci).run.Runs events (.ok snapshot)) :
    events = [⟨.queryNv pci (some engine.limits.query), some (.ok snapshot)⟩] := by
  obtain ⟨found, rfl, eq⟩ := Work.runs_call h
  match found with
  | some (.ok found) =>
      cases eq
      rfl
  | some (.error _) => cases eq
  | none => cases eq

theorem runs_queryNv_error {pci : String} {e : EngineError}
    (h : (engine.queryNv pci).run.Runs events (.error e)) :
    changes events = [] ∧ e.isSpecError = false := by
  obtain ⟨found, rfl, eq⟩ := Work.runs_call h
  exact ⟨rfl, Work.isSpecError_ofLimited eq.symm⟩

theorem runs_setNv_ok {pci name value : String}
    (h : (setNv pci name value).run.Runs events (.ok ())) :
    events = [⟨.setNv pci name value, .ok ()⟩] := by
  obtain ⟨found, rfl, eq⟩ := Work.runs_call h
  match found with
  | .ok () => rfl
  | .error _ => cases eq

theorem runs_resetFirmware_ok {pci : String}
    (h : (engine.resetFirmware pci).run.Runs events (.ok ())) :
    events = [⟨.resetFirmware pci (some engine.limits.reset), some (.ok ())⟩] := by
  obtain ⟨found, rfl, eq⟩ := Work.runs_call h
  match found with
  | some (.ok ()) => rfl
  | some (.error _) => cases eq
  | none => cases eq

theorem isSpecError_setNv {pci name value : String} {e : EngineError}
    (h : (setNv pci name value).run.Runs events (.error e)) : e.isSpecError = false := by
  obtain ⟨found, -, eq⟩ := Work.runs_call h
  exact Work.isSpecError_ofHost eq.symm

theorem isSpecError_resetNv {pci : String} {e : EngineError}
    (h : (resetNv pci).run.Runs events (.error e)) : e.isSpecError = false := by
  obtain ⟨found, -, eq⟩ := Work.runs_call h
  exact Work.isSpecError_ofHost eq.symm

theorem isSpecError_resetFirmware {pci : String} {e : EngineError}
    (h : (engine.resetFirmware pci).run.Runs events (.error e)) : e.isSpecError = false := by
  obtain ⟨found, -, eq⟩ := Work.runs_call h
  exact Work.isSpecError_ofLimited eq.symm

/-! ## Comparing with the spec -/

theorem runs_linkSpeed {pci : String} {answer : Except EngineError UInt32}
    (h : (linkSpeed pci).run.Runs events answer) : changes events = [] ∧ queries events = [] := by
  obtain ⟨found, rfl, -⟩ := Work.runs_call h
  exact ⟨rfl, rfl⟩

/-- Working out the parameters changes nothing and does not read the configuration again. -/
theorem runs_desiredNv {defaults : Dict String} {answer : Except EngineError (Dict String)}
    (h : (device.desiredNv defaults).run.Runs events answer) :
    changes events = [] ∧ queries events = [] := by
  rcases Work.runs_ofExcept_bind h with ⟨_, -, rfl, -⟩ | ⟨configuration, -, hc⟩
  · exact ⟨rfl, rfl⟩
  rcases Work.runs_ofExcept_bind hc with ⟨_, -, rfl, -⟩ | ⟨ports, -, hp⟩
  · exact ⟨rfl, rfl⟩
  dsimp only at hp
  split at hp
  · rcases runs_bindT_iff.1 hp with ⟨_, -, hs⟩ | ⟨_, first, last, rfl, hs, hl⟩
    · obtain ⟨_, hs, -⟩ := runs_mapT hs
      exact runs_linkSpeed hs
    · obtain ⟨_, hs, -⟩ := runs_mapT hs
      obtain ⟨rfl, -⟩ := Work.runs_ofExcept hl
      rw [List.append_nil]
      exact runs_linkSpeed hs
  · obtain ⟨rfl, -⟩ := Work.runs_ofExcept hp
    exact ⟨rfl, rfl⟩

/-- Comparing a device with its spec changes nothing, and reads the configuration once if it comes
to a verdict. -/
theorem runs_validateNv {answer : Except EngineError Verdict}
    (h : (engine.validateNv device).run.Runs events answer) :
    changes events = [] ∧ ∀ verdict, answer = .ok verdict →
      ∃ ports, device.ports = .ok ports ∧
        queries events = [.queryNv ports.first.pci (some engine.limits.query)] := by
  rcases Work.runs_ofExcept_bind h with ⟨_, -, rfl, rfl⟩ | ⟨configuration, -, hc⟩
  · exact ⟨rfl, nofun⟩
  rcases Work.runs_ofExcept_bind hc with ⟨_, -, rfl, rfl⟩ | ⟨ports, hports, hp⟩
  · exact ⟨rfl, nofun⟩
  rcases runs_bindT_iff.1 hp with ⟨_, rfl, hq⟩ | ⟨snapshot, query, rest, rfl, hq, hv⟩
  · exact ⟨(runs_queryNv_error hq).1, nofun⟩
  obtain rfl := runs_queryNv_ok hq
  have quiet : changes rest = [] ∧ queries rest = [] := by
    split at hv
    · obtain ⟨rfl, -⟩ := runs_pureT_iff.1 hv
      exact ⟨rfl, rfl⟩
    · rcases runs_bindT_iff.1 hv with ⟨_, -, hd⟩ | ⟨desired, first, last, rfl, hd, hl⟩
      · exact runs_desiredNv hd
      · obtain ⟨rfl, -⟩ := Work.runs_ofExcept hl
        rw [List.append_nil]
        exact runs_desiredNv hd
  rw [changes_append, queries_append, quiet.1, quiet.2]
  exact ⟨rfl, fun _ _ => ⟨ports, hports, rfl⟩⟩

/-! ## Staging -/

/-- How the gate is opened: it is seen to be off, switched on, and put into effect. -/
def opening (engine : Engine) (pci : String) (seen : NvSnapshot) : List (Event hostService) :=
  [⟨.queryNv pci (some engine.limits.query), some (.ok seen)⟩,
    ⟨.setNv pci gateParameter onValue, .ok ()⟩,
    ⟨.resetFirmware pci (some engine.limits.reset), some (.ok ())⟩]

/-- The configuration is read with the gate on, which is opened first where it was off. -/
theorem runs_queryWithGate_ok {pci : String} {snapshot : NvSnapshot}
    (h : (engine.queryWithGate pci).run.Runs events (.ok snapshot)) :
    changes events = [] ∨ ∃ seen last, events = engine.opening pci seen ++ last ∧
      gateOn seen.current = false ∧ changes last = [] := by
  obtain ⟨seen, query, rest, rfl, hq, hg⟩ := runs_bindT_ok h
  obtain rfl := runs_queryNv_ok hq
  split at hg
  · obtain ⟨rfl, -⟩ := runs_pureT_iff.1 hg
    exact .inl rfl
  · next off =>
      obtain ⟨_, set, rest, rfl, hs, hr⟩ := runs_bindT_ok hg
      obtain ⟨_, reset, last, rfl, hr, hl⟩ := runs_bindT_ok hr
      obtain rfl := runs_setNv_ok hs
      obtain rfl := runs_resetFirmware_ok hr
      obtain rfl := runs_queryNv_ok hl
      exact .inr ⟨seen, _, rfl, Bool.eq_false_iff.2 off, rfl⟩

theorem isSpecError_queryWithGate {pci : String} {e : EngineError}
    (h : (engine.queryWithGate pci).run.Runs events (.error e)) : e.isSpecError = false := by
  rcases runs_bindT_error h with hq | ⟨seen, query, rest, rfl, -, hg⟩
  · exact (runs_queryNv_error hq).2
  split at hg
  · cases (runs_pureT_iff.1 hg).2
  rcases runs_bindT_error hg with hs | ⟨_, set, rest, rfl, -, hr⟩
  · exact isSpecError_setNv hs
  rcases runs_bindT_error hr with hr | ⟨_, reset, last, rfl, -, hl⟩
  · exact isSpecError_resetFirmware hr
  · exact (runs_queryNv_error hl).2

theorem isSpecError_writeAll {pci : String} {entries : List (String × String)} {e : EngineError}
    (h : (writeAll pci entries).run.Runs events (.error e)) : e.isSpecError = false := by
  induction entries generalizing events with
  | nil => cases (runs_pureT_iff.1 h).2
  | cons entry rest ih =>
      rcases runs_bindT_error h with hs | ⟨_, first, last, rfl, -, hl⟩
      · exact isSpecError_setNv hs
      · exact ih hl

/-- A spec that turns out wrong while it is staged: nothing was changed but the gate. -/
theorem runs_applyNv_specError {e : EngineError}
    (h : (engine.applyNv device).run.Runs events (.error e)) (spec : e.isSpecError = true) :
    changes events = [] ∨ ∃ ports seen last, device.ports = .ok ports ∧
      events = engine.opening ports.first.pci seen ++ last ∧ gateOn seen.current = false ∧
        changes last = [] := by
  rcases Work.runs_ofExcept_bind h with ⟨_, -, rfl, -⟩ | ⟨configuration, -, hc⟩
  · exact .inl rfl
  rcases Work.runs_ofExcept_bind hc with ⟨_, -, rfl, -⟩ | ⟨ports, hports, hp⟩
  · exact .inl rfl
  dsimp only at hp
  split at hp
  · rcases runs_bindT_error hp with hr | ⟨_, first, rest, rfl, -, hg⟩
    · cases spec.symm.trans (isSpecError_resetNv hr)
    rcases runs_bindT_error hg with hs | ⟨_, first, rest, rfl, -, no⟩
    · cases spec.symm.trans (isSpecError_setNv hs)
    · cases (runs_pureT_iff.1 no).2
  rcases runs_bindT_error hp with hq | ⟨snapshot, gate, rest, rfl, hq, hd⟩
  · cases spec.symm.trans (isSpecError_queryWithGate hq)
  have quiet : changes rest = [] := by
    rcases runs_bindT_error hd with hv | ⟨desired, first, rest, rfl, hv, hm⟩
    · exact (runs_desiredNv hv).1
    rcases Work.runs_ofExcept_bind hm with ⟨_, -, rfl, -⟩ | ⟨writes, -, hw⟩
    · rw [List.append_nil]
      exact (runs_desiredNv hv).1
    -- From the first write on, whatever goes wrong is the host's fault.
    rcases runs_bindT_error hw with hw | ⟨_, first, rest, rfl, -, no⟩
    · cases spec.symm.trans (isSpecError_writeAll hw)
    · cases (runs_pureT_iff.1 no).2
  rcases runs_queryWithGate_ok hq with none | ⟨seen, last, rfl, off, none⟩
  · exact .inl (by rw [changes_append, none, quiet]; rfl)
  · refine .inr ⟨ports, seen, last ++ rest, hports, List.append_assoc _ _ _, off, ?_⟩
    rw [changes_append, none, quiet]
    rfl

/-- Staging that succeeds always asks for a boot. -/
theorem runs_applyNv_ok {reboot : Bool} (h : (engine.applyNv device).run.Runs events (.ok reboot)) :
    reboot = true := by
  rcases Work.runs_ofExcept_bind h with ⟨_, -, -, no⟩ | ⟨configuration, -, hc⟩
  · cases no
  rcases Work.runs_ofExcept_bind hc with ⟨_, -, -, no⟩ | ⟨ports, -, hp⟩
  · cases no
  dsimp only at hp
  split at hp
  · obtain ⟨_, _, _, -, -, hg⟩ := runs_bindT_ok hp
    obtain ⟨_, _, _, -, -, hl⟩ := runs_bindT_ok hg
    cases (runs_pureT_iff.1 hl).2
    rfl
  · obtain ⟨_, _, _, -, -, hd⟩ := runs_bindT_ok hp
    obtain ⟨_, _, _, -, -, hm⟩ := runs_bindT_ok hd
    rcases Work.runs_ofExcept_bind hm with ⟨_, -, -, no⟩ | ⟨writes, -, hw⟩
    · cases no
    obtain ⟨_, _, _, -, -, hl⟩ := runs_bindT_ok hw
    cases (runs_pureT_iff.1 hl).2
    rfl

/-! ## Live settings -/

theorem isSpecError_interfaceOf {port : Port} {e : EngineError}
    (h : interfaceOf device port = .error e) : e.isSpecError = false := by
  rw [interfaceOf] at h
  split at h
  · cases h
    rfl
  · cases h

theorem isSpecError_portIsSet {settings : LiveSettings} {port : Port} {e : EngineError}
    (h : (portIsSet device settings port).run.Runs events (.error e)) : e.isSpecError = false := by
  rcases runs_bindT_error h with hr | ⟨found, first, rest, rfl, -, hq⟩
  · rw [hasReadRequest] at hr
    split at hr
    · cases (runs_pureT_iff.1 hr).2
    rcases runs_bindT_error hr with hr | ⟨_, first, last, rfl, -, no⟩
    · obtain ⟨_, -, eq⟩ := Work.runs_call hr
      exact Work.isSpecError_ofHost eq.symm
    · cases (runs_pureT_iff.1 no).2
  split at hq
  · rcases Work.runs_ofExcept_bind hq with ⟨_, eq, -, same⟩ | ⟨interface, -, hq⟩
    · cases same
      exact isSpecError_interfaceOf eq
    rcases runs_bindT_error hq with hq | ⟨_, first, last, rfl, -, no⟩
    · obtain ⟨_, -, eq⟩ := Work.runs_call hq
      exact Work.isSpecError_ofHost eq.symm
    · cases (runs_pureT_iff.1 no).2
  · cases (runs_pureT_iff.1 hq).2

theorem isSpecError_portsAreSet {settings : LiveSettings} {ports : List Port} {e : EngineError}
    (h : (portsAreSet device settings ports).run.Runs events (.error e)) :
    e.isSpecError = false := by
  induction ports generalizing events with
  | nil => cases (runs_pureT_iff.1 h).2
  | cons port rest ih =>
      rcases runs_bindT_error h with hp | ⟨set, first, last, rfl, -, hl⟩
      · exact isSpecError_portIsSet hp
      split at hl
      · exact ih hl
      · cases (runs_pureT_iff.1 hl).2

theorem isSpecError_setReadRequests {size : UInt32} {ports : List Port} {e : EngineError}
    (h : (setReadRequests size ports).run.Runs events (.error e)) : e.isSpecError = false := by
  induction ports generalizing events with
  | nil => cases (runs_pureT_iff.1 h).2
  | cons port rest ih =>
      rcases runs_bindT_error h with hs | ⟨_, first, last, rfl, -, hl⟩
      · obtain ⟨_, -, eq⟩ := Work.runs_call hs
        exact Work.isSpecError_ofHost eq.symm
      · exact ih hl

theorem isSpecError_setQosOfAll {settings : LiveSettings} {ports : List Port} {e : EngineError}
    (h : (setQosOfAll device settings ports).run.Runs events (.error e)) :
    e.isSpecError = false := by
  induction ports generalizing events with
  | nil => cases (runs_pureT_iff.1 h).2
  | cons port rest ih =>
      rcases Work.runs_ofExcept_bind h with ⟨_, eq, -, same⟩ | ⟨interface, -, hs⟩
      · cases same
        exact isSpecError_interfaceOf eq
      rcases runs_bindT_error hs with hs | ⟨_, first, last, rfl, -, hl⟩
      · obtain ⟨_, -, eq⟩ := Work.runs_call hs
        exact Work.isSpecError_ofHost eq.symm
      · exact ih hl

theorem runs_hasLiveSettings_specError {answer : Except EngineError Bool} {e : EngineError}
    (h : (hasLiveSettings device).run.Runs events answer) (wrong : device.liveSettings = .error e) :
    events = [] ∧ answer = .error e := by
  rcases Work.runs_ofExcept_bind h with ⟨_, eq, rfl, rfl⟩ | ⟨settings, right, -⟩
  · cases wrong.symm.trans eq
    exact ⟨rfl, rfl⟩
  · cases wrong.symm.trans right

theorem liveSettings_of_runs_hasLiveSettings {e : EngineError}
    (h : (hasLiveSettings device).run.Runs events (.error e)) (spec : e.isSpecError = true) :
    device.liveSettings = .error e := by
  rcases Work.runs_ofExcept_bind h with ⟨_, eq, -, same⟩ | ⟨settings, -, hs⟩
  · cases same
    exact eq
  rcases Work.runs_ofExcept_bind hs with ⟨_, eq, -, same⟩ | ⟨ports, -, hp⟩
  · cases same
    cases spec.symm.trans (NicDevice.isSpecError_ports eq)
  · cases spec.symm.trans (isSpecError_portsAreSet hp)

theorem liveSettings_of_runs_setLive {e : EngineError}
    (h : (setLive device).run.Runs events (.error e)) (spec : e.isSpecError = true) :
    device.liveSettings = .error e := by
  rcases Work.runs_ofExcept_bind h with ⟨_, eq, -, same⟩ | ⟨settings, -, hs⟩
  · cases same
    exact eq
  rcases Work.runs_ofExcept_bind hs with ⟨_, eq, -, same⟩ | ⟨ports, -, hp⟩
  · cases same
    cases spec.symm.trans (NicDevice.isSpecError_ports eq)
  dsimp only at hp
  split at hp
  · rcases runs_bindT_error hp with hr | ⟨_, first, last, rfl, -, hq⟩
    · cases spec.symm.trans (isSpecError_setReadRequests hr)
    · cases spec.symm.trans (isSpecError_setQosOfAll hq)
  · cases spec.symm.trans (isSpecError_setQosOfAll hp)

/-- A wrong spec is found out before any call for the live settings is made. -/
theorem runs_applyLive_specError {e : EngineError}
    (h : (applyLive device).run.Runs events (.error e)) (spec : e.isSpecError = true) :
    events = [] := by
  obtain ⟨found, first, last, rfl, hf, hl⟩ := runs_bind_iff.1 h
  -- Were the spec wrong only now, reading the settings back would have said so before.
  have early : (setLive device).run.Runs last (.error e) → found = .error e := fun hs =>
    (runs_hasLiveSettings_specError hf (liveSettings_of_runs_setLive hs spec)).2
  match found with
  | .ok true => cases (runs_done_iff.1 hl).2
  | .ok false => cases early hl
  | .error cause =>
      dsimp only at hl
      split at hl
      · obtain ⟨rfl, same⟩ := runs_done_iff.1 hl
        cases same
        have wrong := liveSettings_of_runs_hasLiveSettings hf spec
        rw [(runs_hasLiveSettings_specError hf wrong).1]
        rfl
      · next other =>
          cases early hl
          exact absurd spec other

section Handled

variable {σ : Type} {handler : Handler hostService σ} {state mid : σ}

theorem run_applyLive_of_wrong {e : EngineError} (wrong : device.liveSettings = .error e) :
    (applyLive device).run.run handler state = (.error e, state) := by
  have compared : (hasLiveSettings device).run.run handler state = (.error e, state) := by
    rw [hasLiveSettings, wrong]
    rfl
  show ((hasLiveSettings device).run.bind _).run handler state = _
  rw [run_bind, compared]
  dsimp only
  split
  · rfl
  · rw [setLive, wrong]
    rfl

/-- What is seen to be set is not set again. -/
theorem run_applyLive_of_set
    (set : (hasLiveSettings device).run.run handler state = (.ok true, mid)) :
    (applyLive device).run.run handler state = (.ok (), mid) := by
  show ((hasLiveSettings device).run.bind _).run handler state = _
  rw [run_bind, set]
  rfl

/-- What is not seen to be set is set. -/
theorem run_applyLive_of_unset {settings : LiveSettings} {found : Except EngineError Bool}
    (hs : device.liveSettings = .ok settings)
    (compared : (hasLiveSettings device).run.run handler state = (found, mid))
    (unset : found ≠ .ok true) :
    (applyLive device).run.run handler state = (setLive device).run.run handler mid := by
  show ((hasLiveSettings device).run.bind _).run handler state = _
  rw [run_bind, compared]
  match found with
  | .ok true => exact absurd rfl unset
  | .ok false => rfl
  | .error e =>
      dsimp only
      split
      · next spec =>
          -- The only such error that reading back can end in is that of the spec.
          have runs := runs_trace handler (hasLiveSettings device).run state
          rw [compared] at runs
          cases hs.symm.trans (liveSettings_of_runs_hasLiveSettings runs spec)
      · rfl

end Handled

/-! ## The work of a pass -/

/-- What the engine's work on live settings comes to. -/
def ofLive : Except EngineError Unit → Pass.Result
  | .error cause => .error cause
  | .ok () => .applied

/-- What the engine's work on firmware parameters comes to. -/
def ofStaging : Except EngineError Bool → Pass.Result
  | .error cause => .error cause
  | .ok _ => .rebootRequired

/-- How the work of a pass can go: the spec cannot be compared with, staged values wait for a boot,
only the live settings are left to do, or firmware parameters are staged. -/
inductive Worked (engine : Engine) (device : NicDevice) :
    List (Event hostService) → Bool → Pass.Result → Prop where
  | invalid {first : List (Event hostService)} {cause : EngineError}
      (compared : (engine.validateNv device).run.Runs first (.error cause)) :
      Worked engine device first false (.error cause)
  | waiting {first : List (Event hostService)} {verdict : Verdict}
      (compared : (engine.validateNv device).run.Runs first (.ok verdict)) :
      Worked engine device first false .rebootRequired
  | live {first last : List (Event hostService)} {verdict : Verdict}
      {answer : Except EngineError Unit}
      (compared : (engine.validateNv device).run.Runs first (.ok verdict))
      (set : (applyLive device).run.Runs last answer) :
      Worked engine device (first ++ last) false (ofLive answer)
  | staged {first last : List (Event hostService)} {verdict : Verdict}
      {answer : Except EngineError Bool}
      (compared : (engine.validateNv device).run.Runs first (.ok verdict))
      (staged : (engine.applyNv device).run.Runs last answer) :
      Worked engine device (first ++ last) true (ofStaging answer)

theorem runs_liveWork {result : Pass.Result}
    (h : ((Pass.liveWork device).interpret engine.manage).Runs events result) :
    ∃ answer, (applyLive device).run.Runs events answer ∧ result = ofLive answer := by
  obtain ⟨answer, first, last, rfl, hf, hl⟩ := runs_bind_iff.1 h
  cases answer with
  | error cause => exact ⟨_, hf.then_done hl⟩
  | ok _ => exact ⟨_, hf.then_done hl⟩

theorem runs_nvWork {result : Pass.Result}
    (h : ((Pass.nvWork device).interpret engine.manage).Runs events result) :
    ∃ answer, (engine.applyNv device).run.Runs events answer ∧ result = ofStaging answer := by
  obtain ⟨answer, first, last, rfl, hf, hl⟩ := runs_bind_iff.1 h
  match answer with
  | .error cause => exact ⟨_, hf.then_done hl⟩
  | .ok true => exact ⟨_, hf.then_done hl⟩
  | .ok false => cases runs_applyNv_ok hf

theorem worked_of_runs {updated : Bool} {result : Pass.Result}
    (h : (engine.work device).Runs events (updated, result)) :
    Worked engine device events updated result := by
  obtain ⟨answer, first, last, rfl, hf, hl⟩ := runs_bind_iff.1 h
  rw [interpret_bind] at hl
  obtain ⟨value, middle, rest, rfl, hm, hn⟩ := runs_bind_iff.1 hl
  obtain ⟨rfl, same⟩ := runs_done_iff.1 hn
  cases same
  rw [List.append_nil]
  cases answer with
  | error cause =>
      obtain ⟨compared, rfl⟩ := hf.then_done hm
      exact .invalid compared
  | ok verdict =>
      rw [Pass.workAfter] at hm ⊢
      split at hm
      · next update =>
          rw [if_pos update]
          obtain ⟨answer, staged, rfl⟩ := runs_nvWork hm
          exact .staged hf staged
      · next update =>
          rw [if_neg update]
          split at hm
          · next reboot =>
              rw [if_pos reboot]
              obtain ⟨compared, rfl⟩ := hf.then_done hm
              exact .waiting compared
          · next reboot =>
              rw [if_neg reboot]
              obtain ⟨answer, set, rfl⟩ := runs_liveWork hm
              exact .live hf set

/-! ## Passes that are cut off by a write -/

/-- What a pass has done on the host when it comes to its end or a write fails. -/
inductive Begun (engine : Engine) (device : NicDevice) : List (Event hostService) → Prop where
  | compared {events : List (Event hostService)} {answer : Except EngineError Verdict}
      (compared : (engine.validateNv device).run.Runs events answer) : Begun engine device events
  | live {first last : List (Event hostService)} {answer : Except EngineError Verdict}
      {set : Except EngineError Unit} (compared : (engine.validateNv device).run.Runs first answer)
      (live : (applyLive device).run.Runs last set) : Begun engine device (first ++ last)
  | staged {first last : List (Event hostService)} {verdict : Verdict}
      {answer : Except EngineError Bool}
      (compared : (engine.validateNv device).run.Runs first (.ok verdict))
      (needed : verdict.updateNeeded = true)
      (staged : (engine.applyNv device).run.Runs last answer) : Begun engine device (first ++ last)

theorem begun_of_asked {inner : List (Event managerService × List (Event hostService))}
    (asked : Pass.Asked device (inner.map Prod.fst))
    (each : ∀ step ∈ inner, (engine.manage step.1.call).Runs step.2 step.1.answer) :
    Begun engine device (inner.map Prod.snd).flatten := by
  generalize calls : inner.map Prod.fst = made at asked
  cases asked with
  | compared answer =>
      obtain ⟨⟨_, events⟩, rfl, rfl⟩ := List.map_eq_singleton_iff.1 calls
      have compared := each _ List.mem_cons_self
      rw [List.map_singleton, List.flatten_singleton]
      exact .compared compared
  | live answer set =>
      obtain ⟨⟨_, first⟩, rest, rfl, rfl, next⟩ := List.map_eq_cons_iff.1 calls
      obtain ⟨⟨_, last⟩, rfl, rfl⟩ := List.map_eq_singleton_iff.1 next
      have compared := each _ List.mem_cons_self
      have live := each _ (List.mem_cons_of_mem _ List.mem_cons_self)
      rw [List.map_cons, List.map_singleton, List.flatten_cons, List.flatten_singleton]
      exact .live compared live
  | staged needed answer =>
      obtain ⟨⟨_, first⟩, rest, rfl, rfl, next⟩ := List.map_eq_cons_iff.1 calls
      obtain ⟨⟨_, last⟩, rfl, rfl⟩ := List.map_eq_singleton_iff.1 next
      have compared := each _ List.mem_cons_self
      have staged := each _ (List.mem_cons_of_mem _ List.mem_cons_self)
      rw [List.map_cons, List.map_singleton, List.flatten_cons, List.flatten_singleton]
      exact .staged compared needed staged
  | stagedLive needed set =>
      -- The engine does not stage without asking for a boot.
      obtain ⟨first, rest, rfl, -, next⟩ := List.map_eq_cons_iff.1 calls
      obtain ⟨⟨_, last⟩, others, rfl, rfl, -⟩ := List.map_eq_cons_iff.1 next
      have staged := each _ (List.mem_cons_of_mem _ List.mem_cons_self)
      cases runs_applyNv_ok staged

theorem begun_of_runs {events : List (Event nodeService)} {answer : Except DaemonError Outcome}
    (h : (engine.pass device).Runs events answer) : Begun engine device (hostEvents events) := by
  obtain ⟨steps, runs, rfl, all⟩ := runs_interpret_iff.1 h
  obtain ⟨⟨inner, calls, events, each⟩, -⟩ := exists_manager_steps all
  have asked := Pass.configure_asked runs
  rw [← calls] at asked
  rw [← events]
  exact begun_of_asked asked each

end Engine

end NicKeeper
