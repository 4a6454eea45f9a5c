import NicKeeper.Proofs.CallsMade
import NicKeeper.Proofs.Interleaving
import NicKeeper.Proofs.OnMemory

/-!
# Passes over distinct devices

The host in memory keeps its settings by PCI address and by network interface, and each call looks
at one entry and changes at most that one. So of two passes at the same time, over devices that
share no address and no interface, neither takes notice of the other. `host.within footprint` is the
part of the host that the footprint covers, without the record of the calls: it decides how the
covered calls are answered and what they leave there (`handle_within`), and the calls of another
footprint leave it alone (`handle_beyond`).

With three views, of the one device's part, of the other's and of the rest, every entry of the host
is accounted for. In each of them an interleaving of the passes leaves what the passes leave one
after the other (`passes_do_not_interfere`).
-/

namespace NicKeeper

open Program

namespace Dict

variable {α : Type} {d : Dict α} {name : String} {keep : String → Bool}

theorem get?_keep (kept : keep name = true) :
    (d.filter fun name _ => keep name).get? name = d.get? name := by
  rw [get?_filter, kept]
  cases d.get? name with
  | none => rfl
  | some value => rfl

theorem keep_insert (kept : keep name = true) (value : α) :
    (d.insert name value).filter (fun name _ => keep name) =
      (d.filter fun name _ => keep name).insert name value := by
  apply ext_get?
  intro other
  rw [get?_filter, get?_insert, get?_insert, get?_filter]
  split
  · next same =>
      rw [← same, kept]
      rfl
  · rfl

theorem keep_insert_of_dropped (dropped : keep name = false) (value : α) :
    (d.insert name value).filter (fun name _ => keep name) = d.filter fun name _ => keep name := by
  apply ext_get?
  intro other
  rw [get?_filter, get?_insert, get?_filter]
  split
  · next same =>
      rw [← same, dropped]
      cases d.get? name with
      | none => rfl
      | some value => rfl
  · rfl

end Dict

namespace Footprint

/-- No address and no interface is in both. -/
structure Apart (footprint other : Footprint) : Prop where
  address : ∀ pci, footprint.address pci = true → other.address pci = true → False
  interface : ∀ name, footprint.interface name = true → other.interface name = true → False

/-- Everything that is in neither. -/
def rest (footprint other : Footprint) : Footprint where
  address pci := !footprint.address pci && !other.address pci
  interface name := !footprint.interface name && !other.interface name

variable {footprint other : Footprint}

theorem Apart.symm (h : footprint.Apart other) : other.Apart footprint :=
  ⟨fun pci own foreign => h.address pci foreign own,
    fun name own foreign => h.interface name foreign own⟩

theorem rest_apart_left (footprint other : Footprint) :
    (footprint.rest other).Apart footprint := by
  constructor
  · intro pci own foreign
    simp [rest, foreign] at own
  · intro name own foreign
    simp [rest, foreign] at own

theorem rest_apart_right (footprint other : Footprint) : (footprint.rest other).Apart other := by
  constructor
  · intro pci own foreign
    simp [rest, foreign] at own
  · intro name own foreign
    simp [rest, foreign] at own

end Footprint

namespace MemoryHost

variable {footprint other : Footprint} {host host' : MemoryHost} {pci : String}

/-- The part of the host that a footprint covers, without the calls. -/
def within (host : MemoryHost) (footprint : Footprint) : MemoryHost :=
  { host with
    nv := host.nv.filter fun pci _ => footprint.address pci
    readRequests := host.readRequests.filter fun pci _ => footprint.address pci
    qos := host.qos.filter fun name _ => footprint.interface name
    calls := [] }

/-! ## Covered calls -/

theorem get?_nv_within (same : host.within footprint = host'.within footprint)
    (own : footprint.address pci = true) : host.nv.get? pci = host'.nv.get? pci := by
  have entries : (host.within footprint).nv = (host'.within footprint).nv := by rw [same]
  rw [← Dict.get?_keep own]
  exact (congrArg (·.get? pci) entries).trans (Dict.get?_keep own)

theorem get?_readRequests_within (same : host.within footprint = host'.within footprint)
    (own : footprint.address pci = true) :
    host.readRequests.get? pci = host'.readRequests.get? pci := by
  have entries : (host.within footprint).readRequests = (host'.within footprint).readRequests := by
    rw [same]
  rw [← Dict.get?_keep own]
  exact (congrArg (·.get? pci) entries).trans (Dict.get?_keep own)

theorem get?_qos_within (same : host.within footprint = host'.within footprint) {name : String}
    (own : footprint.interface name = true) : host.qos.get? name = host'.qos.get? name := by
  have entries : (host.within footprint).qos = (host'.within footprint).qos := by rw [same]
  rw [← Dict.get?_keep own]
  exact (congrArg (·.get? name) entries).trans (Dict.get?_keep own)

/-- Two results of a change look the same to a footprint. -/
def SameWithin (footprint : Footprint) (result result' : Except HostError MemoryHost) : Prop :=
  result.map (·.within footprint) = result'.map (·.within footprint)

theorem commit_within {result result' : Except HostError MemoryHost}
    (same : host.within footprint = host'.within footprint)
    (results : SameWithin footprint result result') :
    (host.commit result).1 = (host'.commit result').1 ∧
      (host.commit result).2.within footprint = (host'.commit result').2.within footprint := by
  match result, result' with
  | .ok changed, .ok changed' => exact ⟨rfl, Except.ok.inj results⟩
  | .error e, .error e' =>
      cases results
      exact ⟨rfl, same⟩
  | .ok _, .error _ | .error _, .ok _ => cases results

theorem check_within (same : host.within footprint = host'.within footprint)
    (operation : HostOperation) : host.check operation = host'.check operation := by
  have covered : (host.within footprint).check operation =
      (host'.within footprint).check operation := by rw [same]
  exact covered

theorem SameWithin.check {next next' : Except HostError MemoryHost}
    (same : host.within footprint = host'.within footprint) (operation : HostOperation)
    (rest : SameWithin footprint next next') :
    SameWithin footprint (host.check operation >>= fun _ => next)
      (host'.check operation >>= fun _ => next') := by
  rw [check_within same]
  cases host'.check operation with
  | error e => rfl
  | ok _ => exact rest

theorem changeNv_within (same : host.within footprint = host'.within footprint)
    (own : footprint.address pci = true) (change : NvMemory → Except HostError NvMemory) :
    SameWithin footprint (host.changeNv pci change) (host'.changeNv pci change) := by
  rw [changeNv, changeNv, get?_nv_within same own]
  cases host'.nv.get? pci with
  | none => rfl
  | some nv =>
      show SameWithin footprint ((change nv).bind _) ((change nv).bind _)
      cases change nv with
      | error e => rfl
      | ok nv =>
          have insert : ∀ host : MemoryHost,
              within { host with nv := host.nv.insert pci nv } footprint =
                { host.within footprint with nv := (host.within footprint).nv.insert pci nv } :=
            fun host => by rw [within, Dict.keep_insert own]; rfl
          refine congrArg Except.ok ?_
          dsimp only
          rw [insert, insert, same]

theorem stageParameter_within (same : host.within footprint = host'.within footprint)
    (own : footprint.address pci = true) (name value : String) :
    SameWithin footprint (host.stageParameter pci name value)
      (host'.stageParameter pci name value) := by
  have failing : host.failingParameters = host'.failingParameters :=
    (congrArg MemoryHost.failingParameters same :)
  rw [stageParameter, stageParameter, failing]
  refine .check same _ ?_
  split
  · rfl
  · exact changeNv_within same own _

theorem resetFirmware_within (same : host.within footprint = host'.within footprint)
    (own : footprint.address pci = true) (limit : Option Duration) :
    (host.resetFirmware pci limit).1 = (host'.resetFirmware pci limit).1 ∧
      (host.resetFirmware pci limit).2.within footprint =
        (host'.resetFirmware pci limit).2.within footprint := by
  have delay : host.resetsWithin limit = host'.resetsWithin limit := by
    have slow : host.resetDelay = host'.resetDelay := (congrArg MemoryHost.resetDelay same :)
    unfold resetsWithin
    rw [slow]
  rw [resetFirmware, resetFirmware, check_within same, delay]
  split
  · exact ⟨rfl, same⟩
  · split
    · obtain ⟨answer, left⟩ := commit_within same
        (changeNv_within same own fun nv => .ok nv.activate)
      exact ⟨congrArg some answer, left⟩
    · exact ⟨rfl, same⟩

theorem readTable_within {α : Type} {table table' : Dict α} {key : String}
    (same : host.within footprint = host'.within footprint)
    (found : table.get? key = table'.get? key) (operation : HostOperation) (what : String) :
    host.readTable operation table what key = host'.readTable operation table' what key := by
  rw [readTable, readTable, check_within same, found]

theorem record_within (host : MemoryHost) (footprint : Footprint) (call : HostCall) :
    (host.record call).within footprint = host.within footprint := rfl

/-- The part of the host that a footprint covers decides how covered calls are answered and what
they make of this part. -/
theorem handle_within (footprint : Footprint) :
    Within handle (fun call : hostService.Call => footprint.Covers call)
      (·.within footprint) := by
  intro call own host host' same
  dsimp only at same
  have recorded : (host.record call).within footprint = (host'.record call).within footprint := by
    rw [record_within, record_within, same]
  cases call with
  | linkSpeed pci =>
      have speeds : host.linkSpeeds = host'.linkSpeeds := (congrArg MemoryHost.linkSpeeds same :)
      exact ⟨readTable_within same (congrArg (·.get? pci) speeds) _ _, same⟩
  | queryNv pci limit =>
      refine ⟨?_, recorded⟩
      show some ((host.readTable .queryNv host.nv _ pci).map _) = some (Except.map _ _)
      rw [readTable_within same (get?_nv_within same own)]
  | readRequest pci =>
      exact ⟨readTable_within same (get?_readRequests_within same own) _ _, same⟩
  | qos name => exact ⟨readTable_within same (get?_qos_within same own) _ _, same⟩
  | setNv pci name value =>
      exact commit_within recorded (stageParameter_within recorded own name value)
  | resetNv pci =>
      exact commit_within recorded (.check recorded _ (changeNv_within recorded own _))
  | resetFirmware pci limit => exact resetFirmware_within recorded own limit
  | setReadRequest pci size =>
      refine commit_within recorded (.check same _ (congrArg Except.ok ?_))
      have put : ∀ host : MemoryHost, (host.putReadRequest pci size).within footprint =
          (host.within footprint).putReadRequest pci size := fun host => by
        rw [putReadRequest, within, Dict.keep_insert own]
        rfl
      dsimp only
      rw [put, put, recorded]
  | setQos name trust pfc =>
      refine commit_within recorded (.check same _ (congrArg Except.ok ?_))
      have put : ∀ host : MemoryHost, (host.putQos name trust pfc).within footprint =
          (host.within footprint).putQos name trust pfc := fun host => by
        rw [putQos, within, Dict.keep_insert own]
        rfl
      dsimp only
      rw [put, put, recorded]
  | _ => exact own.elim

/-! ## Calls of another footprint -/

/-- A change leaves alone what a footprint covers. -/
def SparesWithin (footprint : Footprint) (host : MemoryHost)
    (result : Except HostError MemoryHost) : Prop :=
  ∀ changed, result = .ok changed → changed.within footprint = host.within footprint

theorem commit_beyond {result : Except HostError MemoryHost}
    (spares : SparesWithin footprint host result) :
    (host.commit result).2.within footprint = host.within footprint := by
  cases result with
  | error e => rfl
  | ok changed => exact spares changed rfl

theorem SparesWithin.check {next : Except HostError MemoryHost} (operation : HostOperation)
    (rest : SparesWithin footprint host next) :
    SparesWithin footprint host (host.check operation >>= fun _ => next) := by
  cases host.check operation with
  | error e => exact nofun
  | ok _ => exact rest

theorem changeNv_beyond (foreign : footprint.address pci = false)
    (change : NvMemory → Except HostError NvMemory) :
    SparesWithin footprint host (host.changeNv pci change) := by
  intro changed made
  cases found : host.nv.get? pci with
  | none =>
      rw [changeNv, found] at made
      cases made
  | some nv =>
      rw [Engine.changeNv_found found] at made
      cases changes : change nv with
      | error e =>
          rw [changes] at made
          cases made
      | ok nv =>
          rw [changes] at made
          cases made
          rw [within, Dict.keep_insert_of_dropped foreign]
          rfl

theorem stageParameter_beyond (foreign : footprint.address pci = false) (name value : String) :
    SparesWithin footprint host (host.stageParameter pci name value) := by
  refine .check _ ?_
  split
  · exact nofun
  · exact changeNv_beyond foreign _

theorem resetFirmware_beyond (foreign : footprint.address pci = false) (limit : Option Duration) :
    (host.resetFirmware pci limit).2.within footprint = host.within footprint := by
  rw [resetFirmware]
  split
  · rfl
  · split
    · exact commit_beyond (changeNv_beyond foreign _)
    · rfl

/-- Calls that another footprint covers leave alone what is apart from it. -/
theorem handle_beyond (apart : footprint.Apart other) :
    Beyond handle (fun call : hostService.Call => other.Covers call) (·.within footprint) := by
  intro call own host
  have address : ∀ pci, other.address pci = true → footprint.address pci = false :=
    fun pci own => Bool.eq_false_iff.2 fun both => apart.address pci both own
  have interface : ∀ name, other.interface name = true → footprint.interface name = false :=
    fun name own => Bool.eq_false_iff.2 fun both => apart.interface name both own
  cases call with
  | linkSpeed | queryNv | readRequest | qos => rfl
  | setNv pci name value =>
      exact commit_beyond (stageParameter_beyond (address pci own) name value)
  | resetNv pci => exact commit_beyond (.check _ (changeNv_beyond (address pci own) _))
  | resetFirmware pci limit => exact resetFirmware_beyond (address pci own) limit
  | setReadRequest pci size =>
      refine commit_beyond (.check _ fun changed made => ?_)
      cases made
      rw [putReadRequest, within, Dict.keep_insert_of_dropped (address pci own)]
      rfl
  | setQos name trust pfc =>
      refine commit_beyond (.check _ fun changed made => ?_)
      cases made
      rw [putQos, within, Dict.keep_insert_of_dropped (interface name own)]
      rfl
  | _ => exact own.elim

/-! ## The whole host -/

/-- The two parts and what is left are everything but the record of the calls. -/
theorem clearCalls_eq (first : host.within footprint = host'.within footprint)
    (second : host.within other = host'.within other)
    (left : host.within (footprint.rest other) = host'.within (footprint.rest other)) :
    host.clearCalls = host'.clearCalls := by
  have addresses : ∀ pci, footprint.address pci = true ∨ other.address pci = true ∨
      (footprint.rest other).address pci = true := fun pci => by
    cases own : footprint.address pci <;> cases theirs : other.address pci <;>
      simp [Footprint.rest, own, theirs]
  have interfaces : ∀ name, footprint.interface name = true ∨ other.interface name = true ∨
      (footprint.rest other).interface name = true := fun name => by
    cases own : footprint.interface name <;> cases theirs : other.interface name <;>
      simp [Footprint.rest, own, theirs]
  have nv : host.nv = host'.nv := Dict.ext_get? fun pci => by
    rcases addresses pci with own | own | own
    · exact get?_nv_within first own
    · exact get?_nv_within second own
    · exact get?_nv_within left own
  have readRequests : host.readRequests = host'.readRequests := Dict.ext_get? fun pci => by
    rcases addresses pci with own | own | own
    · exact get?_readRequests_within first own
    · exact get?_readRequests_within second own
    · exact get?_readRequests_within left own
  have qos : host.qos = host'.qos := Dict.ext_get? fun name => by
    rcases interfaces name with own | own | own
    · exact get?_qos_within first own
    · exact get?_qos_within second own
    · exact get?_qos_within left own
  have whole : ∀ host : MemoryHost, host.clearCalls =
      { host.within footprint with
        nv := host.nv, readRequests := host.readRequests, qos := host.qos } := fun _ => rfl
  rw [whole, whole, first, nv, readRequests, qos]

end MemoryHost

/-- No port of the one device has the address or the interface of a port of the other. -/
structure NicDevice.Distinct (device other : NicDevice) : Prop where
  addresses : ∀ port ∈ device.knownPorts, ∀ port' ∈ other.knownPorts, port.pci ≠ port'.pci
  interfaces : ∀ port ∈ device.knownPorts, ∀ port' ∈ other.knownPorts,
    port.networkInterface ≠ port'.networkInterface

theorem NicDevice.Distinct.apart {device other : NicDevice} (h : device.Distinct other) :
    device.footprint.Apart other.footprint := by
  constructor
  · intro pci own theirs
    obtain ⟨port, mem, same⟩ := List.any_eq_true.1 own
    obtain ⟨port', mem', same'⟩ := List.any_eq_true.1 theirs
    exact h.addresses port mem port' mem' ((beq_iff_eq.1 same).trans (beq_iff_eq.1 same').symm)
  · intro name own theirs
    obtain ⟨port, mem, same⟩ := List.any_eq_true.1 own
    obtain ⟨port', mem', same'⟩ := List.any_eq_true.1 theirs
    exact h.interfaces port mem port' mem' ((beq_iff_eq.1 same).trans (beq_iff_eq.1 same').symm)

namespace Engine

variable {ω ω' : Type}

/-- Two passes share a host, and each has a way of its own to write statuses. -/
abbrev Shared (ω ω' : Type) := MemoryHost × ω × ω'

/-- The calls of the first pass. -/
def onFirst (writer : StatusWriter ω) : Handler nodeService (Shared ω ω') :=
  fun call (host, log, log') =>
    let (answer, host, log) := onHost writer call (host, log)
    (answer, host, log, log')

/-- The calls of the second pass. -/
def onSecond (writer : StatusWriter ω') : Handler nodeService (Shared ω ω') :=
  fun call (host, log, log') =>
    let (answer, host, log') := onHost writer call (host, log')
    (answer, host, log, log')

variable {footprint other : Footprint}

theorem onFirst_within (footprint : Footprint) (writer : StatusWriter ω) :
    Within (onFirst writer : Handler nodeService (Shared ω ω'))
      (fun call : nodeService.Call => call.Covered footprint)
      (fun state => (state.1.within footprint, state.2.1)) := by
  intro call own ⟨host, log, _⟩ ⟨host', log', _⟩ same
  obtain ⟨sameHost, sameLog⟩ := Prod.mk.inj same
  cases call with
  | host call =>
      obtain ⟨answer, left⟩ := MemoryHost.handle_within footprint call own host host' sameHost
      exact ⟨answer, Prod.ext left sameLog⟩
  | writeStatus device report =>
      obtain rfl : log = log' := sameLog
      exact ⟨rfl, Prod.ext sameHost rfl⟩

theorem onSecond_within (footprint : Footprint) (writer : StatusWriter ω') :
    Within (onSecond writer : Handler nodeService (Shared ω ω'))
      (fun call : nodeService.Call => call.Covered footprint)
      (fun state => (state.1.within footprint, state.2.2)) := by
  intro call own ⟨host, _, log⟩ ⟨host', _, log'⟩ same
  obtain ⟨sameHost, sameLog⟩ := Prod.mk.inj same
  cases call with
  | host call =>
      obtain ⟨answer, left⟩ := MemoryHost.handle_within footprint call own host host' sameHost
      exact ⟨answer, Prod.ext left sameLog⟩
  | writeStatus device report =>
      obtain rfl : log = log' := sameLog
      exact ⟨rfl, Prod.ext sameHost rfl⟩

/-- The calls of the first pass can be seen neither in what is apart from its footprint nor in the
log of the second. -/
theorem onFirst_beyond (apart : footprint.Apart other) (writer : StatusWriter ω) :
    Beyond (onFirst writer : Handler nodeService (Shared ω ω'))
      (fun call : nodeService.Call => call.Covered other)
      (fun state => (state.1.within footprint, state.2.2)) := by
  intro call own ⟨host, log, log'⟩
  cases call with
  | host call => exact Prod.ext (MemoryHost.handle_beyond apart call own host) rfl
  | writeStatus device report => rfl

theorem onSecond_beyond (apart : footprint.Apart other) (writer : StatusWriter ω') :
    Beyond (onSecond writer : Handler nodeService (Shared ω ω'))
      (fun call : nodeService.Call => call.Covered other)
      (fun state => (state.1.within footprint, state.2.1)) := by
  intro call own ⟨host, log, log'⟩
  cases call with
  | host call => exact Prod.ext (MemoryHost.handle_beyond apart call own host) rfl
  | writeStatus device report => rfl

/-- The logs are the same, and the hosts are but for the order of the calls that they recorded. -/
def Alike (state state' : Shared ω ω') : Prop :=
  state.1.clearCalls = state'.1.clearCalls ∧ state.2 = state'.2

variable {engine engine' : Engine} {device device' : NicDevice} {writer : StatusWriter ω}
  {writer' : StatusWriter ω'} {state after after' : Shared ω ω'}
  {outcomes outcomes' : Except DaemonError Outcome × Except DaemonError Outcome}

/-- All orders of the calls of two passes over distinct devices come to the same. -/
theorem interleaved_alike (distinct : device.Distinct device')
    (h : Interleaved (onFirst writer) (onSecond writer') (engine.pass device)
      (engine'.pass device') state outcomes after)
    (h' : Interleaved (onFirst writer) (onSecond writer') (engine.pass device)
      (engine'.pass device') state outcomes' after') :
    outcomes = outcomes' ∧ Alike after after' := by
  have apart := distinct.apart
  have calls := pass_covered engine device
  have calls' := pass_covered engine' device'
  have first := h.first_alone calls calls' (onFirst_within _ writer)
    (onSecond_beyond apart writer') rfl
  have first' := h'.first_alone calls calls' (onFirst_within _ writer)
    (onSecond_beyond apart writer') rfl
  have second := h.second_alone calls calls' (onSecond_within _ writer')
    (onFirst_beyond apart.symm writer)
  have second' := h'.second_alone calls calls' (onSecond_within _ writer')
    (onFirst_beyond apart.symm writer)
  have rest : ∀ {outcomes after},
      Interleaved (onFirst writer) (onSecond writer') (engine.pass device) (engine'.pass device')
        state outcomes after →
      after.1.within (device.footprint.rest device'.footprint) =
        state.1.within (device.footprint.rest device'.footprint) := fun h => by
    have unseen : Beyond (onFirst writer : Handler nodeService (Shared ω ω'))
        (fun call : nodeService.Call => call.Covered device.footprint)
        (fun state => state.1.within (device.footprint.rest device'.footprint)) :=
      (onFirst_beyond (Footprint.rest_apart_left _ _) writer).map Prod.fst
    have unseen' : Beyond (onSecond writer' : Handler nodeService (Shared ω ω'))
        (fun call : nodeService.Call => call.Covered device'.footprint)
        (fun state => state.1.within (device.footprint.rest device'.footprint)) :=
      (onSecond_beyond (Footprint.rest_apart_right _ _) writer').map Prod.fst
    exact h.unseen calls calls' unseen unseen'
  obtain ⟨sameHost, sameLog⟩ := Prod.mk.inj (first.2.trans first'.2.symm)
  obtain ⟨sameHost', sameLog'⟩ := Prod.mk.inj (second.2.trans second'.2.symm)
  refine ⟨Prod.ext (first.1.trans first'.1.symm) (second.1.trans second'.1.symm), ?_⟩
  exact ⟨MemoryHost.clearCalls_eq sameHost sameHost' ((rest h).trans (rest h').symm),
    Prod.ext sameLog sameLog'⟩

/-- Passes over devices that share no address and no interface do not interfere: in whatever order
their calls to the host and their status writes are answered, they come to what they come to one
after the other, whichever is first, write the same, and leave the same settings. -/
theorem passes_do_not_interfere (distinct : device.Distinct device')
    (h : Interleaved (onFirst writer) (onSecond writer') (engine.pass device)
      (engine'.pass device') state outcomes after) :
    (let early := (engine.pass device).run (onFirst writer) state
      let late := (engine'.pass device').run (onSecond writer') early.2
      outcomes = (early.1, late.1) ∧ Alike after late.2) ∧
    (let early := (engine'.pass device').run (onSecond writer') state
      let late := (engine.pass device).run (onFirst writer) early.2
      outcomes = (late.1, early.1) ∧ Alike after late.2) :=
  ⟨interleaved_alike distinct h (interleaved_run _ _ _ _ state),
    interleaved_alike distinct h (interleaved_run _ _ _ _ state).swap⟩

/-- Beside the device that asks for virtual functions there is another one, that asks for its
factory defaults. -/
def sampleNeighbour : NicDevice :=
  { Sample.resetDevice with
    metadata := { name := some "d1" }
    status := some { ports := [{ pci := "p1", networkInterface := "e1" }] } }

def sampleShared : Shared (List Report) (List Report) :=
  ((Sample.host offValue "0").updateNv "p1" (·.addParameter "SRIOV_EN" offValue onValue onValue),
    [], [])

/-- Their passes, call by call in turn. -/
def sampleTurns : (Except DaemonError Outcome × Except DaemonError Outcome) ×
    Shared (List Report) (List Report) :=
  takeTurns (onFirst (accepting fun _ report log => log ++ [report]))
    (onSecond (accepting fun _ report log => log ++ [report]))
    [.first, .second, .second, .first, .second, .first, .first, .second]
    (Sample.engine.pass (Sample.device [])) (Sample.engine.pass sampleNeighbour) sampleShared

theorem sample_passes_apart :
    (Sample.device []).Distinct sampleNeighbour ∧
      sampleTurns.1.1.toOption = some .rebootRequired ∧ sampleTurns.1.2.toOption = some .failed ∧
      (let early := (Sample.engine.pass sampleNeighbour).run
          (onSecond (accepting fun _ report log => log ++ [report])) sampleShared
        let late := (Sample.engine.pass (Sample.device [])).run
          (onFirst (accepting fun _ report log => log ++ [report])) early.2
        sampleTurns.1 = (late.1, early.1) ∧ Alike sampleTurns.2 late.2) := by
  have distinct : (Sample.device []).Distinct sampleNeighbour := by
    constructor
    · rintro _ (_ | ⟨_, ⟨⟩⟩) _ (_ | ⟨_, ⟨⟩⟩)
      decide
    · rintro _ (_ | ⟨_, ⟨⟩⟩) _ (_ | ⟨_, ⟨⟩⟩)
      decide
  refine ⟨distinct, by decide +kernel, by decide +kernel, ?_⟩
  exact (passes_do_not_interfere distinct (interleaved_takeTurns _ _ _ _ _ _)).2

end Engine

end NicKeeper
