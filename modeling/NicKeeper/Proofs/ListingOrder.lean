import Mathlib.Data.List.Nodup
import NicKeeper.Proofs.Rediscovery

/-!
# The order of directory listings

A system delivers the entries of a directory in an order of its own, and not always in the same one
(`Delivery`). Whoever lists a directory must not be told apart by that: a search puts the functions
of a node in the order of their addresses, and takes the least of several interface names.

Only listings are answered differently by two deliveries, so a program that lists nothing is run in
the same way by both (`steady_of_only`). The three calls to a host that list a directory do
something to the entries that forgets their order: of a rearranged list `least?` is the same
(`least?_perm`) and so is what `sortFunctions` makes of it, because functions that differ have
different addresses, so they have one ascending order (`sortFunctions_perm`). That is all about
listings there is to know, since what the engine does is told by the answers to its calls
(`steady_interpret`).

An entry is known by its name as text. Where names are not in UTF-8 two entries can be the same
text; then a function is read once for each, and the order is not a strict one. Of all others it is
(`World.TellsApart`).
-/

namespace NicKeeper

open Program

/-- In which order the entries of directories are delivered, which may be another one for each
listing: the first argument is how many there were before. -/
structure Delivery where
  order : Nat → Path → List EntryName → List EntryName
  perm : ∀ n path names, (order n path names).Perm names

namespace World

/-- Answers calls as the world does, with the entries of directories in the order of a delivery. The
number is how many listings there were. -/
def deliver (delivery : Delivery) : Handler systemService (World × Nat)
  | .listDirectory path, (world, n) =>
    ((world.listDirectory path).map (delivery.order n path), (world, n + 1))
  | .readFile path, (world, n) => (world.readFile path, (world, n))
  | .fileExists path, (world, n) => ((world.resolve path).toOption.isSome, (world, n))
  | .runTool command, (world, n) =>
    ((world.runTool command).1, ((world.runTool command).2, n))

end World

/-! ## Programs that no order can be seen in -/

section Steady

variable {S : Service} {α β ε : Type}

/-- Every delivery runs a program as the world does: with the same result, and to the same world. -/
def Steady (program : Program systemService α) : Prop :=
  ∀ (delivery : Delivery) (world : World) (n : Nat), ∃ m,
    program.run (World.deliver delivery) (world, n) =
      ((program.run World.handle world).1, ((program.run World.handle world).2, m))

theorem steady_done (value : α) : Steady (.done value : Program systemService α) :=
  fun _ _ n => ⟨n, rfl⟩

theorem Steady.bind {program : Program systemService α} {next : α → Program systemService β}
    (first : Steady program) (rest : ∀ value, Steady (next value)) :
    Steady (program.bind next) := by
  intro delivery world n
  obtain ⟨mid, ran⟩ := first delivery world n
  obtain ⟨m, goesOn⟩ := rest (program.run World.handle world).1 delivery
    (program.run World.handle world).2 mid
  exact ⟨m, by rw [run_bind, run_bind, ran, goesOn]⟩

/-- Whether a call is none for the entries of a directory. -/
def SystemCall.ListsNothing : SystemCall → Prop
  | .listDirectory _ => False
  | _ => True

/-- Programs that list nothing. -/
abbrev ListsNothing (program : Program systemService α) : Prop :=
  Only (fun call : systemService.Call => SystemCall.ListsNothing call) program

theorem steady_of_only {program : Program systemService α} (h : ListsNothing program) :
    Steady program := by
  induction program with
  | done value => exact steady_done value
  | ask call next ih =>
      intro delivery world n
      have own : SystemCall.ListsNothing call :=
        h _ _ (runs_trace World.handle (.ask call next) world) _ List.mem_cons_self
      have rest (answer : systemService.Answer call) : ListsNothing (next answer) :=
        fun events value runs event mem =>
          h _ _ (Runs.ask runs) event (List.mem_cons_of_mem _ mem)
      have same : World.deliver delivery call (world, n) =
          ((World.handle call world).1, ((World.handle call world).2, n)) := by
        cases call with
        | listDirectory path => cases own
        | readFile path => rfl
        | fileExists path => rfl
        | runTool command => rfl
      obtain ⟨m, goesOn⟩ := ih (World.handle call world).1 (rest _) delivery
        (World.handle call world).2 n
      exact ⟨m, by rw [run_ask, run_ask, same, goesOn]⟩

/-- A program is steady if all that stands in the place of its calls is. -/
theorem steady_interpret {via : (call : S.Call) → Program systemService (S.Answer call)}
    (each : ∀ call, Steady (via call)) (program : Program S α) :
    Steady (program.interpret via) := by
  induction program with
  | done value => exact steady_done value
  | ask call next ih => exact (each call).bind ih

end Steady

/-! ## Putting entries in order -/

namespace SystemHost

variable {function : PciFunction} {functions : List PciFunction}

theorem insertFunction_perm (function : PciFunction) (functions : List PciFunction) :
    (insertFunction function functions).Perm (function :: functions) := by
  induction functions with
  | nil => exact .refl _
  | cons other rest ih =>
      rw [insertFunction]
      split
      · exact (ih.cons other).trans (.swap function other rest)
      · exact .refl _

theorem sortFunctions_perm_self (functions : List PciFunction) :
    (sortFunctions functions).Perm functions := by
  induction functions with
  | nil => exact .refl _
  | cons function rest ih => exact (insertFunction_perm _ _).trans (ih.cons function)

theorem pairwise_insertFunction (h : functions.Pairwise (·.address ≤ ·.address)) :
    (insertFunction function functions).Pairwise (·.address ≤ ·.address) := by
  induction functions with
  | nil => exact List.pairwise_singleton _ _
  | cons other rest ih =>
      obtain ⟨below, sorted⟩ := List.pairwise_cons.1 h
      rw [insertFunction]
      split
      · next first =>
          refine List.pairwise_cons.2 ⟨fun later mem => ?_, ih sorted⟩
          rcases mem_insertFunction.1 mem with rfl | mem
          · exact String.not_lt.1 (String.lt_asymm first)
          · exact below later mem
      · next notFirst =>
          refine List.pairwise_cons.2 ⟨fun later mem => ?_, h⟩
          rcases List.mem_cons.1 mem with rfl | mem
          · exact String.not_lt.1 notFirst
          · exact String.le_trans (String.not_lt.1 notFirst) (below later mem)

theorem pairwise_sortFunctions (functions : List PciFunction) :
    (sortFunctions functions).Pairwise (·.address ≤ ·.address) := by
  induction functions with
  | nil => exact .nil
  | cons function rest ih => exact pairwise_insertFunction ih

/-- Functions with different addresses are put in strictly ascending order. -/
theorem strict_sortFunctions (h : (functions.map (·.address)).Nodup) :
    (sortFunctions functions).Pairwise (·.address < ·.address) := by
  have distinct : (sortFunctions functions).Pairwise (·.address ≠ ·.address) :=
    List.pairwise_map.1 (((sortFunctions_perm_self functions).map _).nodup_iff.2 h)
  refine (distinct.and (pairwise_sortFunctions functions)).imp fun ⟨differ, below⟩ => ?_
  exact Dict.lt_of_not_lt_of_ne (String.not_lt.2 below) differ.symm

/-- There is one ascending order of functions that are told apart by their addresses, whatever order
they had before. -/
theorem sortFunctions_perm {others : List PciFunction} (h : functions.Perm others)
    (apart : ∀ function ∈ functions, ∀ other ∈ functions,
      function.address = other.address → function = other) :
    sortFunctions functions = sortFunctions others := by
  have perm : (sortFunctions functions).Perm (sortFunctions others) :=
    (sortFunctions_perm_self functions).trans (h.trans (sortFunctions_perm_self others).symm)
  refine perm.eq_of_pairwise (fun a b mem mem' below above => ?_)
    (pairwise_sortFunctions functions) (pairwise_sortFunctions others)
  exact apart a (mem_sortFunctions.1 mem) b (h.mem_iff.2 (mem_sortFunctions.1 mem'))
    (String.le_antisymm below above)

theorem least?_eq_none_iff {names : List String} : least? names = none ↔ names = [] := by
  cases names with
  | nil => exact iff_of_true rfl rfl
  | cons name rest =>
      refine iff_of_false ?_ nofun
      rw [least?]
      split
      · exact nofun
      · exact nofun

theorem least_of_least? {names : List String} {name : String} (h : least? names = some name) :
    name ∈ names ∧ ∀ other ∈ names, name ≤ other := by
  induction names generalizing name with
  | nil => cases h
  | cons first rest ih =>
      rw [least?] at h
      split at h
      · next none =>
          obtain rfl := Option.some.inj h
          obtain rfl := least?_eq_none_iff.1 none
          exact ⟨List.mem_cons_self, by simp⟩
      · next least found =>
          obtain ⟨mem, below⟩ := ih found
          obtain rfl := Option.some.inj h
          rw [List.forall_mem_cons]
          split
          · next less =>
              exact ⟨List.mem_cons_of_mem _ mem, String.not_lt.1 (String.lt_asymm less), below⟩
          · next notLess =>
              exact ⟨List.mem_cons_self, String.le_refl _, fun other own =>
                String.le_trans (String.not_lt.1 notLess) (below other own)⟩

/-- Of names in another order the least is the same. -/
theorem least?_perm {names others : List String} (h : names.Perm others) :
    least? names = least? others := by
  cases found : least? names with
  | none =>
      obtain rfl := least?_eq_none_iff.1 found
      obtain rfl := h.nil_eq
      rfl
  | some name =>
      cases found' : least? others with
      | none =>
          obtain rfl := least?_eq_none_iff.1 found'
          rw [h.eq_nil] at found
          cases found
      | some other =>
          obtain ⟨mem, below⟩ := least_of_least? found
          obtain ⟨mem', below'⟩ := least_of_least? found'
          exact congrArg some
            (String.le_antisymm (below other (h.mem_iff.2 mem')) (below' name (h.mem_iff.1 mem)))

/-! ## Calls to a host -/

theorem listsNothing_run (program : String) (arguments : List String) :
    ListsNothing (run program arguments).run := by
  refine Only.bindT (only_ask trivial fun _ => only_done _) fun reply => ?_
  cases reply with
  | error cause => exact only_done _
  | ok reply =>
      dsimp only
      split
      · exact only_done _
      · exact only_done _

theorem listsNothing_readAttribute (pci name : String) :
    ListsNothing (readAttribute pci name).run := by
  refine Only.bindT (only_ask trivial fun _ => only_done _) fun found => ?_
  cases found with
  | error cause => exact only_done _
  | ok bytes =>
      dsimp only
      split
      · exact only_done _
      · exact only_done _

section Names

variable [PciNames]

theorem listsNothing_readFunction (pci : String) : ListsNothing (readFunction pci).run :=
  Only.bindT (listsNothing_readAttribute pci "vendor") fun _ =>
    Only.bindT (listsNothing_readAttribute pci "device") fun _ =>
      Only.bindT (listsNothing_readAttribute pci "class") fun _ => only_done _

theorem listsNothing_readFunctions (addresses : List String) :
    ListsNothing (readFunctions addresses) := by
  induction addresses with
  | nil => exact only_done _
  | cons pci rest ih =>
      refine Only.bind (listsNothing_readFunction pci) fun result => ?_
      cases result with
      | error cause => exact ih
      | ok function => exact Only.bind ih fun _ => only_done _

/-- Functions that are read in one world are told apart by their addresses. -/
theorem eq_of_address_eq {world : World} {addresses : List String} :
    ∀ function ∈ addresses.filterMap world.function?,
      ∀ other ∈ addresses.filterMap world.function?,
        function.address = other.address → function = other := by
  intro function mem other mem' same
  obtain ⟨pci, -, read⟩ := List.mem_filterMap.1 mem
  obtain ⟨pci', -, read'⟩ := List.mem_filterMap.1 mem'
  rw [World.address_of_function? read, World.address_of_function? read'] at same
  rw [same] at read
  exact Option.some.inj (read.symm.trans read')

theorem steady_listFunctions : Steady listFunctions.run := by
  intro delivery world n
  rw [run_listFunctions, listFunctions_eq, run_ask, World.deliver]
  cases listed : world.listDirectory devicesPath with
  | error cause => exact ⟨n + 1, rfl⟩
  | ok entries =>
      have perm := ((delivery.perm n devicesPath entries).symm.map EntryName.shown).filterMap
        world.function?
      have same := sortFunctions_perm perm eq_of_address_eq
      obtain ⟨m, ran⟩ := steady_of_only (listsNothing_readFunctions
        ((delivery.order n devicesPath entries).map EntryName.shown)) delivery world (n + 1)
      refine ⟨m, ?_⟩
      show ((readFunctions ((delivery.order n devicesPath entries).map EntryName.shown)).bind
        _).run _ _ = _
      rw [run_bind, ran, run_readFunctions]
      dsimp only
      rw [same]
      rfl

end Names

theorem steady_firstEntry (path : Path) : Steady (firstEntry path) := by
  intro delivery world n
  refine ⟨n + 1, congrArg (·, (world, n + 1)) ?_⟩
  show ((world.listDirectory path).map (delivery.order n path)).toOption.bind
      (fun entries => least? (entries.map EntryName.shown)) =
    (world.listDirectory path).toOption.bind fun entries => least? (entries.map EntryName.shown)
  cases world.listDirectory path with
  | error cause => rfl
  | ok entries => exact least?_perm ((delivery.perm n path entries).map _)

theorem steady_tool {α : Type} (program : String) (arguments : List String)
    (read : List Char → Except HostError α) :
    Steady (run program arguments >>= fun text => ofExcept (read text)).run :=
  steady_of_only (Only.bindT (listsNothing_run program arguments) fun _ => only_done _)

theorem listsNothing_discard_run (program : String) (arguments : List String) :
    ListsNothing (discard (run program arguments)).run :=
  Only.bind (listsNothing_run program arguments) fun result => by
    cases result <;> exact only_done _

/-- No call to a host shows in which order directories are listed. -/
theorem steady_answer [PciNames] (call : HostCall) : Steady (answer call) := by
  cases call with
  | listFunctions => exact steady_listFunctions
  | interfaceName pci => exact steady_firstEntry _
  | rdmaInterfaceName pci => exact steady_firstEntry _
  | isVirtualFunction pci => exact steady_of_only (only_ask trivial fun _ => only_done _)
  | cardLabel pci => exact steady_tool _ _ _
  | firmwareLabel pci => exact steady_tool _ _ _
  | linkSpeed pci =>
      exact steady_of_only (Only.bindT (listsNothing_readAttribute _ _) fun _ => only_done _)
  | queryNv pci limit => exact (steady_tool _ _ _).bind fun _ => steady_done _
  | setNv pci name value => exact steady_of_only (listsNothing_discard_run _ _)
  | resetNv pci => exact steady_of_only (listsNothing_discard_run _ _)
  | resetFirmware pci limit =>
      exact (steady_of_only (listsNothing_discard_run _ _)).bind fun _ => steady_done _
  | readRequest pci => exact steady_tool _ _ _
  | setReadRequest pci size =>
      exact steady_of_only (Only.bindT (only_done _) fun _ => listsNothing_discard_run _ _)
  | qos interface => exact steady_tool _ _ _
  | setQos interface trust pfc => exact steady_of_only (listsNothing_discard_run _ _)

end SystemHost

/-! ## What a search finds -/

namespace World

/-- The entries for functions have different names as texts. -/
def TellsApart (world : World) : Prop :=
  ∀ entries, world.listDirectory SystemHost.devicesPath = .ok entries →
    (entries.map EntryName.shown).Nodup

theorem nodup_eraseDups (names : List EntryName) : names.eraseDups.Nodup := by
  match names with
  | [] => exact .nil
  | name :: rest =>
      rw [List.eraseDups_cons]
      have shorter : (rest.filter fun other => !other == name).length < (name :: rest).length :=
        Nat.lt_succ_of_le (List.length_filter_le _ _)
      refine List.nodup_cons.2 ⟨fun mem => ?_, nodup_eraseDups _⟩
      obtain ⟨-, differs⟩ := List.mem_filter.1 (List.mem_eraseDups.1 mem)
      simp at differs
termination_by names.length
decreasing_by exact shorter

/-- No entry of a directory is delivered twice. -/
theorem nodup_listDirectory {world : World} {path : Path} {names : List EntryName}
    (h : world.listDirectory path = .ok names) : names.Nodup := by
  rw [listDirectory] at h
  cases resolved : world.resolve path with
  | error cause =>
      rw [resolved] at h
      cases h
  | ok found =>
      rw [resolved] at h
      obtain ⟨place, content⟩ := found
      cases content with
      | file bytes => cases h
      | directory =>
          cases h
          exact nodup_eraseDups _

/-- Names in UTF-8 are different texts. -/
theorem tellsApart_of_text {world : World}
    (text : ∀ entries, world.listDirectory SystemHost.devicesPath = .ok entries →
      ∀ entry ∈ entries, ∃ name, entry = .text name) : world.TellsApart := by
  intro entries listed
  refine List.Nodup.map_on (fun entry mem other mem' same => ?_) (nodup_listDirectory listed)
  obtain ⟨name, rfl⟩ := text entries listed entry mem
  obtain ⟨name', rfl⟩ := text entries listed other mem'
  exact congrArg EntryName.text same

/-- The ids of a function can all be read, as text. -/
def Readable (world : World) (pci : String) : Prop :=
  ∀ name ∈ ["vendor", "device", "class"], ∃ text,
    world.text? (SystemHost.devicePath pci ++ [name]) = some text

section Names

variable [PciNames] {world : World}

theorem isSome_function?_iff {pci : String} :
    (world.function? pci).isSome = true ↔ world.Readable pci := by
  simp only [Readable, List.forall_mem_cons, List.not_mem_nil, IsEmpty.forall_iff,
    implies_true, and_true]
  simp [function?, Option.isSome_iff_exists, Option.bind_eq_some_iff]

/-- The functions are those of the entries that can be read, one for each, as their files describe
them and in the order of their addresses. -/
structure Enumerates (world : World) (entries : List EntryName) (functions : List PciFunction) :
    Prop where
  each : functions.Perm (entries.filterMap fun entry => world.function? entry.shown)
  exact : ∀ pci, pci ∈ functions.map (·.address) ↔
    (∃ entry ∈ entries, entry.shown = pci) ∧ world.Readable pci
  described : ∀ function ∈ functions, world.function? function.address = some function
  ascending : functions.Pairwise (·.address ≤ ·.address)
  strict : (entries.map EntryName.shown).Nodup → functions.Pairwise (·.address < ·.address)

theorem addresses_readable (world : World) (addresses : List String) :
    (addresses.filterMap world.function?).map (·.address) =
      addresses.filter fun pci => (world.function? pci).isSome := by
  induction addresses with
  | nil => rfl
  | cons pci rest ih =>
      rw [List.filterMap_cons, List.filter_cons]
      cases read : world.function? pci with
      | none => exact ih
      | some function =>
          exact congrArg₂ List.cons (World.address_of_function? read) ih

theorem enumerates_sorted (world : World) (entries : List EntryName) :
    world.Enumerates entries
      (SystemHost.sortFunctions ((entries.map EntryName.shown).filterMap world.function?)) where
  each := by
    refine (SystemHost.sortFunctions_perm_self _).trans ?_
    rw [List.filterMap_map]
    exact .refl _
  exact pci := by
    rw [((SystemHost.sortFunctions_perm_self _).map _).mem_iff, addresses_readable,
      List.mem_filter, isSome_function?_iff, List.mem_map]
  described function mem := by
    obtain ⟨pci, -, read⟩ := List.mem_filterMap.1 (SystemHost.mem_sortFunctions.1 mem)
    rw [address_of_function? read, read]
  ascending := SystemHost.pairwise_sortFunctions _
  strict distinct := by
    refine SystemHost.strict_sortFunctions ?_
    rw [addresses_readable]
    exact distinct.filter _

end Names

end World

namespace Engine

open Sight (survivors)

/-- The ports of a card are some of the functions that were seen, in their order. -/
theorem Groups.pairwise_ports {engine : Engine} {sights : List Sight} {cards : Dict Status}
    (h : engine.Groups (survivors sights) cards) {serial : String} {card : Status}
    (stored : cards.get? serial = some card) {before : String → String → Prop}
    (ascending : (sights.map Sight.function).Pairwise fun function other =>
      before function.address other.address) :
    card.ports.Pairwise fun port other => before port.pci other.pci := by
  obtain ⟨first, label, firmware, -, -, -, -, rfl⟩ := h.card serial card stored
  have some : ((survivors sights).filter (·.serial? = some serial)).Sublist sights :=
    List.filter_sublist.trans List.filter_sublist
  exact List.pairwise_map.2 ((List.pairwise_map.1 ascending).sublist some)

section Names

variable [PciNames] {engine : Engine} {world : World}

theorem steady_searchSystem (engine : Engine) : Steady engine.searchSystem :=
  steady_interpret SystemHost.steady_answer engine.discover.run

theorem ascending_of_search {cards : Dict Status}
    (h : (engine.searchSystem.run World.handle world).1 = .ok cards) {serial : String}
    {card : Status} (stored : cards.get? serial = some card) :
    card.ports.Pairwise (·.pci ≤ ·.pci) ∧
      (world.TellsApart → card.ports.Pairwise (·.pci < ·.pci)) := by
  rw [run_searchSystem] at h
  have runs := runs_trace SystemHost.handle engine.discover.run world
  have follows := follows_trace SystemHost.handle engine.discover.run world
  rw [h] at runs
  rcases runs_discover runs with ⟨_, -, no⟩ | ⟨sights, told, groups⟩
  · cases no
  · have groups : engine.Groups (survivors sights) cards := groups
    rw [told] at follows
    have listed : Except.ok (sights.map Sight.function) =
        (SystemHost.listFunctions.run.run World.handle world).1 := follows.1
    rw [SystemHost.run_listFunctions] at listed
    cases found : world.listDirectory SystemHost.devicesPath with
    | error cause =>
        rw [found] at listed
        cases listed
    | ok entries =>
        rw [found] at listed
        have enumerates := world.enumerates_sorted entries
        rw [← Except.ok.inj listed] at enumerates
        exact ⟨groups.pairwise_ports stored enumerates.ascending,
          fun apart => groups.pairwise_ports stored (enumerates.strict (apart entries found))⟩

end Names

end Engine

namespace Sample

def forwards : Delivery := ⟨fun _ _ names => names, fun _ _ names => .refl names⟩
def backwards : Delivery := ⟨fun _ _ names => names.reverse, fun _ _ => List.reverse_perm⟩

/-- A card with two ports, the first of which has two interfaces, beside an entry whose name is not
in UTF-8. -/
def twoPortWorld : World where
  tree := Place.idFiles "3b.0" Place.vendorFile ++ Place.idFiles "3b.1" Place.vendorFile ++
    [(Place.entry "3b.0" ["net", "e0"], .directory),
      (Place.entry "3b.0" ["net", "e1"], .directory),
      (SystemHost.devicesPath.map .text ++ [.bytes [255] (by decide)], .directory)]
  tools := Dict.ofList [("mstvpd", [Place.vpdReply "a"]), ("mstflint", [Place.queryReply])]

theorem tellsApart_twoPortWorld : twoPortWorld.TellsApart := by
  have names : (twoPortWorld.listDirectory SystemHost.devicesPath).map
      (List.map EntryName.shown) = .ok ["3b.0", "3b.1", "\uFFFD"] := by
    decide +kernel
  intro entries listed
  rw [listed] at names
  rw [Except.ok.inj names]
  decide

end Sample

namespace Engine

open Sample
open scoped Sample

end Engine

end NicKeeper
