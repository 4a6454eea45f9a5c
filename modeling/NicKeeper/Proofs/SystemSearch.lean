import NicKeeper.Proofs.CardsFound
import NicKeeper.System.Host

/-!
# A search in a world

A search on a node is a program over its files and tools. The tools may answer each run as they
like, but the files stay as they are (`World.SameFiles`), so what is read from them is told by the
world in which the search begins: which functions there are (`World.function?`) and which of them
are virtual. `Engine.Searched` gathers what a search that finds cards has seen, with the run of a
tool in the place of each label.
-/

namespace NicKeeper

open Program

namespace World

/-- The files of two worlds are the same, whatever their tools are. -/
structure SameFiles (world other : World) : Prop where
  root : other.root = world.root
  tree : other.tree = world.tree

variable {world other third : World}

theorem SameFiles.refl (world : World) : world.SameFiles world := ⟨rfl, rfl⟩

theorem SameFiles.trans (h : world.SameFiles other) (next : other.SameFiles third) :
    world.SameFiles third :=
  ⟨next.root.trans h.root, next.tree.trans h.tree⟩

theorem SameFiles.content? (h : world.SameFiles other) (path : Path) :
    other.content? path = world.content? path := by
  rw [World.content?, World.content?, h.tree]

theorem SameFiles.follow (h : world.SameFiles other) (place : Path) (content : Content)
    (path : Path) : other.follow place content path = world.follow place content path := by
  induction path generalizing place content with
  | nil => rfl
  | cons part rest ih =>
      cases content with
      | file bytes => rfl
      | directory =>
          rw [World.follow, World.follow, h.content?]
          simp only [ih]

theorem SameFiles.resolve (h : world.SameFiles other) (path : Path) :
    other.resolve path = world.resolve path := by
  have size : other.byteSize path = world.byteSize path := by
    unfold World.byteSize
    rw [h.root]
  unfold World.resolve
  rw [size]
  simp only [h.follow]

theorem SameFiles.readFile (h : world.SameFiles other) (path : Path) :
    other.readFile path = world.readFile path := by
  rw [World.readFile, World.readFile, h.resolve]

theorem SameFiles.listDirectory (h : world.SameFiles other) (path : Path) :
    other.listDirectory path = world.listDirectory path := by
  have names (place : Path) : other.childNames place = world.childNames place := by
    rw [childNames, childNames, h.tree]
  rw [World.listDirectory, World.listDirectory, h.resolve]
  simp only [names]

theorem sameFiles_handle (call : SystemCall) (world : World) :
    world.SameFiles (handle call world).2 := by
  cases call with
  | readFile path => exact .refl world
  | listDirectory path => exact .refl world
  | fileExists path => exact .refl world
  | runTool command =>
      rw [handle, runTool]
      split
      · exact .refl world
      · split
        · exact .refl world
        · exact ⟨rfl, rfl⟩

theorem sameFiles_of_follows {events : List (Event systemService)}
    (h : Follows handle world events other) : world.SameFiles other :=
  Follows.keeps (motive := SameFiles) .refl .trans (fun event _ => sameFiles_handle event.call) h

/-! ## What is read -/

/-- The text of a file, if it can be read and is text. -/
def text? (world : World) (path : Path) : Option (List Char) :=
  (world.readFile path).toOption.bind Text.Utf8.decode?

def isVirtual (world : World) (pci : String) : Bool :=
  (world.resolve (SystemHost.devicePath pci ++ ["physfn"])).toOption.isSome

theorem SameFiles.text? (h : world.SameFiles other) (path : Path) :
    other.text? path = world.text? path := by
  rw [World.text?, World.text?, h.readFile]

theorem SameFiles.isVirtual (h : world.SameFiles other) (pci : String) :
    other.isVirtual pci = world.isVirtual pci := by
  rw [World.isVirtual, World.isVirtual, h.resolve]

section Names

variable [PciNames]

/-- A function as its files describe it, if they can all be read. -/
def function? (world : World) (pci : String) : Option PciFunction := do
  let vendor := Pci.stripHex (← world.text? (SystemHost.devicePath pci ++ ["vendor"]))
  let product := Pci.stripHex (← world.text? (SystemHost.devicePath pci ++ ["device"]))
  let classText ← world.text? (SystemHost.devicePath pci ++ ["class"])
  return {
    address := pci
    vendorId := String.ofList vendor
    classId := String.ofList ((Pci.classId? classText).toOption.getD (Pci.stripHex classText))
    productId := String.ofList product
    productName := Pci.productName? vendor product }

theorem SameFiles.function? (h : world.SameFiles other) (pci : String) :
    other.function? pci = world.function? pci := by
  simp only [World.function?, h.text?]

theorem address_of_function? {pci : String} {function : PciFunction}
    (h : world.function? pci = some function) : function.address = pci := by
  simp only [function?, Option.bind_eq_bind, Option.bind_eq_some_iff] at h
  obtain ⟨_, -, _, -, _, -, same⟩ := h
  rw [← Option.some.inj same]

end Names

end World

namespace SystemHost

variable {α β : Type} {world : World}

/-- Steps that come to what can be read in a world, if it can be read, and leave the world alone. -/
def Reads (steps : Steps α) (world : World) (value? : Option α) : Prop :=
  ∃ result, steps.run.run World.handle world = (result, world) ∧ result.toOption = value?

theorem Reads.pure (value : α) (world : World) : Reads (pure value) world (some value) :=
  ⟨_, rfl, rfl⟩

theorem Reads.bind {steps : Steps α} {next : α → Steps β} {value? : Option α}
    {next? : α → Option β} (first : Reads steps world value?)
    (rest : ∀ value, Reads (next value) world (next? value)) :
    Reads (steps >>= next) world (value?.bind next?) := by
  obtain ⟨found, ran, rfl⟩ := first
  have eq : (steps >>= next).run.run World.handle world =
      (steps.run.bind _).run World.handle world := rfl
  rw [Reads, eq, run_bind, ran]
  cases found with
  | ok value => exact rest value
  | error cause => exact ⟨_, rfl, rfl⟩

theorem run_ask_bind {σ : Type} {handler : Handler systemService σ} (call : SystemCall)
    (next : call.Answer → Steps α) (state : σ) :
    (do next (← ask call) : Steps α).run.run handler state =
      (next (handler call state).1).run.run handler (handler call state).2 := rfl

theorem readAttribute_reads (world : World) (pci name : String) :
    Reads (readAttribute pci name) world (world.text? (devicePath pci ++ [name])) := by
  rw [Reads, readAttribute, run_ask_bind, World.handle, World.text?]
  cases world.readFile (devicePath pci ++ [name]) with
  | error cause => exact ⟨_, rfl, rfl⟩
  | ok bytes =>
      dsimp only
      cases decoded : Text.Utf8.decode? bytes with
      | some text => exact ⟨_, rfl, decoded.symm⟩
      | none => exact ⟨_, rfl, decoded.symm⟩

theorem mem_insertFunction {function other : PciFunction} {functions : List PciFunction} :
    other ∈ insertFunction function functions ↔ other = function ∨ other ∈ functions := by
  induction functions with
  | nil => simp [insertFunction]
  | cons first rest ih =>
      rw [insertFunction]
      split
      · rw [List.mem_cons, ih, List.mem_cons]
        exact or_left_comm
      · exact List.mem_cons

theorem mem_sortFunctions {function : PciFunction} {functions : List PciFunction} :
    function ∈ sortFunctions functions ↔ function ∈ functions := by
  induction functions with
  | nil => rfl
  | cons first rest ih =>
      rw [sortFunctions, List.foldr_cons, mem_insertFunction, List.mem_cons]
      exact or_congr_right ih

theorem run_lift_bind (program : Program systemService α) (next : α → Steps β) :
    (liftM program >>= next).run = program.bind fun value => (next value).run := by
  show (program.bind fun value => .done (Except.ok value)).bind (ExceptT.bindCont next) = _
  rw [bind_assoc]
  rfl

section Names

variable [PciNames]

theorem readFunction_reads (world : World) (pci : String) :
    Reads (readFunction pci) world (world.function? pci) :=
  (readAttribute_reads world pci "vendor").bind fun _ =>
    (readAttribute_reads world pci "device").bind fun _ =>
      (readAttribute_reads world pci "class").bind fun _ => .pure _ world

theorem run_readFunctions (addresses : List String) (world : World) :
    (readFunctions addresses).run World.handle world =
      (addresses.filterMap world.function?, world) := by
  induction addresses with
  | nil => rfl
  | cons pci rest ih =>
      obtain ⟨result, ran, read⟩ := readFunction_reads world pci
      rw [List.filterMap_cons, ← read]
      have eq : (readFunctions (pci :: rest)).run World.handle world =
        ((readFunction pci).run.bind _).run World.handle world := rfl
      rw [eq, run_bind, ran]
      cases result with
      | error cause => exact ih
      | ok function =>
          show ((readFunctions rest).bind fun others => .done (function :: others)).run World.handle
            world = _
          rw [run_bind, ih]
          rfl

theorem listFunctions_eq : listFunctions.run = .ask (.listDirectory devicesPath) fun
    | .error cause => .done (.error (.io cause))
    | .ok entries => (readFunctions (entries.map EntryName.shown)).bind fun functions =>
      .done (.ok (sortFunctions functions)) := by
  rw [listFunctions, run_lift_bind]
  refine congrArg (Program.ask (S := systemService) _) (funext fun found => ?_)
  cases found with
  | error cause => rfl
  | ok entries => exact run_lift_bind (readFunctions (entries.map EntryName.shown)) _

/-- What listing the functions comes to: those that can be read, in order. -/
theorem run_listFunctions (world : World) : listFunctions.run.run World.handle world =
    (match world.listDirectory devicesPath with
      | .error cause => .error (.io cause)
      | .ok entries =>
        .ok (sortFunctions ((entries.map EntryName.shown).filterMap world.function?)), world) := by
  rw [listFunctions_eq, run_ask, World.handle]
  cases world.listDirectory devicesPath with
  | error cause => rfl
  | ok entries =>
      dsimp only
      rw [run_bind, run_readFunctions]
      rfl

theorem listFunctions_reads (world : World) :
    Reads listFunctions world ((world.listDirectory devicesPath).toOption.map fun entries =>
      sortFunctions ((entries.map EntryName.shown).filterMap world.function?)) := by
  refine ⟨_, run_listFunctions world, ?_⟩
  cases world.listDirectory devicesPath with
  | error cause => rfl
  | ok entries => rfl

end Names

end SystemHost

/-! ## What is asked -/

namespace Sight

/-- Nothing is missing that it takes to go through all sights, with these serial numbers known. -/
structure Complete (known : List String) (sights : List Sight) : Prop where
  labelled : ∀ sight ∈ survivors sights, ∃ label, sight.label = .ok label
  versioned : ∀ serial ∉ known, ∀ first,
    (survivors sights).find? (·.serial? = some serial) = some first →
      ∃ firmware, first.firmware = .ok firmware

/-- What is asked about the first sight, and the rest of the conversation. -/
theorem Complete.cons {known : List String} {sight : Sight} {rest : List Sight}
    (h : Complete known (sight :: rest)) :
    ∃ told later, conversation known (sight :: rest) = told ++ conversation later rest ∧
      Complete later rest ∧
      (sight.function.isNetwork = true →
        ⟨.isVirtualFunction sight.function.address, sight.isVirtual⟩ ∈ told ∧
        (sight.isVirtual = false → ⟨.cardLabel sight.function.address, sight.label⟩ ∈ told)) := by
  cases own : sight.function.isNetwork with
  | false =>
      have passed : survivors (sight :: rest) = survivors rest :=
        List.filter_cons_of_neg (by simp [Sight.survives, own])
      exact ⟨[], known, by simp [conversation, own], ⟨passed ▸ h.labelled, passed ▸ h.versioned⟩,
        fun network => absurd network Bool.false_ne_true⟩
  | true =>
      cases kind : sight.isVirtual with
      | true =>
          have passed : survivors (sight :: rest) = survivors rest :=
            List.filter_cons_of_neg (by simp [Sight.survives, kind])
          refine ⟨[⟨.isVirtualFunction sight.function.address, true⟩], known, ?_,
            ⟨passed ▸ h.labelled, passed ▸ h.versioned⟩,
            fun _ => ⟨by simp, fun physical => absurd physical.symm Bool.false_ne_true⟩⟩
          simp [conversation, own, kind]
      | false =>
          have entered : survivors (sight :: rest) = sight :: survivors rest :=
            Engine.survivors_cons_of_pos own kind
          obtain ⟨labelled, versioned⟩ := h
          rw [entered] at labelled versioned
          obtain ⟨⟨label, named⟩, labelled⟩ := List.forall_mem_cons.1 labelled
          have talk := @Engine.conversation_survivor sight known rest own kind
          rw [named] at talk
          -- The firmware of another number's first sight is that of its first sight in the rest.
          have others {serial : String} (other : serial ≠ label.serialNumber) {first : Sight}
              (leads : (survivors rest).find? (·.serial? = some serial) = some first) :
              (sight :: survivors rest).find? (·.serial? = some serial) = some first := by
            rw [List.find?_cons_of_neg, leads]
            simpa [Engine.serial?_of_label named] using other.symm
          let asked : List (Event hostService) := [
            ⟨.isVirtualFunction sight.function.address, false⟩,
            ⟨.cardLabel sight.function.address, .ok label⟩]
          by_cases mem : label.serialNumber ∈ known
          · refine ⟨asked ++ sight.names, known, talk.trans (congrArg _ (congrArg _ (if_pos mem))),
              ⟨labelled, fun serial new first leads => ?_⟩, fun _ => by simp [asked, named]⟩
            exact versioned serial new first (others (fun same => new (by rwa [same])) leads)
          · obtain ⟨firmware, known'⟩ := versioned _ mem sight
              (List.find?_cons_of_pos (by simp [Engine.serial?_of_label named]))
            rw [known'] at talk
            refine ⟨asked ++ ⟨.firmwareLabel sight.function.address, .ok firmware⟩ :: sight.names,
              label.serialNumber :: known, talk.trans (congrArg _ (congrArg _ (if_neg mem))),
              ⟨labelled, fun serial new first leads => ?_⟩, fun _ => by simp [asked, named]⟩
            obtain ⟨other, new⟩ := not_or.1 (List.mem_cons.not.1 new)
            exact versioned serial new first (others other leads)

/-- A conversation that is complete asks about every function of the vendor. -/
theorem Complete.asked {known : List String} {sights : List Sight} (h : Complete known sights)
    {sight : Sight} (mem : sight ∈ sights) (own : sight.function.isNetwork = true) :
    ⟨.isVirtualFunction sight.function.address, sight.isVirtual⟩ ∈ conversation known sights ∧
      (sight.isVirtual = false →
        ⟨.cardLabel sight.function.address, sight.label⟩ ∈ conversation known sights) := by
  induction sights generalizing known with
  | nil => cases mem
  | cons first rest ih =>
      obtain ⟨told, later, talk, complete, asked⟩ := h.cons
      rw [talk]
      rcases List.mem_cons.1 mem with rfl | mem
      · obtain ⟨kind, label⟩ := asked own
        exact ⟨List.mem_append_left _ kind, fun physical => List.mem_append_left _ (label physical)⟩
      · obtain ⟨kind, label⟩ := ih complete mem
        exact ⟨List.mem_append_right _ kind,
          fun physical => List.mem_append_right _ (label physical)⟩

end Sight

/-! ## The search -/

namespace SystemHost

theorem runs_run {program : String} {arguments : List String} {told : List (Event systemService)}
    {result : Except HostError (List Char)} (h : (run program arguments).run.Runs told result) :
    ∃ reply, told = [⟨.runTool ⟨program, arguments⟩, reply⟩] := by
  obtain ⟨reply, rest, rfl, afterTool⟩ := runs_ask_iff.1 h
  refine ⟨reply, congrArg _ ?_⟩
  cases reply with
  | error cause => exact (runs_done_iff.1 afterTool).1
  | ok reply =>
      change (if reply.status.isSuccess then _ else _ : Steps (List Char)).run.Runs rest result
        at afterTool
      split at afterTool
      · exact (runs_done_iff.1 afterTool).1
      · exact (runs_done_iff.1 afterTool).1

/-- The label of a card is read off one run of a tool. -/
theorem runs_cardLabel [PciNames] {pci : String} {told : List (Event systemService)}
    {label : Except HostError CardLabel} (h : (answer (.cardLabel pci)).Runs told label) :
    ∃ reply, told = [⟨.runTool ⟨"mstvpd", [pci]⟩, reply⟩] := by
  rcases runs_bindT_iff.1 h with ⟨e, -, cut⟩ | ⟨text, first, last, rfl, ran, parsed⟩
  · exact runs_run cut
  · obtain ⟨reply, rfl⟩ := runs_run ran
    obtain ⟨rfl, -⟩ := runs_done_iff.1 parsed
    exact ⟨reply, rfl⟩

end SystemHost

open Sight (survivors conversation)

namespace Engine

variable {engine : Engine} {world after : World} {events : List (Event systemService)}
  {cards : Dict Status}

theorem Groups.complete {sights : List Sight} (h : engine.Groups (survivors sights) cards) :
    Sight.Complete [] sights where
  labelled := h.labelled
  versioned serial _ first leads := by
    have own : first.serial? = some serial := by simpa using List.find?_some leads
    obtain ⟨card, stored⟩ := (h.serials serial).2 ⟨first, List.mem_of_find?_eq_some leads, own⟩
    obtain ⟨_, _, firmware, same, -, -, versioned, -⟩ := h.card serial card stored
    cases leads.symm.trans same
    exact ⟨firmware, versioned⟩

variable [PciNames]

/-- The search for cards as a program over a node's files and tools. -/
def searchSystem (engine : Engine) : Program systemService (Except EngineError (Dict Status)) :=
  engine.discover.run.interpret SystemHost.answer

theorem run_searchSystem (engine : Engine) (world : World) :
    engine.searchSystem.run World.handle world =
      engine.discover.run.run SystemHost.handle world :=
  run_interpret (S := hostService) World.handle SystemHost.answer engine.discover.run world

/-- What a search that finds cards has seen in a world. -/
structure Searched (engine : Engine) (world : World) (events : List (Event systemService))
    (sights : List Sight) (cards : Dict Status) : Prop where
  listed : ∃ entries, world.listDirectory SystemHost.devicesPath = .ok entries ∧
    ∀ function, function ∈ sights.map Sight.function ↔
      ∃ entry ∈ entries, world.function? entry.shown = some function
  kinds : ∀ sight ∈ sights, sight.function.isNetwork = true →
    sight.isVirtual = world.isVirtual sight.function.address
  labels : ∀ sight ∈ survivors sights, ∃ reply,
    ⟨.runTool ⟨"mstvpd", [sight.function.address]⟩, reply⟩ ∈ events ∧
      (SystemHost.answer (.cardLabel sight.function.address)).Runs
        [⟨.runTool ⟨"mstvpd", [sight.function.address]⟩, reply⟩] sight.label
  groups : engine.Groups (survivors sights) cards

/-- Each call of a search was answered in a world with the same files. -/
theorem exists_world_of_step {steps : List (Event hostService × List (Event systemService))}
    (follows : Follows World.handle world (steps.map Prod.snd).flatten after)
    (each : ∀ step ∈ steps, (SystemHost.answer step.1.call).Runs step.2 step.1.answer)
    {step : Event hostService × List (Event systemService)} (mem : step ∈ steps) :
    ∃ mid later, world.SameFiles mid ∧
      (SystemHost.answer step.1.call).run World.handle mid = (step.1.answer, later) := by
  induction steps generalizing world with
  | nil => cases mem
  | cons first rest ih =>
      rw [List.map_cons, List.flatten_cons, follows_append_iff] at follows
      obtain ⟨mid, own, others⟩ := follows
      obtain ⟨answered, each⟩ := List.forall_mem_cons.1 each
      rcases List.mem_cons.1 mem with rfl | mem
      · exact ⟨world, mid, .refl world, run_eq_of_runs answered own⟩
      · obtain ⟨later, last, same, ran⟩ := ih others each mem
        exact ⟨later, last, (World.sameFiles_of_follows own).trans same, ran⟩

/-- A search that finds cards is a conversation about what it groups, each call of which is answered
from files and tools. -/
theorem runs_searchSystem (h : engine.searchSystem.Runs events (.ok cards)) :
    ∃ sights, ∃ steps : List (Event hostService × List (Event systemService)),
      engine.Groups (survivors sights) cards ∧
      steps.map Prod.fst =
        ⟨.listFunctions, .ok (sights.map Sight.function)⟩ :: conversation [] sights ∧
      (steps.map Prod.snd).flatten = events ∧
      ∀ step ∈ steps, (SystemHost.answer step.1.call).Runs step.2 step.1.answer := by
  obtain ⟨steps, runs, rfl, each⟩ := runs_interpret_iff.1 h
  rcases runs_discover runs with ⟨_, -, no⟩ | ⟨sights, told, groups⟩
  · cases no
  · exact ⟨sights, steps, groups, told, rfl, each⟩

/-- In such a conversation the label of each surviving function was read off a run of a tool. -/
theorem exists_label_run {sights : List Sight}
    {steps : List (Event hostService × List (Event systemService))}
    (groups : engine.Groups (survivors sights) cards)
    (told : steps.map Prod.fst =
      ⟨.listFunctions, .ok (sights.map Sight.function)⟩ :: conversation [] sights)
    (each : ∀ step ∈ steps, (SystemHost.answer step.1.call).Runs step.2 step.1.answer)
    {sight : Sight} (mem : sight ∈ survivors sights) :
    ∃ reply, ⟨.runTool ⟨"mstvpd", [sight.function.address]⟩, reply⟩ ∈ (steps.map Prod.snd).flatten ∧
      (SystemHost.answer (.cardLabel sight.function.address)).Runs
        [⟨.runTool ⟨"mstvpd", [sight.function.address]⟩, reply⟩] sight.label := by
  obtain ⟨mem, survives⟩ := List.mem_filter.1 mem
  obtain ⟨own, physical⟩ : sight.function.isNetwork = true ∧ sight.isVirtual = false := by
    simpa [Sight.survives] using survives
  obtain ⟨-, label⟩ := groups.complete.asked mem own
  have asked : ⟨.cardLabel sight.function.address, sight.label⟩ ∈ steps.map Prod.fst :=
    told ▸ List.mem_cons_of_mem _ (label physical)
  obtain ⟨⟨⟨_, _⟩, inner⟩, made, ⟨⟩⟩ := List.mem_map.1 asked
  have ran := each _ made
  obtain ⟨reply, rfl⟩ := SystemHost.runs_cardLabel ran
  refine ⟨reply, ?_, ran⟩
  exact List.mem_flatten.2 ⟨_, List.mem_map_of_mem made, List.mem_singleton_self _⟩

theorem exists_searched (h : engine.searchSystem.Runs events (.ok cards))
    (follows : Follows World.handle world events after) :
    ∃ sights, engine.Searched world events sights cards := by
  obtain ⟨sights, steps, groups, told, rfl, each⟩ := runs_searchSystem h
  have asked {event : Event hostService} (mem : event ∈ steps.map Prod.fst) :
      ∃ step ∈ steps, step.1 = event ∧ ∃ mid later, world.SameFiles mid ∧
        (SystemHost.answer step.1.call).run World.handle mid = (step.1.answer, later) := by
    obtain ⟨step, made, same⟩ := List.mem_map.1 mem
    exact ⟨step, made, same, exists_world_of_step follows each made⟩
  refine ⟨sights, ?_, fun sight mem own => ?_, fun sight => exists_label_run groups told each,
    groups⟩
  · obtain ⟨⟨_, _⟩, -, ⟨⟩, mid, later, same, ran⟩ := asked (told ▸ List.mem_cons_self)
    obtain ⟨result, read, names⟩ := SystemHost.listFunctions_reads mid
    obtain ⟨rfl, -⟩ := Prod.mk.inj (read.symm.trans ran)
    obtain ⟨entries, listed, eq⟩ := Option.map_eq_some_iff.1 names.symm
    rw [same.listDirectory] at listed
    refine ⟨entries, ?_, fun function => ?_⟩
    · cases found : world.listDirectory SystemHost.devicesPath with
      | error cause =>
          rw [found] at listed
          cases listed
      | ok others =>
          rw [found] at listed
          cases listed
          rfl
    · rw [← eq, SystemHost.mem_sortFunctions, List.filterMap_map, List.mem_filterMap]
      simp only [same.function?, Function.comp_apply]
  · obtain ⟨kind, -⟩ := groups.complete.asked mem own
    obtain ⟨⟨_, _⟩, -, ⟨⟩, mid, later, same, ran⟩ := asked (told ▸ List.mem_cons_of_mem _ kind)
    exact (Prod.mk.inj ran).1.symm.trans (same.isVirtual _)

end Engine

namespace Sample

/-- A registry with one product. -/
scoped instance registry : PciNames where
  product? vendor product := if vendor = 0x15b3 ∧ product = 0x101d then some "CX-6 Dx" else none

end Sample

end NicKeeper
