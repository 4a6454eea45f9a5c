import NicKeeper.Proofs.FirstFailure
import NicKeeper.Proofs.TemplateEntries

/-!
# What a template asks for, name by name

The parameters of a template are put together from entries that stand in place of one another, and
this file says what that comes to for a single parameter. Raw parameters go first: for the names
that they have on a card, the last one of a name decides. For all other names the tunings decide.
`Template.Gives` is the table of what they give; no two of its rules are about the same parameter,
so the order of the tunings does not matter.

A template is refused for one of three reasons, looked for in this order: GPUDirect in another
environment than bare metal, GPUDirect without PCI tuning, and a parameter that the device does not
have, of which the least is named (`Template.WorkedOut`). Nothing else is a fault of the spec. The
speed of the link is asked for only where the table depends on it, and if it cannot be told, that
is the host's failure.
-/

namespace NicKeeper

open Program

namespace Template

/-! ## The table -/

/-- What the parameters of a port end in, for each port of a card. -/
def portSuffixes (dual : Bool) : List String := "_P1" :: if dual then ["_P2"] else []

/-- The parameters of congestion control, without their port, and the values that RoCE wants. -/
def congestionControl : List (String × String) :=
  [("ROCE_CC_PRIO_MASK", "255"), ("CNP_DSCP", "4"), ("CNP_802P_PRIO", "6")]

/-- What the tunings of a template give for a parameter, on a card with one port or more, with a
link of this speed, and with these defaults. -/
inductive Gives (template : Template) (dual : Bool) (speed : Option UInt32)
    (defaults : Dict String) : String → String → Prop where
  | virtual (some : template.numVfs ≠ 0) : Gives template dual speed defaults "SRIOV_EN" "1"
  | physical (none : template.numVfs = 0) : Gives template dual speed defaults "SRIOV_EN" "0"
  | count : Gives template dual speed defaults "NUM_OF_VFS" (decimal template.numVfs)
  | ethernet (link : template.linkType = some .ethernet) {port : String}
      (own : port ∈ portSuffixes dual) :
      Gives template dual speed defaults ("LINK_TYPE" ++ port) "2"
  | infiniband (link : template.linkType = some .infiniband) {port : String}
      (own : port ∈ portSuffixes dual) :
      Gives template dual speed defaults ("LINK_TYPE" ++ port) "1"
  | reads {pci : PciTuning} (on : template.pciOn = some pci) (named : pci.maxAccOutRead ≠ 0) :
      Gives template dual speed defaults "MAX_ACC_OUT_READ" (decimal pci.maxAccOutRead)
  | fasterLink {pci : PciTuning} (on : template.pciOn = some pci) (free : pci.maxAccOutRead = 0)
      {gigatransfers : UInt32} (told : speed = some gigatransfers) (fast : 32 ≤ gigatransfers) :
      Gives template dual speed defaults "MAX_ACC_OUT_READ" "0"
  | fastLink {pci : PciTuning} (on : template.pciOn = some pci) (free : pci.maxAccOutRead = 0)
      (told : speed = some 16) :
      Gives template dual speed defaults "MAX_ACC_OUT_READ" "44"
  | congestion (on : template.roceOn ≠ none) {name value port : String}
      (controls : (name, value) ∈ congestionControl) (own : port ∈ portSuffixes dual) :
      Gives template dual speed defaults (name ++ port) value
  /-- A profile that was on before is undone. -/
  | pinned (off : template.roceOn = none) {name value port default : String}
      (controls : (name, value) ∈ congestionControl) (own : port ∈ portSuffixes dual)
      (known : defaults.get? (name ++ port) = some default) :
      Gives template dual speed defaults (name ++ port) default
  | gpu (on : template.gpuOn ≠ none) : Gives template dual speed defaults "ATS_ENABLED" "0"

variable {template : Template} {dual : Bool} {speed : Option UInt32} {defaults : Dict String}
  {device name value : String}

theorem mem_sriovEntries_iff : (name, value) ∈ template.sriovEntries ↔
    name = "SRIOV_EN" ∧ value = (if template.numVfs = 0 then "0" else "1") ∨
      name = "NUM_OF_VFS" ∧ value = decimal template.numVfs := by
  rw [sriovEntries, List.mem_cons, List.mem_singleton, Prod.mk.injEq, Prod.mk.injEq]
  rfl

theorem mem_linkTypeEntries_iff : (name, value) ∈ template.linkTypeEntries dual ↔
    ∃ link, template.linkType = some link ∧ value = linkTypeValue link ∧
      ∃ port ∈ portSuffixes dual, name = "LINK_TYPE" ++ port := by
  have whole : template.linkTypeEntries dual = template.linkType.toList.flatMap fun link =>
      (portSuffixes dual).map fun port => ("LINK_TYPE" ++ port, linkTypeValue link) := by
    rw [linkTypeEntries]
    cases template.linkType with
    | none => rfl
    | some link =>
        cases dual with
        | false => rfl
        | true => rfl
  rw [whole]
  constructor
  · intro mem
    obtain ⟨link, asked, mem⟩ := List.mem_flatMap.1 mem
    obtain ⟨port, own, same⟩ := List.mem_map.1 mem
    cases same
    exact ⟨link, Option.mem_toList.1 asked, rfl, port, own, rfl⟩
  · rintro ⟨link, asked, rfl, port, own, rfl⟩
    exact List.mem_flatMap.2 ⟨link, Option.mem_toList.2 asked, List.mem_map.2 ⟨port, own, rfl⟩⟩

theorem mem_accOutReadEntries_iff : (name, value) ∈ template.accOutReadEntries speed ↔
    name = "MAX_ACC_OUT_READ" ∧ ∃ pci, template.pciOn = some pci ∧
      (pci.maxAccOutRead ≠ 0 ∧ value = decimal pci.maxAccOutRead ∨
        pci.maxAccOutRead = 0 ∧ ∃ told, speed = some told ∧ accOutReadFor told = some value) := by
  have listed : ∀ found : Option String,
      (name, value) ∈ (found.toList.map fun value => ("MAX_ACC_OUT_READ", value)) ↔
        name = "MAX_ACC_OUT_READ" ∧ found = some value := by
    intro found
    cases found with
    | none => simp
    | some found => simp [eq_comm]
  rw [accOutReadEntries]
  cases template.pciOn with
  | none => simp
  | some pci =>
      by_cases free : pci.maxAccOutRead = 0
      · simp [listed, free, Option.bind_eq_some_iff]
      · simp [free, eq_comm]

theorem accOutReadFor_eq_some_iff {told : UInt32} :
    accOutReadFor told = some value ↔ 32 ≤ told ∧ value = "0" ∨ told = 16 ∧ value = "44" := by
  rw [accOutReadFor]
  split
  · next fast =>
      have other : told ≠ 16 := by
        rintro rfl
        exact absurd fast (by decide)
      simp [fast, other, eq_comm]
  · next slow =>
      split
      · next same => simp [same, eq_comm]
      · next other => simp [slow, other]

theorem mem_roceProfile_iff : (name, value) ∈ roceProfile dual ↔
    ∃ base, (base, value) ∈ congestionControl ∧ ∃ port ∈ portSuffixes dual, name = base ++ port := by
  have whole : roceProfile dual = (portSuffixes dual).flatMap fun port =>
      congestionControl.map fun param => (param.1 ++ port, param.2) := by
    cases dual with
    | false => rfl
    | true => rfl
  rw [whole]
  constructor
  · intro mem
    obtain ⟨port, own, mem⟩ := List.mem_flatMap.1 mem
    obtain ⟨param, controls, same⟩ := List.mem_map.1 mem
    cases same
    exact ⟨param.1, controls, port, own, rfl⟩
  · rintro ⟨base, controls, port, own, rfl⟩
    exact List.mem_flatMap.2 ⟨port, own, List.mem_map.2 ⟨(base, value), controls, rfl⟩⟩

theorem mem_roceEntries_iff : (name, value) ∈ template.roceEntries dual defaults ↔
    template.roceOn ≠ none ∧ (name, value) ∈ roceProfile dual ∨
      template.roceOn = none ∧ (∃ wanted, (name, wanted) ∈ roceProfile dual) ∧
        defaults.get? name = some value := by
  rw [roceEntries]
  cases template.roceOn with
  | some roce => simp
  | none =>
      simp only [Option.isSome_none, Bool.false_eq_true, if_false, ne_eq, not_true_eq_false,
        false_and, true_and, false_or, List.mem_filterMap]
      constructor
      · rintro ⟨⟨other, wanted⟩, mem, same⟩
        obtain ⟨default, known, same⟩ := Option.map_eq_some_iff.1 same
        cases same
        exact ⟨⟨wanted, mem⟩, known⟩
      · rintro ⟨⟨wanted, mem⟩, known⟩
        exact ⟨(name, wanted), mem, Option.map_eq_some_iff.2 ⟨value, known, rfl⟩⟩

theorem mem_tunedEntries_cases : (name, value) ∈ template.tunedEntries dual speed defaults ↔
    (name, value) ∈ template.sriovEntries ∨ (name, value) ∈ template.linkTypeEntries dual ∨
      (name, value) ∈ template.accOutReadEntries speed ∨
      (name, value) ∈ template.roceEntries dual defaults ∨
      template.gpuOn ≠ none ∧ name = "ATS_ENABLED" ∧ value = "0" := by
  have gpu : ((name, value) ∈ template.gpuOn.toList.map fun _ => ("ATS_ENABLED", offValue)) ↔
      template.gpuOn ≠ none ∧ name = "ATS_ENABLED" ∧ value = "0" := by
    rw [List.mem_map, Option.ne_none_iff_exists']
    constructor
    · rintro ⟨gpu, on, same⟩
      cases same
      exact ⟨⟨gpu, Option.mem_toList.1 on⟩, rfl, rfl⟩
    · rintro ⟨⟨gpu, on⟩, rfl, rfl⟩
      exact ⟨gpu, Option.mem_toList.2 on, rfl⟩
  rw [tunedEntries, List.mem_append, List.mem_append, List.mem_append, List.mem_append, gpu]
  simp only [or_assoc]

/-- The entries of the tunings are those of the table. -/
theorem mem_tunedEntries_iff : (name, value) ∈ template.tunedEntries dual speed defaults ↔
    template.Gives dual speed defaults name value := by
  rw [mem_tunedEntries_cases, mem_sriovEntries_iff, mem_linkTypeEntries_iff,
    mem_accOutReadEntries_iff, mem_roceEntries_iff]
  constructor
  · rintro ((⟨rfl, rfl⟩ | ⟨rfl, rfl⟩) | ⟨link, asked, rfl, port, own, rfl⟩ |
      ⟨rfl, pci, on, ⟨named, rfl⟩ | ⟨free, told, fast, chosen⟩⟩ |
      (⟨on, mem⟩ | ⟨off, ⟨wanted, mem⟩, known⟩) | ⟨on, rfl, rfl⟩)
    · split
      · next none => exact .physical none
      · next some => exact .virtual some
    · exact .count
    · cases link with
      | ethernet => exact .ethernet asked own
      | infiniband => exact .infiniband asked own
    · exact .reads on named
    · rcases accOutReadFor_eq_some_iff.1 chosen with ⟨least, rfl⟩ | ⟨rfl, rfl⟩
      · exact .fasterLink on free fast least
      · exact .fastLink on free fast
    · obtain ⟨base, controls, port, own, rfl⟩ := mem_roceProfile_iff.1 mem
      exact .congestion on controls own
    · obtain ⟨base, controls, port, own, rfl⟩ := mem_roceProfile_iff.1 mem
      exact .pinned off controls own known
    · exact .gpu on
  · intro given
    cases given with
    | virtual some => exact .inl (.inl ⟨rfl, (if_neg some).symm⟩)
    | physical none => exact .inl (.inl ⟨rfl, (if_pos none).symm⟩)
    | count => exact .inl (.inr ⟨rfl, rfl⟩)
    | ethernet link own => exact .inr (.inl ⟨_, link, rfl, _, own, rfl⟩)
    | infiniband link own => exact .inr (.inl ⟨_, link, rfl, _, own, rfl⟩)
    | reads on named => exact .inr (.inr (.inl ⟨rfl, _, on, .inl ⟨named, rfl⟩⟩))
    | fasterLink on free told fast =>
        have chosen := accOutReadFor_eq_some_iff.2 (.inl ⟨fast, rfl⟩)
        exact .inr (.inr (.inl ⟨rfl, _, on, .inr ⟨free, _, told, chosen⟩⟩))
    | fastLink on free told =>
        have chosen := accOutReadFor_eq_some_iff.2 (.inr ⟨rfl, rfl⟩)
        exact .inr (.inr (.inl ⟨rfl, _, on, .inr ⟨free, _, told, chosen⟩⟩))
    | congestion on controls own =>
        have mem := mem_roceProfile_iff.2 ⟨_, controls, _, own, rfl⟩
        exact .inr (.inr (.inr (.inl (.inl ⟨on, mem⟩))))
    | pinned off controls own known =>
        have wanted := mem_roceProfile_iff.2 ⟨_, controls, _, own, rfl⟩
        exact .inr (.inr (.inr (.inl (.inr ⟨off, ⟨_, wanted⟩, known⟩))))
    | gpu on => exact .inr (.inr (.inr (.inr ⟨on, rfl, rfl⟩)))

/-! ## Raw parameters -/

/-- A card has the port that a parameter is for. -/
def OnCard (dual : Bool) (name : String) : Prop :=
  dual = true ∨ ¬ "_P2".toList <:+ name.toList

theorem applies_iff {param : NvParam} : applies dual param = true ↔ OnCard dual param.name := by
  rw [applies, OnCard, Bool.or_eq_true, Bool.not_eq_true', ← Bool.not_eq_true,
    List.isSuffixOf_iff_suffix]
  rfl

theorem mem_rawEntries_iff : (name, value) ∈ template.rawEntries dual ↔
    OnCard dual name ∧ ∃ param ∈ template.rawNv, param.name = name ∧ param.value = value := by
  rw [rawEntries, List.mem_map]
  constructor
  · rintro ⟨param, mem, same⟩
    cases same
    obtain ⟨own, applied⟩ := List.mem_filter.1 mem
    exact ⟨applies_iff.1 applied, param, own, rfl, rfl⟩
  · rintro ⟨own, param, mem, rfl, rfl⟩
    exact ⟨param, List.mem_filter.2 ⟨mem, applies_iff.2 own⟩, rfl⟩

/-- The last raw parameter of a name that is on the card. -/
theorem findRev?_rawEntries {before after : List NvParam} {param : NvParam}
    (raw : template.rawNv = before ++ param :: after) (own : OnCard dual param.name)
    (last : ∀ later ∈ after, later.name ≠ param.name) :
    ((template.rawEntries dual).reverse.find? (·.1 == param.name)).map Prod.snd =
      some param.value := by
  let entries (params : List NvParam) : List (String × String) :=
    (params.filter (applies dual)).map fun param => (param.name, param.value)
  have split : template.rawEntries dual =
      entries before ++ (param.name, param.value) :: entries after := by
    rw [rawEntries, raw, List.filter_append, List.filter_cons_of_pos (applies_iff.2 own),
      List.map_append, List.map_cons]
  have others : ∀ later ∈ entries after, later.1 ≠ param.name := by
    intro entry mem
    obtain ⟨later, own, rfl⟩ := List.mem_map.1 mem
    exact last later (List.mem_filter.1 own).1
  rw [split]
  exact congrArg _ (Dict.findRev?_append_cons others)

theorem findRev?_rawEntries_eq_none
    (free : ¬ (OnCard dual name ∧ ∃ param ∈ template.rawNv, param.name = name)) :
    (template.rawEntries dual).reverse.find? (·.1 == name) = none := by
  refine List.find?_eq_none.2 fun entry mem same => free ?_
  obtain rfl : entry.1 = name := by simpa using same
  obtain ⟨own, param, mem, same, -⟩ := mem_rawEntries_iff.1 (List.mem_reverse.1 mem)
  exact ⟨own, param, mem, same⟩

/-- The tunings contribute nothing for a port that a card does not have. -/
theorem Gives.onCard (given : template.Gives dual speed defaults name value) :
    OnCard dual name := by
  cases dual with
  | true => exact .inl rfl
  | false =>
      have mem := List.mem_map_of_mem (f := Prod.fst) (mem_tunedEntries_iff.2 given)
      have named := (template.tunedEntries_names false speed defaults).subset mem
      have first : ∀ name ∈ tunedNames false, "_P2".toList.isSuffixOf name.toList = false := by
        decide
      refine .inr fun second => ?_
      rw [← List.isSuffixOf_iff_suffix, first name named] at second
      cases second

/-! ## The whole -/

/-- A template asks for a parameter, by a raw one or by its tunings. -/
def Asks (template : Template) (dual : Bool) (speed : Option UInt32) (defaults : Dict String)
    (name : String) : Prop :=
  (OnCard dual name ∧ ∃ param ∈ template.rawNv, param.name = name) ∨
    ∃ value, template.Gives dual speed defaults name value

/-- GPUDirect is switched on where it does not work. -/
def MisplacesGpu (template : Template) : Prop :=
  ∃ gpu, template.gpuOn = some gpu ∧ (gpu.env ≠ bareMetal ∨ template.pciOn = none)

/-- What working out the parameters of a template comes to. -/
structure WorkedOut (template : Template) (dual : Bool) (speed : Option UInt32)
    (defaults : Dict String) (device : String) (answer : Except EngineError (Dict String)) :
    Prop where
  /-- The last raw parameter of a name decides. -/
  raw : ∀ desired, answer = .ok desired → ∀ before param after,
    template.rawNv = before ++ param :: after → OnCard dual param.name →
      (∀ later ∈ after, later.name ≠ param.name) → desired.get? param.name = some param.value
  /-- Without one the table decides. -/
  tuned : ∀ desired, answer = .ok desired → ∀ name,
    ¬ (OnCard dual name ∧ ∃ param ∈ template.rawNv, param.name = name) →
      ∀ value, desired.get? name = some value ↔ template.Gives dual speed defaults name value
  known : ∀ desired, answer = .ok desired → ∀ name, desired.contains name = true →
    defaults.contains name = true ∧ OnCard dual name
  judged : (∃ desired, answer = .ok desired) ∨ ∃ fault, answer = .error (.incorrectSpec fault)
  rejected_iff : (∃ fault, answer = .error (.incorrectSpec fault)) ↔
    template.MisplacesGpu ∨
      ∃ name, template.Asks dual speed defaults name ∧ defaults.contains name = false
  elsewhere : ∀ gpu, template.gpuOn = some gpu → gpu.env ≠ bareMetal →
    answer = .error (.incorrectSpec (.gpuEnvironment gpu.env))
  alone : ∀ gpu, template.gpuOn = some gpu → gpu.env = bareMetal → template.pciOn = none →
    answer = .error (.incorrectSpec .gpuWithoutPci)
  unsupported : ¬ template.MisplacesGpu → ∀ name, template.Asks dual speed defaults name →
    defaults.contains name = false → ∃ least, template.Asks dual speed defaults least ∧
      defaults.contains least = false ∧
      (∀ other, template.Asks dual speed defaults other → defaults.contains other = false →
        ¬ other < least) ∧
      answer = .error (.incorrectSpec (.unsupported least device))

theorem contains_entries_iff :
    (Dict.ofList (template.tunedEntries dual speed defaults ++ template.rawEntries dual)).contains
      name = true ↔ template.Asks dual speed defaults name := by
  rw [Dict.contains_ofList_iff, Asks]
  simp only [List.mem_append, mem_tunedEntries_iff, mem_rawEntries_iff]
  constructor
  · rintro ⟨value, given | ⟨own, param, mem, same, -⟩⟩
    · exact .inr ⟨value, given⟩
    · exact .inl ⟨own, param, mem, same⟩
  · rintro (⟨own, param, mem, same⟩ | ⟨value, given⟩)
    · exact ⟨param.value, .inr ⟨own, param, mem, same, rfl⟩⟩
    · exact ⟨value, .inl given⟩

theorem workedOut_of_refused {fault : SpecFault} (misplaced : template.MisplacesGpu)
    (elsewhere : ∀ gpu, template.gpuOn = some gpu → gpu.env ≠ bareMetal →
      fault = .gpuEnvironment gpu.env)
    (alone : ∀ gpu, template.gpuOn = some gpu → gpu.env = bareMetal → template.pciOn = none →
      fault = .gpuWithoutPci) :
    template.WorkedOut dual speed defaults device (.error (.incorrectSpec fault)) where
  raw := nofun
  tuned := nofun
  known := nofun
  judged := .inr ⟨fault, rfl⟩
  rejected_iff := ⟨fun _ => .inl misplaced, fun _ => ⟨fault, rfl⟩⟩
  elsewhere gpu on other := by rw [elsewhere gpu on other]
  alone gpu on metal off := by rw [alone gpu on metal off]
  unsupported placed := absurd misplaced placed

/-- Once GPUDirect is in its place, all that is asked for has to be known. -/
theorem workedOut_of_placed (placed : ¬ template.MisplacesGpu) :
    template.WorkedOut dual speed defaults device (Work.ofSpec (checkSupported
      (.ofList (template.tunedEntries dual speed defaults ++ template.rawEntries dual)) defaults
        device)) := by
  have elsewhere : ∀ gpu, template.gpuOn = some gpu → ¬ gpu.env ≠ bareMetal :=
    fun gpu on other => placed ⟨gpu, on, .inl other⟩
  have alone : ∀ gpu, template.gpuOn = some gpu → template.pciOn ≠ none :=
    fun gpu on off => placed ⟨gpu, on, .inr off⟩
  rw [checkSupported]
  split
  · next least missing =>
      have first := Dict.leastMissing_of_missing? missing
      have asked := contains_entries_iff.1 first.own
      refine ⟨fun _ no => ?_, fun _ no => ?_, fun _ no => ?_, .inr ⟨_, rfl⟩, ?_,
        fun gpu on other => ?_, fun gpu on _ off => ?_, fun _ _ _ _ => ?_⟩
      · cases no
      · cases no
      · cases no
      · exact ⟨fun _ => .inr ⟨least, asked, first.lacking⟩, fun _ => ⟨_, rfl⟩⟩
      · exact absurd other (elsewhere gpu on)
      · exact absurd off (alone gpu on)
      · refine ⟨least, asked, first.lacking, fun other asked lacking => ?_, rfl⟩
        exact first.least other (contains_entries_iff.2 asked) lacking
  · next complete =>
      have known : ∀ name, template.Asks dual speed defaults name →
          defaults.contains name = true := fun name asked =>
        Dict.missing?_eq_none_iff.1 complete name (contains_entries_iff.2 asked)
      refine ⟨?_, ?_, ?_, .inl ⟨_, rfl⟩, ⟨fun refused => ?_, ?_⟩, fun gpu on other => ?_,
        fun gpu on _ off => ?_, fun _ name asked lacking => ?_⟩
      · rintro _ ⟨⟩ before param after raw own last
        rw [Dict.get?_ofList_append, findRev?_rawEntries raw own last]
        rfl
      · rintro _ ⟨⟩ name free value
        rw [Dict.get?_ofList_append, findRev?_rawEntries_eq_none free, ← mem_tunedEntries_iff]
        exact Dict.findRev?_eq_some_iff
          ((template.tunedEntries_names dual speed defaults).nodup (nodup_tunedNames dual))
      · rintro _ ⟨⟩ name own
        have asked := contains_entries_iff.1 own
        refine ⟨known name asked, ?_⟩
        rcases asked with ⟨own, -⟩ | ⟨value, given⟩
        · exact own
        · exact given.onCard
      · obtain ⟨fault, no⟩ := refused
        cases no
      · rintro (misplaced | ⟨name, asked, lacking⟩)
        · exact absurd misplaced placed
        · cases lacking.symm.trans (known name asked)
      · exact absurd other (elsewhere gpu on)
      · exact absurd off (alone gpu on)
      · cases lacking.symm.trans (known name asked)

theorem workedOut (template : Template) (dual : Bool) (speed : Option UInt32)
    (defaults : Dict String) (device : String) :
    template.WorkedOut dual speed defaults device
      (Work.ofSpec (template.desired dual speed defaults device)) := by
  rw [desired]
  rcases template.parameters_cases dual speed defaults with
    ⟨gpu, on, other, wrong⟩ | ⟨gpu, on, metal, off, wrong⟩ | ⟨placed, worked⟩
  · rw [wrong]
    refine workedOut_of_refused ⟨gpu, on, .inl other⟩ (fun gpu' on' _ => ?_)
      fun gpu' on' metal _ => ?_
    · cases on.symm.trans on'
      rfl
    · cases on.symm.trans on'
      exact absurd metal other
  · rw [wrong]
    refine workedOut_of_refused ⟨gpu, on, .inr off⟩ (fun gpu' on' other => ?_) fun _ _ _ _ => rfl
    cases on.symm.trans on'
    exact absurd metal other
  · rw [worked]
    refine workedOut_of_placed ?_
    rintro ⟨gpu, on, other | off⟩
    · exact other (placed gpu on).1
    · exact (placed gpu on).2 off

theorem needsLinkSpeed_iff : template.needsLinkSpeed = true ↔
    ∃ pci, template.pciOn = some pci ∧ pci.maxAccOutRead = 0 := by
  rw [needsLinkSpeed, Option.any_eq_true]
  simp only [beq_iff_eq]

end Template

namespace NicDevice

variable {device : NicDevice} {configuration : Configuration} {ports : Ports}

/-- The speed of the link is told, or the host fails. -/
theorem runs_speed_iff {pci : String} {worked : Option UInt32 → Except EngineError (Dict String)}
    {events : List (Event hostService)} {answer : Except EngineError (Dict String)} :
    (some <$> Engine.linkSpeed pci >>= fun speed => Work.ofExcept (worked speed)).run.Runs events
        answer ↔
      (∃ speed, events = [⟨.linkSpeed pci, .ok speed⟩] ∧ answer = worked (some speed)) ∨
        ∃ cause, events = [⟨.linkSpeed pci, .error cause⟩] ∧ answer = .error (.host cause) := by
  constructor
  · intro h
    obtain ⟨found, rest, rfl, ends⟩ := runs_ask_iff.1 h
    cases found with
    | ok speed =>
        change (Program.done (worked (some speed))).Runs rest answer at ends
        obtain ⟨rfl, rfl⟩ := runs_done_iff.1 ends
        exact .inl ⟨speed, rfl, rfl⟩
    | error cause =>
        change (Program.done (.error (.host cause))).Runs rest answer at ends
        obtain ⟨rfl, rfl⟩ := runs_done_iff.1 ends
        exact .inr ⟨cause, rfl, rfl⟩
  · rintro (⟨speed, rfl, rfl⟩ | ⟨cause, rfl, rfl⟩)
    · exact .ask (.done _)
    · exact .ask (.done _)

/-- The parameters that a device asks for, one by one. The link is asked for its speed where PCI
tuning leaves the number of outstanding reads to it, and then has to tell. -/
theorem desiredNv_pointwise (hc : device.configuration = .ok configuration)
    (hp : device.ports = .ok ports) (defaults : Dict String) :
    ∃ worked : Option UInt32 → Except EngineError (Dict String),
      (∀ speed, configuration.template.WorkedOut ports.isDual speed defaults device.name
        (worked speed)) ∧
      ∀ events answer, (device.desiredNv defaults).run.Runs events answer ↔
        (¬ ∃ pci, configuration.template.pciOn = some pci ∧ pci.maxAccOutRead = 0) ∧
            events = [] ∧ answer = worked none ∨
          (∃ pci, configuration.template.pciOn = some pci ∧ pci.maxAccOutRead = 0) ∧
            ((∃ speed, events = [⟨.linkSpeed ports.first.pci, .ok speed⟩] ∧
                answer = worked (some speed)) ∨
              ∃ cause, events = [⟨.linkSpeed ports.first.pci, .error cause⟩] ∧
                answer = .error (.host cause)) := by
  refine ⟨_, fun speed => configuration.template.workedOut ports.isDual speed defaults device.name,
    fun events answer => ?_⟩
  rw [desiredNv, hc, hp, ← Template.needsLinkSpeed_iff]
  change (if configuration.template.needsLinkSpeed then _ else _ :
    Work (Dict String)).run.Runs events answer ↔ _
  split
  · next needed =>
      rw [runs_speed_iff]
      simp [needed]
  · next spared =>
      show (Program.done _).Runs events answer ↔ _
      rw [runs_done_iff]
      simp [spared]

end NicDevice

namespace Sample

/-- Most tunings are on. Of the raw parameters one is overridden by another and one is for a second
port. -/
def overriddenTemplate : Template where
  numVfs := 4
  linkType := some .ethernet
  pci := some ⟨true, 0, 0⟩
  gpuDirect := some ⟨true, bareMetal⟩
  rawNv := [⟨"NUM_OF_VFS", "8"⟩, ⟨"LINK_TYPE_P2", "2"⟩, ⟨"NUM_OF_VFS", "16"⟩]

/-- A device of one port with this template. -/
def overriddenDevice : NicDevice :=
  { device [] with spec := { configuration := some { template := overriddenTemplate } } }

/-- The defaults of a device that has one parameter of congestion control. -/
def overriddenDefaults : Dict String :=
  .ofList [("SRIOV_EN", "0"), ("NUM_OF_VFS", "0"), ("LINK_TYPE_P1", "1"), ("CNP_DSCP_P1", "26"),
    ("MAX_ACC_OUT_READ", "0"), ("ATS_ENABLED", "1")]

/-- What the device asks for on a link of 16 GT/s. -/
def overriddenParameters : Dict String :=
  .ofList [("SRIOV_EN", "1"), ("NUM_OF_VFS", "16"), ("LINK_TYPE_P1", "2"), ("CNP_DSCP_P1", "26"),
    ("MAX_ACC_OUT_READ", "44"), ("ATS_ENABLED", "0")]

end Sample

namespace NicDevice

/-- The last raw parameter counts, one for a second port does not, and a parameter of congestion
control that the device has is pinned. -/
theorem overriddenDevice_pointwise :
    ∃ desired, (Sample.overriddenDevice.desiredNv Sample.overriddenDefaults).run.Runs
        [⟨.linkSpeed "p0", .ok 16⟩] (.ok desired) ∧
      desired.get? "NUM_OF_VFS" = some "16" ∧ desired.get? "LINK_TYPE_P2" = none ∧
      desired.get? "CNP_DSCP_P1" = some "26" ∧ desired.get? "MAX_ACC_OUT_READ" = some "44" := by
  have hc : Sample.overriddenDevice.configuration = .ok { template := Sample.overriddenTemplate } :=
    rfl
  have hp : Sample.overriddenDevice.ports = .ok Sample.ports := rfl
  obtain ⟨worked, exact, runs⟩ := desiredNv_pointwise hc hp Sample.overriddenDefaults
  have run : (Sample.overriddenDevice.desiredNv Sample.overriddenDefaults).run.Runs
      [⟨.linkSpeed "p0", .ok 16⟩] (.ok Sample.overriddenParameters) := .ask (.done _)
  rcases (runs _ _).1 run with ⟨-, no, -⟩ | ⟨-, ⟨speed, told, same⟩ | ⟨_, no, -⟩⟩
  · cases no
  · cases told
    have known := exact (some 16)
    rw [← same] at known
    have second : ¬ Template.OnCard false "LINK_TYPE_P2" := by
      rintro (no | other)
      · cases no
      · exact other (List.isSuffixOf_iff_suffix.1 (by decide))
    have named : ∀ param ∈ Sample.overriddenTemplate.rawNv,
        (param.name == "NUM_OF_VFS" || param.name == "LINK_TYPE_P2") = true := by decide
    have unnamed : ∀ name, (name == "NUM_OF_VFS" || name == "LINK_TYPE_P2") = false →
        ¬ (Template.OnCard false name ∧
          ∃ param ∈ Sample.overriddenTemplate.rawNv, param.name = name) := by
      rintro _ other ⟨-, param, mem, rfl⟩
      cases other.symm.trans (named param mem)
    refine ⟨_, run, ?_, ?_, ?_, ?_⟩
    · exact known.raw _ rfl [⟨"NUM_OF_VFS", "8"⟩, ⟨"LINK_TYPE_P2", "2"⟩] _ [] rfl
        (.inr fun no => nomatch List.isSuffixOf_iff_suffix.2 no) nofun
    · refine Option.eq_none_iff_forall_ne_some.2 fun value asked => second ?_
      exact ((known.tuned _ rfl _ (fun raw => second raw.1) value).1 asked).onCard
    · have controls : ("CNP_DSCP", "4") ∈ Template.congestionControl := by decide
      have own : "_P1" ∈ Template.portSuffixes false := by decide
      exact (known.tuned _ rfl _ (unnamed _ rfl) _).2 (.pinned rfl controls own rfl)
    · exact (known.tuned _ rfl _ (unnamed _ rfl) _).2 (.fastLink rfl rfl rfl)
  · cases no

end NicDevice

end NicKeeper
