import NicKeeper.Engine.Parameters
import NicKeeper.Proofs.Inclusion

/-!
# What a template can ask for

A template asks for no parameter that the device does not have, and it asks for the gate only by a
raw parameter: none of its tunings contributes that one.
-/

namespace NicKeeper

namespace Template

variable {template : Template} {dual : Bool} {speed : Option UInt32} {defaults : Dict String}
  {device : String}

/-- What a template asks for is what its entries come to, if the device has all of it. -/
theorem of_desired {desired : Dict String}
    (h : template.desired dual speed defaults device = .ok desired) :
    template.parameters dual speed defaults = .ok desired ∧ desired.missing? defaults = none := by
  rw [Template.desired] at h
  cases wanted : template.parameters dual speed defaults with
  | error fault =>
      rw [wanted] at h
      cases h
  | ok parameters =>
      rw [wanted] at h
      change checkSupported parameters defaults device = _ at h
      rw [checkSupported] at h
      split at h
      · cases h
      · next none =>
          cases h
          exact ⟨rfl, none⟩

theorem contains_of_desired {desired : Dict String}
    (h : template.desired dual speed defaults device = .ok desired) {name : String}
    (asked : desired.contains name = true) : defaults.contains name = true :=
  Dict.missing?_eq_none_iff.1 (of_desired h).2 name asked

/-! ## What the tunings contribute -/

/-- The entries of all tunings together, GPUDirect's where it works. -/
def tunedEntries (template : Template) (dual : Bool) (speed : Option UInt32)
    (defaults : Dict String) : List (String × String) :=
  template.sriovEntries ++ template.linkTypeEntries dual ++ template.accOutReadEntries speed ++
    template.roceEntries dual defaults ++ template.gpuOn.toList.map fun _ => ("ATS_ENABLED", offValue)

/-- The parameters that tunings can contribute on a card, in the order in which they do. -/
def tunedNames (dual : Bool) : List String :=
  ["SRIOV_EN", "NUM_OF_VFS"] ++ ("LINK_TYPE_P1" :: if dual then ["LINK_TYPE_P2"] else []) ++
    ["MAX_ACC_OUT_READ"] ++ (roceProfile dual).map Prod.fst ++ ["ATS_ENABLED"]

theorem nodup_tunedNames (dual : Bool) : (tunedNames dual).Nodup := by
  cases dual with
  | false => decide
  | true => decide

theorem linkTypeEntries_names (template : Template) (dual : Bool) :
    ((template.linkTypeEntries dual).map Prod.fst).Sublist
      ("LINK_TYPE_P1" :: if dual then ["LINK_TYPE_P2"] else []) := by
  rw [linkTypeEntries]
  split
  · exact List.nil_sublist _
  · cases dual with
    | false => exact List.Sublist.refl _
    | true => exact List.Sublist.refl _

theorem accOutReadEntries_names (template : Template) (speed : Option UInt32) :
    ((template.accOutReadEntries speed).map Prod.fst).Sublist ["MAX_ACC_OUT_READ"] := by
  rw [accOutReadEntries]
  split
  · exact List.nil_sublist _
  · next pci _ =>
      dsimp only
      generalize (if pci.maxAccOutRead = 0 then speed.bind accOutReadFor
        else some (decimal pci.maxAccOutRead)) = value
      cases value with
      | none => exact List.nil_sublist _
      | some value => exact List.Sublist.refl _

theorem roceEntries_names (template : Template) (dual : Bool) (defaults : Dict String) :
    ((template.roceEntries dual defaults).map Prod.fst).Sublist
      ((roceProfile dual).map Prod.fst) := by
  rw [roceEntries]
  split
  · exact List.Sublist.refl _
  · induction roceProfile dual with
    | nil => exact List.Sublist.refl _
    | cons entry rest ih =>
        obtain ⟨name, value⟩ := entry
        rw [List.filterMap_cons]
        dsimp only
        cases defaults.get? name with
        | none => exact ih.cons _
        | some default => exact ih.cons_cons _

/-- No tuning contributes a parameter of another. -/
theorem tunedEntries_names (template : Template) (dual : Bool) (speed : Option UInt32)
    (defaults : Dict String) :
    ((template.tunedEntries dual speed defaults).map Prod.fst).Sublist (tunedNames dual) := by
  have gpu : ((template.gpuOn.toList.map fun _ => ("ATS_ENABLED", offValue)).map
      Prod.fst).Sublist ["ATS_ENABLED"] := by
    cases template.gpuOn with
    | none => exact List.nil_sublist _
    | some gpu => exact List.Sublist.refl _
  simp only [tunedEntries, tunedNames, List.map_append]
  exact ((((List.Sublist.refl _).append (template.linkTypeEntries_names dual)).append
    (template.accOutReadEntries_names speed)).append
      (template.roceEntries_names dual defaults)).append gpu

/-- What the entries of a template come to. GPUDirect is refused in other environments first, and
then without PCI tuning. -/
theorem parameters_cases (template : Template) (dual : Bool) (speed : Option UInt32)
    (defaults : Dict String) :
    (∃ gpu, template.gpuOn = some gpu ∧ gpu.env ≠ bareMetal ∧
        template.parameters dual speed defaults = .error (.gpuEnvironment gpu.env)) ∨
      (∃ gpu, template.gpuOn = some gpu ∧ gpu.env = bareMetal ∧ template.pciOn = none ∧
        template.parameters dual speed defaults = .error .gpuWithoutPci) ∨
      (∀ gpu, template.gpuOn = some gpu → gpu.env = bareMetal ∧ template.pciOn ≠ none) ∧
        template.parameters dual speed defaults =
          .ok (.ofList (template.tunedEntries dual speed defaults ++ template.rawEntries dual)) := by
  rw [parameters, gpuEntries, tunedEntries]
  cases gpuOn : template.gpuOn with
  | none => exact .inr (.inr ⟨nofun, rfl⟩)
  | some gpu =>
      dsimp only
      by_cases metal : gpu.env = bareMetal
      · rw [if_neg (not_not_intro metal)]
        cases pciOn : template.pciOn with
        | none => exact .inr (.inl ⟨gpu, rfl, metal, rfl, rfl⟩)
        | some pci =>
            refine .inr (.inr ⟨?_, rfl⟩)
            rintro _ ⟨⟩
            exact ⟨metal, nofun⟩
      · rw [if_pos metal]
        exact .inl ⟨gpu, rfl, metal, rfl⟩

/-! ## The gate -/

theorem ne_gate_of_mem_tunedEntries {entry : String × String}
    (mem : entry ∈ template.tunedEntries dual speed defaults) : entry.1 ≠ gateParameter := by
  have named : entry.1 ∈ tunedNames dual :=
    (template.tunedEntries_names dual speed defaults).subset (List.mem_map_of_mem mem)
  have other : gateParameter ∉ tunedNames dual := by
    cases dual with
    | false => decide
    | true => decide
  exact fun gate => other (gate ▸ named)

/-- What the raw parameters give for a name: the last one of them says. -/
def rawValue? (template : Template) (name : String) : Option String :=
  (template.rawNv.reverse.find? (·.name == name)).map (·.value)

theorem applies_gate {param : NvParam} (gate : param.name = gateParameter) :
    applies dual param = true := by
  rw [applies, gate]
  cases dual with
  | false => rfl
  | true => rfl

/-- The gate is not one of the parameters that are left out on cards of one port. -/
theorem find?_gate_rawEntries (template : Template) (dual : Bool) :
    ((template.rawEntries dual).reverse.find? (·.1 == gateParameter)).map Prod.snd =
      template.rawValue? gateParameter := by
  have same : ∀ param : NvParam,
      decide (applies dual param = true ∧ (param.name == gateParameter) = true) =
        (param.name == gateParameter) := by
    intro param
    by_cases gate : param.name = gateParameter
    · simp [gate, applies_gate gate]
    · simp [gate]
  rw [rawEntries, ← List.map_reverse, List.find?_map, ← List.filter_reverse, List.find?_filter,
    Option.map_map, rawValue?]
  simp only [Function.comp_def, same]

/-- The value that a template asks for the gate is the one that its raw parameters give. -/
theorem get?_gate_of_desired {desired : Dict String}
    (h : template.desired dual speed defaults device = .ok desired) :
    desired.get? gateParameter = template.rawValue? gateParameter := by
  have wanted := (of_desired h).1
  rcases template.parameters_cases dual speed defaults with
    ⟨_, -, -, wrong⟩ | ⟨_, -, -, -, wrong⟩ | ⟨-, worked⟩
  · cases wrong.symm.trans wanted
  · cases wrong.symm.trans wanted
  · cases worked.symm.trans wanted
    have tuned : (template.tunedEntries dual speed defaults).reverse.find?
        (·.1 == gateParameter) = none := by
      refine List.find?_eq_none.2 fun entry mem => ?_
      rw [beq_iff_eq]
      exact ne_gate_of_mem_tunedEntries (List.mem_reverse.1 mem)
    rw [Dict.get?_ofList_append, tuned, find?_gate_rawEntries]
    exact Option.or_none

/-- Where no raw parameter switches the gate off, the template does not. -/
theorem gate_of_desired (raw : ∀ param ∈ template.rawNv, param.name = gateParameter →
      param.value = onValue) {desired : Dict String}
    (h : template.desired dual speed defaults device = .ok desired) {value : String}
    (asked : desired.get? gateParameter = some value) : value = onValue := by
  rw [get?_gate_of_desired h, rawValue?, Option.map_eq_some_iff] at asked
  obtain ⟨param, found, rfl⟩ := asked
  have mem := List.mem_reverse.1 (List.mem_of_find?_eq_some found)
  exact raw param mem (by simpa using List.find?_some found)

end Template

end NicKeeper
