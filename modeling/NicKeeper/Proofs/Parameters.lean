import NicKeeper.Engine.Staging
import NicKeeper.Host.Memory
import NicKeeper.Proofs.Inclusion

/-!
# Firmware parameters in memory

What the engine's comparisons say about the parameters of a device, and what staging makes of them.
A verdict is about what can be seen: with the gate off, advanced parameters have no values. What can
be seen is so, though (`shown_current_subset`), and with the gate on everything can be seen
(`shown_of_gateOn`).
-/

namespace NicKeeper

namespace NvSnapshot

variable {snapshot : NvSnapshot} {desired : Dict String} {device : String}

theorem any_not_isStaged_eq_false_iff :
    (desired.entries.any fun entry => !snapshot.isStaged entry) = false ↔
      desired ⊆ snapshot.nextBoot := by
  rw [List.any_eq_false, Dict.subset_iff]
  simp [isStaged]

theorem any_not_isInEffect_eq_false_iff :
    (desired.entries.any fun entry => !snapshot.isInEffect entry) = false ↔
      desired ⊆ snapshot.current := by
  rw [List.any_eq_false, Dict.subset_iff]
  simp [isInEffect]

/-- The comparison fails at the first parameter without a value in effect if the gate is on, and
otherwise tells whether the desired values are staged and whether they are in effect too. -/
theorem verdict_cases (snapshot : NvSnapshot) (desired : Dict String) (device : String) :
    (∃ name, gateOn snapshot.current = true ∧ desired.missing? snapshot.current = some name ∧
        snapshot.verdict desired device = .error (.unsupported name device)) ∨
      (gateOn snapshot.current = true → desired.missing? snapshot.current = none) ∧
        ∃ verdict, snapshot.verdict desired device = .ok verdict ∧
          (verdict.updateNeeded = false ↔ desired ⊆ snapshot.nextBoot) ∧
          (verdict.rebootNeeded = false ↔
            desired ⊆ snapshot.nextBoot ∧ desired ⊆ snapshot.current) := by
  have complete : ∀ found, (desired.names.find? fun name =>
      gateOn snapshot.current && !snapshot.current.contains name) = found →
      found = if gateOn snapshot.current then desired.missing? snapshot.current else none := by
    rintro _ rfl
    cases gateOn snapshot.current with
    | true => rfl
    | false => exact List.find?_eq_none.2 (by simp)
  rw [verdict]
  split
  · next name found =>
      have eq := complete _ found
      split at eq
      · next on => exact .inl ⟨name, on, eq.symm, rfl⟩
      · cases eq
  · next found =>
      have eq := complete _ found
      refine .inr ⟨fun on => by rw [eq, if_pos on], _, rfl, any_not_isStaged_eq_false_iff, ?_⟩
      rw [Bool.or_eq_false_iff, any_not_isStaged_eq_false_iff, any_not_isInEffect_eq_false_iff]

/-- The parameters to write are those that are not staged, unless one has no staged value at all. -/
theorem missing_cases (snapshot : NvSnapshot) (desired : Dict String) (device : String) :
    (∃ name, desired.missing? snapshot.nextBoot = some name ∧
        snapshot.missing desired device = .error (.unsupported name device)) ∨
      desired.missing? snapshot.nextBoot = none ∧
        snapshot.missing desired device =
          .ok (desired.entries.filter fun entry => !snapshot.isStaged entry) := by
  rw [missing]
  split
  · next name found => exact .inl ⟨name, found, rfl⟩
  · next found => exact .inr ⟨found, rfl⟩

/-- Values are seen to be the defaults if none of them is another, the gate apart. -/
theorem isDefault_iff {values : Dict String} :
    snapshot.isDefault values = true ↔ ∀ name default, snapshot.default.get? name = some default →
      name ≠ gateParameter → ∀ value, values.get? name = some value → value = default := by
  rw [isDefault, List.all_eq_true]
  constructor
  · intro all name default known other value found
    have same := all (name, default) (Dict.mem_entries_iff.2 known)
    rw [Bool.or_eq_true, found, beq_iff_eq] at same
    rcases same with gate | same
    · exact absurd gate other
    · exact beq_iff_eq.1 same
  · rintro all ⟨name, default⟩ mem
    rw [Bool.or_eq_true]
    by_cases gate : name = gateParameter
    · exact .inl (beq_iff_eq.2 gate)
    · refine .inr ((Option.all_eq_true _ _).2 fun value found => beq_iff_eq.2 ?_)
      exact all name default (Dict.mem_entries_iff.1 mem) gate value found

theorem isDefault_of_settled (settled : snapshot.resetVerdict.rebootNeeded = false) :
    snapshot.isDefault snapshot.current = true := by
  rw [resetVerdict] at settled
  split at settled
  · assumption
  · split at settled
    · cases settled
    · cases settled

end NvSnapshot

namespace NvMemory

variable {nv : NvMemory}

theorem visible_subset (values : Dict String) : nv.visible values ⊆ values := by
  intro name value h
  rw [visible, Dict.get?_filter, Option.filter_eq_some_iff] at h
  exact h.1

theorem shown_current_subset : nv.shown.current ⊆ nv.stored.current := visible_subset _

theorem shown_nextBoot_subset : nv.shown.nextBoot ⊆ nv.stored.nextBoot := visible_subset _

/-- What is not hidden is seen as it is. -/
theorem get?_visible {name : String}
    (seen : ¬ (gateOn nv.stored.current = false ∧ name ∈ nv.advanced)) (values : Dict String) :
    (nv.visible values).get? name = values.get? name := by
  rw [visible, Dict.get?_filter]
  cases values.get? name with
  | none => rfl
  | some value =>
      refine Option.filter_eq_some_iff.2 ⟨rfl, ?_⟩
      rw [Bool.or_eq_true, Bool.not_eq_true', ← Bool.not_eq_true, List.contains_iff_mem]
      by_cases on : gateOn nv.stored.current = true
      · exact .inl on
      · exact .inr fun hidden => seen ⟨Bool.eq_false_iff.2 on, hidden⟩

theorem visible_of_gateOn (on : gateOn nv.stored.current = true) (values : Dict String) :
    nv.visible values = values := by
  apply Dict.ext_get?
  intro name
  exact get?_visible (fun hidden => Bool.false_ne_true (hidden.1.symm.trans on)) values

theorem shown_of_gateOn (on : gateOn nv.stored.current = true) : nv.shown = nv.stored := by
  rw [shown, visible_of_gateOn on, visible_of_gateOn on]

/-- Whether the gate is on can always be seen. -/
theorem gateOn_shown : gateOn nv.shown.current = gateOn nv.stored.current := by
  cases on : gateOn nv.stored.current with
  | true => rw [shown_of_gateOn on, on]
  | false =>
      rw [gateOn, beq_eq_false_iff_ne]
      intro eq
      have seen := shown_current_subset _ _ eq
      rw [gateOn, seen] at on
      cases on

/-! ## Staging -/

def stageAll (nv : NvMemory) (entries : List (String × String)) : NvMemory :=
  { nv with stored := { nv.stored with nextBoot := nv.stored.nextBoot.insertAll entries } }

theorem stageAll_cons (entry : String × String) (entries : List (String × String)) :
    nv.stageAll (entry :: entries) = (nv.stage entry.1 entry.2).stageAll entries := rfl

/-- Stages what a spec asks for and cannot be seen to be staged. -/
def stageDesired (nv : NvMemory) (desired : Dict String) : NvMemory :=
  nv.stageAll (desired.entries.filter fun entry => !nv.shown.isStaged entry)

/-- What a reset stages is staged, but maybe for the gate. -/
def DefaultsStaged (nv : NvMemory) : Prop :=
  ∀ name, name ≠ gateParameter → nv.stored.nextBoot.get? name = nv.stored.default.get? name

/-- Defaults are recognised, whatever part of them is hidden. -/
theorem isDefault_visible {values : Dict String}
    (same : ∀ name, name ≠ gateParameter → values.get? name = nv.stored.default.get? name) :
    nv.shown.isDefault (nv.visible values) = true := by
  refine NvSnapshot.isDefault_iff.2 fun name default known other value found => ?_
  have stored := visible_subset values _ _ found
  rw [same name other, show nv.stored.default.get? name = some default from known] at stored
  exact (Option.some.inj stored).symm

theorem DefaultsStaged.spared (staged : nv.DefaultsStaged) :
    nv.shown.resetVerdict.updateNeeded = false := by
  have recognised : nv.shown.isDefault nv.shown.nextBoot = true := isDefault_visible staged
  rw [NvSnapshot.resetVerdict, recognised]
  split
  · rfl
  · rfl

theorem subset_stageDesired (nv : NvMemory) (desired : Dict String) :
    desired ⊆ (nv.stageDesired desired).stored.nextBoot := by
  refine Dict.subset_insertAll fun entry _ spared => ?_
  rw [Bool.not_eq_false', NvSnapshot.isStaged, beq_iff_eq] at spared
  exact shown_nextBoot_subset _ _ spared

end NvMemory

end NicKeeper
