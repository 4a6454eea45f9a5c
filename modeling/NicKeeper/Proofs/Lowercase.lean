import Mathlib.Data.List.Basic
import NicKeeper.Text.Lowercase

/-!
# Lowercase text

To lowercase a text again changes nothing (`lower_lower`). Of the characters that lowercasing leads to
none has another lowercase form, and none is one of the two that do not go by the table. That is a
fact about the table: the points that one of its runs leads to are points of no run. It is checked
run against run (`leadsPast_of_mem`), since the runs are few and their points are many.

A hyphen has no case and is not skipped when a word's end is looked for. So what stands on one side
of a hyphen is lowercased as if nothing stood on the other (`lower_append_hyphen`).
-/

namespace NicKeeper.Text

/-! ## The table -/

/-- Whether a code point is one of a run. -/
def hasPoint (point : Nat) : Nat × Nat × Nat × Int → Bool
  | (first, last, step, _) => first ≤ point && point ≤ last && (point - first) % step == 0

/-- Whether the code points that a run leads to lie before another run or behind it, or in the gaps
of one that leaves every second one out. -/
def leadsPast (run other : Nat × Nat × Nat × Int) : Bool :=
  Nat.ble (other.2.1 + 1) (run.1 + run.2.2.2).toNat ||
    Nat.ble ((run.2.1 + run.2.2.2).toNat + 1) other.1 ||
    (run.2.2.1 % 2 == 0 || run.1 == run.2.1) && other.2.2.1 % 2 == 0 &&
      ((run.1 + run.2.2.2).toNat + other.1) % 2 == 1

/-- The hyphen and the capital I with a dot, which no run has. -/
def reservedPoints : List (Nat × Nat × Nat × Int) := [(0x2d, 0x2d, 1, 0), (0x130, 0x130, 1, 0)]

theorem hasPoint_of_leadsPast {run other : Nat × Nat × Nat × Int} {point : Nat}
    (forward : 0 ≤ run.1 + run.2.2.2) (past : leadsPast run other = true)
    (own : hasPoint point run = true) : hasPoint (point + run.2.2.2).toNat other = false := by
  obtain ⟨first, last, step, shift⟩ := run
  obtain ⟨first', last', step', shift'⟩ := other
  simp only [hasPoint, Bool.and_eq_true, decide_eq_true_eq, beq_iff_eq] at own
  obtain ⟨⟨low, high⟩, stepped⟩ := own
  simp only [leadsPast, Bool.or_eq_true, Bool.and_eq_true, Nat.ble_eq, beq_iff_eq] at past
  simp only at forward ⊢
  refine Bool.eq_false_iff.2 fun has => ?_
  simp only [hasPoint, Bool.and_eq_true, decide_eq_true_eq, beq_iff_eq] at has
  obtain ⟨⟨low', high'⟩, stepped'⟩ := has
  rcases past with (before | behind) | ⟨⟨even | single, even'⟩, odd⟩
  · omega
  · omega
  · have first_even := Nat.mod_mod_of_dvd (point - first) (Nat.dvd_of_mod_eq_zero even)
    have second_even :=
      Nat.mod_mod_of_dvd ((point + shift).toNat - first') (Nat.dvd_of_mod_eq_zero even')
    omega
  · have second_even :=
      Nat.mod_mod_of_dvd ((point + shift).toNat - first') (Nat.dvd_of_mod_eq_zero even')
    omega

theorem leadsPast_of_mem : ∀ run ∈ lowercaseRuns,
    ∀ other ∈ lowercaseRuns ++ reservedPoints, leadsPast run other = true := by
  have checked : (lowercaseRuns.all fun run =>
      (lowercaseRuns ++ reservedPoints).all (leadsPast run)) = true := by
    decide +kernel
  simpa only [List.all_eq_true] using checked

theorem nonneg_of_mem : ∀ run ∈ lowercaseRuns, 0 ≤ run.1 + run.2.2.2 := by
  decide +kernel

theorem simpleLower_eq (c : Char) : simpleLower c =
    ((lowercaseRuns.find? (hasPoint c.toNat)).map fun run =>
      Char.ofNat ((c.toNat : Int) + run.2.2.2).toNat).getD c := by
  have same : hasPoint c.toNat = fun (first, last, step, _) =>
      first ≤ c.toNat && c.toNat ≤ last && (c.toNat - first) % step == 0 := by
    funext ⟨first, last, step, shift⟩
    rfl
  rw [simpleLower, same]
  split
  · next found => rw [found]; rfl
  · next found => rw [found]; rfl

/-- A number that is no code point of a character stands for the character NUL. -/
theorem toNat_ofNat (point : Nat) :
    (Char.ofNat point).toNat = point ∨ (Char.ofNat point).toNat = 0 := by
  by_cases valid : point.isValidChar
  · exact .inl (by rw [Char.ofNat, dif_pos valid]; rfl)
  · exact .inr (by rw [Char.ofNat, dif_neg valid]; rfl)

theorem hasPoint_zero : ∀ other ∈ lowercaseRuns ++ reservedPoints, hasPoint 0 other = false := by
  decide +kernel

/-- The lowercase form of a character is the character, which no run has, or one that neither a run
has nor is reserved. -/
theorem simpleLower_cases (c : Char) :
    simpleLower c = c ∧ (∀ run ∈ lowercaseRuns, hasPoint c.toNat run = false) ∨
      ∀ other ∈ lowercaseRuns ++ reservedPoints, hasPoint (simpleLower c).toNat other = false := by
  rw [simpleLower_eq]
  cases found : lowercaseRuns.find? (hasPoint c.toNat) with
  | none => exact .inl ⟨rfl, by simpa using found⟩
  | some run =>
      refine .inr fun other mem => ?_
      have own : run ∈ lowercaseRuns := List.mem_of_find?_eq_some found
      rw [Option.map_some, Option.getD_some]
      rcases toNat_ofNat ((c.toNat : Int) + run.2.2.2).toNat with same | zero
      · rw [same]
        exact hasPoint_of_leadsPast (nonneg_of_mem run own) (leadsPast_of_mem run own other mem)
          (List.find?_some found)
      · rw [zero]
        exact hasPoint_zero other mem

theorem eq_hyphen_of_simpleLower {c : Char} (h : simpleLower c = '-') : c = '-' := by
  rcases simpleLower_cases c with ⟨same, -⟩ | past
  · exact same.symm.trans h
  · have absent := past (0x2d, 0x2d, 1, 0) (by simp [reservedPoints])
    rw [h] at absent
    exact absurd absent (by decide)

/-! ## Characters that stay as they are -/

/-- A character that lowercasing leaves alone wherever it stands. -/
structure Settled (c : Char) : Prop where
  simple : simpleLower c = c
  ne_sigma : c ≠ 'Σ'
  ne_dotted : c ≠ 'İ'

theorem settled_simpleLower {c : Char} (ne_sigma : c ≠ 'Σ') (ne_dotted : c ≠ 'İ') :
    Settled (simpleLower c) := by
  rcases simpleLower_cases c with ⟨same, -⟩ | past
  · rw [same]
    exact ⟨same, ne_sigma, ne_dotted⟩
  · have absent : ∀ run ∈ lowercaseRuns, hasPoint (simpleLower c).toNat run = false :=
      fun run mem => past run (List.mem_append_left _ mem)
    refine ⟨?_, fun sigma => ?_, fun dotted => ?_⟩
    · have none : lowercaseRuns.find? (hasPoint (simpleLower c).toNat) = none :=
        List.find?_eq_none.2 fun run mem => by simp [absent run mem]
      rw [simpleLower_eq (simpleLower c), none]
      rfl
    · have present : ∃ run ∈ lowercaseRuns, hasPoint 'Σ'.toNat run = true := by decide +kernel
      obtain ⟨run, mem, own⟩ := present
      rw [← sigma, absent run mem] at own
      cases own
    · have absent := past (0x130, 0x130, 1, 0) (by simp [reservedPoints])
      rw [dotted] at absent
      exact absurd absent (by decide)

variable {text : List Char}

theorem settled_lowerAfter (before text : List Char) : ∀ c ∈ lowerAfter before text, Settled c := by
  induction text generalizing before with
  | nil => exact List.forall_mem_nil _
  | cons c rest ih =>
      rw [lowerAfter]
      refine List.forall_mem_append.2 ⟨?_, ih _⟩
      by_cases sigma : c = 'Σ'
      · have inner : Settled 'σ' := ⟨by decide +kernel, by decide, by decide⟩
        have final : Settled 'ς' := ⟨by decide +kernel, by decide, by decide⟩
        rw [if_pos sigma, List.forall_mem_singleton]
        split
        · exact final
        · exact inner
      · by_cases dotted : c = 'İ'
        · have letter : Settled 'i' := ⟨by decide +kernel, by decide, by decide⟩
          have dot : Settled '\u0307' := ⟨by decide +kernel, by decide, by decide⟩
          rw [if_neg sigma, if_pos dotted]
          simp [letter, dot]
        · rw [if_neg sigma, if_neg dotted, List.forall_mem_singleton]
          exact settled_simpleLower sigma dotted

theorem lowerAfter_of_settled (before : List Char) (settled : ∀ c ∈ text, Settled c) :
    lowerAfter before text = text := by
  induction text generalizing before with
  | nil => rfl
  | cons c rest ih =>
      obtain ⟨⟨simple, ne_sigma, ne_dotted⟩, settled⟩ := List.forall_mem_cons.1 settled
      rw [lowerAfter, if_neg ne_sigma, if_neg ne_dotted, simple, ih _ settled]
      rfl

theorem lower_lower (text : List Char) : lower (lower text) = lower text :=
  lowerAfter_of_settled [] (settled_lowerAfter [] text)

theorem lowerAfter_eq_nil_iff (before : List Char) : lowerAfter before text = [] ↔ text = [] := by
  cases text with
  | nil => simp [lowerAfter]
  | cons c rest =>
      rw [lowerAfter]
      by_cases sigma : c = 'Σ'
      · simp [sigma]
      · by_cases dotted : c = 'İ'
        · simp [dotted]
        · simp [sigma, dotted]

/-! ## Hyphens -/

theorem casedNext_append_hyphen (text rest : List Char) :
    casedNext (text ++ '-' :: rest) = casedNext text := by
  have uncased : casedRanges.contains '-'.toNat = false := by decide +kernel
  have unskipped : ignorableRanges.contains '-'.toNat = false := by decide +kernel
  induction text with
  | nil =>
      show (if ignorableRanges.contains '-'.toNat then casedNext rest
        else casedRanges.contains '-'.toNat) = false
      rw [unskipped, uncased]
      rfl
  | cons c text ih => rw [List.cons_append, casedNext, casedNext, ih]

/-- What stands before a hyphen has no effect behind it. -/
theorem lowerAfter_of_hyphen (before others text : List Char) :
    lowerAfter (before ++ '-' :: others) text = lowerAfter before text := by
  induction text generalizing before with
  | nil => rfl
  | cons c rest ih =>
      rw [lowerAfter, lowerAfter, casedNext_append_hyphen, ← List.cons_append, ih]

theorem lowerAfter_append_hyphen (before text rest : List Char) :
    lowerAfter before (text ++ '-' :: rest) = lowerAfter before text ++ '-' :: lower rest := by
  induction text generalizing before with
  | nil =>
      have hyphen : simpleLower '-' = '-' := by decide +kernel
      have later := lowerAfter_of_hyphen [] before rest
      rw [List.nil_append] at later
      simp [lowerAfter, hyphen, later, lower]
  | cons c text ih =>
      rw [List.cons_append, lowerAfter, lowerAfter, casedNext_append_hyphen, ih, List.append_assoc]

theorem lower_append_hyphen (text rest : List Char) :
    lower (text ++ '-' :: rest) = lower text ++ '-' :: lower rest :=
  lowerAfter_append_hyphen [] text rest

theorem hyphen_notMem_lowerAfter (before : List Char) (whole : '-' ∉ text) :
    '-' ∉ lowerAfter before text := by
  induction text generalizing before with
  | nil => exact List.not_mem_nil
  | cons c rest ih =>
      obtain ⟨other, whole⟩ := List.ne_and_not_mem_of_not_mem_cons whole
      rw [lowerAfter, List.mem_append, not_or]
      refine ⟨?_, ih _ whole⟩
      by_cases sigma : c = 'Σ'
      · rw [if_pos sigma, List.mem_singleton]
        split
        · decide
        · decide
      · by_cases dotted : c = 'İ'
        · rw [if_neg sigma, if_pos dotted]
          decide
        · rw [if_neg sigma, if_neg dotted, List.mem_singleton]
          exact fun own => other (eq_hyphen_of_simpleLower own.symm).symm

end NicKeeper.Text
