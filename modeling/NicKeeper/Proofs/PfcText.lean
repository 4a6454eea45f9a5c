import NicKeeper.Proofs.QosReport

/-!
# Flow control as text

Eight flags with commas between them stand for which priorities are paused. Reading takes the text
apart at its commas and goes by what is left of each part without the blanks around it, which is one
of two marks or makes no sense. So a text is read exactly when it is the written form of some flags
but for blanks around the parts, and the flag at a place is that of the part there.

Writing what was read takes these blanks away and changes nothing else, so what is written reads
back as it was (`text_and_flags_correspond`).
-/

namespace NicKeeper.Pfc

open Text (IsWord join_eq_intercalate splitWhere splitWhere_eq_splitOnP trim)

variable {pfc : Pfc} {parts : List (List Char)} {text : List Char} {priority : Nat}

/-! ## Flags by priority -/

theorem isEnabled_eq_true_iff :
    pfc.isEnabled priority = true ↔ pfc.flags[priority]? = some true := by
  rw [isEnabled, List.getD_eq_getElem?_getD]
  cases pfc.flags[priority]? with
  | none => simp
  | some flag => simp

theorem isEnabled_withEnabled (priorities : List Nat) (priority : Nat) :
    (withEnabled priorities).isEnabled priority = true ↔ priority < 8 ∧ priority ∈ priorities := by
  rw [isEnabled_eq_true_iff, withEnabled, List.getElem?_map]
  by_cases below : priority < priorityCount
  · rw [List.getElem?_range below, Option.map_some, Option.some.injEq, List.contains_iff_mem]
    exact (and_iff_right below).symm
  · rw [List.getElem?_eq_none (by rw [List.length_range]; omega), Option.map_none]
    exact ⟨nofun, fun own => absurd own.1 below⟩

/-! ## Marks -/

/-- The marks of flags are the lists of eight marks. -/
theorem exists_eq_marks_iff :
    (∃ pfc : Pfc, parts = marks pfc.flags) ↔
      parts.length = 8 ∧ ∀ part ∈ parts, part = ['0'] ∨ part = ['1'] := by
  constructor
  · rintro ⟨pfc, rfl⟩
    refine ⟨by rw [marks, List.length_map, pfc.length_flags, priorityCount], fun part mem => ?_⟩
    obtain ⟨flag, -, rfl⟩ := List.mem_map.1 mem
    cases flag
    · exact .inl rfl
    · exact .inr rfl
  · rintro ⟨count, each⟩
    refine ⟨⟨parts.map (· == ['1']), by rw [List.length_map, count, priorityCount]⟩, ?_⟩
    rw [marks, List.map_map]
    conv_lhs => rw [← List.map_id parts]
    refine List.map_congr_left fun part mem => ?_
    rcases each part mem with rfl | rfl
    · rfl
    · rfl

theorem isEnabled_iff_of_marks {part : List Char} (own : (marks pfc.flags)[priority]? = some part) :
    pfc.isEnabled priority = true ↔ part = ['1'] := by
  rw [marks, List.getElem?_map, Option.map_eq_some_iff] at own
  obtain ⟨flag, found, rfl⟩ := own
  rw [isEnabled_eq_true_iff, found]
  cases flag <;> decide

theorem ofText?_chars (pfc : Pfc) : ofText? pfc.chars = .ok pfc := by
  have words : ∀ part ∈ marks pfc.flags, IsWord part := by
    intro part mem
    obtain ⟨flag, -, rfl⟩ := List.mem_map.1 mem
    cases flag <;> decide
  have count : (marks pfc.flags).length = priorityCount := by
    rw [marks, List.length_map, pfc.length_flags]
  exact (ofText?_join_eq_ok_iff words count).2 rfl

/-- Reading and writing flow control belong together: what can be read is what is written, with
blanks around its parts, and a flag is on exactly if its part is a `1`. Flags that are switched on
by their priorities are on for those of them that there are. -/
theorem text_and_flags_correspond :
    (∀ text, (∃ pfc, ofText? text = .ok pfc) ↔
      (text.splitOn ',').length = 8 ∧
        ∀ part ∈ text.splitOn ',', trim part = ['0'] ∨ trim part = ['1']) ∧
      (∀ text pfc, ofText? text = .ok pfc →
        (∀ i part, (text.splitOn ',')[i]? = some part →
          (pfc.isEnabled i = true ↔ trim part = ['1'])) ∧
        pfc.text.toList = [','].intercalate ((text.splitOn ',').map trim)) ∧
      (∀ pfc : Pfc, ofText? pfc.text.toList = .ok pfc) ∧
      ∀ priorities q, (withEnabled priorities).isEnabled q = true ↔ q < 8 ∧ q ∈ priorities := by
  have parts (text : List Char) : splitWhere (· == ',') text = text.splitOn ',' :=
    splitWhere_eq_splitOnP _ text
  refine ⟨fun text => ?_, fun text pfc read => ?_, fun pfc => ?_, isEnabled_withEnabled⟩
  · simp only [ofText?_eq_ok_iff, parts]
    rw [exists_eq_marks_iff, List.length_map, List.forall_mem_map]
  · rw [ofText?_eq_ok_iff, parts] at read
    constructor
    · intro i part own
      refine isEnabled_iff_of_marks ?_
      rw [← read, List.getElem?_map, own, Option.map_some]
    · rw [read, Pfc.text, String.toList_ofList, ← join_eq_intercalate]
      rfl
  · rw [Pfc.text, String.toList_ofList]
    exact ofText?_chars pfc

/-- Blanks of any kind may stand around the parts, and are not written again. -/
theorem spaced_flags_correspond :
    ofText? "1,\u2003 0 ,0,\t1\n,0,0,0,1".toList = .ok (.withEnabled [3, 7, 0, 3, 8]) ∧
      (∀ i part, ("1,\u2003 0 ,0,\t1\n,0,0,0,1".toList.splitOn ',')[i]? = some part →
        ((withEnabled [3, 7, 0, 3, 8]).isEnabled i = true ↔ trim part = ['1'])) ∧
      (withEnabled [3, 7, 0, 3, 8]).text.toList =
        [','].intercalate (("1,\u2003 0 ,0,\t1\n,0,0,0,1".toList.splitOn ',').map trim) := by
  have read : ofText? "1,\u2003 0 ,0,\t1\n,0,0,0,1".toList =
      .ok (.withEnabled [3, 7, 0, 3, 8]) := by decide +kernel
  obtain ⟨-, own, -⟩ := text_and_flags_correspond
  exact ⟨read, own _ _ read⟩

end NicKeeper.Pfc
