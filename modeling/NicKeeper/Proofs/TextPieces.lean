import Mathlib.Data.List.DropRight
import Mathlib.Data.List.TakeWhile
import NicKeeper.Text.Lines

/-!
# Texts and their pieces

Tools print for people, so what they print is read with room for blanks: around a line, behind a
lead, between words. Each way to take a text apart is tied here to what the text looks like, with
every blank in it: trimming (`exists_trim`), a lead (`after?_trim_eq_some_iff`), the first mark
(`cutAt_append_cons`), words (`words_eq_iff`) and pieces between marks (`splitWhere_join`).

A reader that goes by what is left of a line when it is trimmed, and that passes over blank lines,
cannot tell in which way the lines were ended (`foldlM_lines_join`).
-/

namespace NicKeeper.Text

/-! ## Blanks -/

/-- Nothing but blanks. -/
def Blank (text : List Char) : Prop := ∀ c ∈ text, isBlank c = true

/-- Something without a blank in it. -/
structure IsWord (word : List Char) : Prop where
  ne_nil : word ≠ []
  solid : ∀ c ∈ word, isBlank c = false

/-- Begins and ends with something that is not blank. -/
structure Firm (text : List Char) : Prop where
  first : text.head?.any (!isBlank ·) = true
  last : text.getLast?.any (!isBlank ·) = true

variable {text lead tail word line : List Char}

instance : Decidable (Blank text) := decidable_of_iff (text.all isBlank = true) List.all_eq_true

theorem isWord_iff : IsWord word ↔ word ≠ [] ∧ word.all (!isBlank ·) = true := by
  rw [List.all_eq_true]
  refine ⟨fun h => ⟨h.ne_nil, fun c mem => by simpa using h.solid c mem⟩, fun h => ⟨h.1, ?_⟩⟩
  exact fun c mem => by simpa using h.2 c mem

instance : Decidable (IsWord word) := decidable_of_iff _ isWord_iff.symm

theorem Firm.exists_cons (h : Firm text) : ∃ c rest, text = c :: rest ∧ isBlank c = false := by
  cases text with
  | nil => cases h.first
  | cons c rest => exact ⟨c, rest, rfl, by simpa using h.first⟩

theorem Firm.exists_concat (h : Firm text) : ∃ rest c, text = rest ++ [c] ∧ isBlank c = false := by
  rcases List.eq_nil_or_concat' text with rfl | ⟨rest, c, rfl⟩
  · cases h.last
  · exact ⟨rest, c, rfl, by simpa using h.last⟩

theorem IsWord.firm (h : IsWord word) : Firm word where
  first := by
    obtain ⟨c, rest, rfl⟩ := List.exists_cons_of_ne_nil h.ne_nil
    simpa using h.solid c List.mem_cons_self
  last := by
    rcases List.eq_nil_or_concat' word with rfl | ⟨rest, c, rfl⟩
    · exact absurd rfl h.ne_nil
    · simpa using h.solid c (List.mem_append_right _ List.mem_cons_self)

theorem blank_nil : Blank [] := List.forall_mem_nil _

theorem blank_append {first last : List Char} : Blank (first ++ last) ↔ Blank first ∧ Blank last :=
  List.forall_mem_append

/-! ## Trimming -/

theorem trimStart_append (blank : Blank lead) (text : List Char) :
    trimStart (lead ++ text) = trimStart text :=
  List.dropWhile_append_of_pos blank

theorem exists_trimStart (text : List Char) :
    ∃ lead, Blank lead ∧ text = lead ++ trimStart text :=
  ⟨text.takeWhile isBlank, fun _ mem => List.mem_takeWhile_imp mem,
    List.takeWhile_append_dropWhile.symm⟩

theorem trimStart_of_blank (blank : Blank text) : trimStart text = [] :=
  List.dropWhile_eq_nil_iff.2 blank

theorem trimEnd_append (text : List Char) (blank : Blank tail) :
    trimEnd (text ++ tail) = trimEnd text := by
  rw [trimEnd, List.reverse_append, List.dropWhile_append_of_pos, trimEnd]
  exact fun c mem => blank c (List.mem_reverse.1 mem)

theorem exists_trimEnd (text : List Char) : ∃ tail, Blank tail ∧ text = trimEnd text ++ tail :=
  ⟨text.rtakeWhile isBlank, fun _ mem => List.mem_rtakeWhile_imp mem,
    List.rdropWhile_append_rtakeWhile.symm⟩

theorem trimEnd_prefix_self (text : List Char) : trimEnd text <+: text :=
  List.rdropWhile_prefix _ text

/-- Trimming does not go past the end of something firm. -/
theorem Firm.trimEnd_append (h : Firm text) (before rest : List Char) :
    trimEnd (before ++ text ++ rest) = before ++ text ++ trimEnd rest := by
  obtain ⟨first, c, rfl, solid⟩ := h.exists_concat
  rw [← List.append_assoc, trimEnd, List.reverse_append, List.dropWhile_append, trimEnd]
  split
  · next none =>
      rw [List.isEmpty_iff.1 none, List.reverse_concat, List.dropWhile_cons_of_neg (by simp [solid]),
        ← List.reverse_concat, List.reverse_reverse, List.reverse_nil, List.append_nil]
  · rw [List.reverse_append, List.reverse_reverse]

theorem Firm.trimStart_eq (h : Firm text) (rest : List Char) :
    trimStart (text ++ rest) = text ++ rest := by
  obtain ⟨c, others, rfl, solid⟩ := h.exists_cons
  exact List.dropWhile_cons_of_neg (by simp [solid])

/-- Blanks around a text have no effect on what is left of it. -/
theorem trim_padded (before : Blank lead) (behind : Blank tail) (text : List Char) :
    trim (lead ++ text ++ tail) = trim text := by
  rw [trim, List.append_assoc, trimStart_append before, trim, trimStart, List.dropWhile_append]
  split
  · next none =>
      rw [show trimStart text = [] from List.isEmpty_iff.1 none]
      exact congrArg trimEnd (trimStart_of_blank behind)
  · exact Text.trimEnd_append _ behind

/-- What is left of a text is the text without some blanks around it. -/
theorem exists_trim (text : List Char) :
    ∃ lead tail, Blank lead ∧ Blank tail ∧ text = lead ++ trim text ++ tail := by
  obtain ⟨lead, before, whole⟩ := exists_trimStart text
  obtain ⟨tail, behind, split⟩ := exists_trimEnd (trimStart text)
  refine ⟨lead, tail, before, behind, ?_⟩
  rw [List.append_assoc, trim, ← split, ← whole]

theorem trim_trim (text : List Char) : trim (trim text) = trim text := by
  obtain ⟨lead, tail, before, behind, split⟩ := exists_trim text
  rw [← trim_padded before behind (trim text), ← split]

theorem trim_trimEnd (text : List Char) : trim (trimEnd text) = trim text := by
  obtain ⟨tail, behind, split⟩ := exists_trimEnd text
  conv_rhs => rw [split]
  exact (trim_padded blank_nil behind _).symm

/-- What is left of something firm, with blanks before it. -/
theorem Firm.trim_append (h : Firm text) (before : Blank lead) (rest : List Char) :
    trim (lead ++ (text ++ rest)) = text ++ trimEnd rest := by
  rw [trim, trimStart_append before, h.trimStart_eq]
  exact h.trimEnd_append [] rest

theorem Firm.trim_eq (h : Firm text) : trim text = text := by
  have whole := h.trim_append blank_nil []
  rwa [List.nil_append, List.append_nil, show trimEnd [] = [] from rfl, List.append_nil] at whole

theorem trim_of_blank (blank : Blank text) : trim text = [] := by
  rw [trim, trimStart_of_blank blank]
  rfl

/-- A carriage return is a blank like others. -/
theorem trim_dropReturn (line : List Char) : trim (dropReturn line) = trim line := by
  rw [dropReturn]
  split
  · next last =>
      obtain ⟨before, rfl⟩ := List.getLast?_eq_some_iff.1 last
      rw [List.dropLast_concat]
      have returned : Blank ['\r'] := by simp [Blank, isBlank]
      exact (trim_padded blank_nil returned before).symm
  · rfl

/-! ## Leads -/

theorem after?_eq_some_iff {rest : List Char} :
    after? lead text = some rest ↔ text = lead ++ rest := by
  induction lead generalizing text with
  | nil => simp [after?]
  | cons l lead ih =>
      cases text with
      | nil => simp [after?]
      | cons c text =>
          rw [after?]
          split
          · next same => rw [ih, same, List.cons_append, List.cons_inj_right]
          · next other =>
              refine ⟨nofun, fun same => absurd ?_ other⟩
              rw [List.cons_append, List.cons.injEq] at same
              exact same.1.symm

theorem startsWith_eq_true_iff {lead : String} :
    startsWith lead text = true ↔ lead.toList <+: text := by
  rw [startsWith, Option.isSome_iff_exists]
  exact exists_congr fun rest => after?_eq_some_iff.trans eq_comm

/-- A line has a lead if it has it behind some blanks. Of the rest only blanks at the end are
lost. -/
theorem after?_trim_eq_some_iff {value : List Char} (firm : Firm lead) :
    after? lead (trim line) = some value ↔
      ∃ gap rest, Blank gap ∧ line = gap ++ (lead ++ rest) ∧ value = trimEnd rest := by
  rw [after?_eq_some_iff]
  constructor
  · intro found
    obtain ⟨gap, tail, before, behind, split⟩ := exists_trim line
    rw [found, List.append_assoc, List.append_assoc] at split
    refine ⟨gap, value ++ tail, before, split, ?_⟩
    have same := found
    rw [split, firm.trim_append before] at same
    exact (List.append_cancel_left same).symm
  · rintro ⟨gap, rest, before, rfl, rfl⟩
    exact firm.trim_append before rest

/-- A lead that is a word and begins a text begins the first word of it. -/
theorem prefix_of_prefix_append {c : Char} {rest : List Char} (own : IsWord lead)
    (next : isBlank c = true)
    (h : lead <+: word ++ c :: rest) : lead <+: word := by
  rcases List.prefix_or_prefix_of_prefix h (List.prefix_append word _) with inner | ⟨more, rfl⟩
  · exact inner
  · cases more with
    | nil => simp
    | cons d others =>
        obtain rfl := (List.cons_prefix_cons.1 ((List.prefix_append_right_inj word).1 h)).1
        cases next.symm.trans (own.solid d (List.mem_append_right _ List.mem_cons_self))

/-! ## The first mark -/

theorem cutAt_of_notMem {mark : Char} {text : List Char} (whole : mark ∉ text) :
    cutAt mark text = none := by
  induction text with
  | nil => rfl
  | cons c text ih =>
      obtain ⟨other, whole⟩ := List.ne_and_not_mem_of_not_mem_cons whole
      rw [cutAt, if_neg other.symm, ih whole, Option.map_none]

theorem cutAt_append_cons {mark : Char} {front : List Char} (first : mark ∉ front)
    (rest : List Char) : cutAt mark (front ++ mark :: rest) = some (front, rest) := by
  induction front with
  | nil => simp [cutAt]
  | cons c front ih =>
      obtain ⟨other, first⟩ := List.ne_and_not_mem_of_not_mem_cons first
      rw [List.cons_append, cutAt, if_neg other.symm, ih first, Option.map_some]

/-- A text has one cut at the first of its marks. -/
theorem eq_of_append_cons_eq {mark : Char} {front front' rest rest' : List Char}
    (first : mark ∉ front) (first' : mark ∉ front')
    (same : front ++ mark :: rest = front' ++ mark :: rest') : front = front' ∧ rest = rest' := by
  have cut := cutAt_append_cons first rest
  rw [same, cutAt_append_cons first', Option.some.injEq, Prod.mk.injEq] at cut
  exact ⟨cut.1.symm, cut.2.symm⟩

/-! ## Marks -/

theorem splitWhere_eq_splitOnP (isCut : Char → Bool) (text : List Char) :
    splitWhere isCut text = text.splitOnP isCut := by
  induction text with
  | nil => rfl
  | cons c rest ih =>
      rw [splitWhere, List.splitOnP_cons_eq_if_modifyHead, ← ih]
      cases found : splitWhere isCut rest with
      | nil => exact absurd found (splitWhere_ne_nil isCut rest)
      | cons piece pieces => rfl

theorem splitWhere_append_cons {isCut : Char → Bool} {mark : Char} (cut : isCut mark = true)
    (first last : List Char) :
    splitWhere isCut (first ++ mark :: last) = splitWhere isCut first ++ splitWhere isCut last := by
  rw [splitWhere_eq_splitOnP, List.splitOnP_append_cons _ _ cut, splitWhere_eq_splitOnP,
    splitWhere_eq_splitOnP]

theorem join_eq_intercalate (mark : Char) (pieces : List (List Char)) :
    join mark pieces = [mark].intercalate pieces := by
  induction pieces with
  | nil => rfl
  | cons piece rest ih =>
      cases rest with
      | nil => rw [join, List.intercalate_singleton]
      | cons next others =>
          rw [join, ih, List.intercalate_cons_cons, List.append_assoc, List.singleton_append]
          exact List.cons_ne_nil _ _

/-- What was put together is taken apart at the marks between the pieces and at those in them. -/
theorem splitWhere_join (mark : Char) {pieces : List (List Char)} (some : pieces ≠ []) :
    splitWhere (· == mark) (join mark pieces) = pieces.flatMap (splitWhere (· == mark)) := by
  induction pieces with
  | nil => exact absurd rfl some
  | cons piece rest ih =>
      cases rest with
      | nil => rw [join, List.flatMap_singleton]
      | cons next others =>
          rw [join, @splitWhere_append_cons (· == mark) mark (beq_self_eq_true mark),
            ih (List.cons_ne_nil _ _)]
          · exact List.flatMap_cons.symm
          · exact List.cons_ne_nil _ _

theorem splitWhere_join_of_notMem {mark : Char} {pieces : List (List Char)} (some : pieces ≠ [])
    (whole : ∀ piece ∈ pieces, mark ∉ piece) :
    splitWhere (· == mark) (join mark pieces) = pieces := by
  have each : ∀ piece ∈ pieces, splitWhere (· == mark) piece = [piece] := fun piece mem =>
    splitWhere_eq_singleton fun c own => beq_false_of_ne fun same => whole piece mem (same ▸ own)
  rw [splitWhere_join mark some, List.flatMap_congr each, List.flatMap_singleton']

theorem length_splitWhere_pos (isCut : Char → Bool) (text : List Char) :
    0 < (splitWhere isCut text).length :=
  List.length_pos_of_ne_nil (splitWhere_ne_nil isCut text)

theorem length_le_flatMap_splitWhere (isCut : Char → Bool) (pieces : List (List Char)) :
    pieces.length ≤ (pieces.flatMap (splitWhere isCut)).length := by
  induction pieces with
  | nil => exact Nat.le_refl _
  | cons piece rest ih =>
      have own := length_splitWhere_pos isCut piece
      rw [List.flatMap_cons, List.length_append, List.length_cons]
      omega

/-- Pieces with marks in them are taken apart into more than there were. -/
theorem notMem_of_length_splitWhere {mark : Char} {pieces : List (List Char)}
    (count : (splitWhere (· == mark) (join mark pieces)).length = pieces.length) :
    ∀ piece ∈ pieces, mark ∉ piece := by
  intro piece mem own
  rw [splitWhere_join mark (List.ne_nil_of_mem mem)] at count
  obtain ⟨before, after, rfl⟩ := List.append_of_mem mem
  obtain ⟨first, last, rfl⟩ := List.append_of_mem own
  have two := congrArg List.length
    (@splitWhere_append_cons (· == mark) mark (beq_self_eq_true mark) first last)
  have left := length_splitWhere_pos (· == mark) first
  have right := length_splitWhere_pos (· == mark) last
  have earlier := length_le_flatMap_splitWhere (· == mark) before
  have later := length_le_flatMap_splitWhere (· == mark) after
  simp only [List.flatMap_append, List.flatMap_cons, List.length_append, List.length_cons] at *
  omega

/-! ## Words -/

theorem words_append_cons {c : Char} (blank : isBlank c = true) (first last : List Char) :
    words (first ++ c :: last) = words first ++ words last := by
  rw [words, splitWhere_append_cons blank, List.filter_append]
  rfl

theorem words_of_blank (blank : Blank text) : words text = [] := by
  induction text with
  | nil => rfl
  | cons c rest ih =>
      have ⟨own, others⟩ := List.forall_mem_cons.1 blank
      exact (words_append_cons own [] rest).trans (ih others)

theorem words_append (text : List Char) (blank : Blank tail) : words (text ++ tail) = words text := by
  cases tail with
  | nil => rw [List.append_nil]
  | cons c rest =>
      have ⟨own, others⟩ := List.forall_mem_cons.1 blank
      rw [words_append_cons own, words_of_blank others, List.append_nil]

theorem words_of_append (blank : Blank lead) (text : List Char) :
    words (lead ++ text) = words text := by
  induction lead with
  | nil => rfl
  | cons c rest ih =>
      have ⟨own, others⟩ := List.forall_mem_cons.1 blank
      exact (words_append_cons own [] (rest ++ text)).trans (ih others)

theorem words_trimStart (text : List Char) : words (trimStart text) = words text := by
  obtain ⟨lead, before, split⟩ := exists_trimStart text
  conv_rhs => rw [split]
  exact (words_of_append before _).symm

theorem words_trimEnd (text : List Char) : words (trimEnd text) = words text := by
  obtain ⟨tail, behind, split⟩ := exists_trimEnd text
  conv_rhs => rw [split]
  exact (words_append _ behind).symm

theorem words_word (h : IsWord word) : words word = [word] := by
  rw [words, splitWhere_eq_singleton h.solid]
  exact List.filter_cons_of_pos (by simpa using h.ne_nil)

/-- Words with blanks around them: some between any two, and possibly before the first and after the
last. -/
inductive Spaced : List (List Char) → List Char → Prop where
  | blanks {gap : List Char} (blank : Blank gap) : Spaced [] gap
  | last {gap word : List Char} (blank : Blank gap) (own : IsWord word) : Spaced [word] (gap ++ word)
  | word {gap word rest : List Char} {c : Char} {others : List (List Char)} (blank : Blank gap)
      (own : IsWord word) (next : isBlank c = true) (spaced : Spaced others rest) :
      Spaced (word :: others) (gap ++ word ++ c :: rest)

theorem Spaced.words_eq {found : List (List Char)} (h : Spaced found text) : words text = found := by
  induction h with
  | blanks blank => exact words_of_blank blank
  | last blank own => rw [words_of_append blank, words_word own]
  | word blank own next spaced ih =>
      rw [List.append_assoc, words_of_append blank, words_append_cons next, words_word own, ih]
      rfl

theorem Spaced.isWord {found : List (List Char)} (h : Spaced found text) :
    ∀ word ∈ found, IsWord word := by
  induction h with
  | blanks blank => exact List.forall_mem_nil _
  | last blank own => exact List.forall_mem_singleton.2 own
  | word blank own next spaced ih => exact List.forall_mem_cons.2 ⟨own, ih⟩

/-- Every text is its words with blanks around them. -/
theorem spaced_words (text : List Char) : Spaced (words text) text := by
  -- The induction takes away the first word, the blanks before it and one blank behind it.
  induction size : text.length using Nat.strong_induction_on generalizing text with
  | _ n ih =>
      have gap : Blank (text.takeWhile isBlank) := fun _ mem => List.mem_takeWhile_imp mem
      have split : text.takeWhile isBlank ++ trimStart text = text :=
        List.takeWhile_append_dropWhile
      cases shown : trimStart text with
      | nil =>
          have blank : Blank text := List.dropWhile_eq_nil_iff.1 shown
          rw [words_of_blank blank]
          exact .blanks blank
      | cons c rest =>
          have solid : isBlank c = false := by
            have head := List.head?_dropWhile_not isBlank text
            rw [show text.dropWhile isBlank = c :: rest from shown] at head
            simpa using head
          have own : IsWord ((c :: rest).takeWhile (!isBlank ·)) := by
            refine ⟨?_, fun d mem => by simpa using List.mem_takeWhile_imp mem⟩
            rw [List.takeWhile_cons_of_pos (by simp [solid])]
            exact List.cons_ne_nil _ _
          have both : (c :: rest).takeWhile (!isBlank ·) ++ (c :: rest).dropWhile (!isBlank ·) =
              c :: rest := List.takeWhile_append_dropWhile
          rw [shown, ← both, ← List.append_assoc] at split
          cases behind : (c :: rest).dropWhile (!isBlank ·) with
          | nil =>
              rw [behind, List.append_nil] at split
              rw [← split, words_of_append gap, words_word own]
              exact .last gap own
          | cons d others =>
              have next : isBlank d = true := by
                have head := List.head?_dropWhile_not (!isBlank ·) (c :: rest)
                rw [behind] at head
                simpa using head
              rw [behind] at split
              have shorter : others.length < n := by
                rw [← size, ← split]
                simp only [List.length_append, List.length_cons]
                omega
              rw [← split, List.append_assoc, words_of_append gap, words_append_cons next,
                words_word own, ← List.append_assoc]
              exact .word gap own next (ih _ shorter _ rfl)

theorem words_eq_iff {found : List (List Char)} : words text = found ↔ Spaced found text :=
  ⟨fun same => same ▸ spaced_words text, Spaced.words_eq⟩

/-! ## Lines -/

section Lines

variable {m : Type → Type} [Monad m] [LawfulMonad m] {σ : Type} {step : σ → List Char → m σ}

/-- A reader of trimmed lines that passes over blank ones reads the pieces between line feeds. -/
theorem foldlM_linesOfPieces (trimmed : ∀ state line, step state (trim line) = step state line)
    (blank : ∀ state, step state [] = pure state) (pieces : List (List Char)) (state : σ) :
    (linesOfPieces pieces).foldlM step state = pieces.foldlM step state := by
  induction pieces using linesOfPieces.induct generalizing state with
  | case1 => rfl
  | case2 last empty =>
      rw [linesOfPieces, if_pos empty, List.isEmpty_iff.1 empty, List.foldlM_cons, blank, pure_bind]
  | case3 last some => rw [linesOfPieces, if_neg some]
  | case4 piece pieces more ih =>
      have same : step state (dropReturn piece) = step state piece := by
        rw [← trimmed, trim_dropReturn, trimmed]
      rw [linesOfPieces, List.foldlM_cons, List.foldlM_cons, same]
      · exact bind_congr fun _ => ih _
      · exact more

theorem foldlM_lines_join (trimmed : ∀ state line, step state (trim line) = step state line)
    (blank : ∀ state, step state [] = pure state) {pieces : List (List Char)}
    (whole : ∀ piece ∈ pieces, '\n' ∉ piece) (state : σ) :
    (lines (join '\n' pieces)).foldlM step state = pieces.foldlM step state := by
  cases pieces with
  | nil => rfl
  | cons piece rest =>
      rw [lines, splitWhere_join_of_notMem (List.cons_ne_nil _ _) whole,
        foldlM_linesOfPieces trimmed blank]

end Lines

end NicKeeper.Text
