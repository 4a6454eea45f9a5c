import NicKeeper.Nv.Snapshot
import NicKeeper.Proofs.Inclusion
import NicKeeper.Proofs.TextPieces

/-!
# The table of firmware parameters

The firmware tool prints a table for people: text before a heading, rows that line up in columns,
some of them marked with stars, a footer that explains the stars, and rows that sum up arrays. A
snapshot has the rows in it and nothing else. To print rows (`Table`) and to read the table again
is to enter the rows one after the other, so of rows with one name the last counts (`Column`). The
three columns are read from the same rows, so whatever is read as a table names the same parameters
in all three (`SameNames`).
-/

namespace NicKeeper

open Text

namespace NvSnapshot

variable {snapshot : NvSnapshot} {text : List Char}

/-- The defaults, the values in effect and those of the next boot are of the same parameters. -/
structure SameNames (snapshot : NvSnapshot) : Prop where
  current : ∀ name, snapshot.current.contains name = snapshot.default.contains name
  nextBoot : ∀ name, snapshot.nextBoot.contains name = snapshot.default.contains name

theorem SameNames.enter (h : snapshot.SameNames) (name default current next : List Char) :
    (snapshot.enter name default current next).SameNames where
  current other := by rw [NvSnapshot.enter, Dict.contains_insert, Dict.contains_insert, h.current]
  nextBoot other := by rw [NvSnapshot.enter, Dict.contains_insert, Dict.contains_insert, h.nextBoot]

theorem SameNames.row (h : snapshot.SameNames) (line : List Char) :
    (snapshot.row line).SameNames := by
  rw [NvSnapshot.row]
  split
  · exact h.enter _ _ _ _
  · exact h

theorem SameNames.line {reading : Option NvSnapshot} (h : ∀ known ∈ reading, known.SameNames)
    (line : List Char) : ∀ known ∈ NvSnapshot.line reading line, known.SameNames := by
  intro known read
  rw [NvSnapshot.line] at read
  split at read
  · cases reading with
    | none =>
        obtain rfl := Option.some.inj read
        exact ⟨fun _ => rfl, fun _ => rfl⟩
    | some before =>
        obtain rfl := Option.some.inj read
        exact h before rfl
  · obtain ⟨before, known, rfl⟩ := Option.map_eq_some_iff.1 read
    split
    · exact h before known
    · exact (h before known).row _

theorem sameNames_of_ofTable? (h : ofTable? text = .ok snapshot) : snapshot.SameNames := by
  have kept (lines : List (List Char)) : ∀ reading : Option NvSnapshot,
      (∀ known ∈ reading, known.SameNames) →
        ∀ known ∈ lines.foldl NvSnapshot.line reading, known.SameNames := by
    induction lines with
    | nil => exact fun _ same => same
    | cons line rest ih => exact fun _ same => ih _ (SameNames.line same line)
  rw [ofTable?] at h
  split at h
  · next found =>
      obtain rfl := Except.ok.inj h
      exact kept _ none (fun _ no => nomatch no) _ found
  · cases h

/-! ## Lines without effect -/

/-- A line that begins the table. -/
def Heading (line : List Char) : Prop := startsWith "Configurations:" (trim line) = true

instance {line : List Char} : Decidable (Heading line) :=
  inferInstanceAs (Decidable (startsWith "Configurations:" (trim line) = true))

theorem line_heading {reading : Option NvSnapshot} {line : List Char} (h : Heading line) :
    NvSnapshot.line reading line = some (reading.getD {}) :=
  if_pos h

theorem line_of_not_heading {line : List Char} (h : ¬ Heading line) :
    NvSnapshot.line none line = none :=
  if_neg h

/-- Without a heading there is no table. -/
theorem foldl_line_eq_none_iff {lines : List (List Char)} :
    lines.foldl NvSnapshot.line none = none ↔ ∀ line ∈ lines, ¬ Heading line := by
  have kept (lines : List (List Char)) (known : NvSnapshot) :
      lines.foldl NvSnapshot.line (some known) ≠ none := by
    induction lines generalizing known with
    | nil => exact nofun
    | cons line rest ih =>
        rw [List.foldl_cons, NvSnapshot.line]
        split
        · exact ih _
        · exact ih _
  induction lines with
  | nil => simp
  | cons line rest ih =>
      rw [List.foldl_cons, List.forall_mem_cons]
      by_cases heading : Heading line
      · rw [line_heading heading]
        exact ⟨fun no => absurd no (kept rest _), fun no => absurd heading no.1⟩
      · rw [line_of_not_heading heading]
        exact ih.trans ⟨fun others => ⟨heading, others⟩, And.right⟩

theorem ofTable?_eq_error_iff :
    ofTable? text = .error (.parse .noConfigurationTable) ↔
      ∀ line ∈ lines text, ¬ Heading line := by
  rw [← foldl_line_eq_none_iff, ofTable?]
  cases (lines text).foldl NvSnapshot.line none with
  | none => simp
  | some known => simp

/-- What may stand in a table beside its rows. -/
inductive Noise (line : List Char) : Prop where
  | blank (blank : Blank line)
  | footer (starts : startsWith "The '*'" (trim line) = true)
  | other (count : (words ((trim line).dropWhile (· == '*'))).length ≠ 4)

theorem row_of_count {line : List Char}
    (count : (words (trimStart (line.dropWhile (· == '*')))).length ≠ 4) :
    snapshot.row line = snapshot := by
  rw [row]
  split
  · next four =>
      rw [four] at count
      exact absurd rfl count
  · rfl

theorem Noise.line_eq {line : List Char} (h : Noise line) :
    NvSnapshot.line (some snapshot) line = some snapshot := by
  rw [NvSnapshot.line]
  split
  · rfl
  rw [Option.map_some]
  split
  · rfl
  · next shown =>
      rw [Bool.not_eq_true, Bool.or_eq_false_iff] at shown
      cases h with
      | blank blank =>
          rw [trim_of_blank blank] at shown
          cases shown.1
      | footer starts => cases starts.symm.trans shown.2
      | other count =>
          rw [row_of_count]
          rwa [words_trimStart]

/-! ## Rows -/

/-- A parameter with its three values, as they can stand in a table. The names are those that are
not taken for a mark, a heading or a footer. -/
structure Row where
  name : List Char
  default : List Char
  current : List Char
  next : List Char
  words : ∀ word ∈ [name, default, current, next], IsWord word
  unstarred : name.head? ≠ some '*'
  notHeading : ¬ "Configurations:".toList <+: name
  notFooter : name ≠ "The".toList

namespace Row

variable {row : Row} {line lead rest : List Char}

def fields (row : Row) : List (List Char) := [row.name, row.default, row.current, row.next]

/-- The row stands on the line, in columns of any width and behind any number of stars. -/
def On (row : Row) (line : List Char) : Prop :=
  ∃ lead stars rest, Blank lead ∧ (∀ c ∈ stars, c = '*') ∧ Spaced row.fields rest ∧
    line = lead ++ (stars ++ rest)

theorem isWord_name (row : Row) : IsWord row.name := row.words _ List.mem_cons_self

/-- Behind the name there is a blank. -/
theorem exists_name (spaced : Spaced row.fields rest) :
    ∃ gap c others, Blank gap ∧ isBlank c = true ∧ rest = gap ++ row.name ++ c :: others := by
  rw [fields] at spaced
  cases spaced with
  | word blank own next spaced => exact ⟨_, _, _, blank, next, rfl⟩

/-- What is left of the line of a row when it is trimmed. -/
structure Left (row : Row) (left : List Char) : Prop where
  notHeading : ¬ "Configurations:".toList <+: left
  notFooter : ¬ "The '*'".toList <+: left
  words_eq : Text.words (left.dropWhile (· == '*')) = row.fields

theorem dropWhile_name {gap : List Char} (row : Row) (blank : Blank gap) (others : List Char) :
    (gap ++ row.name ++ others).dropWhile (· == '*') = gap ++ row.name ++ others := by
  cases gap with
  | nil =>
      obtain ⟨c, rest, same⟩ := List.exists_cons_of_ne_nil row.isWord_name.ne_nil
      have unstarred := row.unstarred
      rw [same] at unstarred ⊢
      exact List.dropWhile_cons_of_neg (by simpa using unstarred)
  | cons d others =>
      refine List.dropWhile_cons_of_neg fun star => ?_
      obtain rfl : d = '*' := by simpa using star
      cases blank _ List.mem_cons_self

theorem left_of_unmarked (before : Blank lead) (spaced : Spaced row.fields rest) :
    Left row (trim (lead ++ rest)) := by
  obtain ⟨gap, c, others, blank, next, rfl⟩ := exists_name spaced
  have trimmed : trim (lead ++ (gap ++ row.name ++ c :: others)) =
      row.name ++ trimEnd (c :: others) := by
    rw [List.append_assoc, ← List.append_assoc]
    exact row.isWord_name.firm.trim_append (blank_append.2 ⟨before, blank⟩) _
  have begins {text : List Char} (h : text <+: row.name ++ trimEnd (c :: others)) :
      text <+: row.name ++ c :: others :=
    h.trans ((List.prefix_append_right_inj _).2 (trimEnd_prefix_self _))
  rw [trimmed]
  refine ⟨fun heading => ?_, fun footer => ?_, ?_⟩
  · exact row.notHeading (prefix_of_prefix_append (by decide) next (begins heading))
  · -- The footer begins with a word of its own, which the name would have to be.
    have split : "The '*'".toList = "The".toList ++ ' ' :: "'*'".toList := rfl
    rw [split] at footer
    have first : "The".toList <+: row.name :=
      prefix_of_prefix_append (by decide) next ((List.prefix_append _ _).trans (begins footer))
    obtain ⟨more, same⟩ := first
    cases more with
    | nil => exact row.notFooter (by rw [← same, List.append_nil])
    | cons d more =>
        rw [← same, List.append_assoc, List.prefix_append_right_inj] at footer
        obtain rfl := (List.cons_prefix_cons.1 footer).1
        have own : ' ' ∈ row.name := by
          rw [← same]
          exact List.mem_append_right _ List.mem_cons_self
        cases row.isWord_name.solid _ own
  · rw [← spaced.words_eq, List.append_assoc, words_of_append blank]
    have kept := row.dropWhile_name blank_nil (trimEnd (c :: others))
    rw [List.nil_append] at kept
    have same : row.name ++ trimEnd (c :: others) = trimEnd (row.name ++ c :: others) :=
      (row.isWord_name.firm.trimEnd_append [] (c :: others)).symm
    rw [kept, same, words_trimEnd]

theorem left_of_marked {stars : List Char} (before : Blank lead) (marked : stars ≠ [])
    (all : ∀ c ∈ stars, c = '*') (spaced : Spaced row.fields rest) :
    Left row (trim (lead ++ (stars ++ rest))) := by
  obtain ⟨gap, c, others, blank, next, rfl⟩ := exists_name spaced
  have solid : IsWord stars := ⟨marked, fun c mem => all c mem ▸ rfl⟩
  rw [solid.firm.trim_append before]
  obtain ⟨star, more, rfl⟩ := List.exists_cons_of_ne_nil marked
  obtain rfl := all star List.mem_cons_self
  refine ⟨fun no => ?_, fun no => ?_, ?_⟩
  · cases (List.cons_prefix_cons.1 no).1
  · cases (List.cons_prefix_cons.1 no).1
  · rw [List.dropWhile_append_of_pos fun c mem => by simpa using all c mem,
      row.isWord_name.firm.trimEnd_append, row.dropWhile_name blank,
      ← row.isWord_name.firm.trimEnd_append, words_trimEnd, spaced.words_eq]

theorem On.left (h : row.On line) : Left row (trim line) := by
  obtain ⟨lead, stars, rest, before, all, spaced, rfl⟩ := h
  by_cases marked : stars = []
  · subst marked
    exact left_of_unmarked before spaced
  · exact left_of_marked before marked all spaced

theorem On.line_eq {snapshot : NvSnapshot} (h : row.On line) :
    NvSnapshot.line (some snapshot) line =
      some (snapshot.enter row.name row.default row.current row.next) := by
  obtain ⟨notHeading, notFooter, found⟩ := h.left
  have shown : (trim line).isEmpty = false := by
    cases left : trim line with
    | nil =>
        rw [left] at found
        cases found
    | cons => rfl
  rw [NvSnapshot.line, if_neg fun no => notHeading (startsWith_eq_true_iff.1 no), Option.map_some,
    if_neg, NvSnapshot.row, words_trimStart, found]
  · rfl
  · rw [shown, Bool.false_or]
    exact fun no => notFooter (startsWith_eq_true_iff.1 no)

end Row

/-! ## Tables -/

/-- The lines of a table with these rows, in this order. -/
inductive Table : List Row → List (List Char) → Prop where
  | done : Table [] []
  | row {row : Row} {line : List Char} {rows : List Row} {lines : List (List Char)}
      (on : row.On line) (rest : Table rows lines) : Table (row :: rows) (line :: lines)
  | noise {line : List Char} {rows : List Row} {lines : List (List Char)} (noise : Noise line)
      (rest : Table rows lines) : Table rows (line :: lines)

/-- The entry of a row in one column. -/
def Row.entry (value : Row → List Char) (row : Row) : String × String :=
  (String.ofList row.name, String.ofList (Nv.normalize (value row)))

def enterAll (snapshot : NvSnapshot) (rows : List Row) : NvSnapshot where
  default := snapshot.default.insertAll (rows.map (Row.entry Row.default))
  current := snapshot.current.insertAll (rows.map (Row.entry Row.current))
  nextBoot := snapshot.nextBoot.insertAll (rows.map (Row.entry Row.next))

theorem Table.foldl_line {rows : List Row} {lines : List (List Char)} (h : Table rows lines)
    (snapshot : NvSnapshot) :
    lines.foldl NvSnapshot.line (some snapshot) = some (snapshot.enterAll rows) := by
  induction h generalizing snapshot with
  | done => rfl
  | row on rest ih =>
      rw [List.foldl_cons, on.line_eq]
      exact ih _
  | noise noise rest ih =>
      rw [List.foldl_cons, noise.line_eq]
      exact ih _

/-- A dictionary has the values of one column of some rows. Of rows with one name the last
counts. -/
structure Column (rows : List Row) (value : Row → List Char) (found : Dict String) : Prop where
  last : ∀ before row after, rows = before ++ row :: after →
    (∀ other ∈ after, other.name ≠ row.name) →
      found.get? (String.ofList row.name) = some (String.ofList (Nv.normalize (value row)))
  absent : ∀ name, (∀ row ∈ rows, String.ofList row.name ≠ name) → found.get? name = none

theorem column_insertAll (rows : List Row) (value : Row → List Char) :
    Column rows value (({} : Dict String).insertAll (rows.map (Row.entry value))) where
  last := by
    rintro before row after rfl last
    rw [List.map_append, List.map_cons]
    have others : ∀ entry ∈ after.map (Row.entry value), entry.1 ≠ String.ofList row.name := by
      intro entry mem same
      obtain ⟨other, own, rfl⟩ := List.mem_map.1 mem
      exact last other own (String.ofList_inj.1 same)
    rw [Dict.get?_insertAll]
    exact congrArg (fun found => (Option.map Prod.snd found).or _)
      (Dict.findRev?_append_cons others)
  absent name no := by
    refine (Dict.get?_insertAll_of_notMem _ fun entry mem => ?_).trans rfl
    obtain ⟨row, own, rfl⟩ := List.mem_map.1 mem
    exact no row own

theorem foldl_line_join {pieces : List (List Char)} (whole : ∀ piece ∈ pieces, '\n' ∉ piece)
    (reading : Option NvSnapshot) :
    (lines (join '\n' pieces)).foldl NvSnapshot.line reading =
      pieces.foldl NvSnapshot.line reading := by
  have trimmed (reading : Option NvSnapshot) (line : List Char) :
      NvSnapshot.line reading (trim line) = NvSnapshot.line reading line := by
    rw [NvSnapshot.line, NvSnapshot.line, trim_trim]
  have blank (reading : Option NvSnapshot) : NvSnapshot.line reading [] = reading := by
    cases reading <;> rfl
  rw [List.foldl_eq_foldlM, List.foldl_eq_foldlM]
  exact congrArg Id.run (foldlM_lines_join trimmed blank whole reading)

/-- Reading a table of firmware parameters inverts printing it. -/
theorem ofTable?_inverts_table :
    (∀ text snapshot, ofTable? text = .ok snapshot → snapshot.SameNames) ∧
      (∀ preamble heading rows body, (∀ line ∈ preamble, ¬ Heading line) → Heading heading →
        Table rows body → (∀ line ∈ preamble ++ heading :: body, '\n' ∉ line) →
          ∃ snapshot, ofTable? (join '\n' (preamble ++ heading :: body)) = .ok snapshot ∧
            Column rows Row.default snapshot.default ∧
            Column rows Row.current snapshot.current ∧
            Column rows Row.next snapshot.nextBoot) ∧
      ∀ text, (∀ line ∈ lines text, ¬ Heading line) →
        ofTable? text = .error (.parse .noConfigurationTable) := by
  refine ⟨fun _ _ => sameNames_of_ofTable?, ?_, fun _ => ofTable?_eq_error_iff.2⟩
  intro preamble heading rows body before begins table whole
  have read : (lines (join '\n' (preamble ++ heading :: body))).foldl NvSnapshot.line none =
      some (({} : NvSnapshot).enterAll rows) := by
    rw [foldl_line_join whole, List.foldl_append, foldl_line_eq_none_iff.2 before, List.foldl_cons,
      line_heading begins]
    exact table.foldl_line _
  refine ⟨({} : NvSnapshot).enterAll rows, ?_, column_insertAll rows _, column_insertAll rows _,
    column_insertAll rows _⟩
  rw [ofTable?, read]

end NvSnapshot

namespace Sample

open NvSnapshot

def countRow : Row where
  name := "NUM_OF_VFS".toList
  default := "0".toList
  current := "4".toList
  next := "8".toList
  words := by decide
  unstarred := by decide
  notHeading := by decide
  notFooter := by decide

def linkRow : Row where
  name := "LINK_TYPE_P1".toList
  default := "IB(1)".toList
  current := "ETH(2)".toList
  next := "ETH(2)".toList
  words := by decide
  unstarred := by decide
  notHeading := by decide
  notFooter := by decide

/-- Two rows, the first of them marked, a row that sums up an array, and a footer. -/
def tableLines : List (List Char) :=
  ["* NUM_OF_VFS \t 0 4  8".toList, " HISTOGRAM Array[0..7]".toList,
    "  LINK_TYPE_P1  IB(1) ETH(2) ETH(2) \r".toList, [],
    "The '*' shows parameters".toList]

theorem table_tableLines : Table [countRow, linkRow] tableLines := by
  have count : countRow.On "* NUM_OF_VFS \t 0 4  8".toList :=
    ⟨[], ['*'], " NUM_OF_VFS \t 0 4  8".toList, by decide, List.forall_mem_singleton.2 rfl,
      words_eq_iff.1 (by decide), rfl⟩
  have link : linkRow.On "  LINK_TYPE_P1  IB(1) ETH(2) ETH(2) \r".toList :=
    ⟨[' '], [], " LINK_TYPE_P1  IB(1) ETH(2) ETH(2) \r".toList, by decide, List.forall_mem_nil _,
      words_eq_iff.1 (by decide), rfl⟩
  exact .row count (.noise (.other (by decide)) (.row link (.noise (.blank (by decide))
    (.noise (.footer (by decide)) .done))))

end Sample

namespace NvSnapshot

/-- The rows of a small table are read, and the array is not. -/
theorem tableLines_read :
    ∃ snapshot, ofTable? (join '\n' ("Device #1:".toList ::
        "Configurations: Default Current Next Boot".toList :: Sample.tableLines)) = .ok snapshot ∧
      snapshot.SameNames ∧ snapshot.nextBoot.get? "NUM_OF_VFS" = some "8" ∧
      snapshot.current.get? "LINK_TYPE_P1" = some "2" ∧
      snapshot.default.get? "HISTOGRAM" = none := by
  obtain ⟨sameNames, inverts, -⟩ := ofTable?_inverts_table
  obtain ⟨snapshot, read, default, current, next⟩ := inverts ["Device #1:".toList]
    "Configurations: Default Current Next Boot".toList _ _ (by decide) (by decide)
    Sample.table_tableLines (by decide)
  refine ⟨snapshot, read, sameNames _ _ read, ?_, ?_, ?_⟩
  · exact next.last [] Sample.countRow [Sample.linkRow] rfl (by decide)
  · exact current.last [Sample.countRow] Sample.linkRow [] rfl nofun
  · exact default.absent "HISTOGRAM" (by decide)

end NvSnapshot

end NicKeeper
