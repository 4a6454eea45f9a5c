import NicKeeper.Host.Label
import NicKeeper.Proofs.Lowercase
import NicKeeper.Proofs.TextPieces

/-!
# Labels in what tools print

Who a card is stands in lines of a key, a colon and a value, among lines of any other kind. A line
is read by its first colon, and what is read off it are its key and its value without the blanks
around them (`field?`). So it is the same however the line is indented and ended (`field?_padded`).
Of all lines with a key the value of the last one is read (`LastField`).

A label is told by the last values of its two keys. So lines of other keys, earlier lines of the
same keys and the order of lines of different keys have no effect on it, and neither have the blanks
around lines (`labels_ignore_noise`).
-/

namespace NicKeeper

open Text (Blank trim cutAt cutAt_of_notMem cutAt_append_cons eq_of_append_cons_eq lines lower join)

/-- A line with this key and this value, which stand around its first colon. -/
def IsField (key value line : List Char) : Prop :=
  ∃ front rest, line = front ++ ':' :: rest ∧ ':' ∉ front ∧ trim front = key ∧ trim rest = value

/-- Among the lines is one with the key, and the last such line has this value. -/
def LastField (lines : List (List Char)) (key value : List Char) : Prop :=
  ∃ before line after, lines = before ++ line :: after ∧ IsField key value line ∧
    ∀ other ∈ after, ∀ value, ¬ IsField key value other

/-- The key and the value of a line that has a colon. -/
def field? (line : List Char) : Option (List Char × List Char) :=
  (cutAt ':' line).map fun field => (trim field.1, trim field.2)

variable {line key value lead tail : List Char} {ls : List (List Char)}

/-! ## One line -/

theorem field?_eq_some_iff : field? line = some (key, value) ↔ IsField key value line := by
  by_cases colon : ':' ∈ line
  · obtain ⟨front, rest, rfl, first⟩ := List.eq_append_cons_of_mem colon
    rw [field?, cutAt_append_cons first, Option.map_some, Option.some.injEq, Prod.mk.injEq]
    constructor
    · rintro ⟨rfl, rfl⟩
      exact ⟨front, rest, rfl, first, rfl, rfl⟩
    · rintro ⟨front', rest', same, first', rfl, rfl⟩
      obtain ⟨rfl, rfl⟩ := eq_of_append_cons_eq first first' same
      exact ⟨rfl, rfl⟩
  · rw [field?, cutAt_of_notMem colon]
    refine iff_of_false nofun ?_
    rintro ⟨front, rest, rfl, -⟩
    simp at colon

theorem notMem_of_blank {text : List Char} (blank : Blank text) : ':' ∉ text :=
  fun own => absurd (blank ':' own) (by decide)

/-- Blanks around a line have no effect on what is read off it. -/
theorem field?_padded (before : Blank lead) (behind : Blank tail) (line : List Char) :
    field? (lead ++ line ++ tail) = field? line := by
  by_cases colon : ':' ∈ line
  · obtain ⟨front, rest, rfl, first⟩ := List.eq_append_cons_of_mem colon
    have first' : ':' ∉ lead ++ front := by simp [notMem_of_blank before, first]
    have whole : lead ++ (front ++ ':' :: rest) ++ tail = lead ++ front ++ ':' :: (rest ++ tail) := by
      simp
    rw [whole, field?, field?, cutAt_append_cons first', cutAt_append_cons first]
    have key : trim (lead ++ front) = trim front := by
      simpa using Text.trim_padded before Text.blank_nil front
    have value : trim (rest ++ tail) = trim rest := by
      simpa using Text.trim_padded Text.blank_nil behind rest
    simp [key, value]
  · have whole : ':' ∉ lead ++ line ++ tail := by
      simp [notMem_of_blank before, notMem_of_blank behind, colon]
    rw [field?, field?, cutAt_of_notMem whole, cutAt_of_notMem colon]

theorem field?_trim (line : List Char) : field? (trim line) = field? line := by
  obtain ⟨lead, tail, before, behind, split⟩ := Text.exists_trim line
  conv_rhs => rw [split]
  exact (field?_padded before behind _).symm

/-! ## All lines -/

/-- The lines before the last one matter for a key only if that has another key. -/
theorem lastField_concat_iff : LastField (ls ++ [line]) key value ↔
    IsField key value line ∨ (∀ value, ¬ IsField key value line) ∧ LastField ls key value := by
  constructor
  · rintro ⟨before, found, after, split, own, last⟩
    rcases List.eq_nil_or_concat' after with rfl | ⟨after, other, rfl⟩
    · obtain ⟨-, same⟩ := List.append_inj' split rfl
      obtain rfl : line = found := by simpa using same
      exact .inl own
    · have split' : ls ++ [line] = (before ++ found :: after) ++ [other] := by simpa using split
      obtain ⟨rfl, same⟩ := List.append_inj' split' rfl
      obtain rfl : line = other := by simpa using same
      refine .inr ⟨last line (by simp), before, found, after, rfl, own, ?_⟩
      exact fun other mem => last other (List.mem_append_left _ mem)
  · rintro (own | ⟨other, before, found, after, rfl, own, last⟩)
    · exact ⟨ls, line, [], rfl, own, List.forall_mem_nil _⟩
    · refine ⟨before, found, after ++ [line], by simp, own, fun line' mem => ?_⟩
      rcases List.mem_append.1 mem with mem | mem
      · exact last line' mem
      · exact List.mem_singleton.1 mem ▸ other

theorem not_lastField_nil : ¬ LastField [] key value := by
  rintro ⟨before, line, after, split, -⟩
  simp at split

/-- Which value stands last is told by what is read off each line. -/
theorem lastField_iff : LastField ls key value ↔
    ((ls.filterMap field?).reverse.find? (·.1 = key)).map Prod.snd = some value := by
  induction ls using List.reverseRecOn with
  | nil => exact iff_of_false not_lastField_nil nofun
  | append_singleton ls line ih =>
      rw [lastField_concat_iff, ih]
      simp only [← field?_eq_some_iff, List.filterMap_append]
      cases found : field? line with
      | none => simp [found]
      | some field =>
          obtain ⟨own, told⟩ := field
          by_cases same : own = key
          · simp [found, same]
          · simp [found, same]

theorem lastField?_eq_some_iff {key : String} :
    lastField? key (keyedLines ls) = some value ↔ LastField ls key.toList value := by
  have fields : ls.filterMap field? =
      (keyedLines ls).map fun field => (trim field.1, trim field.2) := by
    rw [keyedLines, List.map_filterMap]
    rfl
  rw [lastField_iff, fields, ← List.map_reverse, List.find?_map, Option.map_map]
  rfl

/-- Lines from which the same is read, one by one, have the same values last. -/
theorem lastField_congr {ls' : List (List Char)}
    (same : ls.filterMap field? = ls'.filterMap field?) :
    LastField ls key value ↔ LastField ls' key value := by
  rw [lastField_iff, lastField_iff, same]

theorem filterMap_field?_map_trim (ls : List (List Char)) :
    (ls.map trim).filterMap field? = ls.filterMap field? := by
  rw [List.filterMap_map]
  exact List.filterMap_congr fun line _ => field?_trim line

theorem filterMap_field?_linesOfPieces (pieces : List (List Char)) :
    (Text.linesOfPieces pieces).filterMap field? = pieces.filterMap field? := by
  induction pieces using Text.linesOfPieces.induct with
  | case1 => rfl
  | case2 last empty =>
      rw [Text.linesOfPieces, if_pos empty, List.isEmpty_iff.1 empty]
      rfl
  | case3 last some => rw [Text.linesOfPieces, if_neg some]
  | case4 piece pieces more ih =>
      have same : field? (Text.dropReturn piece) = field? piece := by
        rw [← field?_trim, Text.trim_dropReturn, field?_trim]
      rw [Text.linesOfPieces, List.filterMap_cons, List.filterMap_cons, same, ih]
      exact more

/-- What is read off lines is read off the text that they make up. -/
theorem filterMap_field?_join (whole : ∀ line ∈ ls, '\n' ∉ line) :
    (lines (join '\n' ls)).filterMap field? = ls.filterMap field? := by
  cases ls with
  | nil => rfl
  | cons line rest =>
      rw [lines, Text.splitWhere_join_of_notMem (List.cons_ne_nil _ _) whole,
        filterMap_field?_linesOfPieces]

/-! ## Labels -/

theorem lastField?_congr {ls' : List (List Char)} {key : String}
    (same : ∀ value, LastField ls key.toList value ↔ LastField ls' key.toList value) :
    lastField? key (keyedLines ls) = lastField? key (keyedLines ls') := by
  apply Option.ext
  intro value
  rw [lastField?_eq_some_iff, lastField?_eq_some_iff, same]

theorem lastField?_map_trim (key : String) (ls : List (List Char)) :
    lastField? key (keyedLines (ls.map trim)) = lastField? key (keyedLines ls) :=
  lastField?_congr fun _ => lastField_congr (filterMap_field?_map_trim ls)

variable {text other : List Char}

theorem CardLabel.ofVpd?_eq_ok_iff {label : CardLabel} :
    CardLabel.ofVpd? text = .ok label ↔ ∃ part number,
      LastField (lines text) "PN".toList part ∧ part ≠ [] ∧
      LastField (lines text) "SN".toList number ∧ number ≠ [] ∧
      label = ⟨String.ofList part, String.ofList (lower number)⟩ := by
  simp only [← lastField?_eq_some_iff, CardLabel.ofVpd?, lastField?_map_trim]
  cases lastField? "PN" (keyedLines (lines text)) with
  | none => simp
  | some part =>
      cases lastField? "SN" (keyedLines (lines text)) with
      | none => simp
      | some number =>
          have empty : (lower number).isEmpty = true ↔ number = [] := by
            rw [List.isEmpty_iff]
            exact Text.lowerAfter_eq_nil_iff []
          rw [Option.map_some]
          dsimp only
          split
          · next missing =>
              rw [Bool.or_eq_true, empty, List.isEmpty_iff] at missing
              refine iff_of_false nofun ?_
              rintro ⟨_, _, ⟨⟩, part, ⟨⟩, number, -⟩
              exact missing.elim part number
          · next there =>
              rw [Bool.or_eq_true, empty, List.isEmpty_iff, not_or] at there
              constructor
              · intro same
                exact ⟨part, number, rfl, there.1, rfl, there.2, (Except.ok.inj same).symm⟩
              · rintro ⟨_, _, ⟨⟩, -, ⟨⟩, -, rfl⟩
                rfl

theorem FirmwareLabel.ofQuery?_eq_ok_iff {label : FirmwareLabel} :
    FirmwareLabel.ofQuery? text = .ok label ↔ ∃ version psid,
      LastField (lines text) "FW Version".toList version ∧
      LastField (lines text) "PSID".toList psid ∧
      label = ⟨String.ofList version, String.ofList psid⟩ := by
  simp only [← lastField?_eq_some_iff, FirmwareLabel.ofQuery?]
  cases lastField? "FW Version" (keyedLines (lines text)) with
  | none => simp
  | some version =>
      cases lastField? "PSID" (keyedLines (lines text)) with
      | none => simp
      | some psid => simp [eq_comm]

/-- Two texts have the same value in the last line of a key, or both have no line of it. -/
def SameLast (text other : List Char) (key : String) : Prop :=
  ∀ value, LastField (lines text) key.toList value ↔ LastField (lines other) key.toList value

theorem SameLast.vpd (same : ∀ key ∈ ["PN", "SN"], SameLast text other key) :
    CardLabel.ofVpd? text = CardLabel.ofVpd? other := by
  have part := lastField?_congr (same "PN" (by simp))
  have number := lastField?_congr (same "SN" (by simp))
  rw [CardLabel.ofVpd?, CardLabel.ofVpd?]
  simp only [lastField?_map_trim, part, number]

theorem SameLast.query (same : ∀ key ∈ ["FW Version", "PSID"], SameLast text other key) :
    FirmwareLabel.ofQuery? text = FirmwareLabel.ofQuery? other := by
  have version := lastField?_congr (same "FW Version" (by simp))
  have psid := lastField?_congr (same "PSID" (by simp))
  rw [FirmwareLabel.ofQuery?, FirmwareLabel.ofQuery?]
  simp only [version, psid]

/-- Lines with other blanks around them make up a text with the same values. -/
theorem sameLast_of_trimmed {ls' : List (List Char)} (whole : ∀ line ∈ ls, '\n' ∉ line)
    (whole' : ∀ line ∈ ls', '\n' ∉ line) (trimmed : ls.map trim = ls'.map trim) (key : String) :
    SameLast (join '\n' ls) (join '\n' ls') key := by
  refine fun value => lastField_congr ?_
  rw [filterMap_field?_join whole, filterMap_field?_join whole', ← filterMap_field?_map_trim ls,
    trimmed, filterMap_field?_map_trim]

/-- What is read off the text that a tool prints. A card has a label if the last line with the key
of the part number has a value that is not empty, and so has the last one with the key of the serial
number; the label has the one, and the other in lowercase. The label of its firmware is told by the
last lines with the two keys of that. Texts that have the same values in these last lines come to
the same, be it a failure, and so do texts of lines that are told apart only by the blanks around
them, which is how they may be indented and ended. -/
theorem labels_ignore_noise (text : List Char) :
    (∀ label, CardLabel.ofVpd? text = .ok label ↔ ∃ part number,
      LastField (lines text) "PN".toList part ∧ part ≠ [] ∧
      LastField (lines text) "SN".toList number ∧ number ≠ [] ∧
      label = ⟨String.ofList part, String.ofList (lower number)⟩) ∧
    (∀ label, FirmwareLabel.ofQuery? text = .ok label ↔ ∃ version psid,
      LastField (lines text) "FW Version".toList version ∧
      LastField (lines text) "PSID".toList psid ∧
      label = ⟨String.ofList version, String.ofList psid⟩) ∧
    (∀ other, (∀ key ∈ ["PN", "SN"], SameLast text other key) →
      CardLabel.ofVpd? text = CardLabel.ofVpd? other) ∧
    (∀ other, (∀ key ∈ ["FW Version", "PSID"], SameLast text other key) →
      FirmwareLabel.ofQuery? text = FirmwareLabel.ofQuery? other) ∧
    ∀ ls ls', text = join '\n' ls → (∀ line ∈ ls, '\n' ∉ line) → (∀ line ∈ ls', '\n' ∉ line) →
      ls.map trim = ls'.map trim →
      CardLabel.ofVpd? text = CardLabel.ofVpd? (join '\n' ls') ∧
        FirmwareLabel.ofQuery? text = FirmwareLabel.ofQuery? (join '\n' ls') := by
  refine ⟨fun _ => CardLabel.ofVpd?_eq_ok_iff, fun _ => FirmwareLabel.ofQuery?_eq_ok_iff,
    fun _ => SameLast.vpd, fun _ => SameLast.query, ?_⟩
  rintro ls ls' rfl whole whole' trimmed
  have same := sameLast_of_trimmed whole whole' trimmed
  exact ⟨SameLast.vpd fun key _ => same key, SameLast.query fun key _ => same key⟩

/-- Lines of a card, with an earlier serial number and a line that is none of the card's. -/
def bareLines : List (List Char) :=
  ["SN: OLD", "EC: A6: PN: X", "PN: P-1", "", "SN: MTΣ"].map String.toList

/-- The same lines, indented, with blanks of several kinds behind them and carriage returns. -/
def dressedLines : List (List Char) :=
  ["SN: OLD\r", "\t EC: A6: PN: X\r", "\u00a0PN: P-1 \r", " \r", "  SN: MTΣ\u3000\r"].map
    String.toList

theorem dressedLines_read :
    (∀ line ∈ bareLines, '\n' ∉ line) ∧ (∀ line ∈ dressedLines, '\n' ∉ line) ∧
      bareLines.map trim = dressedLines.map trim ∧
      CardLabel.ofVpd? (join '\n' bareLines) = .ok ⟨"P-1", "mtς"⟩ ∧
      CardLabel.ofVpd? (join '\n' dressedLines) = .ok ⟨"P-1", "mtς"⟩ := by
  have whole : ∀ line ∈ bareLines, '\n' ∉ line := by decide
  have whole' : ∀ line ∈ dressedLines, '\n' ∉ line := by decide
  have trimmed : bareLines.map trim = dressedLines.map trim := by decide +kernel
  have read : CardLabel.ofVpd? (join '\n' bareLines) = .ok ⟨"P-1", "mtς"⟩ := by decide +kernel
  obtain ⟨-, -, -, -, alike⟩ := labels_ignore_noise (join '\n' bareLines)
  have same := (alike bareLines dressedLines rfl whole whole' trimmed).1
  exact ⟨whole, whole', trimmed, read, same ▸ read⟩

end NicKeeper
