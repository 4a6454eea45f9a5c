import Mathlib.Data.List.Basic
import NicKeeper.Nv.Value

/-!
# Values in normal form

A value of a parameter is brought into its normal form by cutting it at offsets in bytes: behind its
last opening parenthesis and before the closing one at its end. The value itself may be any text,
but the two marks are single bytes and the closing one comes later. So both offsets are in range and
between characters, and the cut never fails (`slice?_labelled`).

A text without an opening parenthesis is in normal form, and so is one with nothing in its last
parentheses. What is cut out is a text of the first kind, which is why nothing changes when it is
normalized again (`normalize_projects`).
-/

namespace NicKeeper

namespace Text

variable {mark : Char} {text : List Char}

@[simp] theorem byteSize_nil : byteSize [] = 0 := rfl

@[simp] theorem byteSize_cons (c : Char) (text : List Char) :
    byteSize (c :: text) = c.utf8Size + byteSize text := rfl

@[simp] theorem byteSize_append (text rest : List Char) :
    byteSize (text ++ rest) = byteSize text + byteSize rest := by
  induction text with
  | nil => simp
  | cons c text ih => simp [ih, Nat.add_assoc]

/-- A first character takes its own bytes off a size. -/
theorem exists_byteSize_cons (c : Char) (text : List Char) :
    ∃ size, byteSize (c :: text) = size + 1 ∧ c.utf8Size ≤ size + 1 ∧
      size + 1 - c.utf8Size = byteSize text := by
  have pos := c.utf8Size_pos
  rw [byteSize_cons]
  exact ⟨c.utf8Size + byteSize text - 1, by omega, by omega, by omega⟩

theorem takeBytes?_byteSize (text rest : List Char) :
    takeBytes? (byteSize text) (text ++ rest) = some text := by
  induction text with
  | nil => simp [takeBytes?]
  | cons c text ih =>
      obtain ⟨size, eq, fits, left⟩ := exists_byteSize_cons c text
      rw [eq, List.cons_append, takeBytes?, if_pos fits, left, ih, Option.map_some]

theorem dropBytes?_byteSize (text rest : List Char) :
    dropBytes? (byteSize text) (text ++ rest) = some rest := by
  induction text with
  | nil => simp [dropBytes?]
  | cons c text ih =>
      obtain ⟨size, eq, fits, left⟩ := exists_byteSize_cons c text
      rw [eq, List.cons_append, dropBytes?, if_pos fits, left, ih]

/-- A text can be cut between its parts. -/
theorem slice?_append (before inner after : List Char) :
    slice? (byteSize before) (byteSize before + byteSize inner) (before ++ (inner ++ after)) =
      some inner := by
  rw [slice?, if_pos (Nat.le_add_right _ _), dropBytes?_byteSize, Option.bind_some,
    Nat.add_sub_cancel_left, takeBytes?_byteSize]

theorem lastOffset?_eq_none_iff : lastOffset? mark text = none ↔ mark ∉ text := by
  induction text with
  | nil => simp [lastOffset?]
  | cons c rest ih =>
      rw [lastOffset?, List.mem_cons, not_or, ← ih]
      cases lastOffset? mark rest with
      | some offset => simp
      | none => simp [eq_comm]

theorem lastOffset?_append_cons (before : List Char) {after : List Char} (last : mark ∉ after) :
    lastOffset? mark (before ++ mark :: after) = some (byteSize before) := by
  induction before with
  | nil => simp [lastOffset?, lastOffset?_eq_none_iff.2 last]
  | cons c before ih => simp [lastOffset?, ih]

/-- A text that has a mark has a last one. -/
theorem exists_last (own : mark ∈ text) :
    ∃ before after, text = before ++ mark :: after ∧ mark ∉ after := by
  obtain ⟨after, before, split, last⟩ := List.eq_append_cons_of_mem (List.mem_reverse.2 own)
  refine ⟨before.reverse, after.reverse, ?_, by simpa using last⟩
  simpa using congrArg List.reverse split

end Text

namespace Nv

open Text (byteSize lastOffset? slice?)

/-- A label with something in parentheses behind it. -/
def labelled (label inner : List Char) : List Char := label ++ '(' :: inner ++ [')']

variable {value inner : List Char}

/-- A value is a label with something in parentheses, unless it has no opening parenthesis or does
not end in a closing one. -/
theorem exists_labelled (opened : '(' ∈ value) (closed : value.getLast? = some ')') :
    ∃ label inner, value = labelled label inner ∧ '(' ∉ inner := by
  obtain ⟨label, after, rfl, last⟩ := Text.exists_last opened
  rcases List.eq_nil_or_concat' after with rfl | ⟨inner, c, rfl⟩
  · simp at closed
  · have whole : label ++ '(' :: (inner ++ [c]) = label ++ '(' :: inner ++ [c] := by simp
    rw [whole, List.getLast?_concat, Option.some.injEq] at closed
    refine ⟨label, inner, by rw [whole, closed, labelled], fun own => last ?_⟩
    exact List.mem_append_left _ own

/-- The cut is in range and between characters, whatever the label and the text in parentheses
are. -/
theorem slice?_labelled (label inner : List Char) :
    slice? (byteSize label + 1) (byteSize (labelled label inner) - 1) (labelled label inner) =
      some inner := by
  have opening : byteSize (label ++ ['(']) = byteSize label + 1 := by simp [Char.utf8Size]
  have closing : byteSize (labelled label inner) - 1 =
      byteSize (label ++ ['(']) + byteSize inner := by
    simp [labelled, Char.utf8Size]
    omega
  have whole : labelled label inner = (label ++ ['(']) ++ (inner ++ [')']) := by simp [labelled]
  rw [closing, ← opening, whole]
  exact Text.slice?_append _ _ _

theorem lastOffset?_labelled (label : List Char) (last : '(' ∉ inner) :
    lastOffset? '(' (labelled label inner) = some (byteSize label) := by
  rw [labelled, List.append_assoc, List.cons_append]
  exact Text.lastOffset?_append_cons label (by simpa using last)

theorem bracketed?_labelled (label : List Char) (last : '(' ∉ inner) :
    bracketed? (labelled label inner) = some inner := by
  have closed : (labelled label inner).getLast? = some ')' := List.getLast?_concat
  rw [bracketed?, lastOffset?_labelled label last]
  exact (if_pos closed).trans (slice?_labelled label inner)

theorem normalize_labelled (label : List Char) (last : '(' ∉ inner) :
    normalize (labelled label inner) = if inner = [] then labelled label inner else inner := by
  rw [normalize, bracketed?_labelled label last]
  simp [List.isEmpty_iff]

theorem normalize_of_plain (plain : '(' ∉ value ∨ value.getLast? ≠ some ')') :
    normalize value = value := by
  have none : bracketed? value = none := by
    rw [bracketed?]
    rcases plain with unopened | unclosed
    · rw [Text.lastOffset?_eq_none_iff.2 unopened]
    · cases lastOffset? '(' value with
      | none => rfl
      | some opening => exact if_neg unclosed
  rw [normalize, none]

theorem normalize_normalize (value : List Char) : normalize (normalize value) = normalize value := by
  by_cases plain : '(' ∉ value ∨ value.getLast? ≠ some ')'
  · rw [normalize_of_plain plain, normalize_of_plain plain]
  · obtain ⟨opened, closed⟩ := not_or.1 plain
    obtain ⟨label, inner, rfl, last⟩ := exists_labelled (not_not.1 opened) (not_not.1 closed)
    rw [normalize_labelled label last]
    split
    · next empty => rw [normalize_labelled label last, if_pos empty]
    · exact normalize_of_plain (.inl last)

/-- What the normal form of a value is. A value that has an opening parenthesis and ends in a
closing one is cut behind the last opening one and before its end. The cut is in range and between
characters, there is no opening parenthesis in what it takes, and that is the normal form unless it
is empty. All other values are in normal form. A normal form is its own normal form, and a label
with something in parentheses has that as its normal form, if there is no opening parenthesis in it
and it is not empty. -/
theorem normalize_projects (value : List Char) :
    ('(' ∈ value → value.getLast? = some ')' →
      ∃ label inner, value = labelled label inner ∧ '(' ∉ inner ∧
        lastOffset? '(' value = some (byteSize label) ∧
        slice? (byteSize label + 1) (byteSize value - 1) value = some inner ∧
        normalize value = if inner = [] then value else inner) ∧
    ('(' ∉ value ∨ value.getLast? ≠ some ')' → normalize value = value) ∧
    normalize (normalize value) = normalize value ∧
    ∀ label inner, '(' ∉ inner → inner ≠ [] → normalize (labelled label inner) = inner := by
  refine ⟨fun opened closed => ?_, normalize_of_plain, normalize_normalize value, ?_⟩
  · obtain ⟨label, inner, rfl, last⟩ := exists_labelled opened closed
    exact ⟨label, inner, rfl, last, lastOffset?_labelled label last, slice?_labelled label inner,
      normalize_labelled label last⟩
  · intro label inner last some
    rw [normalize_labelled label last, if_neg some]

/-- Parentheses in one another, and characters of several bytes before, in and behind them. -/
theorem nested_label_normalized :
    '(' ∉ "1)é".toList ∧ "1)é".toList ≠ [] ∧
      labelled "é(Ж".toList "1)é".toList = "é(Ж(1)é)".toList ∧
      normalize "é(Ж(1)é)".toList = "1)é".toList ∧ normalize "1)é".toList = "1)é".toList := by
  have last : '(' ∉ "1)é".toList := by decide
  have some : "1)é".toList ≠ [] := by decide
  obtain ⟨-, -, again, taken⟩ := normalize_projects "é(Ж(1)é)".toList
  have whole : normalize "é(Ж(1)é)".toList = "1)é".toList := taken "é(Ж".toList "1)é".toList last some
  rw [whole] at again
  exact ⟨last, some, rfl, whole, again⟩

end Nv

end NicKeeper
