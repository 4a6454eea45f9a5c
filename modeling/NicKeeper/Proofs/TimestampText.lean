import Mathlib.Algebra.Group.Nat.Defs
import Mathlib.Data.List.TakeWhile
import NicKeeper.Proofs.Numerals
import NicKeeper.Rfc3339

/-!
# Points in time as text

The format of RFC 3339 is faithful (`Rfc3339.faithful`). What is written of a point in time reads as
what is shown of it (`Rfc3339.read?_text`), and that is the point itself if it is no leap second or
one at the end of a minute. Others cannot have been read: a leap second is read from the number 60
alone, and stands for second 59 then.

The reader accepts much that is never written: blanks between the parts, one digit for two, offsets
from UTC. Of what is written it is enough to know where each part ends. A number takes all the
digits that it may have, so the part behind it is never looked at, with two exceptions: a year that
needs a sign and a fraction of a second are read to the last digit there is, and end because what
follows is a hyphen or the letter Z.
-/

namespace NicKeeper

namespace Text

/-! ## Digits -/

theorem isDigit_padded (width n : Nat) : ∀ c ∈ padded width n, c.isDigit = true := by
  intro c mem
  rcases List.mem_append.1 mem with zero | own
  · obtain rfl := List.eq_of_mem_replicate zero
    rfl
  · exact Nat.isDigit_of_mem_toDigits (by decide) (by decide) own

theorem digitsValue?_padded (width n : Nat) : digitsValue? 10 0 (padded width n) = some n := by
  refine digitsValue?_ten_eq_some_iff.2 ⟨isDigit_padded width n, ?_⟩
  rw [padded, Nat.ofDigitChars_append, Nat.ofDigitChars_replicate_zero, Nat.mul_zero,
    Nat.ofDigitChars_ten_toDigits]

theorem digitsValue?_lt {base read n : Nat} {digits : List Char}
    (h : digitsValue? base read digits = some n) : n < (read + 1) * base ^ digits.length := by
  induction digits generalizing read with
  | nil =>
      obtain rfl := Option.some.inj h
      simp
  | cons c rest ih =>
      rw [digitsValue?] at h
      obtain ⟨digit, own, h⟩ := Option.bind_eq_some_iff.1 h
      have small := (digitValue?_eq_some_iff.1 own).1
      have room : read * base + digit + 1 ≤ (read + 1) * base := by
        rw [Nat.add_mul, Nat.one_mul]
        omega
      calc n < (read * base + digit + 1) * base ^ rest.length := ih h
        _ ≤ (read + 1) * base * base ^ rest.length := Nat.mul_le_mul_right _ room
        _ = (read + 1) * base ^ (rest.length + 1) := by rw [Nat.mul_assoc, Nat.pow_succ']

theorem length_padded {width n : Nat} (wide : 0 < width) (h : n < 10 ^ width) :
    (padded width n).length = width := by
  have fits := (Nat.length_toDigits_le_iff (by decide) wide).2 h
  rw [padded, List.length_append, List.length_replicate]
  omega

/-- Padding never removes a digit, so there is a first one. -/
theorem exists_padded_eq_cons (width n : Nat) :
    ∃ c rest, padded width n = c :: rest ∧ c.isDigit = true := by
  have digits := isDigit_padded width n
  cases h : padded width n with
  | nil => exact absurd (List.append_eq_nil_iff.1 h).2 Nat.toDigits_ne_nil
  | cons c rest => exact ⟨c, rest, rfl, digits c (h ▸ List.mem_cons_self)⟩

theorem isBlank_of_isDigit {c : Char} (h : c.isDigit = true) : isBlank c = false :=
  isBlank_of_digitValue? (digitValue?_ten_eq_some_iff.2 ⟨h, rfl⟩)

theorem isEmpty_padded (width n : Nat) : (padded width n).isEmpty = false := by
  obtain ⟨c, others, same, -⟩ := exists_padded_eq_cons width n
  rw [same]
  rfl

theorem trimStart_cons {c : Char} (h : isBlank c = false) (rest : List Char) :
    trimStart (c :: rest) = c :: rest :=
  List.dropWhile_cons_of_neg (Bool.eq_false_iff.1 h)

theorem trimStart_padded (width n : Nat) (rest : List Char) :
    trimStart (padded width n ++ rest) = padded width n ++ rest := by
  obtain ⟨c, others, same, digit⟩ := exists_padded_eq_cons width n
  rw [same, List.cons_append, trimStart_cons (isBlank_of_isDigit digit)]

theorem takeWhile_padded (width n : Nat) {c : Char} (stop : c.isDigit = false) (rest : List Char) :
    (padded width n ++ c :: rest).takeWhile Char.isDigit = padded width n := by
  rw [List.takeWhile_append_of_pos (isDigit_padded width n),
    List.takeWhile_cons_of_neg (by rw [stop]; decide), List.append_nil]

end Text

namespace Rfc3339

open Text

/-! ## The parts of a text -/

theorem number?_padded {width n : Nat} (wide : 0 < width) (h : n < 10 ^ width)
    (rest : List Char) : number? width (padded width n ++ rest) = some (n, rest) := by
  have whole : (padded width n ++ rest).take width = padded width n := by
    rw [List.take_append_of_le_length (length_padded wide h).ge,
      List.take_of_length_le (length_padded wide h).le]
  have digits : (padded width n).takeWhile Char.isDigit = padded width n :=
    List.takeWhile_eq_self_iff.2 (isDigit_padded width n)
  simp only [number?, trimStart_padded, whole, digits, isEmpty_padded, digitsValue?_padded]
  simp

theorem mark?_cons {mark : Char} (h : isBlank mark = false) (rest : List Char) :
    mark? mark (mark :: rest) = some rest := by
  rw [mark?, trimStart_cons h]
  exact if_pos rfl

/-- A year ends at the hyphen behind it, with as many digits as it has. -/
theorem year?_yearText (year : Int) (rest : List Char) :
    year? (yearText year ++ '-' :: rest) = some (year, '-' :: rest) := by
  rw [yearText]
  split
  · next small =>
      have year_eq : ((year.toNat : Nat) : Int) = year := Int.toNat_of_nonneg small.1
      have read := number?_padded (by decide : 0 < 4) (by omega : year.toNat < 10 ^ 4) ('-' :: rest)
      obtain ⟨c, others, same, digit⟩ := exists_padded_eq_cons 4 year.toNat
      rw [year?, trimStart_padded]
      rw [same, List.cons_append] at read ⊢
      split
      · next eq =>
          cases eq
          cases digit
      · next eq =>
          cases eq
          cases digit
      · rw [read]
        exact congrArg (fun found => some (found, '-' :: rest)) year_eq
  · next large =>
      have digits := takeWhile_padded 4 year.natAbs (c := '-') rfl rest
      split
      · next negative =>
          have year_eq : -((year.natAbs : Nat) : Int) = year := by omega
          rw [List.cons_append, year?, trimStart_cons (by decide)]
          simp only [digits, isEmpty_padded, digitsValue?_padded]
          rw [if_neg Bool.false_ne_true, List.drop_left]
          exact congrArg (fun found => some (found, '-' :: rest)) year_eq
      · next positive =>
          have year_eq : ((year.natAbs : Nat) : Int) = year := by omega
          rw [List.cons_append, year?, trimStart_cons (by decide)]
          simp only [digits, isEmpty_padded, digitsValue?_padded]
          rw [if_neg Bool.false_ne_true, List.drop_left]
          exact congrArg (fun found => some (found, '-' :: rest)) year_eq

/-- A fraction of a second is as many digits, the last ones of the nine that a second has left
out. -/
theorem fraction?_padded {width n : Nat} (wide : 0 < width) (h : n < 10 ^ width) (nine : width ≤ 9)
    {c : Char} (stop : c.isDigit = false) (rest : List Char) :
    fraction? ('.' :: (padded width n ++ c :: rest)) =
      some (n * 10 ^ (9 - width), c :: rest) := by
  have kept : (padded width n).take 9 = padded width n :=
    List.take_of_length_le (by rw [length_padded wide h]; exact nine)
  simp only [fraction?, takeWhile_padded width n stop rest, isEmpty_padded, kept,
    digitsValue?_padded, List.drop_left]
  rw [length_padded wide h]
  rfl

theorem fraction?_fractionText {nanos : Nat} (h : nanos < 1000000000) :
    fraction? (fractionText nanos ++ ['Z']) = some (nanos, ['Z']) := by
  rw [fractionText]
  split
  · next zero =>
      rw [zero]
      rfl
  · split
    · next millis =>
        rw [List.cons_append, fraction?_padded (by decide) (by omega) (by decide) rfl]
        simp
        omega
    · split
      · next micros =>
          rw [List.cons_append, fraction?_padded (by decide) (by omega) (by decide) rfl]
          simp
          omega
      · rw [List.cons_append, fraction?_padded (by decide) (by omega) (by decide) rfl]
        simp

theorem fraction?_lt {text rest : List Char} {nanos : Nat}
    (h : fraction? text = some (nanos, rest)) : nanos < 1000000000 := by
  rw [fraction?.eq_def] at h
  split at h
  · next written =>
      simp only at h
      split at h
      · cases h
      · obtain ⟨read, digits, same⟩ := Option.bind_eq_some_iff.1 h
        cases same
        have wide : ((written.takeWhile Char.isDigit).take 9).length ≤ 9 := List.length_take_le 9 _
        generalize (written.takeWhile Char.isDigit).take 9 = kept at digits wide ⊢
        have small := digitsValue?_lt digits
        rw [Nat.zero_add, Nat.one_mul] at small
        calc read * 10 ^ (9 - kept.length)
            < 10 ^ kept.length * 10 ^ (9 - kept.length) :=
              Nat.mul_lt_mul_of_pos_right small (Nat.pow_pos (by decide))
          _ = 10 ^ 9 := by rw [← Nat.pow_add, Nat.add_sub_cancel' wide]
  · cases h
    decide

/-! ## What is shown -/

theorem make?_self (t : Timestamp) :
    Timestamp.make? t.year t.month t.day t.hour t.minute t.second t.nanos = some t := by
  rw [Timestamp.make?, dif_pos t.isDate, dif_pos t.isTimeOfDay]

theorem eq_of_make? {year : Int} {month day hour minute second nanos : Nat} {t : Timestamp}
    (h : Timestamp.make? year month day hour minute second nanos = some t) :
    second = t.second ∧ nanos = t.nanos := by
  rw [Timestamp.make?] at h
  split at h
  · split at h
    · cases h
      exact ⟨rfl, rfl⟩
    · cases h
  · cases h

theorem ofLocal?_utc (year : Int) (month day hour minute second nanos : Nat) :
    ofLocal? year month day hour minute second nanos 0 =
      ofShown? year month day hour minute second nanos := by
  rw [ofLocal?]
  cases ofShown? year month day hour minute second nanos with
  | none => rfl
  | some t =>
      have hour := t.isTimeOfDay.1
      have minute := t.isTimeOfDay.2.1
      have same_day : ¬ ((t.hour * 60 + t.minute : Nat) : Int) - 0 < 0 ∧
          ((t.hour * 60 + t.minute : Nat) : Int) - 0 < 1440 := by omega
      have ofDay : ((((t.hour * 60 + t.minute : Nat) : Int) - 0) % 1440).toNat =
          t.hour * 60 + t.minute := by omega
      have hour_eq : (t.hour * 60 + t.minute) / 60 = t.hour := by omega
      have minute_eq : (t.hour * 60 + t.minute) % 60 = t.minute := by omega
      simp only [Option.bind_eq_bind, Option.bind_some, if_neg same_day.1, if_pos same_day.2, ofDay,
        hour_eq, minute_eq, make?_self]

/-- What is shown of a point in time, with a leap second as the second that it is written as. -/
def shown? (t : Timestamp) : Option Timestamp :=
  ofShown? t.year t.month t.day t.hour t.minute (shownSecond t).1 (shownSecond t).2

/-- A leap second in the middle of a minute is shown as the second that comes after it. -/
theorem exists_shown (t : Timestamp) : ∃ found, shown? t = some found := by
  obtain ⟨hour, minute, second, nanos⟩ := t.isTimeOfDay
  have made {second nanos : Nat} (short : second < 60) (fits : nanos < 2000000000) :
      ∃ found, Timestamp.make? t.year t.month t.day t.hour t.minute second nanos = some found :=
    ⟨_, (dif_pos t.isDate).trans (dif_pos ⟨hour, minute, short, fits⟩)⟩
  rw [shown?, ofShown?, shownSecond]
  split
  · split
    · exact made (by decide) (by omega)
    · exact made second nanos
  · split
    · exact made (by decide) (by omega)
    · exact made (by omega) (by omega)

theorem shown?_self {t : Timestamp} (usual : t.IsUsual) : shown? t = some t := by
  have second := t.isTimeOfDay.2.2.1
  rw [shown?, ofShown?, shownSecond]
  split
  · have plain : t.second ≠ 60 := by omega
    rw [if_neg plain, make?_self]
  · next late =>
      have last := usual (by omega)
      have nanos_eq : t.nanos - 1000000000 + 1000000000 = t.nanos := by omega
      rw [if_pos (by omega), nanos_eq, ← last, make?_self]

theorem isUsual_of_ofShown? {year : Int} {month day hour minute second nanos : Nat} {t : Timestamp}
    (small : nanos < 1000000000)
    (h : ofShown? year month day hour minute second nanos = some t) : t.IsUsual := by
  rw [ofShown?] at h
  split at h
  · obtain ⟨last, -⟩ := eq_of_make? h
    exact fun _ => last.symm
  · obtain ⟨-, same⟩ := eq_of_make? h
    intro leap
    omega

theorem isUsual_of_ofLocal? {year : Int} {month day hour minute second nanos : Nat} {offset : Int}
    {t : Timestamp} (small : nanos < 1000000000)
    (h : ofLocal? year month day hour minute second nanos offset = some t) : t.IsUsual := by
  rw [ofLocal?] at h
  obtain ⟨here, shown, h⟩ := Option.bind_eq_some_iff.1 h
  obtain ⟨second_eq, nanos_eq⟩ := eq_of_make? h
  rw [Timestamp.IsUsual, ← second_eq, ← nanos_eq]
  exact isUsual_of_ofShown? small shown

theorem isUsual_of_read? {written : List Char} {t : Timestamp} (h : read? written = some t) :
    t.IsUsual := by
  rw [read?] at h
  obtain ⟨year, -, h⟩ := Option.bind_eq_some_iff.1 h
  obtain ⟨_, -, h⟩ := Option.bind_eq_some_iff.1 h
  obtain ⟨month, -, h⟩ := Option.bind_eq_some_iff.1 h
  obtain ⟨_, -, h⟩ := Option.bind_eq_some_iff.1 h
  obtain ⟨day, -, h⟩ := Option.bind_eq_some_iff.1 h
  dsimp only at h
  split at h
  · split at h
    · simp only [Option.bind_eq_bind, Option.bind_some, Option.bind_eq_some_iff] at h
      obtain ⟨hour, -, _, -, minute, -, _, -, second, -, ⟨nanos, _⟩, fraction, offset, -, h⟩ := h
      split at h
      · exact isUsual_of_ofLocal? (fraction?_lt fraction) h
      · cases h
    · cases h
  · cases h

/-! ## What is written -/

theorem bind_of_eq_some {α β : Type} {read : Option α} {found : α} {next : α → Option β}
    (h : read = some found) : (read >>= next) = next found := by
  rw [h]
  rfl

theorem shownSecond_lt (t : Timestamp) :
    (shownSecond t).1 < 10 ^ 2 ∧ (shownSecond t).2 < 1000000000 := by
  obtain ⟨-, -, second, nanos⟩ := t.isTimeOfDay
  rw [shownSecond]
  split
  · exact ⟨by dsimp only; omega, by assumption⟩
  · exact ⟨by dsimp only; omega, by dsimp only; omega⟩

/-- What is written of a point in time reads as what is shown of it. -/
theorem read?_text (t : Timestamp) : read? (text t).toList = shown? t := by
  obtain ⟨hour, minute, -, -⟩ := t.isTimeOfDay
  obtain ⟨second, nanos⟩ := shownSecond_lt t
  obtain ⟨-, ⟨-, month⟩, -, day⟩ := t.isDate
  have days : daysInMonth t.year t.month ≤ 31 := by
    rw [daysInMonth]
    split
    · split <;> decide
    · split <;> decide
  rw [text, String.toList_ofList]
  simp only [List.append_assoc, List.cons_append]
  -- the parts are read one by one, as they stand
  rw [read?]
  refine (bind_of_eq_some (year?_yearText t.year _)).trans ?_
  refine (bind_of_eq_some (mark?_cons rfl _)).trans ?_
  refine (bind_of_eq_some (number?_padded (by decide) (by omega) _)).trans ?_
  refine (bind_of_eq_some (mark?_cons rfl _)).trans ?_
  refine (bind_of_eq_some (number?_padded (by decide) (by omega) _)).trans ?_
  refine (if_pos (Or.inl rfl)).trans ((bind_of_eq_some rfl).trans ?_)
  refine (bind_of_eq_some (number?_padded (by decide) (by omega) _)).trans ?_
  refine (bind_of_eq_some (mark?_cons rfl _)).trans ?_
  refine (bind_of_eq_some (number?_padded (by decide) (by omega) _)).trans ?_
  refine (bind_of_eq_some (mark?_cons rfl _)).trans ?_
  refine (bind_of_eq_some (number?_padded (by decide) second _)).trans ?_
  refine (bind_of_eq_some (fraction?_fractionText nanos)).trans ?_
  have utc : offset? (trimStart ['Z']) = some (0, []) := rfl
  have done : (trimStart []).isEmpty = true := rfl
  refine (bind_of_eq_some utc).trans ((if_pos done).trans ?_)
  exact ofLocal?_utc _ _ _ _ _ _ _

theorem faithful : TimeFormat.Faithful where
  legible t := by
    obtain ⟨found, shown⟩ := exists_shown t
    exact ⟨found, (read?_text t).trans shown⟩
  keeps {t} usual := (read?_text t).trans (shown?_self usual)
  isUsual read := isUsual_of_read? read

end Rfc3339

end NicKeeper
