import NicKeeper.Proofs.TextPieces
import NicKeeper.Text.Lowercase
import NicKeeper.Text.Numeral

/-!
# Numerals

The reader of numerals goes digit by digit and carries the number that it has read, so a text of
digits can be cut anywhere (`digitsValue?_append`), and zeros in front of it carry nothing. A text
that is read has digits of the base in it and nothing else; in particular it has no blanks
(`isWord_of_digits`), so blanks around it can be told from it.

In decimal the reader accepts exactly what is a numeral with a value below the limit
(`unsigned?_eq_some_iff`). In hexadecimal it makes no difference to it in which letter case a digit
is written (`digitValue?_toLower`), so it reads a number however it was printed
(`unsigned?_of_hexadecimal`).
-/

namespace NicKeeper.Text

variable {base limit read n : Nat} {c : Char} {text digits : List Char}

/-! ## Digits -/

/-- A digit by its code point: the digits begin at 48, small letters at 97 and capitals at 65. -/
theorem digitValue?_eq_some_iff {digit : Nat} :
    digitValue? base c = some digit ↔ digit < base ∧
      (digit < 10 ∧ c.toNat = 48 + digit ∨
        10 ≤ digit ∧ digit < 36 ∧ (c.toNat = 87 + digit ∨ c.toNat = 55 + digit)) := by
  have bounds (first last : Char) : first ≤ c ∧ c ≤ last ↔
      first.toNat ≤ c.toNat ∧ c.toNat ≤ last.toNat := by
    simp only [Char.le_def, UInt32.le_iff_toNat_le, Char.toNat]
  -- A case for each of the three ranges, which do not meet, and one for all that is in none.
  simp only [digitValue?, bounds, Char.reduceToNat, Option.filter_eq_some_iff, decide_eq_true_eq]
  split
  · simp only [Option.some.injEq]
    omega
  · split
    · simp only [Option.some.injEq]
      omega
    · split
      · simp only [Option.some.injEq]
        omega
      · simp only [reduceCtorEq, false_and, false_iff]
        omega

theorem digitsValue?_append (base read : Nat) (first last : List Char) :
    digitsValue? base read (first ++ last) =
      (digitsValue? base read first).bind fun carried => digitsValue? base carried last := by
  induction first generalizing read with
  | nil => rfl
  | cons c rest ih =>
      rw [List.cons_append, digitsValue?, digitsValue?]
      cases digitValue? base c with
      | none => rfl
      | some digit => exact ih _

theorem exists_digitValue? (h : digitsValue? base read text = some n) (mem : c ∈ text) :
    ∃ digit, digitValue? base c = some digit := by
  obtain ⟨before, after, rfl⟩ := List.append_of_mem mem
  rw [digitsValue?_append] at h
  obtain ⟨carried, -, rest⟩ := Option.bind_eq_some_iff.1 h
  rw [digitsValue?] at rest
  obtain ⟨digit, own, -⟩ := Option.bind_eq_some_iff.1 rest
  exact ⟨digit, own⟩

theorem isBlank_of_digitValue? {digit : Nat} (h : digitValue? base c = some digit) :
    isBlank c = false := by
  have range : 48 ≤ c.val.toNat ∧ c.val.toNat ≤ 122 := by
    rcases digitValue?_eq_some_iff.1 h with ⟨-, ⟨small, own⟩ | ⟨-, small, own | own⟩⟩ <;>
      exact ⟨by rw [← Char.toNat]; omega, by rw [← Char.toNat]; omega⟩
  simp only [isBlank, Bool.or_eq_false_iff, Bool.and_eq_false_iff, decide_eq_false_iff_not,
    beq_eq_false_iff_ne, UInt32.le_iff_toNat_le, ne_eq, ← UInt32.toNat_inj, UInt32.reduceToNat]
  omega

theorem isWord_of_digits (h : digitsValue? base read text = some n) (some : text ≠ []) :
    IsWord text where
  ne_nil := some
  solid c mem := by
    obtain ⟨digit, own⟩ := exists_digitValue? h mem
    exact isBlank_of_digitValue? own

theorem digitsValue?_replicate_zero (wide : 0 < base) (count : Nat) (rest : List Char) :
    digitsValue? base 0 (List.replicate count '0' ++ rest) = digitsValue? base 0 rest := by
  have zero : digitValue? base '0' = some 0 := digitValue?_eq_some_iff.2 ⟨wide, .inl (by decide)⟩
  induction count with
  | zero => rfl
  | succ count ih =>
      rw [List.replicate_succ, List.cons_append, digitsValue?, zero]
      simpa using ih

/-! ## Decimal numerals -/

/-- One or more decimal digits, the first ones possibly zeros, with this value. -/
structure Decimals (n : Nat) (digits : List Char) : Prop where
  ne_nil : digits ≠ []
  isDigit : ∀ c ∈ digits, c.isDigit = true
  value : Nat.ofDigitChars 10 digits 0 = n

/-- Decimal digits, with or without a plus sign before them. -/
inductive Numeral (n : Nat) : List Char → Prop where
  | plain {digits : List Char} (own : Decimals n digits) : Numeral n digits
  | signed {digits : List Char} (own : Decimals n digits) : Numeral n ('+' :: digits)

theorem digitValue?_ten_eq_some_iff {digit : Nat} :
    digitValue? 10 c = some digit ↔ c.isDigit = true ∧ c.toNat - '0'.toNat = digit := by
  have bounds : c.isDigit = true ↔ 48 ≤ c.toNat ∧ c.toNat ≤ 57 := by
    simp only [Char.isDigit, Bool.and_eq_true, decide_eq_true_eq, UInt32.le_iff_toNat_le]
    rfl
  rw [digitValue?_eq_some_iff, bounds, show '0'.toNat = 48 from rfl]
  omega

theorem digitsValue?_ten_eq_some_iff :
    digitsValue? 10 read digits = some n ↔
      (∀ c ∈ digits, c.isDigit = true) ∧ Nat.ofDigitChars 10 digits read = n := by
  induction digits generalizing read with
  | nil => simp [digitsValue?]
  | cons c rest ih =>
      rw [digitsValue?, List.forall_mem_cons, Nat.ofDigitChars_cons, Nat.mul_comm, and_assoc]
      constructor
      · intro h
        obtain ⟨digit, own, others⟩ := Option.bind_eq_some_iff.1 h
        obtain ⟨decimal, rfl⟩ := digitValue?_ten_eq_some_iff.1 own
        exact ⟨decimal, ih.1 others⟩
      · rintro ⟨decimal, others⟩
        exact Option.bind_eq_some_iff.2
          ⟨_, digitValue?_ten_eq_some_iff.2 ⟨decimal, rfl⟩, ih.2 others⟩

theorem decimals_iff : Decimals n digits ↔ digits ≠ [] ∧ digitsValue? 10 0 digits = some n := by
  rw [digitsValue?_ten_eq_some_iff]
  exact ⟨fun h => ⟨h.ne_nil, h.isDigit, h.value⟩, fun h => ⟨h.1, h.2.1, h.2.2⟩⟩

theorem unsigned?_plus (base limit : Nat) (digits : List Char) :
    unsigned? base limit ('+' :: digits) =
      if digits.isEmpty then none else (digitsValue? base 0 digits).filter (· < limit) := rfl

theorem unsigned?_of_notMem (plain : '+' ∉ text) :
    unsigned? base limit text =
      if text.isEmpty then none else (digitsValue? base 0 text).filter (· < limit) := by
  rw [unsigned?]
  rintro rest rfl
  exact plain List.mem_cons_self

theorem plus_notMem_of_digits (h : digitsValue? base read text = some n) : '+' ∉ text := by
  intro mem
  obtain ⟨digit, own⟩ := exists_digitValue? h mem
  obtain ⟨-, other⟩ := digitValue?_eq_some_iff.1 own
  rw [show '+'.toNat = 43 from rfl] at other
  omega

theorem Numeral.isWord (h : Numeral n text) : IsWord text := by
  cases h with
  | plain own => exact isWord_of_digits (decimals_iff.1 own).2 own.ne_nil
  | signed own =>
      have rest := isWord_of_digits (decimals_iff.1 own).2 own.ne_nil
      exact ⟨List.cons_ne_nil _ _, List.forall_mem_cons.2 ⟨rfl, rest.solid⟩⟩

theorem filter_digitsValue?_eq_some_iff :
    (if digits.isEmpty then none else (digitsValue? base 0 digits).filter (· < limit)) = some n ↔
      digits ≠ [] ∧ digitsValue? base 0 digits = some n ∧ n < limit := by
  split
  · next empty => simp [List.isEmpty_iff.1 empty]
  · next some =>
      have some : digits ≠ [] := fun none => some (List.isEmpty_iff.2 none)
      rw [Option.filter_eq_some_iff, decide_eq_true_eq, and_iff_right some]

/-- What is read as an unsigned number is a decimal numeral below the limit, and nothing else. -/
theorem unsigned?_eq_some_iff : unsigned? 10 limit text = some n ↔ Numeral n text ∧ n < limit := by
  constructor
  · intro h
    by_cases sign : ∃ digits, text = '+' :: digits
    · obtain ⟨digits, rfl⟩ := sign
      rw [unsigned?_plus, filter_digitsValue?_eq_some_iff] at h
      exact ⟨.signed (decimals_iff.2 ⟨h.1, h.2.1⟩), h.2.2⟩
    · rw [unsigned?, filter_digitsValue?_eq_some_iff] at h
      · exact ⟨.plain (decimals_iff.2 ⟨h.1, h.2.1⟩), h.2.2⟩
      · exact fun digits same => sign ⟨digits, same⟩
  · rintro ⟨own | own, below⟩
    · obtain ⟨some, read⟩ := decimals_iff.1 own
      rw [unsigned?_of_notMem (plus_notMem_of_digits read), filter_digitsValue?_eq_some_iff]
      exact ⟨some, read, below⟩
    · obtain ⟨some, read⟩ := decimals_iff.1 own
      rw [unsigned?_plus, filter_digitsValue?_eq_some_iff]
      exact ⟨some, read, below⟩

/-! ## Hexadecimal numerals -/

/-- A number in hexadecimal, with digits of either letter case and any number of zeros before it. -/
def IsHexadecimal (n : Nat) (text : List Char) : Prop :=
  ∃ zeros digits, text = List.replicate zeros '0' ++ digits ∧
    asciiLower digits = Nat.toDigits 16 n

theorem digitValue?_toLower (base : Nat) (c : Char) :
    digitValue? base c.toLower = digitValue? base c := by
  have lower : c.toLower.toNat =
      if 65 ≤ c.toNat ∧ c.toNat ≤ 90 then c.toNat + 32 else c.toNat := by
    have capital : c.val ≥ 'A'.val ∧ c.val ≤ 'Z'.val ↔ 65 ≤ c.toNat ∧ c.toNat ≤ 90 := by
      simp only [ge_iff_le, UInt32.le_iff_toNat_le]
      rfl
    delta Char.toLower
    simp only [capital]
    split
    · next own =>
        have shift : ('a'.val - 'A'.val).toNat = 32 := rfl
        rw [Char.toNat, UInt32.toNat_add, shift]
        exact Nat.mod_eq_of_lt (by rw [← Char.toNat]; omega)
    · rfl
  refine Option.ext fun digit => ?_
  rw [digitValue?_eq_some_iff, digitValue?_eq_some_iff, lower]
  split <;> omega

theorem digitsValue?_asciiLower (base read : Nat) (text : List Char) :
    digitsValue? base read (asciiLower text) = digitsValue? base read text := by
  induction text generalizing read with
  | nil => rfl
  | cons c rest ih =>
      rw [asciiLower, List.map_cons, digitsValue?, digitsValue?, digitValue?_toLower]
      exact congrArg _ (funext fun digit => ih _)

theorem digitValue?_digitChar {digit : Nat} (small : digit < 16) :
    digitValue? 16 digit.digitChar = some digit := by
  decide +revert

theorem digitsValue?_toDigits (n : Nat) : digitsValue? 16 0 (Nat.toDigits 16 n) = some n := by
  induction n using Nat.strong_induction_on with
  | _ n ih =>
      rw [Nat.toDigits_eq_if (by decide)]
      split
      · next small => simp [digitsValue?, digitValue?_digitChar small]
      · next large =>
          have last : n % 16 < 16 := Nat.mod_lt n (by decide)
          rw [digitsValue?_append, ih (n / 16) (by omega), Option.bind_some, digitsValue?,
            digitValue?_digitChar last]
          simp only [Option.bind_eq_bind, Option.bind_some, digitsValue?, Option.some.injEq]
          omega

theorem toLower_of_mem_toDigits (mem : c ∈ Nat.toDigits 16 n) : c.toLower = c := by
  have small {digit : Nat} (small : digit < 16) : digit.digitChar.toLower = digit.digitChar := by
    decide +revert
  induction n using Nat.strong_induction_on with
  | _ n ih =>
      rw [Nat.toDigits_eq_if (by decide)] at mem
      split at mem
      · next below =>
          rw [List.mem_singleton.1 mem]
          exact small below
      · next large =>
          rcases List.mem_append.1 mem with front | last
          · exact ih (n / 16) (by omega) front
          · rw [List.mem_singleton.1 last]
            exact small (Nat.mod_lt n (by decide))

theorem isHexadecimal_hexadecimal (width n : Nat) : IsHexadecimal n (hexadecimal width n) := by
  refine ⟨_, Nat.toDigits 16 n, rfl, ?_⟩
  conv_rhs => rw [← List.map_id (Nat.toDigits 16 n)]
  exact List.map_congr_left fun c mem => toLower_of_mem_toDigits mem

theorem IsHexadecimal.digitsValue? (h : IsHexadecimal n text) :
    digitsValue? 16 0 text = some n := by
  obtain ⟨zeros, digits, rfl, same⟩ := h
  rw [digitsValue?_replicate_zero (by decide), ← digitsValue?_asciiLower, same,
    digitsValue?_toDigits]

theorem IsHexadecimal.isWord (h : IsHexadecimal n text) : IsWord text := by
  refine isWord_of_digits h.digitsValue? ?_
  obtain ⟨zeros, digits, rfl, same⟩ := h
  rintro none
  rw [(List.append_eq_nil_iff.1 none).2] at same
  exact Nat.toDigits_ne_nil same.symm

/-- A number is read back from any of its hexadecimal forms. -/
theorem unsigned?_of_hexadecimal (h : IsHexadecimal n text) (below : n < limit) :
    unsigned? 16 limit text = some n := by
  rw [unsigned?_of_notMem (plus_notMem_of_digits h.digitsValue?), filter_digitsValue?_eq_some_iff]
  exact ⟨h.isWord.ne_nil, h.digitsValue?, below⟩

end NicKeeper.Text
