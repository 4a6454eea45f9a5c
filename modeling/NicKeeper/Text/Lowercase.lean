import NicKeeper.Text.CaseTable

/-!
# Lowercase text

Lowercasing by ASCII alone, and by the full rules of Unicode without those of single languages. By
the full rules every character is replaced by itself or by one other, with two exceptions: U+0130
becomes two characters, and a capital sigma becomes the final sigma when a cased character stands
before it and none after it, characters that case ignores being skipped on both sides.
-/

namespace NicKeeper.Text

def asciiLower (text : List Char) : List Char := text.map Char.toLower

/-- The lowercase form of a character where it is one character and hangs on nothing else. -/
def simpleLower (c : Char) : Char :=
  match lowercaseRuns.find? fun (first, last, step, _) =>
      first ≤ c.toNat && c.toNat ≤ last && (c.toNat - first) % step == 0 with
  | some (_, _, _, shift) => Char.ofNat (c.toNat + shift).toNat
  | none => c

/-- Whether the first character that case does not ignore has a case. -/
def casedNext : List Char → Bool
  | [] => false
  | c :: rest =>
    if ignorableRanges.contains c.toNat then casedNext rest else casedRanges.contains c.toNat

/-- The lowercase form of a text of which the characters `before`, the nearest first, are already
behind. -/
def lowerAfter (before : List Char) : List Char → List Char
  | [] => []
  | c :: rest =>
    let lowered :=
      if c = 'Σ' then [if casedNext before && !casedNext rest then 'ς' else 'σ']
      else if c = 'İ' then ['i', '\u0307']
      else [simpleLower c]
    lowered ++ lowerAfter (c :: before) rest

def lower (text : List Char) : List Char := lowerAfter [] text

end NicKeeper.Text
