import NicKeeper.Text.InvisibleTable

/-!
# Quoted text

A text between double quotes in which every character shows: a double quote, a backslash and the
usual controls get a backslash, and any other character without a picture of its own is written as
its code point.
-/

namespace NicKeeper.Text

def quoteChar (c : Char) : List Char :=
  if c = '"' then ['\\', '"']
  else if c = '\\' then ['\\', '\\']
  else if c = '\n' then ['\\', 'n']
  else if c = '\r' then ['\\', 'r']
  else if c = '\t' then ['\\', 't']
  else if c.toNat = 0 then ['\\', '0']
  else if invisibleRanges.contains c.toNat then
    ['\\', 'u', '\x7b'] ++ Nat.toDigits 16 c.toNat ++ ['\x7d']
  else [c]

def quote (text : String) : String :=
  String.ofList ('"' :: text.toList.flatMap quoteChar ++ ['"'])

end NicKeeper.Text
