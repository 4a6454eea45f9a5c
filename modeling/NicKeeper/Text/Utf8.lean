/-!
# Reading UTF-8

Bytes are read as characters and faults: where no character can be read, the longest beginning of
one that was still well-formed is one fault, and at least one byte is. Strict reading fails on any
fault; lenient reading puts U+FFFD in the place of each.
-/

namespace NicKeeper.Text

namespace Utf8

def isContinuation (b : UInt8) : Bool := 0x80 ≤ b && b ≤ 0xbf

/-- Whether `b` may follow the first byte `lead` of a character of three bytes. Overlong forms and
surrogates are excluded here. -/
def isSecondOfThree (lead b : UInt8) : Bool :=
  if lead == 0xe0 then 0xa0 ≤ b && b ≤ 0xbf
  else if lead == 0xed then 0x80 ≤ b && b ≤ 0x9f
  else isContinuation b

/-- Whether `b` may follow the first byte `lead` of a character of four bytes. Overlong forms and
values above U+10FFFF are excluded here. -/
def isSecondOfFour (lead b : UInt8) : Bool :=
  if lead == 0xf0 then 0x90 ≤ b && b ≤ 0xbf
  else if lead == 0xf4 then 0x80 ≤ b && b ≤ 0x8f
  else isContinuation b

def payload (b : UInt8) : Nat := b.toNat % 0x40

/-- The characters of a text in UTF-8, with `none` for each fault. -/
def read : List UInt8 → List (Option Char)
  | [] => []
  | b₀ :: r₀ =>
    if b₀ < 0x80 then some (Char.ofNat b₀.toNat) :: read r₀
    else if 0xc2 ≤ b₀ && b₀ ≤ 0xdf then
      match r₀ with
      | [] => [none]
      | b₁ :: r₁ =>
        if isContinuation b₁ then
          some (Char.ofNat (b₀.toNat % 0x20 * 0x40 + payload b₁)) :: read r₁
        else none :: read (b₁ :: r₁)
    else if 0xe0 ≤ b₀ && b₀ ≤ 0xef then
      match r₀ with
      | [] => [none]
      | b₁ :: r₁ =>
        if !isSecondOfThree b₀ b₁ then none :: read (b₁ :: r₁)
        else match r₁ with
          | [] => [none]
          | b₂ :: r₂ =>
            if isContinuation b₂ then
              some (Char.ofNat ((b₀.toNat % 0x10 * 0x40 + payload b₁) * 0x40 + payload b₂)) ::
                read r₂
            else none :: read (b₂ :: r₂)
    else if 0xf0 ≤ b₀ && b₀ ≤ 0xf4 then
      match r₀ with
      | [] => [none]
      | b₁ :: r₁ =>
        if !isSecondOfFour b₀ b₁ then none :: read (b₁ :: r₁)
        else match r₁ with
          | [] => [none]
          | b₂ :: r₂ =>
            if !isContinuation b₂ then none :: read (b₂ :: r₂)
            else match r₂ with
              | [] => [none]
              | b₃ :: r₃ =>
                if isContinuation b₃ then
                  some (Char.ofNat (((b₀.toNat % 0x08 * 0x40 + payload b₁) * 0x40 + payload b₂) *
                    0x40 + payload b₃)) :: read r₃
                else none :: read (b₃ :: r₃)
    else none :: read r₀

def decode? (bytes : List UInt8) : Option (List Char) := (read bytes).mapM id

/-- The text that bytes encode, with U+FFFD for each fault. -/
def decodeLenient (bytes : List UInt8) : List Char := (read bytes).map fun c? => c?.getD '\ufffd'

end Utf8

end NicKeeper.Text
