import Mathlib.Algebra.Group.Nat.Defs
import NicKeeper.Pci.Attribute
import NicKeeper.Proofs.CardLabels
import NicKeeper.Proofs.Numerals
import NicKeeper.Proofs.SystemSearch

/-!
# The read request size in its register

Three bits of the device control register of a function hold the largest read that it asks for, as
the power of two by which 128 bytes are multiplied. Six of the eight codes stand for a size. Writing
a size finds its code and moves it into place, under a mask of the three bits. Reading takes the
bits out of the number that a tool printed and multiplies. The two are written apart from each
other, but have the same sizes, and what is written is read back (`Pci.readRequest?_of_masked`).

That rests on nothing the register held before, as the mask covers what is read, and on nothing that
the mask does not cover either, as that stays (`Pci.getLsbD_masked`). Nor does it depend on how the
number is printed: with letters of either case, with zeros before it or with blanks around it
(`Pci.Printed`). All that a host has to have is a tool that prints the register and that writes to
it under a mask (`SystemHost.RegisterTool`).
-/

namespace NicKeeper

open Text (Blank IsHexadecimal cutAt_append_cons trim unsigned?)

namespace Pci

variable {size : UInt32} {bits n : Nat} {text : List Char}

/-! ## Sizes and their codes -/

theorem encodeReadRequest?_eq_ok_iff :
    encodeReadRequest? size = .ok bits ↔
      ∃ encoded ≤ 5, size = .ofNat (128 * 2 ^ encoded) ∧ encoded * 2 ^ 12 = bits := by
  constructor
  · intro h
    rw [encodeReadRequest?] at h
    split at h
    · next encoded found =>
        have same : size.toNat = 128 * 2 ^ encoded := by simpa using List.find?_some found
        have held : encoded ≤ 5 := by
          have mem := List.mem_of_find?_eq_some found
          simp only [List.mem_cons, List.not_mem_nil, or_false] at mem
          omega
        exact ⟨encoded, held, by rw [← same, UInt32.ofNat_toNat], Except.ok.inj h⟩
    · cases h
  · rintro ⟨encoded, held, rfl, rfl⟩
    have : encoded = 0 ∨ encoded = 1 ∨ encoded = 2 ∨ encoded = 3 ∨ encoded = 4 ∨ encoded = 5 := by
      omega
    rcases this with rfl | rfl | rfl | rfl | rfl | rfl <;> rfl

theorem readRequest?_eq_ok_iff :
    readRequest? text = .ok size ↔ ∃ register, unsigned? 16 (2 ^ 16) (trim text) = some register ∧
      readRequestBits register ≤ 5 ∧ size = .ofNat (128 * 2 ^ readRequestBits register) := by
  rw [readRequest?]
  constructor
  · intro h
    split at h
    · cases h
    · next register read =>
        dsimp only at h
        split at h
        · cases h
        · next held => exact ⟨register, read, by omega, (Except.ok.inj h).symm⟩
  · rintro ⟨register, read, held, rfl⟩
    rw [show unsigned? 16 (Nat.pow 2 16) (trim text) = some register from read]
    exact if_neg (by omega)

/-- The code of a size fits in the register. -/
theorem lt_of_encodeReadRequest? (h : encodeReadRequest? size = .ok bits) : bits < 2 ^ 16 := by
  obtain ⟨encoded, held, -, rfl⟩ := encodeReadRequest?_eq_ok_iff.1 h
  omega

/-- What the register holds can be written. -/
theorem encodeReadRequest?_of_read (h : readRequest? text = .ok size) :
    ∃ bits, encodeReadRequest? size = .ok bits := by
  obtain ⟨register, -, held, same⟩ := readRequest?_eq_ok_iff.1 h
  exact ⟨_, encodeReadRequest?_eq_ok_iff.2 ⟨_, held, same, rfl⟩⟩

/-! ## Registers -/

/-- A register after a write under a mask: the bits in the mask are those of the value, and the
others stay. -/
def masked (value mask register : BitVec 16) : BitVec 16 :=
  register &&& ~~~mask ||| value &&& mask

/-- A number as a tool prints it: in hexadecimal, with blanks around it. -/
def Printed (n : Nat) (text : List Char) : Prop :=
  ∃ lead digits tail, Blank lead ∧ Blank tail ∧ IsHexadecimal n digits ∧
    text = lead ++ digits ++ tail

theorem getLsbD_masked (value mask register : BitVec 16) (i : Nat) :
    (masked value mask register).getLsbD i =
      if mask.getLsbD i then value.getLsbD i else register.getLsbD i := by
  rw [masked, BitVec.getLsbD_or, BitVec.getLsbD_and, BitVec.getLsbD_and, BitVec.getLsbD_not]
  by_cases inside : i < 16
  · cases mask.getLsbD i <;> simp [inside]
  · simp [BitVec.getLsbD_of_ge _ i (Nat.le_of_not_lt inside)]

/-- The mask has the three bits that hold the size. -/
theorem getLsbD_readRequestMask (i : Nat) :
    (BitVec.ofNat 16 readRequestMask).getLsbD i = decide (12 ≤ i ∧ i ≤ 14) := by
  by_cases inside : i < 16
  · revert i
    decide
  · rw [BitVec.getLsbD_of_ge _ i (Nat.le_of_not_lt inside)]
    exact (decide_eq_false (by omega)).symm

theorem readRequestBits_toNat (register : BitVec 16) :
    readRequestBits register.toNat = (register.extractLsb' 12 3).toNat := by
  rw [BitVec.extractLsb'_toNat, Nat.shiftRight_eq_div_pow]
  rfl

theorem readRequestBits_masked (value register : BitVec 16) :
    readRequestBits (masked value (.ofNat 16 readRequestMask) register).toNat =
      readRequestBits value.toNat := by
  rw [readRequestBits_toNat, readRequestBits_toNat]
  refine congrArg BitVec.toNat (BitVec.eq_of_getLsbD_eq fun i below => ?_)
  rw [BitVec.getLsbD_extractLsb', BitVec.getLsbD_extractLsb', getLsbD_masked,
    getLsbD_readRequestMask, if_pos (by simp; omega)]

theorem unsigned?_of_printed (h : Printed n text) (below : n < 2 ^ 16) :
    unsigned? 16 (2 ^ 16) (trim text) = some n := by
  obtain ⟨lead, digits, tail, before, behind, own, rfl⟩ := h
  rw [Text.trim_padded before behind, own.isWord.firm.trim_eq]
  exact Text.unsigned?_of_hexadecimal own below

/-- However the register is printed, the size is read back from what a masked write leaves. -/
theorem readRequest?_of_masked (h : encodeReadRequest? size = .ok bits) {register : BitVec 16}
    (printed : Printed
      (masked (.ofNat 16 bits) (.ofNat 16 readRequestMask) register).toNat text) :
    readRequest? text = .ok size := by
  obtain ⟨encoded, held, rfl, rfl⟩ := encodeReadRequest?_eq_ok_iff.1 h
  have code : readRequestBits (masked (.ofNat 16 (encoded * 2 ^ 12))
      (.ofNat 16 readRequestMask) register).toNat = encoded := by
    rw [readRequestBits_masked, BitVec.toNat_ofNat, readRequestBits]
    -- A code of at most five fits in three bits, and where it belongs also in sixteen.
    show encoded * 2 ^ 12 % 2 ^ 16 / 2 ^ 12 % 2 ^ 3 = encoded
    omega
  refine readRequest?_eq_ok_iff.2 ⟨_, unsigned?_of_printed printed (BitVec.isLt _), ?_, ?_⟩
  · rwa [code]
  · rw [code]

theorem encodable_iff (size : UInt32) :
    (∃ bits, encodeReadRequest? size = .ok bits) ↔ ∃ text, readRequest? text = .ok size := by
  constructor
  · rintro ⟨bits, h⟩
    have printed (register : BitVec 16) :
        Printed register.toNat (Text.hexadecimal 4 register.toNat) :=
      ⟨[], _, [], Text.blank_nil, Text.blank_nil, Text.isHexadecimal_hexadecimal 4 _, by simp⟩
    exact ⟨_, readRequest?_of_masked h (printed (masked _ _ 0))⟩
  · rintro ⟨text, h⟩
    exact encodeReadRequest?_of_read h

end Pci

namespace SystemHost

open Pci Program

variable {σ : Type} {handler : Handler systemService σ} {pci : String} {register : σ → BitVec 16}

/-! ## The tool -/

/-- What the tool is run with to read the size of a function. -/
def sizeReading (pci : String) : Command := ⟨"setpci", ["-s", pci, deviceControl]⟩

/-- What the tool is told to write to the register: a value under a mask, both in hexadecimal. -/
def Assigns (argument : String) (value mask : BitVec 16) : Prop :=
  ∃ v m, IsHexadecimal value.toNat v ∧ IsHexadecimal mask.toNat m ∧
    argument.toList = deviceControl.toList ++ '=' :: (v ++ ':' :: m)

/-- A tool that works on the register of a function: it prints the register, in any way in which a
number is printed, and it writes a value under a mask. -/
structure RegisterTool (handler : Handler systemService σ) (pci : String)
    (register : σ → BitVec 16) : Prop where
  prints : ∀ state, ∃ reply after, handler (.runTool (sizeReading pci)) state = (.ok reply, after) ∧
    reply.status.isSuccess = true ∧ register after = register state ∧
    Printed (register state).toNat (Text.Utf8.decodeLenient reply.stdout)
  writes : ∀ argument value mask state, Assigns argument value mask →
    ∃ reply after, handler (.runTool ⟨"setpci", ["-s", pci, argument]⟩) state = (.ok reply, after) ∧
      reply.status.isSuccess = true ∧ register after = masked value mask (register state)

theorem assigns_readRequestAssignment {bits : Nat} (small : bits < 2 ^ 16) :
    Assigns (readRequestAssignment bits) (.ofNat 16 bits) (.ofNat 16 readRequestMask) := by
  have value : (BitVec.ofNat 16 bits).toNat = bits := Nat.mod_eq_of_lt small
  have mask : (BitVec.ofNat 16 readRequestMask).toNat = readRequestMask := rfl
  refine ⟨Text.hexadecimal 4 bits, Text.hexadecimal 4 readRequestMask, ?_, ?_, ?_⟩
  · rw [value]
    exact Text.isHexadecimal_hexadecimal 4 bits
  · rw [mask]
    exact Text.isHexadecimal_hexadecimal 4 readRequestMask
  · simp [readRequestAssignment]

theorem run_run_of_success {program : String} {arguments : List String} {reply : ToolReply}
    {before after : σ} (ran : handler (.runTool ⟨program, arguments⟩) before = (.ok reply, after))
    (success : reply.status.isSuccess = true) :
    (run program arguments).run.run handler before =
      (.ok (Text.Utf8.decodeLenient reply.stdout), after) := by
  rw [run, run_ask_bind, ran]
  dsimp only
  rw [if_pos success]
  rfl

/-- Setting a size is one masked write to the register. -/
theorem run_setReadRequest [PciNames] (tool : RegisterTool handler pci register) {size : UInt32}
    {bits : Nat} (h : encodeReadRequest? size = .ok bits) (state : σ) :
    ∃ after, (answer (.setReadRequest pci size)).run handler state = (.ok (), after) ∧
      register after =
        masked (.ofNat 16 bits) (.ofNat 16 readRequestMask) (register state) := by
  obtain ⟨reply, after, ran, success, written⟩ := tool.writes _ _ _ state
    (assigns_readRequestAssignment (lt_of_encodeReadRequest? h))
  refine ⟨after, ?_, written⟩
  rw [answer, h]
  show ((run "setpci" ["-s", pci, readRequestAssignment bits]).run.bind _).run handler state = _
  rw [run_bind, run_run_of_success ran success]
  rfl

/-- Reading a size reads what the tool prints of the register. -/
theorem run_readRequest [PciNames] (tool : RegisterTool handler pci register) (state : σ) :
    ∃ text after, (answer (.readRequest pci)).run handler state = (readRequest? text, after) ∧
      Printed (register state).toNat text ∧ register after = register state := by
  obtain ⟨reply, after, ran, success, kept, printed⟩ := tool.prints state
  refine ⟨_, after, ?_, printed, kept⟩
  show ((run "setpci" ["-s", pci, deviceControl]).run.bind _).run handler state = _
  rw [run_bind, run_run_of_success ran success]
  rfl

/-- Exactly the sizes that can be read can be written. What is written for one under the mask leaves
a register from which it is read back, however that is printed, with all bits around the three that
hold the size as they were. So a size that was set on a function is found there. -/
theorem size_is_read_back [PciNames] :
    (∀ size, (∃ bits, encodeReadRequest? size = .ok bits) ↔
      ∃ text, readRequest? text = .ok size) ∧
      ∀ size bits, encodeReadRequest? size = .ok bits → bits < 2 ^ 16 ∧
        (∀ (register : BitVec 16) (text : List Char),
          Printed (masked (.ofNat 16 bits) 0x7000#16 register).toNat text →
            readRequest? text = .ok size) ∧
        (∀ (register : BitVec 16) (i : Nat), i < 12 ∨ 14 < i →
          (masked (.ofNat 16 bits) 0x7000#16 register).getLsbD i = register.getLsbD i) ∧
        ∀ (σ : Type) (handler : Handler systemService σ) (pci : String)
          (register : σ → BitVec 16), RegisterTool handler pci register →
          ∀ state, ∃ after last,
            (answer (.setReadRequest pci size)).run handler state = (.ok (), after) ∧
            register after = masked (.ofNat 16 bits) 0x7000#16 (register state) ∧
            (answer (.readRequest pci)).run handler after = (.ok size, last) ∧
            register last = register after := by
  refine ⟨encodable_iff, fun size bits h => ⟨lt_of_encodeReadRequest? h, ?_, ?_, ?_⟩⟩
  · exact fun register text printed => readRequest?_of_masked h printed
  · intro register i outside
    have spared : (0x7000#16).getLsbD i = false :=
      (getLsbD_readRequestMask i).trans (decide_eq_false (by omega))
    rw [getLsbD_masked, spared]
    rfl
  · intro σ handler pci register tool state
    obtain ⟨after, set, written⟩ := run_setReadRequest tool h state
    obtain ⟨text, last, read, printed, kept⟩ := run_readRequest tool after
    rw [written] at printed
    rw [readRequest?_of_masked h printed] at read
    exact ⟨after, last, set, written, read, kept⟩

end SystemHost

namespace Sample

open SystemHost

/-- The value and the mask of an assignment. -/
def assignment? (argument : List Char) : Option (BitVec 16 × BitVec 16) := do
  let (value, mask) ← Text.cutAt ':' (← Text.after? (deviceControl.toList ++ ['=']) argument)
  return (.ofNat 16 (← unsigned? 16 (2 ^ 16) value), .ofNat 16 (← unsigned? 16 (2 ^ 16) mask))

/-- A tool with one register, which it prints in four digits on a line. -/
def registerTool : Handler systemService (BitVec 16)
  | .runTool command, register =>
    match command.arguments.getLast?.bind fun argument => assignment? argument.toList with
    | some (value, mask) => (.ok {}, Pci.masked value mask register)
    | none =>
      let line := Text.hexadecimal 4 register.toNat ++ ['\n']
      (.ok { stdout := line.map fun c => .ofNat c.toNat }, register)
  | .readFile _, register => (.error .notFound, register)
  | .listDirectory _, register => (.error .notFound, register)
  | .fileExists _, register => (false, register)

theorem assignment?_of_assigns {argument : String} {value mask : BitVec 16}
    (h : Assigns argument value mask) : assignment? argument.toList = some (value, mask) := by
  obtain ⟨v, m, ownValue, ownMask, split⟩ := h
  have lead : Text.after? (deviceControl.toList ++ ['=']) argument.toList = some (v ++ ':' :: m) :=
    Text.after?_eq_some_iff.2 (by rw [split, List.append_assoc]; rfl)
  have colon : ':' ∉ v := by
    intro mem
    obtain ⟨digit, own⟩ := Text.exists_digitValue? ownValue.digitsValue? mem
    cases own
  have readValue := Text.unsigned?_of_hexadecimal ownValue value.isLt
  have readMask := Text.unsigned?_of_hexadecimal ownMask mask.isLt
  rw [assignment?, lead]
  simp only [Option.bind_eq_bind, Option.bind_some, cutAt_append_cons colon, readValue, readMask,
    BitVec.ofNat_toNat, BitVec.setWidth_eq, Option.pure_def]

theorem decodeLenient_ascii {text : List Char} (ascii : ∀ c ∈ text, c.toNat < 0x80) :
    Text.Utf8.decodeLenient (text.map fun c => .ofNat c.toNat) = text := by
  induction text with
  | nil => rfl
  | cons c rest ih =>
      obtain ⟨own, others⟩ := List.forall_mem_cons.1 ascii
      have byte : (UInt8.ofNat c.toNat).toNat = c.toNat := Nat.mod_eq_of_lt (by omega)
      have low : UInt8.ofNat c.toNat < 0x80 := UInt8.lt_iff_toNat_lt.2 (by rwa [byte])
      rw [List.map_cons, Text.Utf8.decodeLenient, Text.Utf8.read.eq_def]
      dsimp only
      rw [if_pos low, List.map_cons, byte, Char.ofNat_toNat]
      exact congrArg _ (ih others)

theorem ascii_hexadecimal {width n : Nat} {c : Char} (mem : c ∈ Text.hexadecimal width n) :
    c.toNat < 0x80 := by
  have digits := (Text.isHexadecimal_hexadecimal width n).digitsValue?
  obtain ⟨digit, own⟩ := Text.exists_digitValue? digits mem
  obtain ⟨-, place⟩ := Text.digitValue?_eq_some_iff.1 own
  omega

theorem isRegisterTool_registerTool (pci : String) : RegisterTool registerTool pci id where
  prints register := by
    have ascii : ∀ c ∈ Text.hexadecimal 4 register.toNat ++ ['\n'], c.toNat < 0x80 := by
      intro c mem
      rcases List.mem_append.1 mem with digit | line
      · exact ascii_hexadecimal digit
      · rw [List.mem_singleton.1 line]
        decide
    refine ⟨{ stdout := (Text.hexadecimal 4 register.toNat ++ ['\n']).map fun c => .ofNat c.toNat },
      register, ?_, rfl, rfl, ?_⟩
    · have unassigned : assignment? deviceControl.toList = none := by decide
      rw [sizeReading, registerTool]
      simp only [List.getLast?_cons_cons, List.getLast?_singleton, Option.bind_some, unassigned]
    · rw [decodeLenient_ascii ascii]
      exact ⟨[], _, ['\n'], Text.blank_nil, by decide, Text.isHexadecimal_hexadecimal 4 _, rfl⟩
  writes argument value mask register assigns := by
    refine ⟨{}, Pci.masked value mask register, ?_, rfl, rfl⟩
    rw [registerTool]
    simp only [List.getLast?_cons_cons, List.getLast?_singleton, Option.bind_some,
      assignment?_of_assigns assigns]

end Sample

namespace SystemHost

open Pci
open scoped Sample

/-- The largest size is set where another one was, and is found in a register that is printed in
letters of both cases, with zeros before it and blanks around it. -/
theorem largest_size_is_read_back :
    encodeReadRequest? 4096 = .ok 0x5000 ∧
      Printed (masked 0x5000#16 0x7000#16 0x2abf#16).toNat "\u2003000005aBF\n".toList ∧
      readRequest? "\u2003000005aBF\n".toList = .ok 4096 ∧
      RegisterTool Sample.registerTool "0000:3b:00.0" id ∧
      ∃ after last,
        (answer (.setReadRequest "0000:3b:00.0" 4096)).run Sample.registerTool 0x2abf#16 =
          (.ok (), after) ∧ after = 0x5abf#16 ∧
        (answer (.readRequest "0000:3b:00.0")).run Sample.registerTool after =
          (.ok 4096, last) := by
  have encoded : encodeReadRequest? 4096 = .ok 0x5000 := rfl
  have printed : Printed (masked 0x5000#16 0x7000#16 0x2abf#16).toNat
      "\u2003000005aBF\n".toList :=
    ⟨['\u2003'], "000005aBF".toList, ['\n'], by decide, by decide,
      ⟨5, "5aBF".toList, rfl, by decide⟩, rfl⟩
  have tool := Sample.isRegisterTool_registerTool "0000:3b:00.0"
  obtain ⟨-, sizes⟩ := size_is_read_back
  obtain ⟨-, read, -, round⟩ := sizes 4096 0x5000 encoded
  obtain ⟨after, last, set, written, found, -⟩ := round _ _ _ _ tool 0x2abf#16
  exact ⟨encoded, printed, read _ _ printed, tool, after, last, set, written, found⟩

end SystemHost

end NicKeeper
