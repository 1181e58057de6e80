import Chip8.Instruction.Basic
import Chip8.Text.Numeral

namespace Chip8.Instruction

/-! Assembly text. Registers are one hexadecimal digit, addresses three, bytes
two, the height of a sprite is decimal; a word without a meaning is data. -/

def registerText (x : Register) : String := "V" ++ Numeral.hexNat 1 x

def addressText (address : Address) : String := "0x" ++ Numeral.hexNat 3 address

def byteText (byte : UInt8) : String := "0x" ++ Numeral.hexNat 2 byte.toNat

/-- A mnemonic and its two operands. -/
def binaryText (mnemonic left right : String) : String :=
  mnemonic ++ " " ++ left ++ ", " ++ right

/-- The mnemonics of the arithmetic family, by the low nibble. -/
def mnemonics : List (Nat × String) :=
  [(0x0, "LD"), (0x1, "OR"), (0x2, "AND"), (0x3, "XOR"), (0x4, "ADD"),
    (0x5, "SUB"), (0x6, "SHR"), (0x7, "SUBN"), (0xE, "SHL")]

/-- The lines of the last family, by the low byte. -/
def formats : List (Nat × (String → String)) :=
  [(0x07, fun x => binaryText "LD" x "DT"),
    (0x0A, fun x => binaryText "LD" x "K"),
    (0x15, fun x => binaryText "LD" "DT" x),
    (0x18, fun x => binaryText "LD" "ST" x),
    (0x1E, fun x => binaryText "ADD" "I" x),
    (0x29, fun x => binaryText "LD" "F" x),
    (0x33, fun x => binaryText "LD" "B" x),
    (0x55, fun x => binaryText "LD" "[I]" x),
    (0x65, fun x => binaryText "LD" x "[I]")]

/-- The line of a word that is cut into its fields. The first form that fits is the
one that is written. -/
def listing (fields : Fields) : String :=
  let ⟨raw, family, x, y, n, nn, nnn⟩ := fields
  let vx := registerText x
  let vy := registerText y
  if raw = 0x00E0 then "CLS"
  else if raw = 0x00EE then "RET"
  else if family.val = 0x1 then "JP " ++ addressText nnn
  else if family.val = 0x2 then "CALL " ++ addressText nnn
  else if family.val = 0x3 then binaryText "SE" vx (byteText nn)
  else if family.val = 0x4 then binaryText "SNE" vx (byteText nn)
  else if family.val = 0x5 ∧ n.val = 0 then binaryText "SE" vx vy
  else if family.val = 0x6 then binaryText "LD" vx (byteText nn)
  else if family.val = 0x7 then binaryText "ADD" vx (byteText nn)
  else if family.val = 0x8 ∧ (mnemonics.lookup n.val).isSome then
    binaryText ((mnemonics.lookup n.val).getD "") vx vy
  else if family.val = 0x9 ∧ n.val = 0 then binaryText "SNE" vx vy
  else if family.val = 0xA then binaryText "LD" "I" (addressText nnn)
  else if family.val = 0xB then binaryText "JP" "V0" (addressText nnn)
  else if family.val = 0xC then binaryText "RND" vx (byteText nn)
  else if family.val = 0xD then binaryText "DRW" vx vy ++ ", " ++ Numeral.decimalNat n
  else if family.val = 0xE ∧ nn.toNat = 0x9E then "SKP " ++ vx
  else if family.val = 0xE ∧ nn.toNat = 0xA1 then "SKNP " ++ vx
  else if family.val = 0xF ∧ (formats.lookup nn.toNat).isSome then
    (formats.lookup nn.toNat).getD id vx
  else "DW 0x" ++ Numeral.hex 4 raw

/-- The text of any integer taken as an instruction word. -/
def disassemble (raw : Int) : String := listing (Fields.ofInt raw)

end Chip8.Instruction
