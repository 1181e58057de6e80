import Chip8.Instruction.Basic

namespace Chip8

/-! The register-to-register operations. Results are taken modulo 256; the
operations that report a carry, a borrow or a bit shifted out come with a flag, the
others with a blank one. Which low nibbles of a word select an operation, and which
of them write the flag, is told by two tables of their own. -/

inductive Arithmetic where
  | copy
  | or
  | and
  | xor
  | add
  | subtract
  | shiftRight
  | subtractFrom
  | shiftLeft
deriving DecidableEq, Repr

namespace Arithmetic

def result (operation : Arithmetic) (left right : UInt8) : UInt8 :=
  match operation with
  | copy => right
  | or => left ||| right
  | and => left &&& right
  | xor => left ^^^ right
  | add => left + right
  | subtract => left - right
  | shiftRight => left / 2
  | subtractFrom => right - left
  | shiftLeft => left * 2

/-- The flag of what has none. -/
def noFlag : UInt8 := 0

/-- A difference of equal operands counts as a borrow. -/
def flag (operation : Arithmetic) (left right : UInt8) : UInt8 :=
  match operation with
  | copy | or | and | xor => noFlag
  | add => if left.toNat + right.toNat > 255 then 1 else 0
  | subtract => if right < left then 1 else 0
  | shiftRight => left % 2
  | subtractFrom => if left < right then 1 else 0
  | shiftLeft => left / 128

/-- The low nibbles that select an operation. -/
def selecting : Vector Bool 16 :=
  #v[true, true, true, true, true, true, true, true,
    false, false, false, false, false, false, true, false]

/-- The low nibbles that write the flag. -/
def flagging : Vector Bool 16 :=
  #v[false, false, false, false, true, true, true, true,
    false, false, false, false, false, false, true, false]

def operations : Vector Arithmetic 9 :=
  #v[copy, or, and, xor, add, subtract, shiftRight, subtractFrom, shiftLeft]

/-- The result and the flag that the low nibble of a word stands for. The last of the
operations is selected by 14, and without an operation the left operand is kept. -/
def outcome (n : Fin 16) (left right : UInt8) : UInt8 × UInt8 :=
  if selecting.get n then
    let operation := switch operations (if n.val = 14 then 8 else n.val)
    (operation.result left right, operation.flag left right)
  else
    (left, noFlag)

end Arithmetic

end Chip8
