import Chip8.Machine.Basic
import Chip8.Text.Numeral

namespace Chip8.Machine

/-! The registers in six lines of text. -/

def registerEntry (machine : Machine) (register : Register) : String :=
  "V" ++ Numeral.hexNat 1 register ++ ":" ++
    Numeral.hexNat 2 (machine.registers.get register).toNat

/-- Four registers, the first of them `first`. -/
def registerLine (machine : Machine) (first : Nat) : String :=
  " ".intercalate ((((List.finRange 16).drop first).take 4).map machine.registerEntry)

def summary (machine : Machine) : List String :=
  [ "PC: 0x" ++ Numeral.hexNat 3 machine.pc.toNat ++
      "  I: 0x" ++ Numeral.hexNat 3 machine.index.toNat ++
      "  SP: " ++ Numeral.decimalNat machine.stack.depth,
    "DT: " ++ Numeral.decimalNat machine.delay.toNat ++
      "  ST: " ++ Numeral.decimalNat machine.sound.toNat,
    machine.registerLine 0, machine.registerLine 4,
    machine.registerLine 8, machine.registerLine 12 ]

end Chip8.Machine
