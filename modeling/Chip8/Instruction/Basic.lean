import Chip8.Memory
import Chip8.Registers

namespace Chip8

/-! Instruction words. `Fields` cuts any integer into its nibbles, reading it as an
infinite two's complement numeral. The two system instructions are recognised by the
whole integer, all others by their fields. What a word does is found by switches on
its fields; how it is listed is told by other means. -/

structure Fields where
  raw : Int
  family : Fin 16
  x : Register
  y : Register
  n : Fin 16
  nn : UInt8
  nnn : Address
deriving DecidableEq, Repr

def Fields.ofInt (raw : Int) : Fields :=
  let word := (raw % 65536).toNat
  { raw := raw
    family := Fin.ofNat 16 (word / 4096)
    x := Fin.ofNat 16 (word / 256)
    y := Fin.ofNat 16 (word / 16)
    n := Fin.ofNat 16 word
    nn := UInt8.ofNat word
    nnn := Fin.ofNat 4096 word }

/-- The branch of a switch that an index selects. Behind the last branch it is the
last one. -/
def switch {α : Type} {last : Nat} (branches : Vector α (last + 1)) (index : Nat) : α :=
  branches.get ⟨min index last, Nat.lt_succ_of_le (Nat.min_le_right index last)⟩

end Chip8
