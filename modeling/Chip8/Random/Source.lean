import Chip8.Random.Threefry

namespace Chip8.Random

/-! The stream of random bytes. A key is never drawn from and kept: each draw
splits it into the key that is kept and the key that is used up. -/

abbrev Key := Words

namespace Key

/-- Seeds are signed 64-bit integers, of which the low 32 bits make the key. -/
def ofSeed? (seed : Int) : Option Key :=
  if -0x8000000000000000 ≤ seed ∧ seed < 0x8000000000000000 then
    some ⟨0, UInt32.ofNat (seed % 0x100000000).toNat⟩
  else
    none

def split (key : Key) : Key × Key :=
  (Threefry.block key ⟨0, 0⟩, Threefry.block key ⟨0, 1⟩)

/-- The byte that a key yields when it is used up. -/
def byte (key : Key) : UInt8 :=
  let words := Threefry.block key.split.2 ⟨0, 0⟩
  (words.first ^^^ words.second).toUInt8

/-- The key kept after one draw. -/
def next (key : Key) : Key := key.split.1

/-- The byte drawn from a key that goes on as `key.next`. -/
def draw (key : Key) : UInt8 := byte key.split.2

end Key

end Chip8.Random
