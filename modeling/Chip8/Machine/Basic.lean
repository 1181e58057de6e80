import Chip8.Memory
import Chip8.Registers
import Chip8.Font
import Chip8.CallStack
import Chip8.Display.Bitmap
import Chip8.Random.Source

namespace Chip8

/-! Everything that a program can read or change. -/

/-- A key of the sixteen-key pad. -/
abbrev Key := Fin 16

/-- Which keys are held. -/
abbrev Keys := Vector Bool 16

namespace Keys

def empty : Keys := Vector.replicate 16 false

def only (key : Key) : Keys := Vector.ofFn (· == key)

def lowest? (keys : Keys) : Option Key :=
  (List.finRange 16).find? keys.get

end Keys

structure Machine where
  rng : Random.Key
  memory : Memory
  pc : UInt16
  index : UInt16
  registers : Registers
  display : Display
  stack : CallStack
  delay : UInt8
  sound : UInt8
  keys : Keys
deriving DecidableEq

namespace Machine

/-- The machine before a program is loaded. -/
def fresh (rng : Random.Key) : Machine where
  rng := rng
  memory := Font.memory
  pc := UInt16.ofNat Memory.programStart
  index := 0
  registers := Vector.replicate 16 0
  display := Display.blank
  stack := CallStack.empty
  delay := 0
  sound := 0
  keys := Keys.empty

/-- The instruction word under the program counter, high byte first. -/
def word (machine : Machine) : UInt16 :=
  let high := machine.memory.readClamped machine.pc.toNat
  let low := machine.memory.readClamped (machine.pc + 1).toNat
  UInt16.ofNat (256 * high.toNat + low.toNat)

/-- Move past one instruction word. -/
def advance (machine : Machine) : Machine :=
  { machine with pc := machine.pc + 2 }

def fetch (machine : Machine) : UInt16 × Machine :=
  (machine.word, machine.advance)

def countDown (timer : UInt8) : UInt8 :=
  if timer = 0 then 0 else timer - 1

/-- One tick of the 60 Hz clock. -/
def tick (machine : Machine) : Machine :=
  { machine with
    delay := countDown machine.delay
    sound := countDown machine.sound }

end Machine

/-- A program that does not fit above its load address. -/
structure OversizedProgram where
  size : Nat
deriving DecidableEq, Repr

def Machine.load (machine : Machine) (program : List UInt8) :
    Except OversizedProgram Machine :=
  if Memory.programSpace < program.length then
    .error ⟨program.length⟩
  else
    .ok { machine with memory := machine.memory.write Memory.programStart program }

end Chip8
