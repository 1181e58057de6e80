import Chip8.Machine.Basic
import Chip8.Instruction.Arithmetic

namespace Chip8.Machine

/-! The effect of each instruction word on a machine whose program counter has
already moved past it. Operands are always read before anything is written. The first
nibble of the word selects its family; within a family further switches on the fields
find out what to do, and what no switch knows is ignored. -/

def setRegister (machine : Machine) (x : Register) (value : UInt8) : Machine :=
  { machine with registers := machine.registers.put x value }

def skipIf (machine : Machine) (condition : Bool) : Machine :=
  if condition then { machine with pc := machine.pc + 2 } else machine

def clear (machine : Machine) : Machine :=
  { machine with display := Display.blank }

def jump (machine : Machine) (target : Address) : Machine :=
  { machine with pc := UInt16.ofNat target }

def call (machine : Machine) (target : Address) : Machine :=
  { machine with stack := machine.stack.push machine.pc }.jump target

def ret (machine : Machine) : Machine :=
  { machine with pc := machine.stack.pop.1, stack := machine.stack.pop.2 }

/-- A jump to the sum of the target and the offset register. -/
def jumpOffset (machine : Machine) (base : Address) : Machine :=
  { machine with
    pc := UInt16.ofNat base + (machine.registers.get offsetRegister).toUInt16 }

def setIndex (machine : Machine) (address : Address) : Machine :=
  { machine with index := UInt16.ofNat address }

/-- The result goes to `x` first and the flag to the flag register second, so
the flag stays when the two are the same register. -/
def combine (machine : Machine) (x y : Register) (n : Fin 16) : Machine :=
  let (result, flag) := Arithmetic.outcome n (machine.registers.get x) (machine.registers.get y)
  let written := machine.setRegister x result
  if Arithmetic.flagging.get n then written.setRegister flagRegister flag else written

def random (machine : Machine) (x : Register) (mask : UInt8) : Machine :=
  { machine.setRegister x (machine.rng.draw &&& mask) with rng := machine.rng.next }

/-- The corner wraps around the display, the sprite itself is clipped. -/
def draw (machine : Machine) (x y : Register) (rows : Nat) : Machine :=
  let column := (machine.registers.get x).toNat % 64
  let row := (machine.registers.get y).toNat % 32
  let sprite := Display.sprite machine.memory machine.index.toNat row column rows
  let collision := machine.display.overlaps sprite
  { machine with display := machine.display.xor sprite }.setRegister flagRegister
    (if collision then 1 else 0)

/-- The key that a register names by its low nibble. -/
def keyOf (machine : Machine) (x : Register) : Key :=
  ⟨(machine.registers.get x).toNat % 16, Nat.mod_lt _ (by decide)⟩

/-- Take the lowest held key, or go back to wait again. -/
def awaitKey (machine : Machine) (x : Register) : Machine :=
  match machine.keys.lowest? with
  | some key => machine.setRegister x (UInt8.ofNat key)
  | none => { machine with pc := machine.pc - 2 }

def setDelay (machine : Machine) (x : Register) : Machine :=
  { machine with delay := machine.registers.get x }

def setSound (machine : Machine) (x : Register) : Machine :=
  { machine with sound := machine.registers.get x }

def addIndex (machine : Machine) (x : Register) : Machine :=
  { machine with index := machine.index + (machine.registers.get x).toUInt16 }

def glyph (machine : Machine) (x : Register) : Machine :=
  { machine with
    index := UInt16.ofNat (Font.start + (machine.registers.get x).toNat * Font.glyphSize) }

/-- The three decimal digits, the highest first. -/
def decimalDigits (value : UInt8) : Vector UInt8 3 :=
  #v[value / 100, value / 10 % 10, value % 10]

def storeDecimal (machine : Machine) (x : Register) : Machine :=
  { machine with
    memory := machine.memory.scatter (Memory.window machine.index.toNat 3)
      (decimalDigits (machine.registers.get x)) }

/-- The registers up to `x`. -/
def upTo (x : Register) : Vector Bool 16 :=
  Vector.ofFn fun register => decide (register ≤ x)

/-- One cell for each register, from the index on. -/
def blockWindow (machine : Machine) : Vector Address 16 :=
  Memory.window machine.index.toNat 16

/-- All sixteen cells are stored; those of the registers above `x` get back what is
in them. -/
def storeRegisters (machine : Machine) (x : Register) : Machine :=
  { machine with
    memory := machine.memory.scatter machine.blockWindow
      (Registers.choose (upTo x) machine.registers
        (machine.memory.gather machine.blockWindow)) }

/-- All sixteen cells are read; the registers above `x` keep their values. -/
def loadRegisters (machine : Machine) (x : Register) : Machine :=
  { machine with
    registers := Registers.choose (upTo x) (machine.memory.gather machine.blockWindow)
      machine.registers }

/-- What is done for a word by its fields. -/
abbrev Handler := Machine → Fields → Machine

def ignore : Handler := fun machine _ => machine

/-- The words `00E0` and `00EE`. -/
def system : Handler := fun machine fields =>
  switch #v[ignore, fun machine _ => machine.clear, fun machine _ => machine.ret]
    ((fields.raw == 0x00E0).toNat * 1 + (fields.raw == 0x00EE).toNat * 2) machine fields

def skipWhen (condition : Machine → Fields → Bool) : Handler := fun machine fields =>
  machine.skipIf (condition machine fields)

/-- The words `EX9E` and `EXA1`: a key is held, or it is not. -/
def keyCondition (machine : Machine) (fields : Fields) : Bool :=
  let held := machine.keys.get (machine.keyOf fields.x)
  (fields.nn == 0x9E && held) || (fields.nn == 0xA1 && !held)

/-- The place of the low byte among the words `FX07`, `FX0A`, `FX15`, `FX18`, `FX1E`,
`FX29`, `FX33`, `FX55` and `FX65`. -/
def timerOrMemoryIndex (nn : UInt8) : Nat :=
  (nn == 0x07).toNat * 1 + (nn == 0x0A).toNat * 2 + (nn == 0x15).toNat * 3 +
    (nn == 0x18).toNat * 4 + (nn == 0x1E).toNat * 5 + (nn == 0x29).toNat * 6 +
    (nn == 0x33).toNat * 7 + (nn == 0x55).toNat * 8 + (nn == 0x65).toNat * 9

def timerOrMemory : Handler := fun machine fields =>
  switch
    #v[ignore,
      fun machine fields => machine.setRegister fields.x machine.delay,
      fun machine fields => machine.awaitKey fields.x,
      fun machine fields => machine.setDelay fields.x,
      fun machine fields => machine.setSound fields.x,
      fun machine fields => machine.addIndex fields.x,
      fun machine fields => machine.glyph fields.x,
      fun machine fields => machine.storeDecimal fields.x,
      fun machine fields => machine.storeRegisters fields.x,
      fun machine fields => machine.loadRegisters fields.x]
    (timerOrMemoryIndex fields.nn) machine fields

/-- The families of words, by their first nibble. -/
def families : Vector Handler 16 :=
  #v[system,
    fun machine fields => machine.jump fields.nnn,
    fun machine fields => machine.call fields.nnn,
    skipWhen fun machine fields => machine.registers.get fields.x == fields.nn,
    skipWhen fun machine fields => machine.registers.get fields.x != fields.nn,
    skipWhen fun machine fields =>
      fields.n.val == 0 && machine.registers.get fields.x == machine.registers.get fields.y,
    fun machine fields => machine.setRegister fields.x fields.nn,
    fun machine fields =>
      machine.setRegister fields.x (machine.registers.get fields.x + fields.nn),
    fun machine fields => machine.combine fields.x fields.y fields.n,
    skipWhen fun machine fields =>
      fields.n.val == 0 && machine.registers.get fields.x != machine.registers.get fields.y,
    fun machine fields => machine.setIndex fields.nnn,
    fun machine fields => machine.jumpOffset fields.nnn,
    fun machine fields => machine.random fields.x fields.nn,
    fun machine fields => machine.draw fields.x fields.y fields.n,
    skipWhen keyCondition,
    timerOrMemory]

/-- Execute an instruction word. -/
def execute (machine : Machine) (word : UInt16) : Machine :=
  let fields := Fields.ofInt word.toNat
  switch families fields.family.val machine fields

/-- Fetch one instruction and execute it. -/
def cycle (machine : Machine) : Machine :=
  machine.advance.execute machine.word

end Chip8.Machine
