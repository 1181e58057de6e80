import Chip8.Interpreter.Basic
import Chip8.Keypad.Basic

namespace Chip8.Interpreter

/-! One step executes one instruction. Before it, the interpreter asks the key pad
for what the instruction needs: the keys that are held for the skips on keys, the
next press for a wait. A step that fails leaves the interpreter as it was. -/

inductive Fault where
  | endOfMemory (pc : UInt16)
  | waitCancelled (pc : UInt16)
  | keyOutOfRange (key : Int)
deriving DecidableEq, Repr

def Fault.failure? : Fault → Option Failure
  | .endOfMemory pc => some ⟨.counterOverflow, "Reached end of memory", some pc.toNat⟩
  | .waitCancelled pc => some ⟨.waitCancelled, "Key wait cancelled", some pc.toNat⟩
  | .keyOutOfRange _ => none

def Fault.message (fault : Fault) : String :=
  match fault with
  | .keyOutOfRange key => "Keypad returned out-of-range key " ++ Numeral.decimal key
  | .endOfMemory _ | .waitCancelled _ => (fault.failure?.map Failure.text).getD ""

/-- What a step does outside the machine, in order. -/
inductive Effect where
  | notice (notice : Log.Notice)
  | heldQuery
  | keyWait
deriving DecidableEq

/-- What an instruction asks of the key pad. All words of the family of skips on
keys ask for the held keys, those without a meaning too. -/
inductive Demand where
  | nothing
  | heldKeys
  | keyPress
deriving DecidableEq, Repr

def Demand.ofWord (word : UInt16) : Demand :=
  let fields := Fields.ofInt word.toNat
  if fields.family.val = 0xE then .heldKeys
  else if fields.family.val = 0xF ∧ fields.nn = 0x0A then .keyPress
  else .nothing

/-- A wait yields a key of the pad, unless it was cancelled. -/
def accept (pc : UInt16) (answer : KeyAnswer) : Except Fault Key :=
  match answer.key with
  | none => .error (.waitCancelled pc)
  | some key =>
      if answer.cancelled then .error (.waitCancelled pc)
      else if valid : 0 ≤ key ∧ key < 16 then .ok ⟨key.toNat, by omega⟩
      else .error (.keyOutOfRange key)

/-- The key snapshot to execute with, and the key pad afterwards. -/
structure Sensed (σ : Type) where
  keys : Except Fault Keys
  pad : σ
  cancelled : Bool
  effects : List Effect

def sense (keypad : Keypad σ) (machine : Machine) (pad : σ) (cancelled : Bool) : Sensed σ :=
  match Demand.ofWord machine.word with
  | .nothing => ⟨.ok machine.keys, pad, cancelled, []⟩
  | .heldKeys => ⟨.ok (keypad.held pad).1, (keypad.held pad).2, cancelled, [.heldQuery]⟩
  | .keyPress =>
      if cancelled then
        ⟨.error (.waitCancelled machine.pc), pad, cancelled, []⟩
      else
        let (answer, rest) := keypad.await pad
        ⟨(accept machine.pc answer).map Keys.only, rest, answer.cancelled, [.keyWait]⟩

/-- A call that the full stack will not record and a return that the empty stack
will invent are worth a warning. -/
def warnings (machine : Machine) : List Effect :=
  let fields := Fields.ofInt machine.word.toNat
  if fields.family.val = 0x2 ∧ CallStack.capacity ≤ machine.stack.depth then
    [.notice (.callDropped machine.pc fields.nnn.val)]
  else if fields.raw = 0x00EE ∧ machine.stack.depth = 0 then
    [.notice (.returnInvented machine.pc)]
  else []

def trace (interpreter : Interpreter) : List Effect :=
  if interpreter.debug then
    [.notice (.fetched interpreter.machine.pc interpreter.machine.word)]
  else []

/-- Execute the word under the program counter with a given key snapshot. The word
that clears the display is known as a whole, those that draw by their family. -/
def complete (interpreter : Interpreter) (keys : Keys) : Interpreter :=
  let word := interpreter.machine.word
  let fields := Fields.ofInt word.toNat
  let clears := fields.raw == 0x00E0
  { interpreter with
    machine := { interpreter.machine.advance with keys := keys }.execute word
    count := interpreter.count + 1
    clearRequested := interpreter.clearRequested || clears
    displayDirty := interpreter.displayDirty || (!clears && fields.family.val == 0xD) }

/-- The outcome of a step or a cycle; the interpreter is the one to go on with,
also after a fault. -/
structure Turn (σ : Type) where
  fault : Option Fault
  interpreter : Interpreter
  pad : σ
  cancelled : Bool
  effects : List Effect

def step (keypad : Keypad σ) (interpreter : Interpreter) (pad : σ) (cancelled : Bool) :
    Turn σ :=
  let machine := interpreter.machine
  if Memory.size ≤ machine.pc.toNat + 1 then
    { fault := some (.endOfMemory machine.pc)
      interpreter := interpreter
      pad := pad
      cancelled := cancelled
      effects := [] }
  else
    let sensed := sense keypad machine pad cancelled
    match sensed.keys with
    | .error fault =>
        { fault := some fault
          interpreter := interpreter
          pad := sensed.pad
          cancelled := sensed.cancelled
          effects := interpreter.trace ++ sensed.effects }
    | .ok keys =>
        { fault := none
          interpreter := interpreter.complete keys
          pad := sensed.pad
          cancelled := sensed.cancelled
          effects := interpreter.trace ++ sensed.effects ++ warnings machine }

end Chip8.Interpreter
