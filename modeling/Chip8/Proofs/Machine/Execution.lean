import Chip8.Proofs.Instruction.Decode
import Chip8.Proofs.Machine.Meaning

namespace Chip8.Machine

/-! What an instruction does to one part of the machine at a time. -/

variable (machine : Machine)

/-- Fetch one instruction and execute it with these keys held. -/
def round (keys : Keys) : Machine :=
  { machine.advance with keys := keys }.execute machine.word

theorem round_eq (keys : Keys) :
    machine.round keys =
      { machine.advance with keys := keys }.perform (Instruction.ofWord machine.word) :=
  execute_eq _ _

/-- The instruction is a skip, and its condition holds. -/
def skips : Instruction → Bool
  | .skipIfByte x byte => machine.registers.get x = byte
  | .skipUnlessByte x byte => machine.registers.get x ≠ byte
  | .skipIfSame x y => machine.registers.get x = machine.registers.get y
  | .skipUnlessSame x y => machine.registers.get x ≠ machine.registers.get y
  | .skipIfHeld x => machine.keys.get (machine.keyOf x)
  | .skipUnlessHeld x => !machine.keys.get (machine.keyOf x)
  | _ => false

@[simp] theorem get_setRegister (x y : Register) (value : UInt8) :
    (machine.setRegister x value).registers.get y =
      if x = y then value else machine.registers.get y :=
  Registers.get_put _ _ _ _

theorem skipIf_eq (condition : Bool) :
    machine.skipIf condition =
      { machine with pc := if condition then machine.pc + 2 else machine.pc } := by
  cases condition <;> rfl

theorem arithmetic_eq (operation : Arithmetic) (x y : Register) :
    machine.arithmetic operation x y =
      { machine with registers := (machine.arithmetic operation x y).registers } := by
  simp only [arithmetic]
  split <;> rfl

section Flags

variable {machine} {operation : Arithmetic} {x y : Register}

theorem arithmetic_of_plain
    (plain : operation.flag? (machine.registers.get x) (machine.registers.get y) = none) :
    machine.arithmetic operation x y =
      machine.setRegister x
        (operation.result (machine.registers.get x) (machine.registers.get y)) := by
  simp only [arithmetic, plain]

theorem arithmetic_of_flag {flag : UInt8}
    (flagged : operation.flag? (machine.registers.get x) (machine.registers.get y) = some flag) :
    machine.arithmetic operation x y =
      (machine.setRegister x
        (operation.result (machine.registers.get x) (machine.registers.get y))).setRegister
          flagRegister flag := by
  simp only [arithmetic, flagged]

theorem get_arithmetic_flag {flag : UInt8}
    (flagged : operation.flag? (machine.registers.get x) (machine.registers.get y) = some flag) :
    (machine.arithmetic operation x y).registers.get flagRegister = flag := by
  rw [arithmetic_of_flag flagged, get_setRegister, if_pos rfl]

end Flags

theorem awaitKey_eq (x : Register) :
    machine.awaitKey x =
      { machine with
        registers := (machine.awaitKey x).registers
        pc := if machine.keys.lowest?.isSome then machine.pc else machine.pc - 2 } := by
  unfold awaitKey
  cases machine.keys.lowest? <;> rfl

/-- All that an instruction does outside the registers and the program counter. -/
theorem perform_eq (instruction : Instruction) :
    machine.perform instruction =
      { registers := (machine.perform instruction).registers
        pc := (machine.perform instruction).pc
        keys := machine.keys
        stack :=
          match instruction with
          | .call _ => machine.stack.push machine.pc
          | .ret => machine.stack.pop.2
          | _ => machine.stack
        display :=
          match instruction with
          | .clear => Display.blank
          | .draw x y rows => (machine.draw x y rows).display
          | _ => machine.display
        memory :=
          match instruction with
          | .decimal x =>
              machine.memory.write machine.index.toNat
                (decimalDigits (machine.registers.get x)).toList
          | .store x =>
              machine.memory.write machine.index.toNat
                (machine.registers.toList.take (x.val + 1))
          | _ => machine.memory
        index :=
          match instruction with
          | .setIndex address => UInt16.ofNat address
          | .addIndex x => machine.index + (machine.registers.get x).toUInt16
          | .glyph x =>
              UInt16.ofNat (Font.start + (machine.registers.get x).toNat * Font.glyphSize)
          | _ => machine.index
        delay :=
          match instruction with
          | .setDelay x => machine.registers.get x
          | _ => machine.delay
        sound :=
          match instruction with
          | .setSound x => machine.registers.get x
          | _ => machine.sound
        rng :=
          match instruction with
          | .random _ _ => machine.rng.next
          | _ => machine.rng } := by
  cases instruction with
  | arithmetic operation x y => rw [perform, arithmetic_eq]
  | awaitKey x => rw [perform, awaitKey_eq]
  | skipIfByte | skipUnlessByte | skipIfSame | skipUnlessSame | skipIfHeld | skipUnlessHeld =>
      rw [perform, skipIf_eq]
  | _ => rfl

theorem perform_stack (instruction : Instruction) :
    (machine.perform instruction).stack =
      match instruction with
      | .call _ => machine.stack.push machine.pc
      | .ret => machine.stack.pop.2
      | _ => machine.stack := by
  rw [perform_eq]

theorem perform_display (instruction : Instruction) :
    (machine.perform instruction).display =
      match instruction with
      | .clear => Display.blank
      | .draw x y rows => (machine.draw x y rows).display
      | _ => machine.display := by
  rw [perform_eq]

theorem perform_keys (instruction : Instruction) :
    (machine.perform instruction).keys = machine.keys := by
  rw [perform_eq]

theorem perform_delay (instruction : Instruction) :
    (machine.perform instruction).delay =
      match instruction with
      | .setDelay x => machine.registers.get x
      | _ => machine.delay := by
  rw [perform_eq]

theorem perform_sound (instruction : Instruction) :
    (machine.perform instruction).sound =
      match instruction with
      | .setSound x => machine.registers.get x
      | _ => machine.sound := by
  rw [perform_eq]

theorem perform_pc (instruction : Instruction) :
    (machine.perform instruction).pc =
      match instruction with
      | .jump target | .call target => UInt16.ofNat target
      | .ret => machine.stack.pop.1
      | .jumpOffset base =>
          UInt16.ofNat base + (machine.registers.get offsetRegister).toUInt16
      | .awaitKey _ => if machine.keys.lowest?.isSome then machine.pc else machine.pc - 2
      | other => if machine.skips other then machine.pc + 2 else machine.pc := by
  cases instruction with
  | arithmetic operation x y => rw [perform, arithmetic_eq]; rfl
  | awaitKey x => rw [perform, awaitKey_eq]
  | skipIfByte | skipUnlessByte | skipIfSame | skipUnlessSame | skipIfHeld | skipUnlessHeld =>
      rw [perform, skipIf_eq]; rfl
  | _ => rfl

/-- Instructions that do not read the keys do the same whatever keys are held. -/
theorem perform_of_readsKeys_eq_false {instruction : Instruction}
    (blind : instruction.readsKeys = false) (keys : Keys) :
    { machine with keys := keys }.perform instruction =
      { machine.perform instruction with keys := keys } := by
  cases instruction with
  | skipIfHeld | skipUnlessHeld | awaitKey => contradiction
  | skipIfByte | skipUnlessByte | skipIfSame | skipUnlessSame =>
      simp only [perform, skipIf_eq]
  | arithmetic operation x y =>
      simp only [perform, arithmetic]
      split <;> rfl
  | _ => rfl

@[simp] theorem round_keys (keys : Keys) : (machine.round keys).keys = keys := by
  rw [round_eq, perform_keys]

theorem round_stack (keys : Keys) :
    (machine.round keys).stack =
      match Instruction.ofWord machine.word with
      | .call _ => machine.stack.push (machine.pc + 2)
      | .ret => machine.stack.pop.2
      | _ => machine.stack := by
  rw [round_eq, perform_stack]
  rfl

theorem round_display (keys : Keys) :
    (machine.round keys).display =
      match Instruction.ofWord machine.word with
      | .clear => Display.blank
      | .draw x y rows => (machine.draw x y rows).display
      | _ => machine.display := by
  rw [round_eq, perform_display]
  rfl

theorem round_pc_of_ret (keys : Keys) (returns : Instruction.ofWord machine.word = .ret) :
    (machine.round keys).pc = machine.stack.pop.1 := by
  rw [round_eq, perform_pc, returns]
  rfl

theorem round_pc_of_call (keys : Keys) {target : Address}
    (calls : Instruction.ofWord machine.word = .call target) :
    (machine.round keys).pc = UInt16.ofNat target := by
  rw [round_eq, perform_pc, calls]

end Chip8.Machine
