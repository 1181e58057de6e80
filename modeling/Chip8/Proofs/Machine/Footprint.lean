import Chip8.Proofs.Instruction.Form
import Chip8.Proofs.Keypad.Held
import Chip8.Proofs.Machine.Execution

namespace Chip8

/-! What the execution of a word can change, part by part of the machine. Whatever is not
listed for the form of the word stays as it is. -/

theorem Memory.exists_of_read_write_ne {memory : Memory} {target address : Nat}
    {bytes : List UInt8}
    (changed : (memory.write target bytes).read address ≠ memory.read address) :
    ∃ offset < bytes.length, address % 4096 = (target + offset) % 4096 := by
  apply Classical.byContradiction
  intro outside
  refine changed (Memory.read_write_frame fun offset bound same => ?_)
  exact outside ⟨offset, bound, same.symm⟩

namespace Arithmetic

variable {operation : Arithmetic} {left right flag : UInt8} {selector : Nat}

/-- The low nibbles of the operations that have a flag. -/
def SelectsFlag (selector : Nat) : Prop :=
  0x4 ≤ selector ∧ selector ≤ 0x7 ∨ selector = 0xE

theorem flag?_is_bit (flagged : operation.flag? left right = some flag) :
    flag = 0 ∨ flag = 1 := by
  have bound := left.toNat_lt
  cases operation with
  | copy | or | and | xor => contradiction
  | add | subtract | subtractFrom =>
      cases flagged
      rw [flag]
      split
      · exact .inr rfl
      · exact .inl rfl
  | shiftRight =>
      cases flagged
      simp only [flag, ← UInt8.toNat_inj, UInt8.toNat_mod]
      change left.toNat % 2 = 0 ∨ left.toNat % 2 = 1
      omega
  | shiftLeft =>
      cases flagged
      simp only [flag, ← UInt8.toNat_inj, UInt8.toNat_div]
      change left.toNat / 128 = 0 ∨ left.toNat / 128 = 1
      omega

theorem selectsFlag_of_flag? (selected : ofSelector? selector = some operation)
    (flagged : operation.flag? left right = some flag) : SelectsFlag selector := by
  unfold ofSelector? at selected
  split at selected
  case h_1 | h_2 | h_3 | h_4 => cases selected; contradiction
  case h_10 => contradiction
  all_goals simp [SelectsFlag]

theorem exists_flag?_of_selectsFlag (selects : SelectsFlag selector) (left right : UInt8) :
    ∃ operation flag, ofSelector? selector = some operation ∧
      operation.flag? left right = some flag := by
  rcases selects with ⟨low, high⟩ | rfl
  · have cases : selector = 4 ∨ selector = 5 ∨ selector = 6 ∨ selector = 7 := by omega
    rcases cases with rfl | rfl | rfl | rfl <;> exact ⟨_, _, rfl, rfl⟩
  · exact ⟨_, _, rfl, rfl⟩

end Arithmetic

namespace Instruction

variable {word : UInt16} {register : Register}

/-- The instruction may put a new value into the register. -/
def Writes (register : Register) : Instruction → Prop
  | setByte x _ | addByte x _ | random x _ | getDelay x | awaitKey x => register = x
  | arithmetic operation x _ =>
      register = x ∨
        register = flagRegister ∧ ∃ left right flag, operation.flag? left right = some flag
  | draw _ _ _ => register = flagRegister
  | fill x => register ≤ x
  | _ => False

/-- `6XNN`, `7XNN`, `8XYN` with a meaning, `CXNN`, `FX07` and `FX0A`. -/
def SetsX (word : UInt16) : Prop :=
  family word = 0x6 ∨ family word = 0x7 ∨ IsArithmetic word ∨ family word = 0xC ∨
    IsTimerOrMemory word 0x07 ∨ IsTimerOrMemory word 0x0A

/-- `8XY4` to `8XY7`, `8XYE` and `DXYN`. -/
def SetsFlag (word : UInt16) : Prop :=
  family word = 0x8 ∧ Arithmetic.SelectsFlag (nibble word) ∨ family word = 0xD

theorem registers_of_writes {instruction : Instruction} (form : HasForm word instruction)
    (writes : instruction.Writes register) :
    register = xField word ∧ SetsX word ∨
      register ≤ xField word ∧ IsTimerOrMemory word 0x65 ∨
      register = flagRegister ∧ SetsFlag word := by
  cases instruction with
  | setByte x value | addByte x value | random x value =>
      obtain ⟨found, rfl, _⟩ := form
      exact .inl ⟨writes, by simp only [SetsX, found, true_or, or_true]⟩
  | getDelay x | awaitKey x =>
      obtain ⟨found, rfl⟩ := form
      exact .inl ⟨writes, by simp only [SetsX, found, true_or, or_true]⟩
  | arithmetic operation x y =>
      obtain ⟨found, selected, rfl, _⟩ := form
      rcases writes with target | ⟨flags, left, right, flag, flagged⟩
      · exact .inl ⟨target, by simp only [SetsX, found, true_or, or_true]⟩
      · exact .inr (.inr ⟨flags, .inl ⟨found.1, Arithmetic.selectsFlag_of_flag? selected flagged⟩⟩)
  | draw x y rows => exact .inr (.inr ⟨writes, .inr form.1⟩)
  | fill x =>
      obtain ⟨found, rfl⟩ := form
      exact .inr (.inl ⟨writes, found⟩)
  | _ => exact writes.elim

end Instruction

namespace Machine

open Instruction

variable {machine : Machine} {instruction : Instruction} {word : UInt16} {register x : Register}

theorem setRegister_frame {value : UInt8}
    (changed : (machine.setRegister x value).registers.get register ≠
      machine.registers.get register) : register = x := by
  rw [get_setRegister] at changed
  split at changed
  · exact Eq.symm ‹_›
  · contradiction

theorem arithmetic_frame {operation : Arithmetic} {y : Register}
    (changed : (machine.arithmetic operation x y).registers.get register ≠
      machine.registers.get register) :
    register = x ∨ register = flagRegister ∧
      ∃ left right flag, operation.flag? left right = some flag := by
  cases flagged : operation.flag? (machine.registers.get x) (machine.registers.get y) with
  | some flag =>
      by_cases flags : register = flagRegister
      · exact .inr ⟨flags, _, _, flag, flagged⟩
      · rw [arithmetic_of_flag flagged, get_setRegister, if_neg (Ne.symm flags)] at changed
        exact .inl (setRegister_frame changed)
  | none =>
      rw [arithmetic_of_plain flagged] at changed
      exact .inl (setRegister_frame changed)

theorem perform_registers_frame
    (changed : (machine.perform instruction).registers.get register ≠
      machine.registers.get register) : instruction.Writes register := by
  cases instruction with
  | setByte | addByte | random | draw | getDelay => exact setRegister_frame changed
  | arithmetic operation x y => exact arithmetic_frame changed
  | awaitKey x =>
      simp only [perform, awaitKey] at changed
      split at changed
      · exact setRegister_frame changed
      · contradiction
  | fill x =>
      apply Classical.byContradiction
      intro above
      exact changed ((machine.get_fill x register).trans (if_neg above))
  | skipIfByte | skipUnlessByte | skipIfSame | skipUnlessSame | skipIfHeld | skipUnlessHeld =>
      rw [perform, skipIf_eq] at changed
      contradiction
  | _ => contradiction

/-- What the execution of a word may change, and to what if that is a matter of the form of
the word alone. -/
structure Footprint (word : UInt16) (before after : Machine) : Prop where
  keys : after.keys = before.keys
  memory : ∀ address, after.memory.read address ≠ before.memory.read address →
    ∃ offset, address % 4096 = (before.index.toNat + offset) % 4096 ∧
      (IsTimerOrMemory word 0x33 ∧ offset < 3 ∨
        IsTimerOrMemory word 0x55 ∧ offset ≤ (xField word).val)
  display : after.display ≠ before.display → word = 0x00E0 ∨ family word = 0xD
  stack : after.stack ≠ before.stack → family word = 0x2 ∨ word = 0x00EE
  rng : after.rng ≠ before.rng → family word = 0xC
  delay : after.delay ≠ before.delay → IsTimerOrMemory word 0x15
  sound : after.sound ≠ before.sound → IsTimerOrMemory word 0x18
  index : after.index ≠ before.index →
    family word = 0xA ∨ IsTimerOrMemory word 0x1E ∨ IsTimerOrMemory word 0x29
  pc : after.pc ≠ before.pc →
    family word = 0x1 ∨ family word = 0x2 ∨ word = 0x00EE ∨ family word = 0xB ∨
      IsSkip word ∧ after.pc = before.pc + 2 ∨
      IsTimerOrMemory word 0x0A ∧ (∀ key, before.keys.get key = false) ∧
        after.pc = before.pc - 2
  registers : ∀ register, after.registers.get register ≠ before.registers.get register →
    register = xField word ∧ SetsX word ∨
      register ≤ xField word ∧ IsTimerOrMemory word 0x65 ∨
      register = flagRegister ∧ SetsFlag word
  flag : SetsFlag word →
    after.registers.get flagRegister = 0 ∨ after.registers.get flagRegister = 1

theorem memory_of_form (form : HasForm word instruction) (address : Nat)
    (changed : (machine.perform instruction).memory.read address ≠ machine.memory.read address) :
    ∃ offset, address % 4096 = (machine.index.toNat + offset) % 4096 ∧
      (IsTimerOrMemory word 0x33 ∧ offset < 3 ∨
        IsTimerOrMemory word 0x55 ∧ offset ≤ (xField word).val) := by
  rw [perform_eq] at changed
  cases instruction with
  | decimal x =>
      obtain ⟨offset, inside, reached⟩ := Memory.exists_of_read_write_ne changed
      exact ⟨offset, reached, .inl ⟨form.1, inside⟩⟩
  | store x =>
      obtain ⟨offset, inside, reached⟩ := Memory.exists_of_read_write_ne changed
      obtain ⟨found, rfl⟩ := form
      rw [Registers.length_take] at inside
      exact ⟨offset, reached, .inr ⟨found, Nat.le_of_lt_succ inside⟩⟩
  | _ => contradiction

theorem rng_of_form (form : HasForm word instruction)
    (changed : (machine.perform instruction).rng ≠ machine.rng) : family word = 0xC := by
  rw [perform_eq] at changed
  cases instruction with
  | random x mask => exact form.1
  | _ => contradiction

theorem execute_rng_of_not_random (machine : Machine) (other : family word ≠ 0xC) :
    (machine.execute word).rng = machine.rng := by
  rw [execute_eq]
  exact Classical.not_not.mp (mt (rng_of_form (hasForm_ofWord word)) other)

theorem isSkip_of_skips (form : HasForm word instruction)
    (skips : machine.skips instruction = true) : IsSkip word := by
  cases instruction with
  | skipIfByte x value | skipUnlessByte x value =>
      simp only [IsSkip, form.1, true_or, or_true]
  | skipIfSame x y | skipUnlessSame x y =>
      obtain ⟨found, even, _⟩ := form
      simp only [IsSkip, found, even, true_or, or_true, and_self]
  | skipIfHeld x | skipUnlessHeld x =>
      obtain ⟨found, low, _⟩ := form
      simp only [IsSkip, found, low, true_or, or_true, and_self]
  | _ => contradiction

theorem pc_of_form (form : HasForm word instruction)
    (changed : (machine.perform instruction).pc ≠ machine.pc) :
    family word = 0x1 ∨ family word = 0x2 ∨ word = 0x00EE ∨ family word = 0xB ∨
      IsSkip word ∧ (machine.perform instruction).pc = machine.pc + 2 ∨
      IsTimerOrMemory word 0x0A ∧ (∀ key, machine.keys.get key = false) ∧
        (machine.perform instruction).pc = machine.pc - 2 := by
  -- All but these five go on unless they are skips whose condition holds.
  have onward : (machine.perform instruction).pc =
        (if machine.skips instruction then machine.pc + 2 else machine.pc) →
      IsSkip word ∧ (machine.perform instruction).pc = machine.pc + 2 := by
    intro moves
    by_cases skips : machine.skips instruction = true
    · rw [if_pos skips] at moves
      exact ⟨isSkip_of_skips form skips, moves⟩
    · rw [if_neg skips] at moves
      exact absurd moves changed
  have moves := machine.perform_pc instruction
  cases instruction with
  | jump target => exact .inl form.1
  | call target => exact .inr (.inl form.1)
  | ret => exact .inr (.inr (.inl form))
  | jumpOffset base => exact .inr (.inr (.inr (.inl form.1)))
  | awaitKey x =>
      cases lowest : machine.keys.lowest? with
      | some key =>
          simp only [lowest, Option.isSome_some, if_true] at moves
          exact absurd moves changed
      | none =>
          simp only [lowest, Option.isSome_none, Bool.false_eq_true, if_false] at moves
          exact .inr (.inr (.inr (.inr (.inr
            ⟨form.1, Keys.get_of_lowest?_eq_none lowest, moves⟩))))
  | _ => exact .inr (.inr (.inr (.inr (.inl (onward moves)))))

theorem flag_of_setsFlag (sets : SetsFlag word) :
    (machine.execute word).registers.get flagRegister = 0 ∨
      (machine.execute word).registers.get flagRegister = 1 := by
  rw [execute_eq]
  rcases sets with ⟨found, selects⟩ | draws
  · obtain ⟨operation, flag, selected, flagged⟩ := Arithmetic.exists_flag?_of_selectsFlag selects
      (machine.registers.get (xField word)) (machine.registers.get (yField word))
    rw [ofWord_of_arithmetic found selected, perform, get_arithmetic_flag flagged]
    exact Arithmetic.flag?_is_bit flagged
  · rw [ofWord_of_draw draws, perform, draw, get_setRegister, if_pos rfl]
    split
    · exact .inr rfl
    · exact .inl rfl

/-- Executing a word changes no more of the machine than its form allows. -/
theorem execute_within_footprint (machine : Machine) (word : UInt16) :
    Footprint word machine (machine.execute word) := by
  rw [execute_eq]
  have form := hasForm_ofWord word
  constructor
  case keys => exact machine.perform_keys _
  case memory => exact memory_of_form form
  case rng => exact rng_of_form form
  case pc => exact pc_of_form form
  case registers =>
    intro register changed
    exact registers_of_writes form (perform_registers_frame changed)
  case flag => exact fun sets => execute_eq machine word ▸ flag_of_setsFlag sets
  all_goals
    intro changed
    rw [perform_eq] at changed
    generalize Instruction.ofWord word = instruction at form changed
  case display =>
    cases instruction with
    | clear => exact .inl form
    | draw x y rows => exact .inr form.1
    | _ => contradiction
  case stack =>
    cases instruction with
    | call target => exact .inl form.1
    | ret => exact .inr form
    | _ => contradiction
  case delay =>
    cases instruction with
    | setDelay x => exact form.1
    | _ => contradiction
  case sound =>
    cases instruction with
    | setSound x => exact form.1
    | _ => contradiction
  case index =>
    cases instruction with
    | setIndex target => exact .inl form.1
    | addIndex x => exact .inr (.inl form.1)
    | glyph x => exact .inr (.inr form.1)
    | _ => contradiction

end Machine

end Chip8
