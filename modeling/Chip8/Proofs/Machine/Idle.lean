import Chip8.Proofs.Instruction.Form
import Chip8.Proofs.Instruction.Text
import Chip8.Proofs.Keypad.Held
import Chip8.Proofs.Machine.Execution

namespace Chip8

/-! Which instructions never do anything. Those of unmapped words do not, and neither do the
few that put back what is there already; for every other there is a machine that it changes.
A listing shows the first kind as data, so what it shows as an instruction is one. -/

theorem Arithmetic.plain_iff_selector {selector : Nat} {operation : Arithmetic}
    (selected : ofSelector? selector = some operation) :
    operation = .copy ∨ operation = .or ∨ operation = .and ↔ selector = 0x0 ∨ selector = 0x1 ∨
      selector = 0x2 := by
  unfold ofSelector? at selected
  split at selected <;> cases selected <;> decide

namespace Instruction

variable {word : UInt16} {instruction : Instruction}

/-- The instruction puts back what is there, or skips on a condition that never holds. -/
def Idle : Instruction → Prop
  | addByte _ value => value = 0
  | arithmetic operation x y =>
      x = y ∧ (operation = .copy ∨ operation = .or ∨ operation = .and)
  | skipUnlessSame x y => x = y
  | _ => False

/-- The words `7X00`, and those of `8XY0`, `8XY1`, `8XY2` and `9XY0` in which both registers
are the same. -/
def IsIdle (word : UInt16) : Prop :=
  family word = 0x7 ∧ byte word = 0x00 ∨
    (family word = 0x8 ∧ (nibble word = 0x0 ∨ nibble word = 0x1 ∨ nibble word = 0x2) ∨
      family word = 0x9 ∧ nibble word = 0x0) ∧ xField word = yField word

theorem isIdle_of_idle (form : HasForm word instruction) (idle : instruction.Idle) :
    IsIdle word := by
  cases instruction with
  | addByte x value =>
      obtain ⟨adds, _, low⟩ := form
      rw [Idle] at idle
      rw [idle] at low
      exact .inl ⟨adds, low.symm⟩
  | arithmetic operation x y =>
      obtain ⟨found, selected, rfl, rfl⟩ := form
      obtain ⟨same, plain⟩ := idle
      exact .inr ⟨.inl ⟨found.1, (Arithmetic.plain_iff_selector selected).mp plain⟩, same⟩
  | skipUnlessSame x y =>
      obtain ⟨skips, even, rfl, rfl⟩ := form
      exact .inr ⟨.inr ⟨skips, even⟩, idle⟩
  | _ => exact idle.elim

theorem idle_of_isIdle (idle : IsIdle word) : (ofWord word).Idle := by
  rcases idle with ⟨adds, low⟩ | ⟨⟨found, selects⟩ | ⟨skips, even⟩, same⟩
  · rw [ofWord_of_addByte adds, Idle, ← UInt8.toNat_inj, toNat_byte]
    exact low
  · obtain ⟨operation, selected⟩ :
        ∃ operation, Arithmetic.ofSelector? (nibble word) = some operation := by
      rcases selects with zero | one | two
      · exact ⟨.copy, by rw [zero]; rfl⟩
      · exact ⟨.or, by rw [one]; rfl⟩
      · exact ⟨.and, by rw [two]; rfl⟩
    rw [ofWord_of_arithmetic found selected]
    exact ⟨same, (Arithmetic.plain_iff_selector selected).mpr selects⟩
  · rw [ofWord_of_skipUnlessSame skips even]
    exact same

theorem idle_ofWord_iff : (ofWord word).Idle ↔ IsIdle word :=
  ⟨isIdle_of_idle (hasForm_ofWord word), idle_of_isIdle⟩

end Instruction

namespace Machine

open Instruction (IsData IsIdle Idle)

variable {machine : Machine} {instruction : Instruction} {x : Register} {value : UInt8}

theorem perform_of_idle (idle : instruction.Idle) (machine : Machine) :
    machine.perform instruction = machine := by
  cases instruction with
  | addByte x value =>
      rw [Idle] at idle
      rw [perform, idle, UInt8.add_zero, setRegister_get]
  | arithmetic operation x y =>
      obtain ⟨rfl, plain⟩ := idle
      have back (value : UInt8) :
          operation.result value value = value ∧ operation.flag? value value = none := by
        rcases plain with rfl | rfl | rfl
        · exact ⟨rfl, rfl⟩
        · exact ⟨UInt8.or_self, rfl⟩
        · exact ⟨UInt8.and_self, rfl⟩
      obtain ⟨result, flag⟩ := back (machine.registers.get x)
      rw [perform, arithmetic_of_plain flag, result, setRegister_get]
  | skipUnlessSame x y =>
      rw [Idle] at idle
      rw [perform, idle, skipIf_eq]
      simp
  | _ => exact idle.elim

section Changes

theorem setRegister_ne (other : machine.registers.get x ≠ value) :
    machine.setRegister x value ≠ machine := by
  refine ne_of_apply_ne (fun machine => machine.registers.get x) ?_
  rw [get_setRegister, if_pos rfl]
  exact other.symm

theorem skipIf_ne {condition : Bool} (holds : condition = true) :
    machine.skipIf condition ≠ machine := by
  refine ne_of_apply_ne Machine.pc ?_
  rw [skipIf_eq, holds]
  simp

theorem memory_ne {bytes : List UInt8} {byte : UInt8} {rest : List UInt8}
    (first : bytes = byte :: rest) (fits : bytes.length ≤ 4096)
    (other : machine.memory.read machine.index.toNat ≠ byte) :
    { machine with memory := machine.memory.write machine.index.toNat bytes } ≠ machine := by
  refine ne_of_apply_ne (fun after => after.memory.read machine.index.toNat) ?_
  subst first
  have stored : (machine.memory.write machine.index.toNat (byte :: rest)).read
      (machine.index.toNat + 0) = byte :=
    Memory.read_write_inside fits (Nat.zero_lt_succ rest.length)
  rw [Nat.add_zero] at stored
  exact fun same => other (same.symm.trans stored)

/-- A machine in whose registers there is nothing but this value. -/
def filled (value : UInt8) : Machine :=
  { fresh ⟨0, 0⟩ with registers := Vector.replicate 16 value }

@[simp] theorem get_filled (value : UInt8) (x : Register) :
    (filled value).registers.get x = value :=
  Vector.getElem_replicate x.isLt

theorem rng_filled (value : UInt8) : (filled value).rng = ⟨0, 0⟩ := rfl

/-- One register is set and the others are not. -/
def marked (x : Register) : Machine := (filled 0).setRegister x 1

theorem get_marked (x y : Register) :
    (marked x).registers.get y = if x = y then 1 else 0 := by
  rw [marked, get_setRegister, get_filled]

theorem arithmetic_ne_of_result {operation : Arithmetic} {y : Register}
    (plain : operation.flag? (machine.registers.get x) (machine.registers.get y) = none)
    (other : machine.registers.get x ≠
      operation.result (machine.registers.get x) (machine.registers.get y)) :
    machine.arithmetic operation x y ≠ machine := by
  rw [arithmetic_of_plain plain]
  exact setRegister_ne other

/-- A flag takes the place of what is no flag. -/
theorem arithmetic_ne_of_flag {operation : Arithmetic}
    (flagged : operation.flag? 2 2 = some 0) (x y : Register) :
    (filled 2).arithmetic operation x y ≠ filled 2 := by
  refine ne_of_apply_ne (fun machine => machine.registers.get flagRegister) ?_
  have zero : ((filled 2).arithmetic operation x y).registers.get flagRegister = 0 :=
    get_arithmetic_flag (by rw [get_filled, get_filled, flagged])
  rw [zero, get_filled]
  decide

theorem exists_arithmetic_ne {operation : Arithmetic} {x y : Register}
    (active : ¬ (Instruction.arithmetic operation x y).Idle) :
    ∃ machine : Machine, machine.arithmetic operation x y ≠ machine := by
  cases operation with
  | copy | and =>
      have distinct : x ≠ y := fun same => active ⟨same, by simp⟩
      refine ⟨marked x, arithmetic_ne_of_result rfl ?_⟩
      simp only [get_marked, if_true, if_neg distinct]
      decide
  | or =>
      have distinct : y ≠ x := fun same => active ⟨same.symm, by simp⟩
      refine ⟨marked y, arithmetic_ne_of_result rfl ?_⟩
      simp only [get_marked, if_true, if_neg distinct]
      decide
  | xor =>
      refine ⟨filled 1, arithmetic_ne_of_result rfl ?_⟩
      simp only [get_filled]
      decide
  | add | subtract | shiftRight | subtractFrom | shiftLeft =>
      exact ⟨filled 2, arithmetic_ne_of_flag rfl x y⟩

theorem add_one_ne (address : UInt16) : address ≠ address + 1 := by
  simp

theorem memory_filled (value : UInt8) :
    (filled value).memory.read (filled value).index.toNat = 0xF0 := by
  have glyph : Font.memory.read 0 = 0xF0 := by decide +kernel
  exact glyph

theorem random_ne (machine : Machine) (mask : UInt8)
    (other : machine.registers.get x ≠ machine.rng.draw &&& mask) :
    machine.random x mask ≠ machine := by
  refine ne_of_apply_ne (fun machine => machine.registers.get x) ?_
  change (machine.registers.put x (machine.rng.draw &&& mask)).get x ≠ _
  rw [Registers.get_put, if_pos rfl]
  exact other.symm

theorem draw_filled_ne (x y : Register) (rows : Nat) : (filled 2).draw x y rows ≠ filled 2 := by
  refine ne_of_apply_ne (fun machine => machine.registers.get flagRegister) ?_
  simp only [draw, get_setRegister, if_true, get_filled]
  split <;> decide

theorem awaitKey_filled_ne (x : Register) : (filled 0).awaitKey x ≠ filled 0 := by
  have none : (filled 0).keys.lowest? = none := Keys.lowest?_empty
  refine ne_of_apply_ne Machine.pc ?_
  simp only [awaitKey, none]
  decide

theorem store_filled_ne (x : Register) : (filled 1).store x ≠ filled 1 := by
  have first : (filled 1).registers.toList.take (x.val + 1) =
      1 :: (List.replicate 15 1).take x.val := rfl
  have fits : ((filled 1).registers.toList.take (x.val + 1)).length ≤ 4096 := by
    rw [Registers.length_take]
    omega
  refine memory_ne first fits ?_
  rw [memory_filled]
  decide

theorem fill_filled_ne (x : Register) : (filled 1).fill x ≠ filled 1 := by
  refine ne_of_apply_ne (fun machine => machine.registers.get offsetRegister) ?_
  have loaded : ((filled 1).fill x).registers.get offsetRegister =
      (filled 1).memory.read ((filled 1).index.toNat + 0) :=
    ((filled 1).get_fill x offsetRegister).trans (if_pos (Nat.zero_le x.val))
  rw [loaded, Nat.add_zero, memory_filled, get_filled]
  decide

/-- For every instruction with a meaning that is not idle there is a machine that it changes:
what it writes is not there yet, or what it skips on holds. -/
theorem exists_perform_ne (mapped : ∀ raw, instruction ≠ .unmapped raw)
    (active : ¬ instruction.Idle) :
    ∃ machine : Machine, machine.perform instruction ≠ machine := by
  cases instruction with
  | unmapped raw => exact absurd rfl (mapped raw)
  | clear =>
      exact ⟨{ filled 0 with display := Vector.replicate 32 1 },
        ne_of_apply_ne Machine.display (by decide +kernel)⟩
  | ret => exact ⟨filled 0, ne_of_apply_ne Machine.pc (by decide +kernel)⟩
  | jump target | call target =>
      exact ⟨{ filled 0 with pc := UInt16.ofNat target + 1 },
        ne_of_apply_ne Machine.pc (add_one_ne _)⟩
  | jumpOffset base =>
      refine ⟨{ filled 0 with pc := UInt16.ofNat base + 1 }, ne_of_apply_ne Machine.pc ?_⟩
      have none : (filled 0).registers.get offsetRegister = 0 := get_filled 0 offsetRegister
      simp only [perform, jumpOffset, none]
      exact (UInt16.add_zero _).symm ▸ add_one_ne _
  | setIndex target =>
      exact ⟨{ filled 0 with index := UInt16.ofNat target + 1 },
        ne_of_apply_ne Machine.index (add_one_ne _)⟩
  | skipIfByte x value => exact ⟨filled value, skipIf_ne (by simp)⟩
  | skipUnlessByte x value => exact ⟨filled (value + 1), skipIf_ne (by simp)⟩
  | skipIfSame x y => exact ⟨filled 0, skipIf_ne (by simp)⟩
  | skipUnlessSame x y =>
      have distinct : x ≠ y := active
      exact ⟨marked x, skipIf_ne (by simp [get_marked, distinct])⟩
  | skipIfHeld x =>
      let held : Machine := { filled 0 with keys := Vector.replicate 16 true }
      exact ⟨held, skipIf_ne (Vector.getElem_replicate (held.keyOf x).isLt)⟩
  | skipUnlessHeld x => exact ⟨filled 0, skipIf_ne (congrArg not (Keys.get_empty _))⟩
  | setByte x value => exact ⟨filled (value + 1), setRegister_ne (by simp)⟩
  | addByte x value =>
      have some : value ≠ 0 := active
      exact ⟨filled 0, setRegister_ne (by simpa using some.symm)⟩
  | arithmetic operation x y => exact exists_arithmetic_ne active
  | random x mask =>
      refine ⟨filled ((Random.Key.draw ⟨0, 0⟩ &&& mask) + 1), random_ne _ mask ?_⟩
      rw [get_filled, rng_filled]
      simp
  | draw x y rows => exact ⟨filled 2, draw_filled_ne x y rows⟩
  | awaitKey x => exact ⟨filled 0, awaitKey_filled_ne x⟩
  | getDelay x => exact ⟨filled 1, setRegister_ne (by rw [get_filled]; decide)⟩
  | setDelay x =>
      refine ⟨filled 1, ne_of_apply_ne Machine.delay ?_⟩
      simp only [perform, setDelay, get_filled]
      decide
  | setSound x =>
      refine ⟨filled 1, ne_of_apply_ne Machine.sound ?_⟩
      simp only [perform, setSound, get_filled]
      decide
  | addIndex x =>
      refine ⟨filled 1, ne_of_apply_ne Machine.index ?_⟩
      simp only [perform, addIndex, get_filled]
      decide
  | glyph x =>
      refine ⟨filled 1, ne_of_apply_ne Machine.index ?_⟩
      simp only [perform, glyph, get_filled]
      decide
  | decimal x =>
      refine ⟨filled 1, ?_⟩
      rw [perform, decimal, get_filled]
      exact memory_ne rfl (by decide) (by rw [memory_filled]; decide)
  | store x => exact ⟨filled 1, store_filled_ne x⟩
  | fill x => exact ⟨filled 1, fill_filled_ne x⟩

end Changes

/-- What a listing shows as data, no machine does anything with. Of the words that it shows as
instructions, the idle ones never do anything either, and every other one changes some
machine. -/
theorem listing_matches_execution (word : UInt16) :
    (IsData (Instruction.disassemble word.toNat) →
      ∀ machine : Machine, machine.execute word = machine) ∧
    (¬ IsData (Instruction.disassemble word.toNat) →
      (IsIdle word → ∀ machine : Machine, machine.execute word = machine) ∧
      (¬ IsIdle word → ∃ machine : Machine, machine.execute word ≠ machine)) := by
  have listed : Instruction.disassemble word.toNat = (Instruction.ofWord word).text :=
    Instruction.disassemble_eq_text word.toNat
  simp only [execute_eq]
  rw [listed, Instruction.isData_text_iff, ← Instruction.idle_ofWord_iff]
  refine ⟨?_, fun mapped => ⟨perform_of_idle, fun active => ?_⟩⟩
  · rintro ⟨raw, unmapped⟩ machine
    rw [unmapped, perform]
  · exact exists_perform_ne (fun raw unmapped => mapped ⟨raw, unmapped⟩) active

end Machine

end Chip8
