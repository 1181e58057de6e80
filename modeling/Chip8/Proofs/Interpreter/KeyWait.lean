import Chip8.Keypad.Keyboard
import Chip8.Proofs.Interpreter.Run
import Chip8.Proofs.Keypad.Held
import Mathlib.Logic.Function.Iterate

namespace Chip8

/-! The two ways to wait for a key. A machine on its own goes back to the wait in every
round in which no key is held; an interpreter blocks in the key pad until there is a key,
and then runs the one round that stores it. Both come to the same machine. -/

variable {machine : Machine} {keys : Keys} {key : Key} {x : Register}

namespace Machine

open Interpreter (keyWaitWord)

theorem instruction_of_keyWaitWord (waits : machine.word.toNat = keyWaitWord x) :
    Instruction.ofWord machine.word = .awaitKey x := by
  have word : machine.word =
      Instruction.word ⟨0xF, by decide⟩ x ⟨0x0, by decide⟩ ⟨0xA, by decide⟩ := by
    rw [← UInt16.toNat_inj, waits, Instruction.toNat_word]
    change 0xF00A + 0x100 * x.val = 0x1000 * 0xF + 0x100 * x.val + 0x10 * 0x0 + 0xA
    omega
  rw [word, Instruction.ofWord_awaitKey]

/-- A round without a key is undone, wherever the program counter is: what is taken off
it was added by the fetch, and neither is lost when they wrap. -/
theorem round_empty_of_awaitKey (waits : machine.word.toNat = keyWaitWord x) :
    machine.round Keys.empty = { machine with keys := Keys.empty } := by
  have back : machine.pc + 2 - 2 = machine.pc := UInt16.add_sub_cancel _ _
  rw [round_eq, instruction_of_keyWaitWord waits, perform, awaitKey, Keys.lowest?_empty]
  simp only [advance, back]

theorem round_of_awaitKey (waits : machine.word.toNat = keyWaitWord x)
    (lowest : keys.lowest? = some key) :
    machine.round keys =
      { machine with
        registers := machine.registers.put x (UInt8.ofNat key)
        pc := machine.pc + 2
        keys := keys } := by
  rw [round_eq, instruction_of_keyWaitWord waits, perform, awaitKey, lowest]
  rfl

end Machine

namespace Interpreter

variable {σ : Type} {keypad : Keypad σ} {interpreter : Interpreter} {pad : σ}

theorem accept_key (pc : UInt16) (key : Key) :
    accept pc ⟨some key.val, false⟩ = .ok key := by
  have valid : 0 ≤ (key.val : Int) ∧ (key.val : Int) < 16 := by omega
  simp only [accept, Bool.false_eq_true, if_false, dif_pos valid, Int.toNat_natCast]

theorem sense_of_answer (waits : machine.word.toNat = keyWaitWord x)
    (answered : (keypad.await pad).1 = ⟨some key.val, false⟩) :
    (sense keypad machine pad false).keys = .ok (Keys.only key) := by
  have demand : Demand.ofWord machine.word = .keyPress :=
    (Demand.ofWord_eq_keyPress_iff _).mpr ⟨x, waits⟩
  simp only [sense, demand, Bool.false_eq_true, if_false, answered, accept_key]
  rfl

theorem step_of_answer (inside : ¬ Overruns interpreter.machine)
    (waits : interpreter.machine.word.toNat = keyWaitWord x)
    (answered : (keypad.await pad).1 = ⟨some key.val, false⟩) :
    (interpreter.step keypad pad false).fault = none ∧
      (interpreter.step keypad pad false).interpreter.machine =
        interpreter.machine.round (Keys.only key) := by
  rw [step_of_sensed inside (sense_of_answer waits answered)]
  exact ⟨rfl, rfl⟩

/-- A machine at a key wait stays as it is for as long as no key is held, and then stores
the lowest key that is. After any number of such rounds it comes to where the interpreter
comes in one step if the key pad's wait is answered with that key. -/
theorem key_wait_is_cooperative (keypad : Keypad σ)
    (waits : machine.word.toNat = keyWaitWord x) :
    (∀ rounds, Machine.cycle^[rounds] { machine with keys := Keys.empty } =
      { machine with keys := Keys.empty }) ∧
    (∀ (keys : Keys) (key : Key), keys.get key = true →
      (∀ lower < key, keys.get lower = false) →
      { machine with keys := keys }.cycle =
        { machine with
          registers := machine.registers.put x (UInt8.ofNat key)
          pc := machine.pc + 2
          keys := keys }) ∧
    (∀ (interpreter : Interpreter) (pad : σ) (key : Key) (rounds : Nat),
      interpreter.machine = machine → machine.pc.toNat ≤ 4094 →
      (keypad.await pad).1 = ⟨some key.val, false⟩ →
      (interpreter.step keypad pad false).fault = none ∧
        (interpreter.step keypad pad false).interpreter.machine =
          { Machine.cycle^[rounds] { machine with keys := Keys.empty } with
            keys := Keys.only key }.cycle ∧
        (interpreter.step keypad pad false).interpreter.machine =
          { machine with
            registers := machine.registers.put x (UInt8.ofNat key)
            pc := machine.pc + 2
            keys := Keys.only key } ∧
        (machine.pc + 2).toNat = machine.pc.toNat + 2) := by
  have idle : ∀ rounds, Machine.cycle^[rounds] { machine with keys := Keys.empty } =
      { machine with keys := Keys.empty } :=
    Function.iterate_fixed (Machine.round_empty_of_awaitKey waits)
  refine ⟨idle, ?_, ?_⟩
  · intro keys key held lowest
    exact Machine.round_of_awaitKey waits (Keys.lowest?_eq_some_iff.mpr ⟨held, lowest⟩)
  · rintro interpreter pad key rounds rfl counter answered
    have inside : ¬ Overruns interpreter.machine :=
      Nat.not_le_of_lt (Nat.lt_succ_of_le (Nat.succ_le_succ counter))
    obtain ⟨completed, stored⟩ := step_of_answer inside waits answered
    refine ⟨completed, ?_, ?_, toNat_pc_add_two inside⟩
    · rw [idle]
      exact stored
    · rw [stored, Machine.round_of_awaitKey waits (Keys.lowest?_only key)]

/-- A key wait whose two bytes are the last cell and the first, and whose program counter
wraps. -/
def wrappedWait : Machine :=
  { Machine.fresh ⟨0, 0⟩ with
    pc := 0xFFFF
    memory := (Memory.zero.put 0xFFF 0xF3).put 0x000 0x0A }

theorem waits_agree :
    Machine.cycle^[7] wrappedWait = wrappedWait ∧
      { wrappedWait with
          keys := Vector.ofFn fun key => key == 9 || key == 4 }.cycle.registers.get 3 = 4 ∧
      ((booted [0xF3, 0x0A]).step Keyboard.standard.keypad
        ⟨[], [.other, .keyDown (Layout.codeOf 'v')]⟩ false).interpreter.machine =
        { Machine.cycle^[7] (booted [0xF3, 0x0A]).machine with keys := Keys.only 15 }.cycle := by
  have atEnd : wrappedWait.word.toNat = keyWaitWord 3 := by decide +kernel
  have atStart : (booted [0xF3, 0x0A]).machine.word.toNat = keyWaitWord 3 := by decide +kernel
  have counter : (booted [0xF3, 0x0A]).machine.pc.toNat ≤ 4094 := by decide +kernel
  refine ⟨(key_wait_is_cooperative Keypad.unattached atEnd).1 7, ?_, ?_⟩
  · rw [(key_wait_is_cooperative Keypad.unattached atEnd).2.1 _ 4 (by decide +kernel)
      (by decide +kernel)]
    decide +kernel
  · exact ((key_wait_is_cooperative Keyboard.standard.keypad atStart).2.2 _ _ 15 7 rfl counter
      (by decide +kernel)).2.1

end Interpreter

end Chip8
