import Chip8.Proofs.CallStack
import Chip8.Proofs.Machine.Loading
import Chip8.Proofs.Interpreter.Run

namespace Chip8.Interpreter

open Machine (word_inside)

/-! The program counter of a running interpreter never wraps. It is bounded together
with the addresses on the stack, since a return makes one of them the counter; with
the check before each fetch that keeps all that is added to it in range. A counter at
the last cell or past it stays there, and the machine with it, but for its timers. -/

variable {σ : Type} {keypad : Keypad σ} {setup : Setup} {initial : Interpreter}
  {machine : Machine}

structure InBounds (machine : Machine) : Prop where
  counter : machine.pc.toNat ≤ 0xFFF + 0xFF
  slots : ∀ address ∈ machine.stack.slots.toList, address.toNat ≤ Memory.size

/-- The program counter behind the next instruction, in numbers that do not wrap. -/
def nextCounter (machine : Machine) (keys : Keys) : Nat :=
  match Instruction.ofWord machine.word with
  | .jump target | .call target => target.val
  | .ret => machine.stack.pop.1.toNat
  | .jumpOffset base => base.val + (machine.registers.get offsetRegister).toNat
  | .awaitKey _ => if keys.lowest?.isSome then machine.pc.toNat + 2 else machine.pc.toNat
  | other =>
      if { machine with keys := keys }.skips other then machine.pc.toNat + 4
      else machine.pc.toNat + 2

theorem round_counter (inside : ¬ Overruns machine) (keys : Keys) :
    (machine.round keys).pc.toNat = nextCounter machine keys := by
  have bound : machine.pc.toNat + 1 < 4096 := Nat.lt_of_not_le inside
  have past : (machine.pc + 2).toNat = machine.pc.toNat + 2 := toNat_pc_add_two inside
  have skipped : (machine.pc + 2 + 2).toNat = machine.pc.toNat + 4 := by
    rw [UInt16.toNat_add, past]
    exact Nat.mod_eq_of_lt (show machine.pc.toNat + 2 + 2 < 65536 by omega)
  have moves : ∀ condition : Bool,
      (if condition then machine.pc + 2 + 2 else machine.pc + 2).toNat =
        if condition then machine.pc.toNat + 4 else machine.pc.toNat + 2 := by
    intro condition
    rw [apply_ite UInt16.toNat, skipped, past]
  rw [Machine.round_eq, Machine.perform_pc, nextCounter]
  cases Instruction.ofWord machine.word with
  | jump target | call target =>
      have small : target.val < 65536 := Nat.lt_trans target.isLt (by decide)
      exact UInt16.toNat_ofNat_of_lt' small
  | ret => rfl
  | jumpOffset base =>
      have small : base.val < 4096 := base.isLt
      have byte := (machine.registers.get offsetRegister).toNat_lt
      change (UInt16.ofNat base.val + (machine.registers.get offsetRegister).toUInt16).toNat = _
      rw [UInt16.toNat_add, UInt16.toNat_ofNat_of_lt' (Nat.lt_trans small (by decide)),
        UInt8.toNat_toUInt16]
      exact Nat.mod_eq_of_lt (by omega)
  | awaitKey x =>
      change (if keys.lowest?.isSome then machine.pc + 2 else machine.pc + 2 - 2).toNat = _
      rw [apply_ite UInt16.toNat, past, UInt16.add_sub_cancel]
  | _ => exact moves _

theorem nextCounter_le (bounded : InBounds machine) (inside : ¬ Overruns machine)
    (keys : Keys) : nextCounter machine keys ≤ 0xFFF + 0xFF := by
  have bound : machine.pc.toNat + 1 < 4096 := Nat.lt_of_not_le inside
  have short : ∀ {first second : Nat}, first ≤ 4098 → second ≤ 4098 →
      ∀ condition : Bool, (if condition then first else second) ≤ 0xFFF + 0xFF := by
    intro first second firstBound secondBound condition
    split <;> omega
  rw [nextCounter]
  cases Instruction.ofWord machine.word with
  | jump target | call target =>
      have := target.isLt
      change target.val ≤ _
      omega
  | ret =>
      have popped := bounded.slots _ machine.stack.pop_fst_mem
      exact Nat.le_trans popped (by decide)
  | jumpOffset base =>
      have := base.isLt
      have := (machine.registers.get offsetRegister).toNat_lt
      change base.val + (machine.registers.get offsetRegister).toNat ≤ _
      omega
  | _ => exact short (by omega) (by omega) _

theorem InBounds.round (bounded : InBounds machine) (inside : ¬ Overruns machine)
    (keys : Keys) : InBounds (machine.round keys) where
  counter := round_counter inside keys ▸ nextCounter_le bounded inside keys
  slots address member := by
    rw [Machine.round_stack] at member
    cases instruction : Instruction.ofWord machine.word with
    | call target =>
        rw [instruction] at member
        rcases CallStack.mem_slots_push member with old | rfl
        · exact bounded.slots address old
        · rw [toNat_pc_add_two inside]
          exact Nat.lt_of_not_le inside
    | ret =>
        rw [instruction] at member
        rcases CallStack.mem_slots_pop member with old | rfl
        · exact bounded.slots address old
        · exact Nat.zero_le _
    | _ =>
        rw [instruction] at member
        exact bounded.slots address member

namespace Attached

variable {state : Attached σ} {call : Call}

theorem after_inBounds {pad : σ} (started : (start setup).2 = .ok initial)
    (history : List Call) :
    InBounds (Attached.after keypad ⟨initial, pad⟩ history).machine := by
  refine after_induction keypad _ InBounds ?_ ?_ ?_ history
  · exact fun machine bounded => ⟨bounded.counter, bounded.slots⟩
  · exact fun machine keys bounded inside => bounded.round inside keys
  · obtain ⟨rng, memory, fresh⟩ := start_machine started
    rw [machine, fresh]
    refine ⟨(by decide : Memory.programStart ≤ 0xFFF + 0xFF), fun address member => ?_⟩
    rw [List.eq_of_mem_replicate member]
    exact Nat.zero_le _

/-- What is left of a machine whose counter has overrun the memory. -/
theorem after_of_overruns (overruns : Overruns state.machine) (calls : List Call) :
    ∃ delay sound, (state.after keypad calls).machine =
      { state.machine with delay := delay, sound := sound } := by
  refine after_induction keypad state
    (fun machine => ∃ delay sound, machine = { state.machine with delay := delay, sound := sound })
    ?_ ?_ ⟨_, _, rfl⟩ calls
  · rintro _ ⟨delay, sound, rfl⟩
    exact ⟨_, _, rfl⟩
  · -- Ticks leave the counter where it is, so no instruction ever completes.
    rintro _ keys ⟨delay, sound, rfl⟩ inside
    exact absurd overruns inside

theorem fault_of_overruns (overruns : Overruns state.machine)
    (attempts : call.Attempts state.interpreter) :
    (state.perform keypad call).fault = some (.endOfMemory state.machine.pc) := by
  rw [(state.perform_of_attempts keypad attempts).1, attempt,
    step_of_overruns ((call.overruns_gated _).mpr overruns), Call.gated_pc]

theorem next_counter (completed : state.completed? keypad call ≠ none) :
    (state.next keypad call).machine.pc.toNat =
      nextCounter state.machine (state.next keypad call).machine.keys := by
  rcases state.next_machine keypad call with ⟨idle, _⟩ | ⟨inside, _, keys, machine⟩
  · exact absurd idle completed
  · rw [← call.overruns_gated] at inside
    rw [machine, round_counter inside, Machine.round_keys]
    rcases call.gated_machine state.interpreter with same | ticked
    · rw [same]
    · rw [ticked]
      rfl

end Attached

/-- Wherever an interpreter comes to, its counter and its stack are in bounds. A word
is fetched only if it lies in memory as a whole, a completed instruction moves the
counter as far as it would without wrapping, and a counter that has come to the last
cell or past it is stuck there. -/
theorem counter_is_safe {pad : σ} {state : Attached σ} {history : List Call}
    (started : (start setup).2 = .ok initial)
    (reached : state = Attached.after keypad ⟨initial, pad⟩ history) :
    state.machine.pc.toNat ≤ 0xFFF + 0xFF ∧
    (∀ address ∈ state.machine.stack.slots.toList, address.toNat ≤ 4096) ∧
    (∀ call : Call, call.Attempts state.interpreter →
      (state.perform keypad call).fault ≠ some (.endOfMemory state.machine.pc) →
      (state.machine.pc + 2).toNat = state.machine.pc.toNat + 2 ∧
        ∃ inside : state.machine.pc.toNat + 1 < 4096,
          state.machine.word.toNat =
            256 * state.machine.memory[state.machine.pc.toNat].toNat +
              state.machine.memory[state.machine.pc.toNat + 1].toNat) ∧
    (∀ call, state.completed? keypad call ≠ none →
      (state.next keypad call).machine.pc.toNat =
        nextCounter state.machine (state.next keypad call).machine.keys) ∧
    (4095 ≤ state.machine.pc.toNat → ∀ calls,
      (∃ delay sound, (state.after keypad calls).machine =
        { state.machine with delay := delay, sound := sound }) ∧
      ∀ call : Call, call.Attempts (state.after keypad calls).interpreter →
        ((state.after keypad calls).perform keypad call).fault =
          some (.endOfMemory state.machine.pc)) := by
  have bounded : InBounds state.machine := reached ▸ Attached.after_inBounds started history
  refine ⟨bounded.counter, bounded.slots, ?_, fun _ => Attached.next_counter, ?_⟩
  · intro call attempts fetched
    have inside : ¬ Overruns state.machine :=
      fun overruns => fetched (Attached.fault_of_overruns overruns attempts)
    exact ⟨toNat_pc_add_two inside, Nat.lt_of_not_le inside, word_inside _⟩
  · intro last calls
    have overruns : Overruns state.machine := Nat.succ_le_succ last
    obtain ⟨delay, sound, frozen⟩ := Attached.after_of_overruns overruns calls
    have counter : (state.after keypad calls).machine.pc = state.machine.pc := by
      rw [frozen]
    refine ⟨⟨delay, sound, frozen⟩, fun call attempts => ?_⟩
    rw [← counter]
    refine Attached.fault_of_overruns ?_ attempts
    rwa [Overruns, counter]

/-- An offset jump as far as one can go. -/
def farJump : List UInt8 := [0x60, 0xFF, 0xBF, 0xFF]

theorem farJump_is_stuck :
    ((Attached.after Keypad.unattached ⟨booted farJump, ()⟩
      ([.step false, .step false] ++ [.cycle 20000000 true, .cycle 90000000 false])).perform
        Keypad.unattached (.step false)).fault = some (.endOfMemory 4350) := by
  rw [Attached.after_append]
  generalize landed : Attached.after Keypad.unattached ⟨booted farJump, ()⟩
    [.step false, .step false] = state
  have started := start_booted (show farJump.length ≤ Memory.programSpace by decide)
  have counter : state.machine.pc = 4350 := by
    rw [← landed]
    decide +kernel
  have last : 4095 ≤ state.machine.pc.toNat := by
    rw [counter]
    decide
  obtain ⟨_, _, _, _, stuck⟩ := counter_is_safe started landed.symm
  rw [← counter]
  exact (stuck last _).2 (.step false) trivial

end Chip8.Interpreter
