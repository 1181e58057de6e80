import Chip8.Proofs.Instruction.Form
import Chip8.Proofs.Machine.Execution
import Mathlib.Logic.Function.Iterate

namespace Chip8

open Instruction (IsTimerOrMemory hasForm_ofWord)

/-! The two timers of a machine. Each tick counts both of them down, and no instruction
concerns itself with them but the three that read or set one; so it makes no difference
where among other instructions the ticks come. -/

inductive Timer where
  | delay
  | sound
deriving DecidableEq, Repr

/-- The low byte of the words `FXNN` that set the timer. -/
def Timer.setByte : Timer → Nat
  | delay => 0x15
  | sound => 0x18

/-- The words `FX07`, `FX15` and `FX18`. -/
def Instruction.UsesTimers (word : UInt16) : Prop :=
  IsTimerOrMemory word 0x07 ∨ IsTimerOrMemory word 0x15 ∨ IsTimerOrMemory word 0x18

instance (word : UInt16) (low : Nat) : Decidable (IsTimerOrMemory word low) :=
  inferInstanceAs (Decidable (_ ∧ _))

instance (word : UInt16) : Decidable (Instruction.UsesTimers word) :=
  inferInstanceAs (Decidable (_ ∨ _ ∨ _))

namespace Machine

open Instruction (UsesTimers)

variable {machine : Machine} {word : UInt16}

def timer (machine : Machine) : Timer → UInt8
  | .delay => machine.delay
  | .sound => machine.sound

theorem toNat_countDown (value : UInt8) : (countDown value).toNat = value.toNat - 1 := by
  rw [countDown]
  split
  · rename_i zero
    rw [zero]
    rfl
  · rename_i positive
    have one_le : (1 : UInt8) ≤ value := by
      rw [UInt8.le_iff_toNat_le]
      have nonzero : value.toNat ≠ 0 := fun zero => positive (UInt8.toNat_inj.mp zero)
      exact Nat.one_le_iff_ne_zero.mpr nonzero
    exact UInt8.toNat_sub_of_le _ _ one_le

theorem timer_tick (machine : Machine) (timer : Timer) :
    machine.tick.timer timer = countDown (machine.timer timer) := by
  cases timer <;> rfl

theorem toNat_timer_ticks (machine : Machine) (timer : Timer) (count : Nat) :
    ((tick^[count] machine).timer timer).toNat = (machine.timer timer).toNat - count := by
  induction count with
  | zero => rfl
  | succ count ih =>
      rw [Function.iterate_succ_apply', timer_tick, toNat_countDown, ih, Nat.sub_sub]

theorem execute_timer {timer : Timer} (machine : Machine)
    (kept : ¬ IsTimerOrMemory word timer.setByte) :
    (machine.execute word).timer timer = machine.timer timer := by
  have form := hasForm_ofWord word
  rw [execute_eq]
  cases timer with
  | delay =>
      refine (machine.perform_delay _).trans ?_
      generalize Instruction.ofWord word = instruction at form
      cases instruction with
      | setDelay x => exact absurd form.1 kept
      | _ => rfl
  | sound =>
      refine (machine.perform_sound _).trans ?_
      generalize Instruction.ofWord word = instruction at form
      cases instruction with
      | setSound x => exact absurd form.1 kept
      | _ => rfl

theorem round_timer {timer : Timer} (keys : Keys)
    (kept : ¬ IsTimerOrMemory machine.word timer.setByte) :
    (machine.round keys).timer timer = machine.timer timer := by
  rw [round, execute_timer _ kept]
  cases timer <;> rfl

theorem execute_tick (machine : Machine) (timeless : ¬ UsesTimers word) :
    machine.tick.execute word = (machine.execute word).tick := by
  have form := hasForm_ofWord word
  rw [execute_eq, execute_eq]
  generalize Instruction.ofWord word = instruction at form
  cases instruction with
  | getDelay x => exact absurd (.inl form.1) timeless
  | setDelay x => exact absurd (.inr (.inl form.1)) timeless
  | setSound x => exact absurd (.inr (.inr form.1)) timeless
  | arithmetic operation x y =>
      simp only [perform, arithmetic, tick]
      split <;> rfl
  | awaitKey x =>
      simp only [perform, awaitKey, tick]
      split <;> rfl
  | skipIfByte | skipUnlessByte | skipIfSame | skipUnlessSame | skipIfHeld | skipUnlessHeld =>
      simp only [perform, skipIf_eq]
      rfl
  | fill x => simp only [perform, fill, tick]
  | _ => rfl

theorem cycle_tick (timeless : ¬ UsesTimers machine.word) :
    machine.tick.cycle = machine.cycle.tick :=
  machine.advance.execute_tick timeless

/-- What a machine on its own does next. -/
inductive Beat where
  | tick
  | cycle
deriving DecidableEq, Repr

def play (machine : Machine) : List Beat → Machine
  | [] => machine
  | .tick :: beats => machine.tick.play beats
  | .cycle :: beats => machine.cycle.play beats

/-- The words that are executed on the way. -/
def playedWords (machine : Machine) : List Beat → List UInt16
  | [] => []
  | .tick :: beats => machine.tick.playedWords beats
  | .cycle :: beats => machine.word :: machine.cycle.playedWords beats

theorem play_tick_cycle (rest : List Beat) (timeless : ¬ UsesTimers machine.word) :
    machine.play (.tick :: .cycle :: rest) = machine.play (.cycle :: .tick :: rest) ∧
      machine.playedWords (.tick :: .cycle :: rest) =
        machine.playedWords (.cycle :: .tick :: rest) := by
  simp only [play, playedWords, cycle_tick timeless]
  exact ⟨trivial, rfl⟩

/-- The ticks may be moved to any other places among the cycles. As long as no instruction
uses the timers, the same words are executed and the machine ends up the same. -/
theorem ticks_move_freely {first second : List Beat} (moved : first.Perm second)
    (machine : Machine) (timeless : ∀ word ∈ machine.playedWords first, ¬ UsesTimers word) :
    machine.play second = machine.play first ∧
      machine.playedWords second = machine.playedWords first := by
  induction moved generalizing machine with
  | nil => exact ⟨rfl, rfl⟩
  | cons beat moved ih =>
      cases beat with
      | tick => exact ih machine.tick timeless
      | cycle =>
          obtain ⟨last, words⟩ := ih machine.cycle fun word later =>
            timeless word (List.mem_cons_of_mem _ later)
          exact ⟨last, congrArg (machine.word :: ·) words⟩
  | swap second first rest =>
      -- Of the two neighbours one is a tick and the other a cycle, or nothing has moved.
      cases first with
      | tick =>
          cases second with
          | tick => exact ⟨rfl, rfl⟩
          | cycle =>
              have free : ¬ UsesTimers machine.word := timeless _ List.mem_cons_self
              obtain ⟨last, words⟩ := play_tick_cycle rest free
              exact ⟨last.symm, words.symm⟩
      | cycle =>
          cases second with
          | tick =>
              exact play_tick_cycle rest (timeless _ List.mem_cons_self)
          | cycle => exact ⟨rfl, rfl⟩
  | trans _ _ firstIH secondIH =>
      obtain ⟨last, words⟩ := firstIH machine timeless
      obtain ⟨last', words'⟩ := secondIH machine (words ▸ timeless)
      exact ⟨last'.trans last, words'.trans words⟩

/-- It stores a register over its own last instruction, which then adds to that register. -/
def rewritesItself : List UInt8 := [0x60, 0x70, 0xA2, 0x06, 0xF0, 0x55, 0x12, 0x01]

theorem rewritesItself_any_ticks :
    let machine : Machine :=
      { Machine.fresh ⟨0, 0⟩ with
        memory := Font.memory.write Memory.programStart rewritesItself
        delay := 3
        sound := 1 }
    let spread : List Beat := [.cycle, .tick, .cycle, .cycle, .tick, .cycle]
    let bunched : List Beat := [.cycle, .cycle, .cycle, .cycle, .tick, .tick]
    machine.playedWords spread = [0x6070, 0xA206, 0xF055, 0x7001] ∧
      machine.play bunched = machine.play spread ∧
      machine.playedWords bunched = machine.playedWords spread := by
  intro machine spread bunched
  have moved : spread.Perm bunched := by decide
  have words : machine.playedWords spread = [0x6070, 0xA206, 0xF055, 0x7001] := by
    simp only [spread, playedWords, cycle, execute_eq]
    decide +kernel
  have timeless : ∀ word ∈ machine.playedWords spread, ¬ UsesTimers word := by
    rw [words, List.forall_mem_cons, List.forall_mem_cons, List.forall_mem_cons,
      List.forall_mem_singleton]
    decide
  exact ⟨words, ticks_move_freely moved machine timeless⟩

end Machine

end Chip8
