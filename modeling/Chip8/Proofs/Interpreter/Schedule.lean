import Chip8.Proofs.Interpreter.Pace
import Chip8.Proofs.Machine.Timers

namespace Chip8.Interpreter

open Instruction (IsTimerOrMemory)

/-! When the timers tick. That is a matter of the clock alone: whatever the program does,
however fast it runs and wherever it fails, the timers tick in the same cycles. What they
count down from is a matter of the program; but between two settings of a timer each tick
takes one off it until it is zero. -/

def Call.time? : Call → Option Int
  | .cycle now _ => some now
  | .step _ => none

/-- All readings of the clock in a run. -/
def times (calls : List Call) : List Int := calls.filterMap Call.time?

/-- For each reading of the clock, how often the timers tick then, and when they ticked last
after that. -/
def scheduleFrom (last : Int) : List Int → List (Nat × Int)
  | [] => []
  | now :: times =>
      if timerPeriod ≤ now - last then (1, now) :: scheduleFrom now times
      else (0, last) :: scheduleFrom last times

theorem start_lastTimerTick {setup : Setup} {initial : Interpreter}
    (started : (start setup).2 = .ok initial) : initial.lastTimerTick = setup.start := by
  obtain ⟨rng, memory, rfl⟩ := start_eq started
  rfl

namespace Attached

variable {σ : Type} {keypad : Keypad σ} {state : Attached σ} {call : Call} {calls : List Call}
  {timer : Timer}

/-- For each cycle of a run, how often the timers tick in it, and when they ticked last after
that. -/
def schedule (keypad : Keypad σ) (state : Attached σ) : List Call → List (Nat × Int)
  | [] => []
  | .step cancelled :: calls => (state.next keypad (.step cancelled)).schedule keypad calls
  | .cycle now cancelled :: calls =>
      ((Call.cycle now cancelled).ticks state.interpreter,
          (state.next keypad (.cycle now cancelled)).interpreter.lastTimerTick) ::
        (state.next keypad (.cycle now cancelled)).schedule keypad calls

theorem next_step_lastTimerTick (state : Attached σ) (cancelled : Bool) :
    (state.next keypad (.step cancelled)).interpreter.lastTimerTick =
      state.interpreter.lastTimerTick := by
  rw [next, perform]
  rcases step_cases keypad state.interpreter state.pad cancelled with
    ⟨_, same⟩ | ⟨_, _, keys, complete⟩
  · rw [same]
  · rw [complete]
    rfl

theorem next_cycle_lastTimerTick (state : Attached σ) (now : Int) (cancelled : Bool) :
    (state.next keypad (.cycle now cancelled)).interpreter.lastTimerTick =
      if timerPeriod ≤ now - state.interpreter.lastTimerTick then now
      else state.interpreter.lastTimerTick := by
  have pass : (state.next keypad (.ofReading ⟨now, cancelled⟩)).interpreter.timersAsGate _ = _ :=
    state.next_timersAsGate ⟨now, cancelled⟩ 0
  exact (congrArg Gate.last pass).trans (apply_ite Gate.last _ _ _)

theorem schedule_eq (state : Attached σ) (calls : List Call) :
    state.schedule keypad calls = scheduleFrom state.interpreter.lastTimerTick (times calls) := by
  induction calls generalizing state with
  | nil => rfl
  | cons call calls ih =>
      cases call with
      | step cancelled =>
          rw [schedule, ih, next_step_lastTimerTick]
          rfl
      | cycle now cancelled =>
          rw [schedule, ih, next_cycle_lastTimerTick, Call.ticks]
          change _ = scheduleFrom state.interpreter.lastTimerTick (now :: times calls)
          rw [scheduleFrom]
          split <;> rfl

theorem next_timer
    (kept : ∀ word ∈ state.executed? keypad call, ¬ IsTimerOrMemory word timer.setByte) :
    ((state.next keypad call).machine.timer timer).toNat =
      (state.machine.timer timer).toNat - call.ticks state.interpreter := by
  have ticked : ((call.gated state.interpreter).machine.timer timer).toNat =
      (state.machine.timer timer).toNat - call.ticks state.interpreter := by
    rw [call.gated_machine_eq, Machine.toNat_timer_ticks]
  rcases state.next_machine keypad call with ⟨_, machine⟩ | ⟨_, completed, keys, machine⟩
  · rw [machine, ticked]
  · have executed : state.executed? keypad call = some state.machine.word :=
      (state.executed?_eq_some_iff keypad call).mpr ⟨completed, rfl⟩
    have unset := kept state.machine.word executed
    rw [← call.gated_word] at unset
    rw [machine, Machine.round_timer keys unset, ticked]

/-- A timer that a run does not set counts down by the ticks of the run. -/
theorem after_timer
    (kept : ∀ word ∈ state.executedWords keypad calls, ¬ IsTimerOrMemory word timer.setByte) :
    ((state.after keypad calls).machine.timer timer).toNat =
      (state.machine.timer timer).toNat - state.ticks keypad calls := by
  induction calls generalizing state with
  | nil => rfl
  | cons call calls ih =>
      rw [executedWords] at kept
      have first : ∀ word ∈ state.executed? keypad call,
          ¬ IsTimerOrMemory word timer.setByte := fun word executed =>
        kept word (List.mem_append_left _ (Option.mem_toList.mpr executed))
      have rest := ih fun word executed => kept word (List.mem_append_right _ executed)
      rw [after, ticks, rest, next_timer first, Nat.sub_sub]

/-- Between any two moments of a run between which the timer is not set, it counts down by
the ticks between them. -/
def CountsDown (keypad : Keypad σ) (state : Attached σ) (calls : List Call) (timer : Timer) :
    Prop :=
  ∀ before between later, calls = before ++ between ++ later →
    let earlier := state.after keypad before
    (∀ word ∈ earlier.executedWords keypad between, ¬ IsTimerOrMemory word timer.setByte) →
    ((earlier.after keypad between).machine.timer timer).toNat =
      (earlier.machine.timer timer).toNat - earlier.ticks keypad between

theorem countsDown (keypad : Keypad σ) (state : Attached σ) (calls : List Call) (timer : Timer) :
    state.CountsDown keypad calls timer :=
  fun _ _ _ _ kept => after_timer kept

end Attached

/-- Two interpreters that start at the same time and read the clock alike tick alike, cycle
by cycle, whatever else they do and whether or not their calls fail: how often the timers
tick, and when they ticked last. In either of them each tick takes one off a timer that is
not zero, and nothing else changes a timer but the instruction that sets it. -/
theorem ticks_follow_the_clock {σ τ : Type} (keypad : Keypad σ) (other : Keypad τ)
    {setup setup' : Setup} {left : Attached σ} {right : Attached τ} {calls calls' : List Call}
    (started : (start setup).2 = .ok left.interpreter)
    (started' : (start setup').2 = .ok right.interpreter)
    (together : setup'.start = setup.start) (alike : times calls' = times calls) :
    right.schedule other calls' = left.schedule keypad calls ∧
    ∀ timer, left.CountsDown keypad calls timer ∧ right.CountsDown other calls' timer := by
  have last : left.interpreter.lastTimerTick = setup.start := start_lastTimerTick started
  have last' : right.interpreter.lastTimerTick = setup'.start := start_lastTimerTick started'
  refine ⟨?_, fun timer => ⟨left.countsDown keypad calls timer, right.countsDown other calls' timer⟩⟩
  rw [Attached.schedule_eq, Attached.schedule_eq, last, last', together, alike]

/-- It sets the delay timer to 5 and then jumps to itself. -/
def waitsIdly : List UInt8 := [0x60, 0x05, 0xF0, 0x15, 0x12, 0x04]

/-- It jumps to the last cell of memory, where every further step fails. -/
def leavesMemory : List UInt8 := [0x1F, 0xFF]

theorem waitsIdly_ticks_with_leavesMemory :
    let left : Attached Unit := ⟨booted waitsIdly, ()⟩
    let right : Attached Unit := ⟨booted leavesMemory, ()⟩
    let set : List Call := [.cycle 2000000 false, .cycle 4000000 false]
    let idle : List Call := [.cycle 20000000 false, .cycle 15000000 true, .cycle 40000000 false]
    let failing : List Call :=
      [.step false, .cycle 2000000 true, .cycle 4000000 false, .step true, .cycle 20000000 true,
        .cycle 15000000 false, .cycle 40000000 false, .step false]
    let earlier := left.after Keypad.unattached set
    right.schedule Keypad.unattached failing = left.schedule Keypad.unattached (set ++ idle) ∧
      ((earlier.after Keypad.unattached idle).machine.timer .delay).toNat =
        (earlier.machine.timer .delay).toNat - earlier.ticks Keypad.unattached idle ∧
      earlier.machine.timer .delay = 5 ∧ earlier.ticks Keypad.unattached idle = 2 := by
  intro left right set idle failing earlier
  have started : (start { program := waitsIdly }).2 = .ok left.interpreter :=
    start_booted (by decide)
  have started' : (start { program := leavesMemory }).2 = .ok right.interpreter :=
    start_booted (by decide)
  have alike : times failing = times (set ++ idle) := rfl
  obtain ⟨schedules, down⟩ :=
    ticks_follow_the_clock Keypad.unattached Keypad.unattached started started' rfl alike
  have words : earlier.executedWords Keypad.unattached idle = [0x1204, 0x1204] := by
    decide +kernel
  have unset : ∀ word ∈ earlier.executedWords Keypad.unattached idle,
      ¬ IsTimerOrMemory word Timer.delay.setByte := by
    rw [words, List.forall_mem_cons, List.forall_mem_singleton]
    decide
  refine ⟨schedules, ?_, by decide +kernel, by decide +kernel⟩
  exact (down .delay).1 set idle [] (List.append_nil _).symm unset

end Chip8.Interpreter
