import Chip8.Proofs.Interpreter.Run
import Mathlib.Data.List.Chain

namespace Chip8.Interpreter

/-! How fast the timers tick and the instructions run by the clock. A gate never opens
early: whenever it opens, its marker moves on by a period at least. Nor does it open late:
after every reading of the clock it lags behind by less than a period, so it opens again
within a period and one pause between two readings. -/

structure Gate where
  period : Nat
  last : Int
  openings : Nat

namespace Gate

variable {gate : Gate} {start gap earlier now : Int} {times : List Int}

def fresh (period : Nat) (start : Int) : Gate := ⟨period, start, 0⟩

/-- Open the gate if its period has passed since it opened last. -/
def pass (gate : Gate) (now : Int) : Gate :=
  if gate.period ≤ now - gate.last then
    { gate with last := now, openings := gate.openings + 1 }
  else
    gate

def passAll (gate : Gate) (times : List Int) : Gate := times.foldl pass gate

theorem pass_period (gate : Gate) (now : Int) : (gate.pass now).period = gate.period := by
  rw [pass]
  split <;> rfl

theorem passAll_period (gate : Gate) (times : List Int) :
    (gate.passAll times).period = gate.period := by
  induction times generalizing gate with
  | nil => rfl
  | cons now times ih => exact (ih (gate.pass now)).trans (gate.pass_period now)

/-- The gate has not opened more often than the time up to its marker allows. -/
def NeverEarly (start : Int) (gate : Gate) : Prop :=
  gate.openings * gate.period ≤ gate.last - start

theorem neverEarly_fresh (period : Nat) (start : Int) :
    (fresh period start).NeverEarly start := by
  rw [NeverEarly]
  apply Int.le_of_eq
  rw [fresh, Int.natCast_zero, Int.zero_mul, Int.sub_self]

theorem NeverEarly.pass (neverEarly : gate.NeverEarly start) (now : Int) :
    (gate.pass now).NeverEarly start := by
  rw [NeverEarly] at neverEarly
  rw [Gate.pass]
  split
  · rename_i opens
    rw [NeverEarly]
    simp only [Int.natCast_add, Int.natCast_one, Int.add_mul, Int.one_mul]
    omega
  · exact neverEarly

theorem NeverEarly.passAll (neverEarly : gate.NeverEarly start) (times : List Int) :
    (gate.passAll times).NeverEarly start := by
  induction times generalizing gate with
  | nil => exact neverEarly
  | cons now times ih => exact ih (neverEarly.pass now)

/-- The gate has opened as often as it must up to this reading of the clock, if no two
readings were more than `gap` apart. -/
structure NeverLate (start gap now : Int) (gate : Gate) : Prop where
  marker : gate.last - start ≤ gate.openings * (gate.period + gap)
  lag : now - gate.last < gate.period

theorem neverLate_fresh {period : Nat} (positive : 0 < period) (start gap : Int) :
    (fresh period start).NeverLate start gap start := by
  constructor
  · apply Int.le_of_eq
    rw [fresh, Int.natCast_zero, Int.zero_mul, Int.sub_self]
  · rw [fresh, Int.sub_self]
    exact Int.natCast_pos.mpr positive

theorem NeverLate.pass (positive : 0 < gate.period)
    (neverLate : gate.NeverLate start gap earlier) (near : now - earlier ≤ gap) :
    (gate.pass now).NeverLate start gap now := by
  obtain ⟨marker, lag⟩ := neverLate
  rw [Gate.pass]
  split
  · constructor
    · simp only [Int.natCast_add, Int.natCast_one, Int.add_mul, Int.one_mul]
      omega
    · simpa using positive
  · rename_i closed
    exact ⟨marker, Int.not_le.mp closed⟩

theorem NeverLate.passAll (positive : 0 < gate.period)
    (neverLate : gate.NeverLate start gap earlier)
    (near : (earlier :: times).IsChain fun earlier later => later - earlier ≤ gap) :
    (gate.passAll times).NeverLate start gap (times.getLastD earlier) := by
  induction times generalizing gate earlier with
  | nil => exact neverLate
  | cons now times ih =>
      obtain ⟨first, rest⟩ := List.isChain_cons_cons.mp near
      have positive' : 0 < (gate.pass now).period := by rwa [pass_period]
      rw [List.getLastD_cons]
      exact ih positive' (neverLate.pass positive first) rest

theorem NeverLate.elapsed (neverLate : gate.NeverLate start gap now) :
    now - start < gate.openings * (gate.period + gap) + gate.period := by
  have marker := neverLate.marker
  have lag := neverLate.lag
  omega

end Gate

/-- A reading of the clock for one cycle, and whether the token that goes with it was
cancelled before. -/
structure Reading where
  now : Int
  cancelled : Bool

variable {σ : Type} {keypad : Keypad σ} {setup : Setup} {initial : Interpreter}
  {state : Attached σ} {call : Call} {reading : Reading} {readings : List Reading} {count : Nat}

/-- The two gates of an interpreter, the timers having ticked `ticks` times. -/
def timersAsGate (interpreter : Interpreter) (ticks : Nat) : Gate :=
  ⟨timerPeriod, interpreter.lastTimerTick, ticks⟩

def instructionsAsGate (interpreter : Interpreter) : Gate :=
  ⟨interpreter.period, interpreter.lastInstructionTick, interpreter.count⟩

theorem start_timersAsGate (started : (Interpreter.start setup).2 = .ok initial) :
    initial.timersAsGate 0 = Gate.fresh timerPeriod setup.start := by
  obtain ⟨rng, memory, rfl⟩ := start_eq started
  rfl

theorem start_instructionsAsGate (started : (Interpreter.start setup).2 = .ok initial) :
    initial.instructionsAsGate = Gate.fresh initial.period setup.start := by
  obtain ⟨rng, memory, rfl⟩ := start_eq started
  rfl

namespace Call

def ofReading (reading : Reading) : Call := .cycle reading.now reading.cancelled

/-- How often the timers tick in a call. -/
def ticks (call : Call) (interpreter : Interpreter) : Nat :=
  match call with
  | cycle now _ => if timerPeriod ≤ now - interpreter.lastTimerTick then 1 else 0
  | step _ => 0

theorem ticks_le_one (call : Call) (interpreter : Interpreter) :
    call.ticks interpreter ≤ 1 := by
  cases call with
  | cycle now cancelled =>
      rw [ticks]
      split <;> decide
  | step cancelled => exact Nat.zero_le 1

theorem gated_machine_eq (call : Call) (interpreter : Interpreter) :
    (call.gated interpreter).machine =
      Machine.tick^[call.ticks interpreter] interpreter.machine := by
  cases call with
  | cycle now cancelled =>
      by_cases due : timerPeriod ≤ now - interpreter.lastTimerTick
      · simp only [gated, gated_eq, ticks, due, if_true]
        rfl
      · simp only [gated, gated_eq, ticks, due, if_false]
        rfl
  | step cancelled => rfl

end Call

namespace Attached

/-- How often the timers tick in a run. -/
def ticks (keypad : Keypad σ) (state : Attached σ) : List Call → Nat
  | [] => 0
  | call :: calls => call.ticks state.interpreter + (state.next keypad call).ticks keypad calls

theorem ticks_append (first second : List Call) :
    state.ticks keypad (first ++ second) =
      state.ticks keypad first + (state.after keypad first).ticks keypad second := by
  induction first generalizing state with
  | nil => exact (Nat.zero_add _).symm
  | cons call calls ih =>
      rw [List.cons_append, ticks, ticks, after, ih, Nat.add_assoc]

/-- No call of the run fails. -/
def Unfailing (keypad : Keypad σ) (state : Attached σ) : List Call → Prop
  | [] => True
  | call :: calls =>
      (state.perform keypad call).fault = none ∧ (state.next keypad call).Unfailing keypad calls

/-- In a cycle the timers tick at most once, and at most one instruction is completed. -/
theorem next_ofReading (state : Attached σ) (reading : Reading) :
    ∃ keys, ∃ completed ≤ 1,
      (state.next keypad (.ofReading reading)).machine =
        (Machine.round · keys)^[completed]
          (Machine.tick^[(Call.ofReading reading).ticks state.interpreter] state.machine) ∧
      (state.next keypad (.ofReading reading)).interpreter.count =
        state.interpreter.count + completed := by
  have count := gated_count state.interpreter reading.now
  rw [← Call.gated_machine_eq]
  rcases cycle_cases keypad state.interpreter state.pad reading.cancelled reading.now with
    ⟨_, _, same⟩ | ⟨_, _, same⟩ | ⟨_, _, keys, same⟩ <;>
  change (state.next keypad (.ofReading reading)).interpreter = _ at same
  · exact ⟨Keys.empty, 0, Nat.zero_le 1, by rw [machine, same]; rfl, by rw [same]; exact count⟩
  · exact ⟨Keys.empty, 0, Nat.zero_le 1, by rw [machine, same]; rfl, by rw [same]; exact count⟩
  · refine ⟨keys, 1, Nat.le_refl 1, by rw [machine, same]; rfl, ?_⟩
    rw [same]
    exact congrArg (· + 1) count

theorem next_timersAsGate (state : Attached σ) (reading : Reading) (ticks : Nat) :
    (state.next keypad (.ofReading reading)).interpreter.timersAsGate
        (ticks + (Call.ofReading reading).ticks state.interpreter) =
      (state.interpreter.timersAsGate ticks).pass reading.now := by
  have marker : (state.next keypad (.ofReading reading)).interpreter.lastTimerTick =
      (state.interpreter.gated reading.now).lastTimerTick := by
    rcases cycle_cases keypad state.interpreter state.pad reading.cancelled reading.now with
      ⟨_, _, same⟩ | ⟨_, _, same⟩ | ⟨_, _, keys, same⟩ <;>
    exact (congrArg Interpreter.lastTimerTick same).trans rfl
  rw [timersAsGate, marker, gated_eq, Gate.pass, timersAsGate]
  by_cases due : timerPeriod ≤ reading.now - state.interpreter.lastTimerTick
  · simp only [Call.ticks, Call.ofReading, due, if_true]
  · simp only [Call.ticks, Call.ofReading, due, if_false]
    rfl

theorem next_instructionsAsGate
    (completed : (state.perform keypad (.ofReading reading)).fault = none) :
    (state.next keypad (.ofReading reading)).interpreter.instructionsAsGate =
      state.interpreter.instructionsAsGate.pass reading.now := by
  rw [Gate.pass]
  rcases cycle_cases keypad state.interpreter state.pad reading.cancelled reading.now with
    ⟨closed, _, same⟩ | ⟨_, ⟨fault, failed⟩, _⟩ | ⟨due, _, keys, same⟩
  · refine Eq.trans ?_ (if_neg closed).symm
    refine (congrArg instructionsAsGate same).trans ?_
    rw [gated_eq]
    rfl
  · exact absurd (failed.symm.trans completed) (Option.some_ne_none fault)
  · refine Eq.trans ?_ (if_pos due).symm
    refine (congrArg instructionsAsGate same).trans ?_
    rw [gated_eq]
    rfl

theorem after_timersAsGate (state : Attached σ) (readings : List Reading) (ticks : Nat) :
    (state.after keypad (readings.map .ofReading)).interpreter.timersAsGate
        (ticks + state.ticks keypad (readings.map .ofReading)) =
      (state.interpreter.timersAsGate ticks).passAll (readings.map Reading.now) := by
  induction readings generalizing state ticks with
  | nil => rfl
  | cons reading readings ih =>
      rw [List.map_cons, Attached.ticks, after, ← Nat.add_assoc, ih, next_timersAsGate]
      rfl

theorem after_instructionsAsGate
    (unfailing : state.Unfailing keypad (readings.map .ofReading)) :
    (state.after keypad (readings.map .ofReading)).interpreter.instructionsAsGate =
      state.interpreter.instructionsAsGate.passAll (readings.map Reading.now) := by
  induction readings generalizing state with
  | nil => rfl
  | cons reading readings ih =>
      obtain ⟨first, rest⟩ := unfailing
      rw [List.map_cons, after, ih rest, next_instructionsAsGate first]
      rfl

end Attached

/-- Up to each marker a gate has opened no more often than its period allows, and with
readings of the clock at most `gap` apart no less often than a period and one such gap allow.
Each opening of the timer gate is one tick, each opening of the instruction gate one completed
instruction, and a cycle opens each of them once at most. Readings that go back do no harm to
either bound. -/
theorem gates_keep_pace {pad : σ} (started : (start setup).2 = .ok initial)
    (unfailing : Attached.Unfailing keypad ⟨initial, pad⟩ (readings.map .ofReading)) :
    let first : Attached σ := ⟨initial, pad⟩
    let state := first.after keypad (readings.map .ofReading)
    let ticks := first.ticks keypad (readings.map .ofReading)
    let now := (readings.map Reading.now).getLastD setup.start
    (∀ reading, ∃ ticked ≤ 1, ∃ completed ≤ 1, ∃ keys,
      (state.next keypad (.ofReading reading)).machine =
        (Machine.round · keys)^[completed] (Machine.tick^[ticked] state.machine) ∧
      first.ticks keypad ((readings ++ [reading]).map .ofReading) = ticks + ticked ∧
      (state.next keypad (.ofReading reading)).interpreter.count =
        state.interpreter.count + completed) ∧
    ticks * timerPeriod ≤ state.interpreter.lastTimerTick - setup.start ∧
    state.interpreter.count * initial.period ≤
      state.interpreter.lastInstructionTick - setup.start ∧
    ∀ gap : Int,
      (setup.start :: readings.map Reading.now).IsChain
        (fun earlier later => later - earlier ≤ gap) →
      now - setup.start < ticks * (timerPeriod + gap) + timerPeriod ∧
      (1 ≤ initial.period →
        now - setup.start <
          state.interpreter.count * (initial.period + gap) + initial.period) := by
  intro first state ticks now
  have timers : state.interpreter.timersAsGate ticks =
      (Gate.fresh timerPeriod setup.start).passAll (readings.map Reading.now) := by
    rw [← start_timersAsGate started, ← Attached.after_timersAsGate first readings 0, Nat.zero_add]
  have instructions : state.interpreter.instructionsAsGate =
      (Gate.fresh initial.period setup.start).passAll (readings.map Reading.now) := by
    rw [← start_instructionsAsGate started]
    exact Attached.after_instructionsAsGate unfailing
  have period : state.interpreter.period = initial.period := by
    have kept := Gate.passAll_period (.fresh initial.period setup.start) (readings.map Reading.now)
    rw [← instructions] at kept
    exact kept
  refine ⟨fun reading => ?_, ?_, ?_, fun gap near => ⟨?_, fun positive => ?_⟩⟩
  · obtain ⟨keys, completed, once, machine, count⟩ := state.next_ofReading reading
    refine ⟨_, Call.ticks_le_one _ _, completed, once, keys, machine, ?_, count⟩
    rw [List.map_append, Attached.ticks_append]
    rfl
  · have bound := (Gate.neverEarly_fresh timerPeriod setup.start).passAll (readings.map Reading.now)
    rw [← timers] at bound
    exact bound
  · have bound := (Gate.neverEarly_fresh initial.period setup.start).passAll
      (readings.map Reading.now)
    rw [← instructions] at bound
    rw [← period]
    exact bound
  · have unopened := Gate.neverLate_fresh (by decide : 0 < timerPeriod) setup.start gap
    have bound := (unopened.passAll (by decide : 0 < timerPeriod) near).elapsed
    rw [← timers] at bound
    exact bound
  · have unopened := Gate.neverLate_fresh positive setup.start gap
    have passes : 0 < (Gate.fresh initial.period setup.start).period := positive
    have bound := (unopened.passAll passes near).elapsed
    rw [← instructions] at bound
    rw [← period]
    exact bound

/-- A program that jumps to itself. -/
def spin : List UInt8 := [0x12, 0x00]

theorem spin_keeps_pace :
    let readings : List Reading :=
      [⟨3000000, false⟩, ⟨19000000, false⟩, ⟨18000000, true⟩, ⟨40000000, false⟩]
    let state := Attached.after Keypad.unattached ⟨booted spin, ()⟩ (readings.map .ofReading)
    state.interpreter.count * 2000000 ≤ state.interpreter.lastInstructionTick ∧
      40000000 < 2 * (16666666 + 22000000) + (16666666 : Int) ∧
      40000000 < state.interpreter.count * (2000000 + 22000000) + (2000000 : Int) := by
  intro readings state
  have started := start_booted (show spin.length ≤ Memory.programSpace by decide)
  have unfailing : Attached.Unfailing Keypad.unattached ⟨booted spin, ()⟩
      (readings.map .ofReading) :=
    ⟨by decide +kernel, by decide +kernel, by decide +kernel, by decide +kernel, trivial⟩
  have near : (0 :: readings.map Reading.now).IsChain
      (fun earlier later => later - earlier ≤ 22000000) := by decide
  obtain ⟨_, _, early, late⟩ := gates_keep_pace started unfailing
  obtain ⟨ticks, instructions⟩ := late 22000000 near
  have ticked :
      Attached.ticks Keypad.unattached ⟨booted spin, ()⟩ (readings.map .ofReading) = 2 := by
    decide +kernel
  have period : (booted spin).period = 2000000 := by decide
  rw [ticked] at ticks
  rw [period] at early instructions
  change _ ≤ state.interpreter.lastInstructionTick - 0 at early
  rw [Int.sub_zero] at early
  exact ⟨early, ticks, instructions (by decide)⟩

end Chip8.Interpreter
