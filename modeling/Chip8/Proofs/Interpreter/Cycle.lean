import Chip8.Interpreter.Cycle
import Chip8.Proofs.Interpreter.Step

namespace Chip8.Interpreter

/-! When a cycle fails, and what it leaves behind. The timer gate comes first and is
never undone; behind it a cycle is a step, or nothing if the instruction gate is
closed. -/

variable {σ : Type} {keypad : Keypad σ} {interpreter : Interpreter} {pad : σ}
  {cancelled : Bool} {now : Int}

/-- The interpreter behind the timer gate of a cycle. -/
def gated (interpreter : Interpreter) (now : Int) : Interpreter :=
  interpreter.lowerFlags.timerGate now

/-- The timer gate moves nothing but the timers and the time of their last tick. -/
theorem gated_eq (interpreter : Interpreter) (now : Int) :
    interpreter.gated now =
      { interpreter with
        machine :=
          if timerPeriod ≤ now - interpreter.lastTimerTick then interpreter.machine.tick
          else interpreter.machine
        lastTimerTick :=
          if timerPeriod ≤ now - interpreter.lastTimerTick then now
          else interpreter.lastTimerTick
        clearRequested := false
        displayDirty := false } := by
  by_cases due : timerPeriod ≤ now - interpreter.lastTimerTick <;>
    simp only [gated, timerGate, lowerFlags, due, if_true, if_false]

@[simp] theorem gated_count (interpreter : Interpreter) (now : Int) :
    (interpreter.gated now).count = interpreter.count := by
  rw [gated_eq]

/-- The instruction gate is open. -/
def Due (interpreter : Interpreter) (now : Int) : Prop :=
  interpreter.period ≤ now - interpreter.lastInstructionTick

instance (interpreter : Interpreter) (now : Int) : Decidable (interpreter.Due now) :=
  inferInstanceAs (Decidable (interpreter.period ≤ now - interpreter.lastInstructionTick))

theorem due_gated : (interpreter.gated now).Due now ↔ interpreter.Due now := by
  rw [gated_eq]
  rfl

theorem cycle_of_not_due (closed : ¬ interpreter.Due now) :
    interpreter.cycle keypad pad cancelled now =
      { fault := none
        interpreter := (interpreter.gated now).refreshBeep
        pad := pad
        cancelled := cancelled
        effects := [] } := by
  rw [← due_gated, Due] at closed
  exact if_neg closed

theorem cycle_of_failed {fault : Fault} (due : interpreter.Due now)
    (failed : ((interpreter.gated now).step keypad pad cancelled).fault = some fault) :
    interpreter.cycle keypad pad cancelled now =
      (interpreter.gated now).step keypad pad cancelled := by
  rw [← due_gated, Due] at due
  rw [gated] at due failed ⊢
  simp only [cycle, if_pos due, failed]

theorem cycle_of_completed (due : interpreter.Due now)
    (completed : ((interpreter.gated now).step keypad pad cancelled).fault = none) :
    interpreter.cycle keypad pad cancelled now =
      { (interpreter.gated now).step keypad pad cancelled with
        interpreter :=
          { ((interpreter.gated now).step keypad pad cancelled).interpreter with
            lastInstructionTick := now }.refreshBeep } := by
  rw [← due_gated, Due] at due
  rw [gated] at due completed ⊢
  simp only [cycle, if_pos due, completed]

/-- A cycle leaves what it finds behind the timer gate, but for the signal of the tone; or
it fails there and leaves even that; or it completes one instruction there. -/
theorem cycle_cases (keypad : Keypad σ) (interpreter : Interpreter) (pad : σ)
    (cancelled : Bool) (now : Int) :
    (¬ interpreter.Due now ∧ (interpreter.cycle keypad pad cancelled now).fault = none ∧
        (interpreter.cycle keypad pad cancelled now).interpreter =
          (interpreter.gated now).refreshBeep) ∨
      (interpreter.Due now ∧
        (∃ fault, (interpreter.cycle keypad pad cancelled now).fault = some fault) ∧
        (interpreter.cycle keypad pad cancelled now).interpreter = interpreter.gated now) ∨
      interpreter.Due now ∧ (interpreter.cycle keypad pad cancelled now).fault = none ∧
        ∃ keys, (interpreter.cycle keypad pad cancelled now).interpreter =
          { (interpreter.gated now).complete keys with lastInstructionTick := now }.refreshBeep := by
  by_cases due : interpreter.Due now
  · rcases step_cases keypad (interpreter.gated now) pad cancelled with
      ⟨⟨fault, failed⟩, same⟩ | ⟨completed, _, keys, complete⟩
    · rw [cycle_of_failed due failed]
      exact .inr (.inl ⟨due, ⟨fault, failed⟩, same⟩)
    · rw [cycle_of_completed due completed, complete]
      exact .inr (.inr ⟨due, completed, keys, rfl⟩)
  · rw [cycle_of_not_due due]
    exact .inl ⟨due, rfl, rfl⟩

theorem cycle_outcome (due : interpreter.Due now) :
    Outcome (interpreter.gated now) pad cancelled (keypad.await pad).1
      (interpreter.cycle keypad pad cancelled now) := by
  have outcome := step_outcome keypad (interpreter.gated now) pad cancelled
  cases ending : ((interpreter.gated now).step keypad pad cancelled).fault with
  | some fault =>
      rw [cycle_of_failed due ending]
      exact outcome
  | none =>
      rw [cycle_of_completed due ending]
      exact {
        verdict := outcome.verdict
        silent := outcome.silent
        counted := outcome.counted
        unchanged := fun failed => absurd ending failed }

/-- Steps and cycles fail under exactly the stated conditions. A step that fails
changes nothing; a cycle that fails leaves what the timer gate alone would leave. -/
theorem faults_are_exact_and_atomic (keypad : Keypad σ) (interpreter : Interpreter) (pad : σ)
    (cancelled : Bool) (now : Int) :
    Outcome interpreter pad cancelled (keypad.await pad).1
      (interpreter.step keypad pad cancelled) ∧
    (interpreter.Due now →
      Outcome (interpreter.gated now) pad cancelled (keypad.await pad).1
        (interpreter.cycle keypad pad cancelled now)) ∧
    (¬ interpreter.Due now →
      (interpreter.cycle keypad pad cancelled now).fault = none ∧
        (interpreter.cycle keypad pad cancelled now).interpreter.count = interpreter.count) ∧
    ((interpreter.cycle keypad pad cancelled now).fault ≠ none →
      (interpreter.cycle keypad pad cancelled now).interpreter =
        { interpreter with
          machine :=
            if timerPeriod ≤ now - interpreter.lastTimerTick then interpreter.machine.tick
            else interpreter.machine
          lastTimerTick :=
            if timerPeriod ≤ now - interpreter.lastTimerTick then now
            else interpreter.lastTimerTick
          clearRequested := false
          displayDirty := false }) := by
  refine ⟨step_outcome keypad interpreter pad cancelled, cycle_outcome, ?_, ?_⟩
  · intro closed
    rw [cycle_of_not_due closed, gated_eq]
    exact ⟨rfl, rfl⟩
  · intro failed
    rw [← gated_eq]
    by_cases due : interpreter.Due now
    · exact (cycle_outcome due).unchanged failed
    · rw [cycle_of_not_due due] at failed
      contradiction

end Chip8.Interpreter
