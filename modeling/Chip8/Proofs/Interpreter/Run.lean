import Chip8.Proofs.Interpreter.Cycle
import Chip8.Proofs.Machine.Execution

namespace Chip8.Interpreter

/-! Runs of an interpreter. A host makes any calls in any order, whether or not they
fail; the key pad has a state of its own and answers as it likes. What one call does
to the machine is said once, in `next_machine`, and carried along all runs by
`after_induction`. -/

/-- What an interpreter starts with: a fresh machine but for its memory and its seed, and
both gates set to the same time. -/
theorem start_eq {setup : Setup} {initial : Interpreter}
    (started : (start setup).2 = .ok initial) :
    ∃ rng memory, initial =
      { machine := { Machine.fresh rng with memory := memory }
        period := nanosPerSecond / setup.rate.toNat
        debug := setup.debug
        count := 0
        lastTimerTick := setup.start
        lastInstructionTick := setup.start
        clearRequested := false
        displayDirty := false
        beepActive := false } := by
  simp only [start] at started
  split at started
  · contradiction
  · split at started
    · contradiction
    · rename_i rng _
      split at started
      · contradiction
      · rename_i machine loaded
        simp only [Machine.load] at loaded
        split at loaded
        · contradiction
        · cases loaded
          cases started
          exact ⟨rng, _, rfl⟩

theorem start_machine {setup : Setup} {initial : Interpreter}
    (started : (start setup).2 = .ok initial) :
    ∃ rng memory, initial.machine = { Machine.fresh rng with memory := memory } := by
  obtain ⟨rng, memory, rfl⟩ := start_eq started
  exact ⟨rng, memory, rfl⟩

/-- What `start` makes of a program if nothing else is asked for. -/
def booted (program : List UInt8) : Interpreter where
  machine := { Machine.fresh ⟨0, 0⟩ with
    memory := Font.memory.write Memory.programStart program }
  period := nanosPerSecond / defaultRate
  debug := false
  count := 0
  lastTimerTick := 0
  lastInstructionTick := 0
  clearRequested := false
  displayDirty := false
  beepActive := false

theorem start_booted {program : List UInt8} (fits : program.length ≤ Memory.programSpace) :
    (start { program := program }).2 = .ok (booted program) := by
  have seed : Random.Key.ofSeed? 0 = some ⟨0, 0⟩ := rfl
  have room : ¬ Memory.programSpace < program.length := Nat.not_lt_of_le fits
  have rate : ¬ (defaultRate : Int) ≤ 0 := by decide
  simp only [start, seed, Machine.load, if_neg room, if_neg rate]
  rfl

/-- A call of the host. The token that goes with it may have been cancelled before. -/
inductive Call where
  | cycle (now : Int) (cancelled : Bool)
  | step (cancelled : Bool)
deriving DecidableEq, Repr

namespace Call

def cancelled : Call → Bool
  | cycle _ cancelled => cancelled
  | step cancelled => cancelled

/-- The interpreter that the call finds behind the timer gate. -/
def gated (call : Call) (interpreter : Interpreter) : Interpreter :=
  match call with
  | cycle now _ => interpreter.gated now
  | step _ => interpreter

/-- The call tries to execute an instruction. -/
def Attempts (call : Call) (interpreter : Interpreter) : Prop :=
  match call with
  | cycle now _ => interpreter.Due now
  | step _ => True

instance (call : Call) (interpreter : Interpreter) : Decidable (call.Attempts interpreter) :=
  match call with
  | cycle now _ => inferInstanceAs (Decidable (interpreter.Due now))
  | step _ => .isTrue trivial

theorem gated_machine (call : Call) (interpreter : Interpreter) :
    (call.gated interpreter).machine = interpreter.machine ∨
      (call.gated interpreter).machine = interpreter.machine.tick := by
  cases call with
  | cycle now cancelled =>
      simp only [gated, gated_eq]
      split
      · exact .inr rfl
      · exact .inl rfl
  | step cancelled => exact .inl rfl

/-- What the timers' ticks leave alone is the same behind the timer gate. -/
theorem gated_view {α : Sort u} (view : Machine → α)
    (ticked : ∀ machine, view machine.tick = view machine) (call : Call)
    (interpreter : Interpreter) :
    view (call.gated interpreter).machine = view interpreter.machine := by
  rcases call.gated_machine interpreter with machine | machine
  · rw [machine]
  · rw [machine, ticked]

@[simp] theorem gated_pc (call : Call) (interpreter : Interpreter) :
    (call.gated interpreter).machine.pc = interpreter.machine.pc :=
  call.gated_view Machine.pc (fun _ => rfl) interpreter

@[simp] theorem gated_stack (call : Call) (interpreter : Interpreter) :
    (call.gated interpreter).machine.stack = interpreter.machine.stack :=
  call.gated_view Machine.stack (fun _ => rfl) interpreter

@[simp] theorem gated_keys (call : Call) (interpreter : Interpreter) :
    (call.gated interpreter).machine.keys = interpreter.machine.keys :=
  call.gated_view Machine.keys (fun _ => rfl) interpreter

@[simp] theorem gated_word (call : Call) (interpreter : Interpreter) :
    (call.gated interpreter).machine.word = interpreter.machine.word :=
  call.gated_view Machine.word (fun _ => rfl) interpreter

theorem overruns_gated (call : Call) (interpreter : Interpreter) :
    Overruns (call.gated interpreter).machine ↔ Overruns interpreter.machine := by
  rw [Overruns, gated_pc, Overruns]

end Call

/-- An interpreter and the state of the key pad that is attached to it. -/
structure Attached (σ : Type) where
  interpreter : Interpreter
  pad : σ

namespace Attached

variable {σ : Type} (keypad : Keypad σ) (state : Attached σ) (call : Call)

abbrev machine (state : Attached σ) : Machine := state.interpreter.machine

def perform : Turn σ :=
  match call with
  | .cycle now cancelled => state.interpreter.cycle keypad state.pad cancelled now
  | .step cancelled => state.interpreter.step keypad state.pad cancelled

def next : Attached σ where
  interpreter := (state.perform keypad call).interpreter
  pad := (state.perform keypad call).pad

def after (state : Attached σ) : List Call → Attached σ
  | [] => state
  | call :: calls => (state.next keypad call).after calls

/-- The instruction that a call completes, if it completes one. -/
def completed? : Option Instruction :=
  if call.Attempts state.interpreter ∧ (state.perform keypad call).fault = none then
    some (Instruction.ofWord state.machine.word)
  else
    none

theorem completed?_ne_none_iff :
    state.completed? keypad call ≠ none ↔
      call.Attempts state.interpreter ∧ (state.perform keypad call).fault = none := by
  rw [completed?]
  split
  · exact iff_of_true (Option.some_ne_none _) ‹_›
  · exact iff_of_false (fun some => some rfl) ‹_›

/-- The word of the instruction that a call completes. -/
def executed? : Option UInt16 :=
  (state.completed? keypad call).map fun _ => state.machine.word

theorem executed?_cases :
    (state.completed? keypad call = none ∧ state.executed? keypad call = none) ∨
      state.completed? keypad call = some (Instruction.ofWord state.machine.word) ∧
        state.executed? keypad call = some state.machine.word := by
  rw [executed?, completed?]
  split
  · exact .inr ⟨rfl, rfl⟩
  · exact .inl ⟨rfl, rfl⟩

theorem executed?_eq_some_iff {word : UInt16} :
    state.executed? keypad call = some word ↔
      state.completed? keypad call = some (Instruction.ofWord word) ∧
        state.machine.word = word := by
  rw [executed?, completed?]
  split
  · rw [Option.map_some, Option.some_inj, Option.some_inj]
    exact ⟨fun same => ⟨congrArg Instruction.ofWord same, same⟩, And.right⟩
  · exact iff_of_false (by rw [Option.map_none]; exact nofun) fun both => nomatch both.1

/-- An interpreter counts the instructions that it completes. -/
theorem next_count :
    (state.next keypad call).interpreter.count =
      state.interpreter.count + (state.executed? keypad call).toList.length := by
  rw [next, executed?, completed?]
  cases call with
  | step cancelled =>
      rcases step_cases keypad state.interpreter state.pad cancelled with
        ⟨⟨fault, failed⟩, same⟩ | ⟨completed, _, keys, complete⟩
      · simp [perform, failed, same]
      · simp [perform, completed, complete, Interpreter.complete, Call.Attempts]
  | cycle now cancelled =>
      rcases cycle_cases keypad state.interpreter state.pad cancelled now with
        ⟨closed, _, same⟩ | ⟨_, ⟨fault, failed⟩, same⟩ | ⟨due, completed, keys, complete⟩
      · simp [perform, closed, same, refreshBeep, Call.Attempts]
      · simp [perform, failed, same]
      · simp [perform, due, completed, complete, Interpreter.complete, refreshBeep, Call.Attempts]

theorem completed?_eq_some_iff {instruction : Instruction} :
    state.completed? keypad call = some instruction ↔
      (state.next keypad call).interpreter.count = state.interpreter.count + 1 ∧
        Instruction.ofWord state.machine.word = instruction := by
  rw [next_count]
  rcases state.executed?_cases keypad call with ⟨idle, silent⟩ | ⟨completed, executed⟩
  · rw [idle, silent]
    exact iff_of_false nofun fun counted => Nat.ne_of_lt (Nat.lt_succ_self _) counted.1
  · rw [completed, executed, Option.some_inj]
    exact (and_iff_right rfl).symm

/-- The words of the instructions that a run completes. -/
def executedWords (state : Attached σ) : List Call → List UInt16
  | [] => []
  | call :: calls =>
      (state.executed? keypad call).toList ++ (state.next keypad call).executedWords calls

/-- The step that a call makes behind the timer gate, if the instruction gate is open. -/
def attempt : Turn σ :=
  (call.gated state.interpreter).step keypad state.pad call.cancelled

/-- Behind an open gate a call is its step, but for the gates' times and the tone's signal. -/
theorem perform_eq_attempt {call : Call} (attempts : call.Attempts state.interpreter) :
    ∃ interpreter, interpreter.machine = (state.attempt keypad call).interpreter.machine ∧
      state.perform keypad call = { state.attempt keypad call with interpreter := interpreter } := by
  cases call with
  | step cancelled => exact ⟨_, rfl, rfl⟩
  | cycle now cancelled =>
      cases ending : ((state.interpreter.gated now).step keypad state.pad cancelled).fault with
      | some fault => exact ⟨_, rfl, cycle_of_failed attempts ending⟩
      | none =>
          refine ⟨_, ?_, cycle_of_completed attempts ending⟩
          rfl

theorem perform_of_attempts {call : Call} (attempts : call.Attempts state.interpreter) :
    (state.perform keypad call).fault = (state.attempt keypad call).fault ∧
      (state.next keypad call).machine = (state.attempt keypad call).interpreter.machine := by
  obtain ⟨interpreter, machine, turn⟩ := state.perform_eq_attempt keypad attempts
  rw [next, turn]
  exact ⟨rfl, machine⟩

/-- In front of a closed gate a call does nothing but what the timer gate does. -/
theorem perform_eq_idle {call : Call} (idle : ¬ call.Attempts state.interpreter) :
    ∃ interpreter, interpreter.machine = (call.gated state.interpreter).machine ∧
      state.perform keypad call =
        { fault := none
          interpreter := interpreter
          pad := state.pad
          cancelled := call.cancelled
          effects := [] } := by
  cases call with
  | step cancelled => exact absurd trivial idle
  | cycle now cancelled =>
      refine ⟨_, ?_, cycle_of_not_due idle⟩
      rfl

theorem next_of_not_attempts {call : Call} (idle : ¬ call.Attempts state.interpreter) :
    (state.next keypad call).machine = (call.gated state.interpreter).machine := by
  obtain ⟨interpreter, machine, turn⟩ := state.perform_eq_idle keypad idle
  rw [next, turn]
  exact machine

/-- A call completes an instruction on the machine that it finds behind the timer
gate, or it leaves that machine as it is. -/
theorem next_machine :
    (state.completed? keypad call = none ∧
        (state.next keypad call).machine = (call.gated state.interpreter).machine) ∨
      ¬ Overruns state.machine ∧
        state.completed? keypad call = some (Instruction.ofWord state.machine.word) ∧
        ∃ keys, (state.next keypad call).machine =
          (call.gated state.interpreter).machine.round keys := by
  by_cases attempts : call.Attempts state.interpreter
  · obtain ⟨fault, machine⟩ := state.perform_of_attempts keypad attempts
    rw [machine]
    rcases step_cases keypad (call.gated state.interpreter) state.pad call.cancelled with
      ⟨⟨cause, failed⟩, same⟩ | ⟨completed, inside, keys, complete⟩
    · refine .inl ⟨if_neg fun both => ?_, congrArg Interpreter.machine same⟩
      exact Option.some_ne_none cause (failed.symm.trans (fault.symm.trans both.2))
    · rw [call.overruns_gated] at inside
      exact .inr ⟨inside, if_pos ⟨attempts, fault.trans completed⟩, keys,
        congrArg Interpreter.machine complete⟩
  · exact .inl ⟨if_neg fun both => attempts both.1, state.next_of_not_attempts keypad attempts⟩

theorem after_append (first second : List Call) :
    state.after keypad (first ++ second) = (state.after keypad first).after keypad second := by
  induction first generalizing state with
  | nil => rfl
  | cons call calls ih => exact ih (state.next keypad call)

/-- What the timers' ticks and the instructions keep is kept along all runs. -/
theorem after_induction (invariant : Machine → Prop)
    (tick : ∀ machine, invariant machine → invariant machine.tick)
    (round : ∀ machine keys, invariant machine → ¬ Overruns machine →
      invariant (machine.round keys))
    (initial : invariant state.machine) (calls : List Call) :
    invariant (state.after keypad calls).machine := by
  induction calls generalizing state with
  | nil => exact initial
  | cons call calls ih =>
      have gated : invariant (call.gated state.interpreter).machine := by
        rcases call.gated_machine state.interpreter with same | ticked
        · exact same ▸ initial
        · exact ticked ▸ tick _ initial
      refine ih (state.next keypad call) ?_
      rcases state.next_machine keypad call with ⟨_, idle⟩ | ⟨inside, _, keys, completed⟩
      · exact idle ▸ gated
      · rw [← call.overruns_gated] at inside
        exact completed ▸ round _ keys gated inside

theorem next_stack :
    (state.next keypad call).machine.stack =
      match state.completed? keypad call with
      | some (.call _) => state.machine.stack.push (state.machine.pc + 2)
      | some .ret => state.machine.stack.pop.2
      | _ => state.machine.stack := by
  rcases state.next_machine keypad call with ⟨idle, machine⟩ | ⟨_, completed, keys, machine⟩
  · rw [idle, machine, Call.gated_stack]
  · rw [completed, machine, Machine.round_stack, Call.gated_word, Call.gated_pc,
      Call.gated_stack]
    cases Instruction.ofWord state.machine.word <;> rfl

theorem next_pc_of_ret (returns : state.completed? keypad call = some .ret) :
    (state.next keypad call).machine.pc = state.machine.stack.pop.1 := by
  rcases state.next_machine keypad call with ⟨idle, _⟩ | ⟨_, completed, keys, machine⟩
  · rw [idle] at returns
    contradiction
  · rw [completed, Option.some_inj, ← call.gated_word] at returns
    rw [machine, Machine.round_pc_of_ret _ keys returns, Call.gated_stack]

theorem next_pc_of_call {target : Address}
    (calls : state.completed? keypad call = some (.call target)) :
    (state.next keypad call).machine.pc = UInt16.ofNat target := by
  rcases state.next_machine keypad call with ⟨idle, _⟩ | ⟨_, completed, keys, machine⟩
  · rw [idle] at calls
    contradiction
  · rw [completed, Option.some_inj, ← call.gated_word] at calls
    rw [machine, Machine.round_pc_of_call _ keys calls]

end Attached

end Chip8.Interpreter
