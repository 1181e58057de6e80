import Chip8.Proofs.Interpreter.Cycle

namespace Chip8.Interpreter

/-! Changes of an interpreter that its turns do not notice. If a change leaves the machine alone
and every part of a cycle commutes with it, then steps and cycles commute with it too: they fail,
ask the key pad and warn as they would without it. -/

variable {σ : Type} {change : Interpreter → Interpreter} {tell : List Effect → List Effect}
  {read : Int → Int} {machine : Machine}

def Effect.isTrace : Effect → Bool
  | .notice (.fetched _ _) => true
  | _ => false

theorem isTrace_of_mem_sense_effects (keypad : Keypad σ) (machine : Machine) (pad : σ)
    (cancelled : Bool) :
    ∀ effect ∈ (sense keypad machine pad cancelled).effects, effect.isTrace = false := by
  intro effect member
  rcases mem_sense_effects member with rfl | rfl <;> rfl

theorem isTrace_of_mem_warnings : ∀ effect ∈ warnings machine, effect.isTrace = false := by
  intro effect member
  rcases mem_warnings member with ⟨pc, target, rfl⟩ | ⟨pc, rfl⟩ <;> rfl

/-- The interpreter that is built around a machine. -/
def Setup.around (setup : Setup) (machine : Machine) : Interpreter where
  machine := machine
  period := nanosPerSecond / setup.rate.toNat
  debug := setup.debug
  count := 0
  lastTimerTick := setup.start
  lastInstructionTick := setup.start
  clearRequested := false
  displayDirty := false
  beepActive := false

/-- A setup with the same program, rate and seed fails in the same way, or it starts with the
same machine. -/
theorem start_map {setup other : Setup} (program : other.program = setup.program)
    (rate : other.rate = setup.rate) (seed : other.seed = setup.seed)
    (built : ∀ machine, other.around machine = change (setup.around machine)) :
    start other = ((start setup).1, (start setup).2.map change) := by
  rw [start, start, rate, seed, program]
  by_cases stopped : setup.rate ≤ 0
  · rw [if_pos stopped, if_pos stopped]
    rfl
  · rw [if_neg stopped, if_neg stopped]
    cases Random.Key.ofSeed? setup.seed with
    | none => rfl
    | some rng =>
        dsimp only
        cases (Machine.fresh rng).load setup.program with
        | error error => rfl
        | ok machine =>
            have same := built machine
            rw [Setup.around, rate] at same
            dsimp only
            rw [same]
            rfl

/-- The same turn of a changed interpreter. -/
def Turn.map (change : Interpreter → Interpreter) (tell : List Effect → List Effect)
    (turn : Turn σ) : Turn σ :=
  { turn with interpreter := change turn.interpreter, effects := tell turn.effects }

/-- Every part of a cycle commutes with the change, once the clock is read as `read`, and of all
that is told `tell` alters the trace only. -/
structure Unnoticed (change : Interpreter → Interpreter) (tell : List Effect → List Effect)
    (read : Int → Int) : Prop where
  machine : ∀ interpreter, (change interpreter).machine = interpreter.machine
  complete : ∀ interpreter keys,
    (change interpreter).complete keys = change (interpreter.complete keys)
  gated : ∀ interpreter now,
    (change interpreter).gated (read now) = change (interpreter.gated now)
  due : ∀ interpreter now, (change interpreter).Due (read now) ↔ interpreter.Due now
  opened : ∀ interpreter now,
    { change interpreter with lastInstructionTick := read now } =
      change { interpreter with lastInstructionTick := now }
  refreshBeep : ∀ interpreter, (change interpreter).refreshBeep = change interpreter.refreshBeep
  silent : tell [] = []
  traced : ∀ interpreter effects, (∀ effect ∈ effects, effect.isTrace = false) →
    tell (interpreter.trace ++ effects) = (change interpreter).trace ++ effects

namespace Unnoticed

theorem step (unnoticed : Unnoticed change tell read) (keypad : Keypad σ)
    (interpreter : Interpreter) (pad : σ) (cancelled : Bool) :
    (change interpreter).step keypad pad cancelled =
      (interpreter.step keypad pad cancelled).map change tell := by
  have machine := unnoticed.machine interpreter
  by_cases overruns : Overruns interpreter.machine
  · rw [step_of_overruns overruns, step_of_overruns (machine ▸ overruns), machine]
    simp only [Turn.map, unnoticed.silent]
  · have inside : ¬ Overruns (change interpreter).machine := machine ▸ overruns
    cases sensed : (sense keypad interpreter.machine pad cancelled).keys with
    | error fault =>
        rw [step_of_refused overruns sensed, step_of_refused inside (machine ▸ sensed), machine]
        simp only [Turn.map, unnoticed.traced _ _ (isTrace_of_mem_sense_effects _ _ _ _)]
    | ok keys =>
        have quiet : ∀ effect ∈ (sense keypad interpreter.machine pad cancelled).effects ++
            warnings interpreter.machine, effect.isTrace = false := by
          intro effect member
          rcases List.mem_append.mp member with asked | warned
          · exact isTrace_of_mem_sense_effects _ _ _ _ effect asked
          · exact isTrace_of_mem_warnings effect warned
        rw [step_of_sensed overruns sensed, step_of_sensed inside (machine ▸ sensed), machine]
        simp only [Turn.map, List.append_assoc, unnoticed.traced _ _ quiet, unnoticed.complete]

theorem cycle (unnoticed : Unnoticed change tell read) (keypad : Keypad σ)
    (interpreter : Interpreter) (pad : σ) (cancelled : Bool) (now : Int) :
    (change interpreter).cycle keypad pad cancelled (read now) =
      (interpreter.cycle keypad pad cancelled now).map change tell := by
  have gate := unnoticed.gated interpreter now
  have turn := unnoticed.step keypad (interpreter.gated now) pad cancelled
  rw [← gate] at turn
  by_cases due : interpreter.Due now
  · have due' := (unnoticed.due interpreter now).mpr due
    cases ending : ((interpreter.gated now).step keypad pad cancelled).fault with
    | some fault =>
        have failed := (congrArg Turn.fault turn).trans ending
        rw [cycle_of_failed due ending, cycle_of_failed due' failed, turn]
    | none =>
        have completed := (congrArg Turn.fault turn).trans ending
        rw [cycle_of_completed due ending, cycle_of_completed due' completed, turn]
        simp only [Turn.map, unnoticed.opened, unnoticed.refreshBeep]
  · have closed := mt (unnoticed.due interpreter now).mp due
    rw [cycle_of_not_due due, cycle_of_not_due closed, gate]
    simp only [Turn.map, unnoticed.refreshBeep, unnoticed.silent]

end Unnoticed

end Chip8.Interpreter
