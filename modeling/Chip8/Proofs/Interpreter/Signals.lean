import Chip8.Proofs.Instruction.Form
import Chip8.Proofs.Interpreter.Run

namespace Chip8.Interpreter

/-! What a cycle tells the screen. It asks for clearing if it completed the instruction
that clears, it asks for drawing if it completed one that draws, and whatever it asked for
before is forgotten. A display of which nothing is told has not changed. -/

/-- What `after` asks for, if the instruction `completed` was the only one to be completed
since `before`. -/
structure Signals (before after : Interpreter) (completed : Option Instruction) : Prop where
  cleared : after.clearRequested = true ↔ completed = some .clear
  drawn : after.displayDirty = true ↔ ∃ x y rows, completed = some (.draw x y rows)
  blank : completed = some .clear → after.machine.display = Display.blank
  kept : after.clearRequested = false → after.displayDirty = false →
    after.machine.display = before.machine.display

theorem gated_display (interpreter : Interpreter) (now : Int) :
    (interpreter.gated now).machine.display = interpreter.machine.display :=
  (Call.cycle now false).gated_view Machine.display (fun _ => rfl) interpreter

theorem Signals.idle {before after : Interpreter} (cleared : after.clearRequested = false)
    (drawn : after.displayDirty = false)
    (same : after.machine.display = before.machine.display) : Signals before after none where
  cleared := by simp only [cleared, Bool.false_eq_true, reduceCtorEq]
  drawn := by simp only [drawn, Bool.false_eq_true, reduceCtorEq, exists_false]
  blank completed := nomatch completed
  kept _ _ := same

/-- The two signals of a completed instruction, told by its meaning. -/
theorem complete_asks (interpreter : Interpreter) (keys : Keys) :
    ((interpreter.complete keys).clearRequested = true ↔
        interpreter.clearRequested = true ∨
          Instruction.ofWord interpreter.machine.word = .clear) ∧
      ((interpreter.complete keys).displayDirty = true ↔
        interpreter.displayDirty = true ∨
          ∃ x y rows, Instruction.ofWord interpreter.machine.word = .draw x y rows) := by
  have clears : (Fields.ofInt interpreter.machine.word.toNat).raw = 0x00E0 ↔
      interpreter.machine.word = 0x00E0 := Instruction.raw_eq_iff interpreter.machine.word 0x00E0
  have draws : (Fields.ofInt interpreter.machine.word.toNat).family.val =
      Instruction.family interpreter.machine.word :=
    Instruction.toNat_family interpreter.machine.word
  -- The word that clears is of the first family, so it is not one that draws.
  have apart : interpreter.machine.word = 0x00E0 →
      Instruction.family interpreter.machine.word ≠ 0xD := by
    rintro word
    rw [word]
    decide
  rw [Instruction.ofWord_eq_clear_iff, Instruction.exists_ofWord_eq_draw_iff]
  constructor
  · simp only [complete, Bool.or_eq_true, beq_iff_eq, clears]
  · simp only [complete, Bool.or_eq_true, Bool.and_eq_true, Bool.not_eq_true', beq_eq_false_iff_ne,
      beq_iff_eq, ne_eq, clears, draws]
    exact or_congr_right ⟨And.right, fun drawn => ⟨fun word => apart word drawn, drawn⟩⟩

theorem complete_signals {interpreter : Interpreter} (cleared : interpreter.clearRequested = false)
    (drawn : interpreter.displayDirty = false) (keys : Keys) :
    Signals interpreter (interpreter.complete keys)
      (some (Instruction.ofWord interpreter.machine.word)) where
  cleared := by
    rw [(interpreter.complete_asks keys).1, cleared, Option.some_inj]
    exact or_iff_right Bool.false_ne_true
  drawn := by
    simp only [(interpreter.complete_asks keys).2, drawn, Option.some_inj]
    exact or_iff_right Bool.false_ne_true
  blank completed := by
    have display := interpreter.machine.round_display keys
    rw [Option.some_inj.mp completed] at display
    exact display
  kept noClear noDraw := by
    rw [Bool.eq_false_iff, ne_eq, (interpreter.complete_asks keys).1] at noClear
    rw [Bool.eq_false_iff, ne_eq, (interpreter.complete_asks keys).2] at noDraw
    have display := interpreter.machine.round_display keys
    cases instruction : Instruction.ofWord interpreter.machine.word with
    | clear => exact absurd (.inr instruction) noClear
    | draw x y rows => exact absurd (.inr ⟨x, y, rows, instruction⟩) noDraw
    | _ => rw [instruction] at display; exact display

namespace Attached

variable {σ : Type} (keypad : Keypad σ) (state : Attached σ)

theorem cycle_signals (cancelled : Bool) (now : Int) :
    Signals state.interpreter (state.next keypad (.cycle now cancelled)).interpreter
      (state.completed? keypad (.cycle now cancelled)) := by
  have lowered : (state.interpreter.gated now).clearRequested = false ∧
      (state.interpreter.gated now).displayDirty = false := by
    rw [gated_eq]
    exact ⟨rfl, rfl⟩
  have display := state.interpreter.gated_display now
  rcases cycle_cases keypad state.interpreter state.pad cancelled now with
    ⟨closed, _, after⟩ | ⟨_, ⟨fault, failed⟩, after⟩ | ⟨due, unfailed, keys, after⟩
  · have none : state.completed? keypad (.cycle now cancelled) = none :=
      if_neg fun both => closed both.1
    rw [none, next, perform, after]
    exact .idle lowered.1 lowered.2 display
  · have none : state.completed? keypad (.cycle now cancelled) = none :=
      if_neg fun both => Option.some_ne_none fault (failed.symm.trans both.2)
    rw [none, next, perform, after]
    exact .idle lowered.1 lowered.2 display
  · have some : state.completed? keypad (.cycle now cancelled) =
        some (Instruction.ofWord state.machine.word) := if_pos ⟨due, unfailed⟩
    have word := (Call.cycle now cancelled).gated_word state.interpreter
    have signals := complete_signals lowered.1 lowered.2 keys
    rw [Call.gated] at word
    rw [word] at signals
    rw [some, next, perform, after]
    exact { signals with kept := fun noClear noDraw => (signals.kept noClear noDraw).trans display }

end Attached

theorem cycle_display_of_failed {σ : Type} {keypad : Keypad σ} {interpreter : Interpreter}
    {pad : σ} {cancelled : Bool} {now : Int} {fault : Fault}
    (failed : (interpreter.cycle keypad pad cancelled now).fault = some fault) :
    (interpreter.cycle keypad pad cancelled now).interpreter.machine.display =
      interpreter.machine.display := by
  rcases cycle_cases keypad interpreter pad cancelled now with
    ⟨_, unfailed, _⟩ | ⟨_, _, after⟩ | ⟨_, unfailed, _⟩
  · rw [unfailed] at failed
    contradiction
  · rw [after, gated_display]
  · rw [unfailed] at failed
    contradiction

/-- After a cycle, returned or failed, the signals for the screen tell what this cycle has
completed, whatever they told before: the instruction that clears the display, or one that draws.
An instruction is completed if it is counted. If nothing is told the display is the one before,
and if clearing is told it is blank. -/
theorem screen_signals_are_exact {σ : Type} (keypad : Keypad σ) (interpreter : Interpreter)
    (pad : σ) (cancelled : Bool) (now : Int) :
    let turn := interpreter.cycle keypad pad cancelled now
    let after := turn.interpreter
    let completed := after.count = interpreter.count + 1
    (completed ↔ interpreter.Due now ∧ turn.fault = none) ∧
      (after.clearRequested = true ↔ completed ∧ interpreter.machine.word = 0x00E0) ∧
      (after.displayDirty = true ↔
        completed ∧ Instruction.family interpreter.machine.word = 0xD) ∧
      ¬ (after.clearRequested = true ∧ after.displayDirty = true) ∧
      (after.clearRequested = false → after.displayDirty = false →
        after.machine.display = interpreter.machine.display) ∧
      (after.clearRequested = true → after.machine.display = Display.blank) := by
  intro turn after completed
  let state : Attached σ := ⟨interpreter, pad⟩
  have signals : Signals interpreter after (state.completed? keypad (.cycle now cancelled)) :=
    state.cycle_signals keypad cancelled now
  have completes {instruction : Instruction} :
      state.completed? keypad (.cycle now cancelled) = some instruction ↔
        completed ∧ Instruction.ofWord interpreter.machine.word = instruction :=
    state.completed?_eq_some_iff keypad (.cycle now cancelled)
  have cleared : after.clearRequested = true ↔ completed ∧ interpreter.machine.word = 0x00E0 := by
    rw [signals.cleared, completes, Instruction.ofWord_eq_clear_iff]
  have drawn : after.displayDirty = true ↔
      completed ∧ Instruction.family interpreter.machine.word = 0xD := by
    simp only [signals.drawn, completes, exists_and_left, Instruction.exists_ofWord_eq_draw_iff]
  have completed_iff : completed ↔ interpreter.Due now ∧ turn.fault = none := by
    have some := state.completed?_ne_none_iff keypad (.cycle now cancelled)
    simp only [Option.ne_none_iff_exists', completes, exists_and_left, exists_eq', and_true] at some
    exact some
  refine ⟨completed_iff, cleared, drawn, ?_, signals.kept, ?_⟩
  · rintro ⟨clears, draws⟩
    have family := (drawn.mp draws).2
    rw [(cleared.mp clears).2] at family
    contradiction
  · intro clears
    exact signals.blank (signals.cleared.mp clears)

end Chip8.Interpreter
