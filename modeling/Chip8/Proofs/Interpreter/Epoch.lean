import Chip8.Proofs.Interpreter.Run
import Chip8.Proofs.Interpreter.Unnoticed
import Mathlib.Logic.Function.Basic

namespace Chip8.Interpreter

/-! The clock of a host may begin anywhere. An interpreter looks at nothing but the time that
has gone by since its gates last opened. So when the start and every reading of the clock are
shifted by the same time, forward or back, each call does what it did, and the times that the
gates remember are shifted with it. -/

variable {σ : Type}

/-- The same interpreter by a clock that is this far ahead. -/
def shift (delta : Int) (interpreter : Interpreter) : Interpreter :=
  { interpreter with
    lastTimerTick := interpreter.lastTimerTick + delta
    lastInstructionTick := interpreter.lastInstructionTick + delta }

def Setup.shift (delta : Int) (setup : Setup) : Setup :=
  { setup with start := setup.start + delta }

theorem start_shift (delta : Int) (setup : Setup) :
    start (setup.shift delta) = ((start setup).1, (start setup).2.map (shift delta)) :=
  start_map rfl rfl rfl fun _ => rfl

theorem unnoticed_shift (delta : Int) : Unnoticed (shift delta) id (· + delta) where
  machine _ := rfl
  complete _ _ := rfl
  gated interpreter now := by
    simp only [gated_eq, shift, Int.add_sub_add_right]
    split <;> rfl
  due interpreter now := by
    simp only [Due, shift, Int.add_sub_add_right]
  opened _ _ := rfl
  refreshBeep _ := rfl
  silent := rfl
  traced _ _ _ := rfl

/-- What a host does with an interpreter: it makes a call, with one of its tokens or with
none, or it cancels a token. -/
inductive Action where
  | cycle (now : Int) (token : Option Nat)
  | step (token : Option Nat)
  | cancel (token : Nat)
deriving DecidableEq, Repr

namespace Action

def shift (delta : Int) : Action → Action
  | cycle now token => cycle (now + delta) token
  | step token => step token
  | cancel token => cancel token

def token? : Action → Option Nat
  | cycle _ token | step token => token
  | cancel token => some token

end Action

/-- An interpreter with its key pad, and which tokens have been cancelled. -/
structure Hosted (σ : Type) extends Attached σ where
  tokens : Nat → Bool

namespace Hosted

/-- A call without a token is given one of its own. -/
def cancelled (hosted : Hosted σ) (token : Option Nat) : Bool :=
  token.elim false hosted.tokens

def perform (keypad : Keypad σ) (hosted : Hosted σ) : Action → Turn σ
  | .cycle now token => hosted.toAttached.perform keypad (.cycle now (hosted.cancelled token))
  | .step token => hosted.toAttached.perform keypad (.step (hosted.cancelled token))
  | .cancel _ =>
      { fault := none
        interpreter := hosted.interpreter
        pad := hosted.pad
        cancelled := true
        effects := [] }

def next (keypad : Keypad σ) (hosted : Hosted σ) (action : Action) : Hosted σ where
  interpreter := (hosted.perform keypad action).interpreter
  pad := (hosted.perform keypad action).pad
  tokens :=
    match action.token? with
    | none => hosted.tokens
    | some token => Function.update hosted.tokens token (hosted.perform keypad action).cancelled

/-- The turns that come of a list of actions, one for each. -/
def turns (keypad : Keypad σ) (hosted : Hosted σ) : List Action → List (Turn σ)
  | [] => []
  | action :: actions =>
      hosted.perform keypad action :: (hosted.next keypad action).turns keypad actions

def shift (delta : Int) (hosted : Hosted σ) : Hosted σ :=
  { hosted with interpreter := hosted.interpreter.shift delta }

theorem perform_shift (keypad : Keypad σ) (delta : Int) (hosted : Hosted σ) (action : Action) :
    (hosted.shift delta).perform keypad (action.shift delta) =
      (hosted.perform keypad action).map (Interpreter.shift delta) id := by
  cases action with
  | cycle now token =>
      exact (unnoticed_shift delta).cycle keypad hosted.interpreter hosted.pad
        (hosted.cancelled token) now
  | step token =>
      exact (unnoticed_shift delta).step keypad hosted.interpreter hosted.pad
        (hosted.cancelled token)
  | cancel token => rfl

theorem next_shift (keypad : Keypad σ) (delta : Int) (hosted : Hosted σ) (action : Action) :
    (hosted.shift delta).next keypad (action.shift delta) =
      (hosted.next keypad action).shift delta := by
  have token : (action.shift delta).token? = action.token? := by
    cases action <;> rfl
  simp only [next, perform_shift, token]
  rfl

theorem turns_shift (keypad : Keypad σ) (delta : Int) (hosted : Hosted σ)
    (actions : List Action) :
    (hosted.shift delta).turns keypad (actions.map (Action.shift delta)) =
      (hosted.turns keypad actions).map (Turn.map (Interpreter.shift delta) id) := by
  induction actions generalizing hosted with
  | nil => rfl
  | cons action actions ih =>
      rw [List.map_cons, turns, turns, List.map_cons, perform_shift, next_shift, ih]

end Hosted

/-- Wherever a clock begins, an interpreter that is started by it tells the same, fails to
start in the same way, and from any state on makes the same turns, whatever its host does and
in whatever order the clock is read: the same faults, notices and queries of the key pad, and
the same state but for the times of the gates, which move with the clock. -/
theorem epoch_is_irrelevant (keypad : Keypad σ) (setup : Setup) (delta : Int) :
    (start (setup.shift delta)).1 = (start setup).1 ∧
    (start (setup.shift delta)).2 = (start setup).2.map (shift delta) ∧
    ∀ (interpreter : Interpreter) (pad : σ) (tokens : Nat → Bool) (actions : List Action),
      Hosted.turns keypad ⟨⟨interpreter.shift delta, pad⟩, tokens⟩
          (actions.map (Action.shift delta)) =
        (Hosted.turns keypad ⟨⟨interpreter, pad⟩, tokens⟩ actions).map
          (Turn.map (shift delta) id) := by
  rw [start_shift]
  exact ⟨rfl, rfl, fun interpreter pad tokens actions =>
    Hosted.turns_shift keypad delta ⟨⟨interpreter, pad⟩, tokens⟩ actions⟩

end Chip8.Interpreter
