import Chip8.Emulator.Basic

namespace Chip8.Emulator

/-! The main loop. Each turn looks at the pending events, lets the interpreter
cycle once, and passes its signals on to the window and the tone. However the
loop ends, the tone is stopped, the devices are given back, and the number of
executed instructions is told. -/

/-- The user asks to stop by closing the window or by pressing Escape. -/
def asksToStop (events : List Event) : Bool :=
  events.any fun
    | .quit => true
    | .keyDown code => code == Keyboard.escape
    | .other => false

def noteEffects (effects : List Interpreter.Effect) : List Effect :=
  effects.filterMap fun
    | .notice notice => some (.notice notice)
    | .heldQuery | .keyWait => none

/-- How a turn of the loop ends. -/
inductive Pace where
  | going
  | ended
  | failed (error : Error)
deriving DecidableEq, Repr

structure Turn where
  emulator : Emulator
  keys : KeyboardState
  effects : List Effect
  pace : Pace

/-- Start or stop the tone as the sound timer demands. -/
def followSound (emulator : Emulator) : Emulator × List Device.Call :=
  let (beeper, calls) :=
    if emulator.interpreter.beepActive then emulator.beeper.play else emulator.beeper.pause
  ({ emulator with beeper := beeper }, calls)

/-- Show what the last cycle changed. -/
def present (emulator : Emulator) (keys : KeyboardState) (effects : List Effect) : Turn :=
  let interpreter := emulator.interpreter
  let cleared := if interpreter.clearRequested then devices emulator.window.clear else []
  let drawn :=
    if interpreter.displayDirty then
      emulator.window.update interpreter.machine.display (some interpreter.machine)
    else
      .ok []
  match drawn with
  | .error error => ⟨emulator, keys, effects ++ cleared, .failed (.render error)⟩
  | .ok calls =>
      let (next, tone) := emulator.followSound
      ⟨next, keys, effects ++ cleared ++ devices (calls ++ tone), .going⟩

def turn (emulator : Emulator) (keys : KeyboardState) (now : Int) : Turn :=
  let cycled :=
    emulator.interpreter.cycle Keyboard.standard.keypad keys emulator.cancelled now
  let next :=
    { emulator with interpreter := cycled.interpreter, cancelled := cycled.cancelled }
  let notes := noteEffects cycled.effects
  match cycled.fault with
  | some (.waitCancelled _) => ⟨next, cycled.pad, notes ++ notices [.waitEnded], .ended⟩
  | some fault => ⟨next, cycled.pad, notes, .failed (.fault fault)⟩
  | none => next.present cycled.pad notes

def close (emulator : Emulator) : Emulator × List Effect :=
  let (beeper, calls) := emulator.beeper.pause
  ({ emulator with beeper := beeper },
    devices (calls ++ [.quit]) ++ notices [.executed emulator.interpreter.count])

/-- A whole run: where it ended, everything it did, the error that ended it if
there was one, and how many lists of events were left. -/
structure Run where
  emulator : Emulator
  effects : List Effect
  error : Option Error
  left : Nat

def finish (emulator : Emulator) (error : Option Error) (left : Nat) : Run :=
  let (closed, effects) := emulator.close
  ⟨closed, effects, error, left⟩

def Run.after (run : Run) (effects : List Effect) : Run :=
  { run with effects := effects ++ run.effects }

/-- Run with one list of pending events for each turn, the clock advancing by
`pace` from one turn to the next. When the lists are used up, the user quits. -/
def run (emulator : Emulator) (keys : KeyboardState) (now pace : Int) :
    List (List Event) → Run
  | [] => emulator.finish none 0
  | events :: rest =>
      if asksToStop events then
        emulator.finish none rest.length
      else
        let turn := emulator.turn keys now
        match turn.pace with
        | .going => (run turn.emulator turn.keys (now + pace) pace rest).after turn.effects
        | .ended => (turn.emulator.finish none rest.length).after turn.effects
        | .failed error => (turn.emulator.finish (some error) rest.length).after turn.effects

end Chip8.Emulator
