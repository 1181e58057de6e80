import Chip8.Interpreter.Step

namespace Chip8.Interpreter

/-! One cycle is what happens at one reading of the clock. The timer gate and the
instruction gate open at most once each, however much time has passed. -/

def lowerFlags (interpreter : Interpreter) : Interpreter :=
  { interpreter with clearRequested := false, displayDirty := false }

def timerGate (interpreter : Interpreter) (now : Int) : Interpreter :=
  if timerPeriod ≤ now - interpreter.lastTimerTick then
    { interpreter with machine := interpreter.machine.tick, lastTimerTick := now }
  else
    interpreter

/-- The tone sounds as long as the sound timer runs. -/
def refreshBeep (interpreter : Interpreter) : Interpreter :=
  { interpreter with beepActive := 0 < interpreter.machine.sound }

def cycle (keypad : Keypad σ) (interpreter : Interpreter) (pad : σ) (cancelled : Bool)
    (now : Int) : Turn σ :=
  let paced := interpreter.lowerFlags.timerGate now
  if paced.period ≤ now - paced.lastInstructionTick then
    let turn := paced.step keypad pad cancelled
    match turn.fault with
    | some _ => turn
    | none =>
        { turn with
          interpreter := { turn.interpreter with lastInstructionTick := now }.refreshBeep }
  else
    { fault := none
      interpreter := paced.refreshBeep
      pad := pad
      cancelled := cancelled
      effects := [] }

/-- A cycle at this time will wait for a key press. -/
def waitsAt (interpreter : Interpreter) (now : Int) : Bool :=
  decide (interpreter.period ≤ now - interpreter.lastInstructionTick) &&
    decide (interpreter.machine.pc.toNat + 1 < Memory.size) &&
    Demand.ofWord interpreter.machine.word == .keyPress

end Chip8.Interpreter
