import Chip8.CommandLine.Command

/-! The command on a terminal. Frames are drawn as text; a wait for a key reads a
line, whose end is a request to quit. There is no sound, and no key is ever held. -/

namespace Chip8.Terminal

open Chip8.Emulator

def rowText (display : Display) (row : Fin 32) : String :=
  String.ofList ((List.finRange 64).map fun column =>
    if display.pixel row column then '#' else ' ')

def frameText (display : Display) : String :=
  "\x1b[H" ++ "\n".intercalate ((List.finRange 32).map (rowText display)) ++ "\n"

def secondsNow : IO Float :=
  return (← IO.monoNanosNow).toFloat / 1000000000.0

def printLine (line : Log.Line) : IO Unit :=
  match line.channel with
  | .out => IO.print line.text
  | .err => IO.eprint line.text

def printNotice (logger : Log.Logger) (notice : Log.Notice) : IO Unit := do
  match logger.notice? (← secondsNow) notice with
  | some line => printLine line
  | none => return

/-- Carry out the effects that a terminal can show. -/
def perform (logger : Log.Logger) (display : Display) : List Effect → IO Unit
  | [] => return
  | effect :: rest => do
      match effect with
      | .notice notice => printNotice logger notice
      | .device (.fill .window _) => IO.print "\x1b[2J"
      | .device (.show _ _) => IO.print (frameText display)
      | .device _ => pure ()
      perform logger display rest

def readProgram (path : String) : IO (Except ReadError (List UInt8)) := do
  if path.contains '\x00' then
    return .error .nul
  try
    return .ok (← IO.FS.readBinFile path).toList
  catch error =>
    match error with
    | .noFileOrDirectory .. => return .error .missing
    | .inappropriateType _ _ reason | .permissionDenied _ _ reason =>
        return .error (.other reason)
    | _ => return .error (.other (toString error))

/-- The key presses that a wait will meet. -/
def typedKeys : IO (List Event) := do
  let line ← (← IO.getStdin).getLine
  return (line.toList.filter (· ≠ '\n')).map fun key => .keyDown (Layout.codeOf key)

partial def drive (logger : Log.Logger) (emulator : Emulator) : IO (Option Error) := do
  IO.sleep 1
  let now : Int := (← IO.monoNanosNow)
  let events ← if emulator.interpreter.waitsAt now then typedKeys else pure []
  let turn := emulator.turn ⟨[], events⟩ now
  perform logger turn.emulator.interpreter.machine.display turn.effects
  let finish := fun (error : Option Error) => do
    perform logger Display.blank turn.emulator.close.2
    return error
  match turn.pace with
  | .going => drive logger turn.emulator
  | .ended => finish none
  | .failed error => finish (some error)

def report (logger : Log.Logger) (error : Error) : IO UInt32 := do
  match error.failure? with
  | some failure => printNotice logger (.failed failure)
  | none => IO.eprintln (error.message?.getD "invalid argument")
  return 1

/-- Nothing limits what is drawn as text. A character is one wide and one high. -/
def host : Device.Host where
  room := Capacity.countLimit
  font := { height := 1, lineWidth := fun line => line.length }

def runOptions (options : CommandLine.Options) : IO UInt32 := do
  let logger := { loggerFor options.debug with start := (← secondsNow) }
  let program ← readProgram options.path
  let site : Site :=
    { read := fun _ => program
      audio := { failure := some "no audio device" }
      now := (← IO.monoNanosNow)
      host := host }
  let (effects, created) := Emulator.create (CommandLine.settingsOf options) site
  perform logger Display.blank effects
  match created with
  | .error error => report logger error
  | .ok emulator =>
      match ← drive logger emulator with
      | some error => report logger error
      | none => return 0

end Chip8.Terminal

def main (arguments : List String) : IO UInt32 := do
  match Chip8.CommandLine.parse arguments with
  | .error stop =>
      Chip8.Terminal.printLine stop.output
      return UInt32.ofNat stop.status
  | .ok options => Chip8.Terminal.runOptions options
