import Chip8.CommandLine.Parse
import Chip8.CommandLine.Usage
import Chip8.Emulator.Session

namespace Chip8.CommandLine

/-! The command from its arguments to its exit status. -/

/-- What the command leaves behind. An error that is not reported to the user
escapes instead of an exit status. -/
structure Outcome where
  exit : Except Emulator.Error Nat
  lines : List Log.Line
  calls : List Device.Call
  left : Nat

def settingsOf (options : Options) : Emulator.Settings where
  title := "CHIP-8 Emulation"
  path := options.path
  scale := options.scale
  rate := options.rate
  debug := options.debug
  scheme := options.scheme
  seed := options.seed

/-- The exit status of a run, and the failure to report before it. -/
def exitOf (session : Emulator.Session) : Except Emulator.Error Nat × List Log.Notice :=
  match session.result with
  | .ok _ => (.ok 0, [])
  | .error error =>
      match error.failure? with
      | some failure => (.ok 1, [.failed failure])
      | none => (.error error, [])

def command (arguments : List String) (world : Emulator.World) : Outcome :=
  match parse arguments with
  | .error stop => ⟨.ok stop.status, [stop.output], [], world.polls.length⟩
  | .ok options =>
      let session := Emulator.Session.of (settingsOf options) world
      let (exit, report) := exitOf session
      ⟨exit, Emulator.linesFor options.debug (session.notices ++ report), session.calls, session.left⟩

end Chip8.CommandLine
