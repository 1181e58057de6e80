import Chip8.Emulator.Run

namespace Chip8.Emulator

/-! A session is an emulator from its construction to the end of its run, in a world
that is known in advance. -/

/-- All that happens around a run: the files and the audio device, the clock, the
keys held and the events that waits will meet, and the events of each turn. -/
structure World where
  site : Site
  pace : Int
  keys : KeyboardState
  polls : List (List Event)

/-- How an emulator did: what it did to the world, the run if there was one, and
how many lists of events were left. -/
structure Session where
  effects : List Effect
  result : Except Error Emulator
  left : Nat

/-- Build an emulator and let it run to its end. -/
def Session.of (settings : Settings) (world : World) : Session :=
  let (opened, created) := create settings world.site
  match created with
  | .error error => ⟨opened, .error error, world.polls.length⟩
  | .ok emulator =>
      let run := emulator.run world.keys (world.site.now + world.pace) world.pace world.polls
      ⟨opened ++ run.effects,
        match run.error with
        | some error => .error error
        | none => .ok run.emulator,
        run.left⟩

def Session.calls (session : Session) : List Device.Call :=
  session.effects.filterMap fun
    | .device call => some call
    | .notice _ => none

def Session.notices (session : Session) : List Log.Notice :=
  session.effects.filterMap fun
    | .device _ => none
    | .notice notice => some notice

/-- The logger of a run, on a clock that stands still. -/
def loggerFor (debug : Bool) : Log.Logger where
  name := "chip8vm"
  threshold := if debug then .debug else .info
  colored := false
  stamped := true
  start := 0.0

def linesFor (debug : Bool) (notices : List Log.Notice) : List Log.Line :=
  notices.filterMap ((loggerFor debug).notice? 0.0)

end Chip8.Emulator
