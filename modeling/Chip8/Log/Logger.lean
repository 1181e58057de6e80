import Chip8.Log.Level
import Chip8.Text.Fixed

namespace Chip8.Log

/-! Leveled lines for a console. A level that is not one of the five counts as
`info` and is shown as it was given. Errors go to the second channel, the rest to
the first. -/

inductive Channel where
  | out
  | err
deriving DecidableEq, Repr

structure Line where
  channel : Channel
  text : String
deriving DecidableEq, Repr

/-- The seconds that a clock will show; the last reading stays. -/
structure Clock where
  current : Float
  later : List Float

namespace Clock

def still (seconds : Float) : Clock := ⟨seconds, []⟩

def ofReadings : List Float → Clock
  | [] => still 0
  | first :: later => ⟨first, later⟩

def read (clock : Clock) : Float × Clock :=
  match clock.later with
  | [] => (clock.current, clock)
  | next :: later => (clock.current, ⟨next, later⟩)

end Clock

structure Logger where
  name : String
  threshold : Level
  colored : Bool
  stamped : Bool
  start : Float

structure Settings where
  name : String := "chip8vm"
  level : String := "INFO"
  colored : Bool := true
  stamped : Bool := true

/-- A threshold that names no level. -/
structure UnknownLevel where
  name : String
deriving DecidableEq, Repr

def UnknownLevel.message (error : UnknownLevel) : String :=
  "Unknown log level '" ++ error.name ++
    "'. Available: ['DEBUG', 'INFO', 'WARNING', 'ERROR', 'CRITICAL']"

/-- The threshold of a logger that was only told whether to debug. -/
def levelFor (debug : Bool) : String := if debug then "DEBUG" else "INFO"

namespace Logger

/-- Colors are used on a terminal only. -/
def create (settings : Settings) (terminal : Bool) (start : Float) :
    Except UnknownLevel Logger :=
  match Level.ofName? settings.level with
  | some threshold =>
      .ok { name := settings.name
            threshold := threshold
            colored := settings.colored && terminal
            stamped := settings.stamped
            start := start }
  | none => .error ⟨settings.level⟩

def rankOf (level : String) : Nat :=
  ((Level.ofName? level).getD .info).rank

def enabled (logger : Logger) (level : String) : Bool :=
  logger.threshold.rank ≤ rankOf level

def channel (level : String) : Channel :=
  if Level.error.rank ≤ rankOf level then .err else .out

def levelText (logger : Logger) (level : String) : String :=
  let plain := "[" ++ Text.alignRight 8 level ++ "]"
  if logger.colored then
    Level.colorNamed level ++ plain ++ Level.reset
  else
    plain

def stampText (logger : Logger) (now : Float) : String :=
  if logger.stamped then
    "[" ++ Text.alignRight 8 (Text.fixed 2 (now - logger.start)) ++ "s]"
  else
    ""

def format (logger : Logger) (now : Float) (level message : String) : String :=
  logger.stampText now ++ logger.levelText level ++ "[" ++ logger.name ++ "] " ++ message

def line? (logger : Logger) (now : Float) (level message : String) : Option Line :=
  if logger.enabled level then
    some ⟨channel level, logger.format now level message ++ "\n"⟩
  else
    none

/-- The clock is read only for a line that is written with a stamp. -/
def write (logger : Logger) (clock : Clock) (level message : String) :
    Option Line × Clock :=
  if logger.enabled level && logger.stamped then
    (logger.line? clock.read.1 level message, clock.read.2)
  else
    (logger.line? logger.start level message, clock)

end Logger

end Chip8.Log
