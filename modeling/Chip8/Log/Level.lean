import Chip8.Text.Case

namespace Chip8.Log

/-! Severity levels, in increasing order. Names are read in any case. -/

inductive Level where
  | debug
  | info
  | warning
  | error
  | critical
deriving DecidableEq, Repr

namespace Level

def all : List Level := [debug, info, warning, error, critical]

def rank : Level → Nat
  | debug => 0
  | info => 1
  | warning => 2
  | error => 3
  | critical => 4

def name : Level → String
  | debug => "DEBUG"
  | info => "INFO"
  | warning => "WARNING"
  | error => "ERROR"
  | critical => "CRITICAL"

def ofName? (text : String) : Option Level :=
  all.find? fun level => level.name == Text.upper text

/-- The terminal color in which the level is shown. -/
def color : Level → String
  | debug => "\x1b[36m"
  | info => "\x1b[32m"
  | warning => "\x1b[33m"
  | error => "\x1b[31m"
  | critical => "\x1b[35m"

/-- Back to the color that the terminal had before. -/
def reset : String := "\x1b[0m"

/-- The color that goes with a name, which is a level or `RESET`. -/
def colorNamed (text : String) : String :=
  match ofName? text with
  | some level => level.color
  | none => if Text.upper text = "RESET" then reset else ""

end Level

end Chip8.Log
