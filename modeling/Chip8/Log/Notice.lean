import Chip8.Failure
import Chip8.Instruction.Text
import Chip8.Log.Logger

namespace Chip8.Log

/-! What is worth telling about a run, each with its level and its wording. -/

inductive Notice where
  | fontLoaded
  | programLoaded (size : Nat) (rate : Int)
  | fetched (pc word : UInt16)
  | callDropped (pc : UInt16) (target : Nat)
  | returnInvented (pc : UInt16)
  | programRead (path : String)
  | audioDisabled (reason : String)
  | waitEnded
  | executed (count : Nat)
  | failed (failure : Failure)
deriving DecidableEq

namespace Notice

def level : Notice → Level
  | fontLoaded => .debug
  | programLoaded _ _ => .info
  | fetched _ _ => .debug
  | callDropped _ _ => .warning
  | returnInvented _ => .warning
  | programRead _ => .info
  | audioDisabled _ => .warning
  | waitEnded => .info
  | executed _ => .info
  | failed _ => .critical

def text : Notice → String
  | fontLoaded => "Fonts loaded in memory"
  | programLoaded size rate =>
      "Loaded ROM (" ++ Numeral.decimalNat size ++ " bytes), " ++ Numeral.decimal rate ++
        " instructions/s"
  | fetched pc word =>
      "0x" ++ Numeral.hexNat 3 pc.toNat ++ ": " ++ Numeral.hexNat 4 word.toNat ++ "  " ++
        Instruction.disassemble word.toNat
  | callDropped pc target =>
      "Stack overflow at 0x" ++ Numeral.hexNat 3 pc.toNat ++ ": call to 0x" ++
        Numeral.hexNat 3 target ++ " not recorded"
  | returnInvented pc =>
      "Stack underflow at 0x" ++ Numeral.hexNat 3 pc.toNat ++ ": returning to 0x000"
  | programRead path => "Read " ++ path
  | audioDisabled reason => "Audio disabled: " ++ reason
  | waitEnded => "Key wait cancelled, shutting down"
  | executed count => "Executed " ++ Numeral.decimalNat count ++ " instructions"
  | failed failure => failure.text

end Notice

/-- The line for a notice, if the logger lets it through. -/
def Logger.notice? (logger : Logger) (now : Float) (notice : Notice) : Option Line :=
  logger.line? now notice.level.name notice.text

end Chip8.Log
