import Chip8.Machine.Execute
import Chip8.Log.Notice

namespace Chip8

/-! The interpreter: a machine, the two gates that pace its timers and its
instructions by a common clock in nanoseconds, and the signals for the screen and
the tone. -/

abbrev nanosPerSecond : Nat := 1000000000

/-- The timers tick at about 60 Hz. -/
abbrev timerPeriod : Nat := 16666666

/-- Instructions per second unless something else is asked for. -/
abbrev defaultRate : Nat := 500

structure Interpreter where
  machine : Machine
  period : Nat
  debug : Bool
  count : Nat
  lastTimerTick : Int
  lastInstructionTick : Int
  clearRequested : Bool
  displayDirty : Bool
  beepActive : Bool
deriving DecidableEq

namespace Interpreter

structure Setup where
  program : List UInt8
  rate : Int := defaultRate
  start : Int := 0
  seed : Int := 0
  debug : Bool := false

inductive StartError where
  | rate (given : Int)
  | seed (given : Int)
  | program (error : OversizedProgram)
deriving DecidableEq, Repr

end Interpreter

def OversizedProgram.failure (error : OversizedProgram) : Failure where
  kind := .oversizedProgram
  message :=
    "ROM is " ++ Numeral.decimalNat error.size ++ " bytes, at most " ++
      Numeral.decimalNat Memory.programSpace ++ " fit above 0x" ++
      Numeral.hexNat 3 Memory.programStart
  pc := none

namespace Interpreter

def StartError.failure? : StartError → Option Failure
  | .rate _ => none
  | .seed _ => none
  | .program error => some error.failure

/-- A seed that is too large for its type has no wording of its own. -/
def StartError.message? : StartError → Option String
  | .rate given =>
      some ("instructions_per_second must be positive, got " ++ Numeral.decimal given)
  | .seed _ => none
  | .program error => some error.failure.text

/-- Build an interpreter with the font and the program in memory. The rate is
checked first, then the seed, then the size of the program. -/
def start (setup : Setup) : List Log.Notice × Except StartError Interpreter :=
  if setup.rate ≤ 0 then
    ([], .error (.rate setup.rate))
  else
    match Random.Key.ofSeed? setup.seed with
    | none => ([], .error (.seed setup.seed))
    | some rng =>
        match (Machine.fresh rng).load setup.program with
        | .error error => ([.fontLoaded], .error (.program error))
        | .ok machine =>
            ([.fontLoaded, .programLoaded setup.program.length setup.rate],
              .ok { machine := machine
                    period := nanosPerSecond / setup.rate.toNat
                    debug := setup.debug
                    count := 0
                    lastTimerTick := setup.start
                    lastInstructionTick := setup.start
                    clearRequested := false
                    displayDirty := false
                    beepActive := false })

end Interpreter

end Chip8
