import Chip8.Device.Beeper
import Chip8.Device.Window
import Chip8.Interpreter.Cycle
import Chip8.Keypad.Keyboard

namespace Chip8

/-! The emulator: an interpreter, a window that shows its display, and a tone that
follows its sound timer. Building one reads the program, starts the interpreter
and only then opens the devices, in this order. -/

structure Emulator where
  interpreter : Interpreter
  window : Device.Window
  beeper : Device.Beeper
  cancelled : Bool

namespace Emulator

abbrev defaultScale : Nat := 10

/-- The settings of a run. Those that may be left blank are missed only where they
are needed. -/
structure Settings where
  title : String
  path : String
  scale : Option Int := some defaultScale
  rate : Option Int := some defaultRate
  debug : Bool := false
  scheme : Option String := some "classic"
  seed : Option Int := some 0

/-- Why a program cannot be read. -/
inductive ReadError where
  | missing
  | directory
  | notDirectory
  | nameTooLong
  | other (reason : String)
  | nul
deriving DecidableEq, Repr

/-- A path with a NUL character is refused without a reason. -/
def ReadError.reason? : ReadError → Option String
  | missing => some "No such file or directory"
  | directory => some "Is a directory"
  | notDirectory => some "Not a directory"
  | nameTooLong => some "File name too long"
  | other reason => some reason
  | nul => none

inductive Error where
  | read (path : String) (error : ReadError)
  | noRate
  | noSeed
  | start (error : Interpreter.StartError)
  | noScheme
  | scheme (error : UnknownScheme)
  | tone (error : CapacityError)
  | render (error : RenderError)
  | fault (fault : Interpreter.Fault)
deriving DecidableEq, Repr

namespace Error

def readFailure (path reason : String) : Failure where
  kind := .unreadableProgram
  message := "Cannot read ROM '" ++ path ++ "': " ++ reason
  pc := none

/-- The errors that are reported to the user; the others are faults of the call. -/
def failure? : Error → Option Failure
  | read path error => error.reason?.map (readFailure path)
  | start error => error.failure?
  | noRate | noSeed | noScheme | scheme _ | tone _ | render _ => none
  | fault cause => cause.failure?

def message? : Error → Option String
  | read path error => (error.reason?.map (readFailure path)).map Failure.text
  | start error => error.message?
  | noRate | noSeed | noScheme | tone _ => none
  | scheme error => some error.message
  | render error => error.message?
  | fault cause => some cause.message

end Error

/-- What an emulator does to the world, in order. -/
inductive Effect where
  | device (call : Device.Call)
  | notice (notice : Log.Notice)
deriving DecidableEq

/-- Where an emulator is built: what each path holds, the audio device, the time, and
what the devices find there. -/
structure Site where
  read : String → Except ReadError (List UInt8)
  audio : Device.Audio
  now : Int
  host : Device.Host

def devices (calls : List Device.Call) : List Effect := calls.map .device

def notices (notes : List Log.Notice) : List Effect := notes.map .notice

def openWindow (settings : Settings) (host : Device.Host) :
    Except Error (Device.Window × List Device.Call) :=
  match settings.scheme with
  | none => .error .noScheme
  | some scheme =>
      match Device.Window.create host settings.title settings.scale scheme settings.debug with
      | .error error => .error (.scheme error)
      | .ok opened => .ok opened

/-- Open the window and the tone. If one of them cannot be made, the devices are
given back. -/
def openDevices (settings : Settings) (site : Site) (interpreter : Interpreter) :
    List Effect × Except Error Emulator :=
  let opening := devices [.reserveAudio .standard, .start]
  match openWindow settings site.host with
  | .error error => (opening ++ devices [.quit], .error error)
  | .ok (window, windowCalls) =>
      let tone := Device.Beeper.create site.host.room site.audio Sound.defaultFrequency
        Sound.defaultRate
      let opened := opening ++ devices (windowCalls ++ tone.calls) ++ notices tone.notices
      match tone.beeper with
      | .error error => (opened ++ devices [.quit], .error (.tone error))
      | .ok beeper =>
          (opened ++ devices window.clear, .ok ⟨interpreter, window, beeper, false⟩)

/-- Start the interpreter with what was read. -/
def startInterpreter (settings : Settings) (now : Int) (program : List UInt8) :
    List Log.Notice × Except Error Interpreter :=
  match settings.rate, settings.seed with
  | none, _ => ([], .error .noRate)
  | some _, none => ([], .error .noSeed)
  | some rate, some seed =>
      let (started, interpreter) := Interpreter.start
        { program := program
          rate := rate
          start := now
          seed := seed
          debug := settings.debug }
      (started, interpreter.mapError .start)

def create (settings : Settings) (site : Site) : List Effect × Except Error Emulator :=
  match site.read settings.path with
  | .error error => ([], .error (.read settings.path error))
  | .ok program =>
      let (started, interpreter) := startInterpreter settings site.now program
      let read := notices (.programRead settings.path :: started)
      match interpreter with
      | .error error => (read, .error error)
      | .ok interpreter =>
          let (opened, emulator) := openDevices settings site interpreter
          (read ++ opened, emulator)

end Emulator

end Chip8
