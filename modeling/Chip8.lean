import Chip8.Text.Numeral
import Chip8.Instruction.Text
import Chip8.Machine.Execute
import Chip8.Log.Notice
import Chip8.Text.Integer
import Chip8.Text.Quoted
import Chip8.Interpreter.Cycle
import Chip8.Keypad.Keyboard
import Chip8.Device.Window
import Chip8.Device.Beeper
import Chip8.CommandLine.Command
import Chip8.Main
import Chip8.Proofs.CallStack
import Chip8.Proofs.Machine.Execution
import Chip8.Proofs.Interpreter.Step
import Chip8.Proofs.Interpreter.Cycle
import Chip8.Proofs.Interpreter.Run
import Chip8.Proofs.Interpreter.Subroutine
import Chip8.Proofs.Interpreter.Counter
import Chip8.Proofs.Display.Pixels
import Chip8.Proofs.Instruction.Decode
import Chip8.Proofs.Machine.Drawing
import Chip8.Proofs.Keypad.Held
import Chip8.Proofs.Interpreter.KeyWait
import Chip8.Proofs.Interpreter.Snapshot
import Chip8.Proofs.Interpreter.Pace
import Chip8.Proofs.Device.Frame
import Chip8.Proofs.Interpreter.Signals
import Chip8.Proofs.Emulator.Creation
import Chip8.Proofs.Emulator.Mirror
import Chip8.Proofs.Instruction.Form
import Chip8.Proofs.Machine.Footprint
import Chip8.Proofs.Interpreter.Draws
import Chip8.Proofs.Interpreter.StackWarnings
import Chip8.Proofs.CommandLine.Accepted
import Chip8.Proofs.Emulator.Ending
import Chip8.Proofs.Emulator.Session
import Chip8.Proofs.CommandLine.ExitStatus
import Chip8.Proofs.Machine.Timers
import Chip8.Proofs.Interpreter.Schedule
import Chip8.Proofs.Interpreter.ToneSignal
import Chip8.Proofs.Device.Tone
import Chip8.Proofs.Emulator.Tone
import Chip8.Proofs.CallStack.Refinement
import Chip8.Proofs.Instruction.Text
import Chip8.Proofs.Machine.Idle
import Chip8.Proofs.Interpreter.KeyPresses
import Chip8.Proofs.Emulator.Release
import Chip8.Proofs.Machine.Superposition
import Chip8.Proofs.Machine.Blocks
import Chip8.Proofs.Machine.Arithmetic
import Chip8.Proofs.Text.Numeral
import Chip8.Proofs.Instruction.Encoding
import Chip8.Proofs.Instruction.Assembly
import Chip8.Proofs.Machine.Loading
import Chip8.Proofs.Interpreter.Unnoticed
import Chip8.Proofs.Interpreter.Epoch
import Chip8.Proofs.Interpreter.Trace
import Chip8.Proofs.Keypad.Layout
import Chip8.Proofs.Keypad.Keyboard
import Chip8.Proofs.Display.Rendering
import Chip8.Proofs.Random.Threefry
import Chip8.Proofs.Random.Source
