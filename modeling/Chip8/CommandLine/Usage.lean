import Chip8.CommandLine.Options
import Chip8.Log.Logger

namespace Chip8.CommandLine

/-! What the command prints when it runs no program. -/

def usage : String :=
  "usage: chip8vm [-h] [-s SCALE] [-i EMULATION_IPS] [-d]\n" ++
  "               [--color-scheme \x7bamber,blue,classic,green,retro\x7d] [--seed SEED]\n" ++
  "               rom_path\n"

def help : String :=
  usage ++
  "\n" ++
  "Simple CHIP-8 emulator\n" ++
  "\n" ++
  "positional arguments:\n" ++
  "  rom_path              Path to ROM file\n" ++
  "\n" ++
  "options:\n" ++
  "  -h, --help            show this help message and exit\n" ++
  "  -s SCALE, --scale SCALE\n" ++
  "                        Positive integer for screen scale, default 10 for\n" ++
  "                        resolution 640 x 320\n" ++
  "  -i EMULATION_IPS, --emulation-ips EMULATION_IPS\n" ++
  "                        Number of instructions per second for emulation,\n" ++
  "                        default 500\n" ++
  "  -d, --debug           Trace every instruction and show registers\n" ++
  "  --color-scheme \x7bamber,blue,classic,green,retro\x7d\n" ++
  "  --seed SEED           Seed for the CXNN random source\n"

namespace Stop

def output : Stop → Log.Line
  | help => ⟨.out, CommandLine.help⟩
  | problem cause => ⟨.err, usage ++ "chip8vm: error: " ++ cause.message ++ "\n"⟩

def status : Stop → Nat
  | help => 0
  | problem _ => 2

end Stop

end Chip8.CommandLine
