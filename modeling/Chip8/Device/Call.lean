import Chip8.Display.Picture

namespace Chip8.Device

/-! What is asked of the window and of the audio device, as data. -/

inductive Surface where
  | window
  | overlay
  | text
deriving DecidableEq, Repr

structure AudioFormat where
  rate : Int
  size : Int
  channels : Int
deriving DecidableEq, Repr

/-- Signed 16-bit samples, mono, at the usual rate. -/
def AudioFormat.standard : AudioFormat := ⟨44100, -16, 1⟩

/-- A tone has one list of samples for all its channels. -/
structure Tone where
  samples : List Int
  channels : Nat
deriving DecidableEq, Repr

/-- Colors are passed on by their components. A window of which the size was left
blank is opened without one. -/
inductive Call where
  | reserveAudio (format : AudioFormat)
  | start
  | quit
  | openAudio (format : AudioFormat)
  | makeTone (tone : Tone)
  | playTone (loops : Int)
  | stopTone
  | open (surface : Surface) (width height : Option Int)
  | caption (title : String)
  | flip
  | fill (surface : Surface) (color : List Int)
  | alpha (surface : Surface) (value : Int)
  | blit (onto what : Surface) (x y : Int)
  | text (line : String) (smooth : Bool) (color : List Int)
  | show (surface : Surface) (picture : Picture)
deriving DecidableEq

end Chip8.Device
