import Chip8.Device.Call
import Chip8.Log.Notice
import Chip8.Sound.SquareWave

namespace Chip8.Device

/-! The tone. Without an audio device it is silent, but it still remembers whether
it should be sounding. -/

/-- The audio device: the format in which it is open already, or else the reason
why it cannot be opened, or else the format that it settles on. -/
structure Audio where
  current : Option AudioFormat := none
  failure : Option String := none
  granted : Option AudioFormat := none

structure Beeper where
  audible : Bool
  playing : Bool
deriving DecidableEq, Repr

namespace Beeper

/-- Each sample takes two bytes on every channel. Without samples, the bytes of one
sample are counted. -/
def toneFor (room : Nat) (frequency : Sound.Amount) (format : AudioFormat) :
    Except CapacityError Tone := do
  let samples ← Sound.squareWave room frequency format.rate Sound.defaultVolume
  if format.channels ≤ 1 then
    return ⟨samples, 1⟩
  Capacity.checkCount format.channels
  if samples.isEmpty then
    if Capacity.countLimit ≤ 2 * format.channels.toNat then
      .error .size
  else
    Capacity.checkBytes room (2 * samples.length * format.channels.toNat)
  return ⟨samples, format.channels.toNat⟩

/-- A new tone with what was done to make it, also when that failed. -/
structure Making where
  calls : List Call
  notices : List Log.Notice
  beeper : Except CapacityError Beeper

def withFormat (room : Nat) (opening : List Call) (frequency : Sound.Amount)
    (format : AudioFormat) : Making :=
  match toneFor room frequency format with
  | .error error => ⟨opening, [], .error error⟩
  | .ok tone => ⟨opening ++ [.makeTone tone], [], .ok ⟨true, false⟩⟩

def create (room : Nat) (audio : Audio) (frequency : Sound.Amount) (rate : Int) : Making :=
  match audio.current with
  | some format => withFormat room [] frequency format
  | none =>
      let wanted : AudioFormat := ⟨rate, -16, 1⟩
      match audio.failure with
      | some reason =>
          ⟨[.openAudio wanted], [.audioDisabled reason], .ok ⟨false, false⟩⟩
      | none => withFormat room [.openAudio wanted] frequency (audio.granted.getD wanted)

def play (beeper : Beeper) : Beeper × List Call :=
  ({ beeper with playing := true },
    if beeper.audible && !beeper.playing then [.playTone (-1)] else [])

def pause (beeper : Beeper) : Beeper × List Call :=
  ({ beeper with playing := false },
    if beeper.audible && beeper.playing then [.stopTone] else [])

end Beeper

end Chip8.Device
