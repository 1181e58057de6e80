import Chip8.Capacity
import Chip8.Rounding

namespace Chip8.Sound

/-! One second of a square wave in 16-bit samples. The high half of each period
comes first and includes its middle. -/

/-- A frequency or a volume. Whole numbers are reckoned with in 64 bits, all others
in binary floating point. -/
inductive Amount where
  | whole (value : Int)
  | real (value : Float)

def Amount.check : Amount → Except CapacityError Unit
  | whole value => Capacity.checkCount value
  | real _ => .ok ()

/-- The larger of the amount and its negative may be taken without a sign. -/
def Amount.checkBothSigns : Amount → Except CapacityError Unit
  | whole value => if value.natAbs ≤ Capacity.countLimit then .ok () else .error .count
  | real _ => .ok ()

/-- As many periods as the first `index` samples have at one sample a second. -/
def periods (frequency : Amount) (index : Nat) : Float :=
  match frequency with
  | .whole value => Float.ofInt ((index * value).bmod 0x10000000000000000)
  | .real value => index.toFloat * value

/-- The distance to the next lower integer; a tiny negative number may round up
to one. -/
def fractionOf (value : Float) : Float :=
  let whole := if value < 0.0 then value.ceil else value.floor
  let rest := value - whole
  if rest < 0.0 then rest + 1.0 else rest

def phase (frequency : Amount) (rate index : Nat) : Float :=
  fractionOf (periods frequency index / rate.toFloat)

/-- Drop the fraction and keep the low sixteen bits of a 32-bit integer; values
beyond 32 bits become the least integer. -/
def toSample (value : Float) : Int :=
  let whole : Int :=
    if value.abs < 2147483648.0 then value.toInt64.toInt else -2147483648
  whole.bmod 65536

def level (volume : Amount) (high : Bool) : Int :=
  match volume with
  | .whole value => ((if high then value else -value) * 32767).bmod 65536
  | .real value => toSample ((if high then value else -value) * 32767.0)

def sampleAt (frequency : Amount) (rate : Nat) (volume : Amount) (index : Nat) : Int :=
  level volume (phase frequency rate index ≤ 0.5)

/-- The number of samples is the rate in binary floating point, held in 64 bits, where
2^63 comes out below zero. Below zero there are none. Each sample takes eight bytes
while the wave is made. -/
def sampleCount (room : Nat) (rate : Int) : Except CapacityError Nat :=
  let count := Rounding.binary rate
  if count < -(Capacity.countLimit : Int) ∨ (Capacity.countLimit : Int) < count then
    .error .size
  else if count = Capacity.countLimit then .ok 0
  else (Capacity.checkBytes room (8 * count.toNat)).map fun _ => count.toNat

/-- A rate beyond 64 bits leaves no samples for the frequency to be multiplied with. -/
def squareWave (room : Nat) (frequency : Amount) (rate : Int) (volume : Amount) :
    Except CapacityError (List Int) := do
  let count ← sampleCount room rate
  if Capacity.isCount rate then
    frequency.check
  volume.checkBothSigns
  return (List.range count).map (sampleAt frequency count volume)

abbrev defaultFrequency : Amount := .real 440.0

abbrev defaultRate : Nat := 44100

abbrev defaultVolume : Amount := .real 0.2

end Chip8.Sound
