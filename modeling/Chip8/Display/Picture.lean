import Chip8.Display.Bitmap
import Chip8.Display.Color
import Chip8.Capacity

namespace Chip8

/-! Color pictures of the display. A picture is a list of rows; magnifying it
repeats every row and then every pixel in its row. -/

structure Picture where
  rows : List (List Color)
deriving DecidableEq

namespace Picture

def height (picture : Picture) : Nat := picture.rows.length

def width (picture : Picture) : Nat := (picture.rows.head?.map List.length).getD 0

def pixel? (picture : Picture) (row column : Nat) : Option Color :=
  picture.rows[row]?.bind (·[column]?)

/-- Every row that many times. -/
def repeatRows (picture : Picture) (count : Nat) : Picture where
  rows := picture.rows.flatMap (List.replicate count)

/-- In every row, every pixel that many times. -/
def repeatColumns (picture : Picture) (count : Nat) : Picture where
  rows := picture.rows.map fun row => row.flatMap (List.replicate count)

def magnify (picture : Picture) (scale : Nat) : Picture :=
  (picture.repeatRows scale).repeatColumns scale

/-- One picture element for each display pixel. -/
def ofDisplay (display : Display) (palette : Palette) : Picture where
  rows := (List.finRange 32).map fun row =>
    (List.finRange 64).map fun column =>
      if display.pixel row column then palette.on else palette.off

/-- The bytes of the display in color before it is magnified. -/
abbrev plainBytes : Nat := 3 * Display.width * Display.height

/-- The arrays that are made for a picture. Every row is repeated first, every pixel in
its row second. At scale 1 nothing is repeated. -/
def checkScale (room scale : Nat) : Except CapacityError Unit := do
  Capacity.checkBytes room plainBytes
  if scale = 1 then
    return
  Capacity.checkCount scale
  Capacity.checkBytes room (plainBytes * scale)
  Capacity.checkBytes room (plainBytes * scale * scale)

end Picture

/-- The display in two colors, every pixel a square of `scale` by `scale`. -/
def Display.render (display : Display) (scale : Nat) (palette : Palette) : Picture :=
  let plain := Picture.ofDisplay display palette
  if 1 < scale then plain.magnify scale else plain

end Chip8
