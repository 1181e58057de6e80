import Chip8.Memory

namespace Chip8

/-! The 64 by 32 one-bit display. A row is a word of 64 bits whose most
significant bit is column 0, and `pixel` is the view in which everything is
stated. A sprite is drawn as a whole: its rows are placed on a blank display,
clipped at the right and bottom edges, and the result is combined with the
display by exclusive or. -/

abbrev Display := Vector (BitVec 64) 32

namespace Display

abbrev width : Nat := 64

abbrev height : Nat := 32

def blank : Display := Vector.replicate 32 0

def pixel (display : Display) (row : Fin 32) (column : Fin 64) : Bool :=
  display[row].getMsbD column

/-- Eight pixels with the leftmost in `column`; those past the right edge are
lost. -/
def spriteRow (byte : UInt8) (column : Nat) : BitVec 64 :=
  (byte.toBitVec.setWidth 64 <<< 56) >>> column

/-- The sprite of `rows` bytes from `address` on, with its top left corner at
`(row, column)`. -/
def sprite (memory : Memory) (address row column rows : Nat) : Display :=
  Vector.ofFn fun line =>
    if row ≤ line.val ∧ line.val < row + rows then
      spriteRow (memory.read (address + (line.val - row))) column
    else 0

def xor (left right : Display) : Display :=
  Vector.zipWith (· ^^^ ·) left right

/-- Some pixel is lit in both. -/
def overlaps (left right : Display) : Bool :=
  (Vector.zipWith (· &&& ·) left right).any (· ≠ 0)

@[simp] theorem pixel_blank (row : Fin 32) (column : Fin 64) :
    blank.pixel row column = false := by
  simp [pixel, blank]

@[simp] theorem pixel_xor (left right : Display) (row : Fin 32) (column : Fin 64) :
    (left.xor right).pixel row column =
      (left.pixel row column ^^ right.pixel row column) := by
  simp [pixel, xor]

end Display

end Chip8
