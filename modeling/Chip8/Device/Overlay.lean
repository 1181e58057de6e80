import Chip8.Device.Call

namespace Chip8.Device

/-! Lines of text on a translucent box. The box is as wide as the widest line and
as high as all lines, with a margin of 8 on either side and 4 above and below. -/

structure Font where
  height : Int
  lineWidth : String → Int

/-- What the devices find where they are: the bytes that there is room for in an array,
and a font for text. -/
structure Host where
  room : Nat
  font : Font

structure Overlay where
  x : Int
  y : Int
  background : List Int := Color.black.components
  foreground : List Int := Color.white.components
  alpha : Int := 120

namespace Overlay

def widest (font : Font) : List String → Int
  | [] => 0
  | [line] => font.lineWidth line
  | line :: rest => max (font.lineWidth line) (widest font rest)

def lineCalls (overlay : Overlay) (font : Font) (lines : List String) : List Call :=
  lines.zipIdx.flatMap fun (line, index) =>
    [ .text line true overlay.foreground,
      .blit .window .text (overlay.x + 8) (overlay.y + 4 + index * font.height) ]

/-- Nothing is drawn for no lines. -/
def draw (overlay : Overlay) (font : Font) (lines : List String) : List Call :=
  if lines.isEmpty then
    []
  else
    [ .open .overlay (some (widest font lines + 16)) (some (lines.length * font.height + 8)),
      .alpha .overlay overlay.alpha,
      .fill .overlay overlay.background,
      .blit .window .overlay overlay.x overlay.y ] ++ overlay.lineCalls font lines

end Overlay

end Chip8.Device
