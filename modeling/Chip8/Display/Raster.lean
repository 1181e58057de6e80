import Chip8.Display.Picture
import Chip8.Text.Numeral

namespace Chip8

/-! Pictures of data that is not known to be a display: nested lists of cells of
any shape, a scale that may be too small or too large, and colors given by any
number of components. -/

inductive Raster where
  | cell (lit : Bool)
  | row (entries : List Raster)
deriving Inhabited

inductive RenderError where
  | ragged
  | shape (found : List Nat)
  | noScale
  | scale (given : Int)
  | capacity (error : CapacityError)
  | component (given : Int)
  | components (count : Nat)
deriving DecidableEq, Repr

namespace RenderError

/-- A list of lengths in parentheses; a single one is followed by a comma. -/
def shapeText (shape : List Nat) : String :=
  match shape with
  | [single] => "(" ++ Numeral.decimalNat single ++ ",)"
  | _ => "(" ++ ", ".intercalate (shape.map Numeral.decimalNat) ++ ")"

/-- Ragged data, impossible colors and pictures that are too large have no wording
of their own. -/
def message? : RenderError → Option String
  | ragged => none
  | shape found => some ("Expected display shape (32, 64), got " ++ shapeText found)
  | noScale => none
  | scale given => some ("scale must be >= 1, got " ++ Numeral.decimal given)
  | capacity _ => none
  | component _ => none
  | components _ => none

end RenderError

namespace Raster

/-- Data can be nested this deep. -/
abbrev depthLimit : Nat := 64

mutual

/-- The lengths from the outside in, if all parts of one depth agree. -/
def shape? : Raster → Option (List Nat)
  | cell _ => some []
  | row entries => (sharedShape? entries).map fun shared =>
      entries.length :: shared.getD []

/-- The shape that all entries have; an empty list leaves it open. -/
def sharedShape? : List Raster → Option (Option (List Nat))
  | [] => some none
  | entry :: rest =>
      match entry.shape?, sharedShape? rest with
      | some shape, some none => some (some shape)
      | some shape, some (some other) => if shape = other then some (some shape) else none
      | _, _ => none

end

mutual

/-- The cells in reading order. -/
def cells : Raster → List Bool
  | cell lit => [lit]
  | row entries => allCells entries

def allCells : List Raster → List Bool
  | [] => []
  | entry :: rest => entry.cells ++ allCells rest

end

end Raster

namespace Display

/-- The row word whose columns are given from the left. -/
def rowOf (columns : List Bool) : BitVec 64 :=
  columns.foldl (fun word lit => word <<< 1 ||| (if lit then 1 else 0)) 0

def ofCells (cells : List Bool) : Display :=
  Vector.ofFn fun row => rowOf ((cells.drop (64 * row.val)).take 64)

def ofRaster (raster : Raster) : Except RenderError Display :=
  match raster.shape? with
  | none => .error .ragged
  | some shape =>
      if Raster.depthLimit < shape.length then .error .ragged
      else if shape = [32, 64] then .ok (ofCells raster.cells)
      else .error (.shape shape)

end Display

/-- One component stands for all three. -/
def Color.ofComponents (components : List Int) : Except RenderError Color :=
  match components.find? fun component => component < 0 ∨ 255 < component with
  | some component => .error (.component component)
  | none =>
      match components.map fun component => UInt8.ofNat component.toNat with
      | [gray] => .ok ⟨gray, gray, gray⟩
      | [red, green, blue] => .ok ⟨red, green, blue⟩
      | other => .error (.components other.length)

def Picture.scaleOf (given : Int) : Except RenderError Nat :=
  if given < 1 then .error (.scale given) else .ok given.toNat

/-- Render at a scale that may be too large for the room that there is. -/
def Display.renderChecked (display : Display) (room scale : Nat) (palette : Palette) :
    Except RenderError Picture :=
  match Picture.checkScale room scale with
  | .error error => .error (.capacity error)
  | .ok () => .ok (display.render scale palette)

/-- Render what may turn out not to be a display, checking the shape, whether the
scale is too small, the lit color, the unlit color and whether the scale is too
large in this order. -/
def Raster.render (raster : Raster) (room : Nat) (scale : Int) (on off : List Int) :
    Except RenderError Picture := do
  let display ← Display.ofRaster raster
  let scale ← Picture.scaleOf scale
  let on ← Color.ofComponents on
  let off ← Color.ofComponents off
  display.renderChecked room scale ⟨on, off⟩

end Chip8
