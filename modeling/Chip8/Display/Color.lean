namespace Chip8

/-! Colors and the five pairs of colors in which the display can be shown. -/

structure Color where
  red : UInt8
  green : UInt8
  blue : UInt8
deriving DecidableEq, Repr

/-- How a color is given to a device. -/
def Color.components (color : Color) : List Int :=
  [color.red.toNat, color.green.toNat, color.blue.toNat]

def Color.white : Color := ⟨255, 255, 255⟩

def Color.black : Color := ⟨0, 0, 0⟩

/-- A lit and an unlit color. -/
structure Palette where
  on : Color
  off : Color
deriving DecidableEq, Repr

inductive Scheme where
  | classic
  | green
  | amber
  | blue
  | retro
deriving DecidableEq, Repr

namespace Scheme

def all : List Scheme := [classic, green, amber, blue, retro]

def name : Scheme → String
  | classic => "classic"
  | green => "green"
  | amber => "amber"
  | blue => "blue"
  | retro => "retro"

def palette : Scheme → Palette
  | classic => ⟨⟨255, 255, 255⟩, ⟨0, 0, 0⟩⟩
  | green => ⟨⟨0, 255, 0⟩, ⟨0, 0, 0⟩⟩
  | amber => ⟨⟨255, 176, 0⟩, ⟨0, 0, 0⟩⟩
  | blue => ⟨⟨0, 255, 255⟩, ⟨0, 0, 64⟩⟩
  | retro => ⟨⟨255, 255, 0⟩, ⟨64, 0, 64⟩⟩

def ofName? (text : String) : Option Scheme :=
  all.find? fun scheme => scheme.name == text

end Scheme

structure UnknownScheme where
  name : String
deriving DecidableEq, Repr

def UnknownScheme.message (error : UnknownScheme) : String :=
  "Unknown color scheme '" ++ error.name ++
    "'. Available: ['classic', 'green', 'amber', 'blue', 'retro']"

def Palette.named (text : String) : Except UnknownScheme Palette :=
  match Scheme.ofName? text with
  | some scheme => .ok scheme.palette
  | none => .error ⟨text⟩

end Chip8
