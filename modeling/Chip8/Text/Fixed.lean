import Chip8.Rounding
import Chip8.Text.Numeral

namespace Chip8.Text

/-! Binary floating-point numbers written with a fixed number of places. The exact
value is rounded once, a half going to the even neighbor. -/

/-- A number as its sign and the fields of its magnitude. -/
inductive Binary where
  | finite (negative : Bool) (mantissa : Nat) (exponent : Int)
  | infinite (negative : Bool)
  | undefined

/-- Fractions have 52 bits. -/
abbrev fractionRange : Nat := 0x10000000000000

def Binary.ofFloat (value : Float) : Binary :=
  let bits := value.toBits.toNat
  let negative := bits / 0x8000000000000000 = 1
  let field : Nat := bits / fractionRange % 2048
  let fraction := bits % fractionRange
  if field = 2047 then
    if fraction = 0 then .infinite negative else .undefined
  else if field = 0 then .finite negative fraction (-1074)
  else .finite negative (fractionRange + fraction) ((field : Int) - 1075)

/-- The magnitude in units of the last place. -/
def unitsOf (places mantissa : Nat) (exponent : Int) : Nat :=
  let scaled := mantissa * Nat.pow 10 places
  if 0 ≤ exponent then scaled <<< exponent.toNat
  else Rounding.halfEven scaled (1 <<< (-exponent).toNat)

def signText (negative : Bool) : String := if negative then "-" else ""

def fixed (places : Nat) (value : Float) : String :=
  match Binary.ofFloat value with
  | .finite negative mantissa exponent =>
      let one := Nat.pow 10 places
      let units := unitsOf places mantissa exponent
      signText negative ++ Numeral.decimalNat (units / one) ++ "." ++
        String.ofList (Numeral.padLeft places (Numeral.digits 10 (units % one)))
  | .infinite negative => signText negative ++ "inf"
  | .undefined => "nan"

/-- Spaces on the left up to `width` characters. -/
def alignRight (width : Nat) (text : String) : String :=
  String.ofList (List.replicate (width - text.length) ' ') ++ text

end Chip8.Text
