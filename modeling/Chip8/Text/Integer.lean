import Chip8.Text.Blank
import Chip8.Text.Digit

namespace Chip8.Text

/-! Integers as they are typed: blanks around, an optional sign, decimal digits of
any script, and single underscores between digits. Numerals of more than 4300
digits are refused. -/

abbrev digitLimit : Nat := 4300

def groupedDigits? : List Char → Option (List Nat)
  | [] => none
  | [c] => (decimalValue? c).map ([·])
  | c :: '_' :: rest =>
      match decimalValue? c, groupedDigits? rest with
      | some digit, some digits => some (digit :: digits)
      | _, _ => none
  | c :: rest =>
      match decimalValue? c, groupedDigits? rest with
      | some digit, some digits => some (digit :: digits)
      | _, _ => none

def naturalOf (digits : List Nat) : Nat :=
  digits.foldl (fun value digit => 10 * value + digit) 0

def unsigned? (text : List Char) : Option Nat :=
  match groupedDigits? text with
  | some digits => if digits.length ≤ digitLimit then some (naturalOf digits) else none
  | none => none

def integer? (text : String) : Option Int :=
  match trimBlanks text.toList with
  | '-' :: rest => (unsigned? rest).map fun n => -(n : Int)
  | '+' :: rest => (unsigned? rest).map Int.ofNat
  | rest => (unsigned? rest).map Int.ofNat

end Chip8.Text
