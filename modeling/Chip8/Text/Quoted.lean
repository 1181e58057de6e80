import Chip8.Text.Numeral
import Chip8.Text.Printable

namespace Chip8.Text

/-! A string as it is quoted in a message. Single quotes are used unless the text
has a single quote and no double quote; the backslash and the quote in use are
escaped, and so is every character without a visible form. -/

def quoteMark (text : List Char) : Char :=
  if text.contains '\'' && !text.contains '"' then '"' else '\''

/-- Lower-case hexadecimal digits, as many as the escape asks for. -/
def escapeDigits (width : Nat) (c : Char) : List Char :=
  (Numeral.padLeft width (Numeral.digits 16 c.toNat)).map Char.toLower

def escape (mark c : Char) : List Char :=
  if c = mark ∨ c = '\\' then ['\\', c]
  else if c = '\t' then ['\\', 't']
  else if c = '\n' then ['\\', 'n']
  else if c = '\r' then ['\\', 'r']
  else if isPrintable c then [c]
  else if c.toNat ≤ 0xFF then '\\' :: 'x' :: escapeDigits 2 c
  else if c.toNat ≤ 0xFFFF then '\\' :: 'u' :: escapeDigits 4 c
  else '\\' :: 'U' :: escapeDigits 8 c

def quoted (text : String) : String :=
  let mark := quoteMark text.toList
  String.ofList (mark :: text.toList.flatMap (escape mark) ++ [mark])

end Chip8.Text
