namespace Chip8.Text

/-! Upper case as far as it can spell an ASCII name: the ASCII letters, and the
characters beyond ASCII whose upper-case form is one or more ASCII letters. All
other characters are kept; their upper-case forms, if any, are not ASCII. -/

def upperChar (c : Char) : List Char :=
  match c.toNat with
  | 0xDF => ['S', 'S']
  | 0x131 => ['I']
  | 0x17F => ['S']
  | 0xFB00 => ['F', 'F']
  | 0xFB01 => ['F', 'I']
  | 0xFB02 => ['F', 'L']
  | 0xFB03 => ['F', 'F', 'I']
  | 0xFB04 => ['F', 'F', 'L']
  | 0xFB05 => ['S', 'T']
  | 0xFB06 => ['S', 'T']
  | _ => [c.toUpper]

def upper (text : String) : String :=
  String.ofList (text.toList.flatMap upperChar)

end Chip8.Text
