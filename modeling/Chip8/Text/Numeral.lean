namespace Chip8.Numeral

/-! Positional numerals. `digits base n` is the shortest numeral of `n`, most
significant digit first; digits above nine are upper-case letters. The padded
forms add zeros on the left and never cut a numeral that is too long. -/

def digitChar (digit : Nat) : Char :=
  if digit < 10 then Char.ofNat ('0'.toNat + digit) else Char.ofNat ('A'.toNat + (digit - 10))

def digits (base n : Nat) : List Char :=
  if 1 < base ∧ base ≤ n then
    digits base (n / base) ++ [digitChar (n % base)]
  else
    [digitChar n]
termination_by n
decreasing_by
  rename_i more
  exact Nat.div_lt_self (by omega) more.1

/-- Zeros on the left up to `width` characters. -/
def padLeft (width : Nat) (text : List Char) : List Char :=
  List.replicate (width - text.length) '0' ++ text

def decimalNat (n : Nat) : String :=
  String.ofList (digits 10 n)

def decimal (value : Int) : String :=
  if value < 0 then "-" ++ decimalNat value.natAbs else decimalNat value.natAbs

def hexNat (width n : Nat) : String :=
  String.ofList (padLeft width (digits 16 n))

/-- A negative value is a minus sign and the numeral of its magnitude, the sign
counting towards the width. -/
def hex (width : Nat) (value : Int) : String :=
  if value < 0 then "-" ++ hexNat (width - 1) value.natAbs else hexNat width value.natAbs

end Chip8.Numeral
