namespace Chip8.Rounding

/-! Rounding to the nearest number that can be held, a half going to the even
neighbor. -/

def halfEven (numerator denominator : Nat) : Nat :=
  let quotient := numerator / denominator
  let rest := numerator % denominator
  if 2 * rest < denominator then quotient
  else if denominator < 2 * rest then quotient + 1
  else quotient + quotient % 2

/-- The nearest number of at most `bits` significant bits. -/
def significant (bits value : Nat) : Nat :=
  let spare := value.log2 + 1 - bits
  halfEven value (1 <<< spare) <<< spare

/-- Binary floating-point numbers have 53 significant bits. -/
def binary (value : Int) : Int := value.sign * (significant 53 value.natAbs : Int)

end Chip8.Rounding
