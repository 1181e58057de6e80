import Chip8.Text.Numeral
import Mathlib.Data.List.Basic

namespace Chip8.Numeral

/-! Numerals are read back. The value of a numeral is the number that it was written for,
however many zeros stand on its left; so a number is known from its text, and so is its sign. All
the characters of a numeral are digits, which are none of the marks that stand around it. -/

variable {base width n : Nat} {c : Char} {text : List Char}

def digitValue (c : Char) : Nat :=
  if c.toNat < 'A'.toNat then c.toNat - '0'.toNat else c.toNat - 'A'.toNat + 10

/-- The number that a numeral stands for. -/
def value (base : Nat) (text : List Char) : Nat :=
  text.foldl (fun total c => base * total + digitValue c) 0

/-- The number that a numeral with an optional minus sign stands for. -/
def signedValue (base : Nat) : List Char → Int
  | '-' :: text => -(value base text : Int)
  | text => value base text

def IsDigit (c : Char) : Prop := ∃ digit < 16, c = digitChar digit

theorem digitValue_digitChar : ∀ digit < 16, digitValue (digitChar digit) = digit := by
  decide

theorem IsDigit.ne {mark : Char} (digit : IsDigit c)
    (other : ∀ digit < 16, digitChar digit ≠ mark) : c ≠ mark := by
  obtain ⟨value, bound, rfl⟩ := digit
  exact other value bound

theorem value_concat (base : Nat) (text : List Char) (c : Char) :
    value base (text ++ [c]) = base * value base text + digitValue c :=
  List.foldl_concat _ _ _ _

theorem value_digits (several : 1 < base) (known : base ≤ 16) (n : Nat) :
    value base (digits base n) = n := by
  fun_induction digits base n with
  | case1 n more ih =>
      have small : n % base < 16 := Nat.lt_of_lt_of_le (Nat.mod_lt n (by omega)) known
      rw [value_concat, ih, digitValue_digitChar _ small]
      exact Nat.div_add_mod n base
  | case2 n less =>
      have small : n < 16 := by omega
      rw [← List.nil_append [digitChar n], value_concat, digitValue_digitChar n small]
      exact Nat.zero_add n

theorem isDigit_of_mem_digits (several : 1 < base) (known : base ≤ 16)
    (member : c ∈ digits base n) : IsDigit c := by
  fun_induction digits base n with
  | case1 n more ih =>
      rcases List.mem_append.mp member with before | last
      · exact ih before
      · have small : n % base < 16 := Nat.lt_of_lt_of_le (Nat.mod_lt n (by omega)) known
        exact ⟨n % base, small, List.mem_singleton.mp last⟩
  | case2 n less => exact ⟨n, by omega, List.mem_singleton.mp member⟩

/-- A number below a power of the base has no more digits than the exponent says. -/
theorem length_digits_le (some : 0 < width) (bound : n < Nat.pow base width) :
    (digits base n).length ≤ width := by
  induction width generalizing n with
  | zero => contradiction
  | succ width ih =>
      rw [digits]
      split
      next more =>
        have shorter : n / base < Nat.pow base width :=
          Nat.div_lt_of_lt_mul (Nat.mul_comm base _ ▸ bound)
        have positive : 0 < width := by
          -- A quotient that is not zero is not below the power with exponent zero.
          rcases Nat.eq_zero_or_pos width with rfl | positive
          · have : 0 < n / base := Nat.div_pos more.2 (by omega)
            exact absurd shorter (Nat.not_lt_of_le this)
          · exact positive
        rw [List.length_append]
        exact Nat.succ_le_succ (ih positive shorter)
      next => exact some

theorem value_padLeft (base width : Nat) (text : List Char) :
    value base (padLeft width text) = value base text := by
  have zeros : ∀ count, value base (List.replicate count '0') = 0 := by
    intro count
    induction count with
    | zero => rfl
    | succ count ih =>
        rw [List.replicate_succ', value_concat, ih]
        rfl
  rw [padLeft, value, List.foldl_append]
  exact congrArg (text.foldl _) (zeros _)

theorem length_padLeft (width : Nat) (text : List Char) :
    (padLeft width text).length = max width text.length := by
  rw [padLeft, List.length_append, List.length_replicate]
  omega

theorem mem_padLeft (member : c ∈ padLeft width text) : c = '0' ∨ c ∈ text :=
  (List.mem_append.mp member).imp_left List.eq_of_mem_replicate

section Hexadecimal

theorem toList_hexNat (width n : Nat) : (hexNat width n).toList = padLeft width (digits 16 n) :=
  String.toList_ofList

theorem value_hexNat (width n : Nat) : value 16 (hexNat width n).toList = n := by
  rw [toList_hexNat, value_padLeft, value_digits (by decide) (by decide)]

theorem isDigit_of_mem_hexNat (member : c ∈ (hexNat width n).toList) : IsDigit c := by
  rw [toList_hexNat] at member
  rcases mem_padLeft member with rfl | digit
  · exact ⟨0, by decide, rfl⟩
  · exact isDigit_of_mem_digits (by decide) (by decide) digit

theorem le_length_hexNat (width n : Nat) : width ≤ (hexNat width n).toList.length := by
  rw [toList_hexNat, length_padLeft]
  exact Nat.le_max_left _ _

theorem length_hexNat (some : 0 < width) (bound : n < Nat.pow 16 width) :
    (hexNat width n).toList.length = width := by
  rw [toList_hexNat, length_padLeft]
  exact Nat.max_eq_left (length_digits_le some bound)

/-- A sign or a digit. -/
theorem mem_hex {value : Int} (member : c ∈ (hex width value).toList) : c = '-' ∨ IsDigit c := by
  rw [hex] at member
  split at member
  · rw [String.toList_append] at member
    rcases List.mem_append.mp member with sign | digit
    · exact .inl (List.mem_singleton.mp sign)
    · exact .inr (isDigit_of_mem_hexNat digit)
  · exact .inr (isDigit_of_mem_hexNat member)

theorem le_length_hex (width : Nat) (value : Int) : width ≤ (hex width value).toList.length := by
  rw [hex]
  split
  · have rest := le_length_hexNat (width - 1) value.natAbs
    rw [String.toList_append, List.length_append]
    change width ≤ 1 + _
    omega
  · exact le_length_hexNat width value.natAbs

theorem signedValue_of_ne (unsigned : ∀ rest, text ≠ '-' :: rest) :
    signedValue base text = value base text := by
  rw [signedValue]
  exact unsigned

theorem signedValue_hex (width : Nat) (value : Int) :
    signedValue 16 (hex width value).toList = value := by
  rw [hex]
  split
  next negative =>
    rw [String.toList_append]
    change -(Numeral.value 16 (hexNat (width - 1) value.natAbs).toList : Int) = value
    rw [value_hexNat]
    omega
  next natural =>
    rw [signedValue_of_ne, value_hexNat]
    · omega
    · intro rest signed
      have sign : '-' ∈ (hexNat width value.natAbs).toList := signed ▸ List.mem_cons_self
      exact (isDigit_of_mem_hexNat sign).ne (by decide) rfl

end Hexadecimal

end Chip8.Numeral
