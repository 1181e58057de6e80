import Chip8.Proofs.Instruction.Decode

namespace Chip8.Instruction

/-! The form of the words of each instruction. A word is seen as its first nibble, which
names its family, and as the fields behind it: two registers, a nibble, a byte, an address. -/

def family (word : UInt16) : Nat := word.toNat / 0x1000

def xField (word : UInt16) : Register :=
  ⟨word.toNat / 0x100 % 16, Nat.mod_lt _ (Nat.succ_pos 15)⟩

def yField (word : UInt16) : Register :=
  ⟨word.toNat / 0x10 % 16, Nat.mod_lt _ (Nat.succ_pos 15)⟩

def nibble (word : UInt16) : Nat := word.toNat % 0x10

def byte (word : UInt16) : Nat := word.toNat % 0x100

def address (word : UInt16) : Nat := word.toNat % 0x1000

/-- The words of the arithmetic family with a meaning. -/
def IsArithmetic (word : UInt16) : Prop :=
  family word = 0x8 ∧ (nibble word ≤ 0x7 ∨ nibble word = 0xE)

/-- The words `FXNN` that end in this byte. -/
def IsTimerOrMemory (word : UInt16) (low : Nat) : Prop :=
  family word = 0xF ∧ byte word = low

/-- The words `3XNN`, `4XNN`, `5XY0`, `9XY0`, `EX9E` and `EXA1`. -/
def IsSkip (word : UInt16) : Prop :=
  family word = 0x3 ∨ family word = 0x4 ∨
    (family word = 0x5 ∨ family word = 0x9) ∧ nibble word = 0x0 ∨
    family word = 0xE ∧ (byte word = 0x9E ∨ byte word = 0xA1)

/-- What the words of an instruction look like. Of unmapped words nothing is said. -/
def HasForm (word : UInt16) : Instruction → Prop
  | clear => word = 0x00E0
  | ret => word = 0x00EE
  | jump target => family word = 0x1 ∧ target.val = address word
  | call target => family word = 0x2 ∧ target.val = address word
  | skipIfByte x value => family word = 0x3 ∧ x = xField word ∧ value.toNat = byte word
  | skipUnlessByte x value => family word = 0x4 ∧ x = xField word ∧ value.toNat = byte word
  | skipIfSame x y =>
      family word = 0x5 ∧ nibble word = 0x0 ∧ x = xField word ∧ y = yField word
  | setByte x value => family word = 0x6 ∧ x = xField word ∧ value.toNat = byte word
  | addByte x value => family word = 0x7 ∧ x = xField word ∧ value.toNat = byte word
  | arithmetic operation x y =>
      IsArithmetic word ∧ Arithmetic.ofSelector? (nibble word) = some operation ∧
        x = xField word ∧ y = yField word
  | skipUnlessSame x y =>
      family word = 0x9 ∧ nibble word = 0x0 ∧ x = xField word ∧ y = yField word
  | setIndex target => family word = 0xA ∧ target.val = address word
  | jumpOffset base => family word = 0xB ∧ base.val = address word
  | random x mask => family word = 0xC ∧ x = xField word ∧ mask.toNat = byte word
  | draw x y rows =>
      family word = 0xD ∧ x = xField word ∧ y = yField word ∧ rows.val = nibble word
  | skipIfHeld x => family word = 0xE ∧ byte word = 0x9E ∧ x = xField word
  | skipUnlessHeld x => family word = 0xE ∧ byte word = 0xA1 ∧ x = xField word
  | getDelay x => IsTimerOrMemory word 0x07 ∧ x = xField word
  | awaitKey x => IsTimerOrMemory word 0x0A ∧ x = xField word
  | setDelay x => IsTimerOrMemory word 0x15 ∧ x = xField word
  | setSound x => IsTimerOrMemory word 0x18 ∧ x = xField word
  | addIndex x => IsTimerOrMemory word 0x1E ∧ x = xField word
  | glyph x => IsTimerOrMemory word 0x29 ∧ x = xField word
  | decimal x => IsTimerOrMemory word 0x33 ∧ x = xField word
  | store x => IsTimerOrMemory word 0x55 ∧ x = xField word
  | fill x => IsTimerOrMemory word 0x65 ∧ x = xField word
  | unmapped raw => raw = word.toNat

theorem fields_ofWord (word : UInt16) :
    Fields.ofInt word.toNat =
      { raw := word.toNat
        family := Fin.ofNat 16 (word.toNat / 0x1000)
        x := xField word
        y := yField word
        n := Fin.ofNat 16 word.toNat
        nn := UInt8.ofNat word.toNat
        nnn := Fin.ofNat 4096 word.toNat } := by
  have bound := word.toNat_lt
  have whole : ((word.toNat : Int) % 65536).toNat = word.toNat := by omega
  simp only [Fields.ofInt, whole]
  rfl

/-- A word is known as a whole by the number that it is. -/
theorem raw_eq_iff (word other : UInt16) :
    (Fields.ofInt word.toNat).raw = other.toNat ↔ word = other := by
  rw [fields_ofWord, Int.ofNat_inj, UInt16.toNat_inj]

theorem family_lt (word : UInt16) : family word < 0x10 :=
  Nat.div_lt_of_lt_mul word.toNat_lt

theorem val_family (word : UInt16) :
    (Fin.ofNat 16 (word.toNat / 0x1000)).val = family word :=
  Nat.mod_eq_of_lt (family_lt word)

theorem toNat_byte (word : UInt16) : (UInt8.ofNat word.toNat).toNat = byte word :=
  UInt8.toNat_ofNat'

theorem isArithmetic_of_selector {word : UInt16} {operation : Arithmetic}
    (found : family word = 0x8)
    (selected : Arithmetic.ofSelector? (nibble word) = some operation) : IsArithmetic word := by
  refine ⟨found, ?_⟩
  generalize nibble word = selector at selected
  unfold Arithmetic.ofSelector? at selected
  split at selected <;> first | contradiction | decide

theorem hasForm_ofWord (word : UInt16) : HasForm word (ofWord word) := by
  simp only [ofWord, ofInt, fields_ofWord, ofFields, val_family]
  split
  case h_1 =>
    split
    case isTrue clears => exact UInt16.toNat_inj.mp (Int.ofNat_inj.mp clears)
    case isFalse =>
      split
      case isTrue returns => exact UInt16.toNat_inj.mp (Int.ofNat_inj.mp returns)
      case isFalse => rfl
  case h_2 found | h_3 found | h_11 found | h_12 found => exact ⟨found, rfl⟩
  case h_4 found | h_5 found | h_7 found | h_8 found | h_13 found =>
    exact ⟨found, rfl, toNat_byte word⟩
  case h_6 found | h_10 found =>
    split
    case isTrue even => exact ⟨found, even, rfl, rfl⟩
    case isFalse => rfl
  case h_9 found =>
    split
    case h_1 selected => exact ⟨isArithmetic_of_selector found selected, selected, rfl, rfl⟩
    case h_2 => rfl
  case h_14 found => exact ⟨found, rfl, rfl, rfl⟩
  case h_15 found =>
    rw [toNat_byte]
    unfold ofKeyByte
    split
    case h_1 low | h_2 low => exact ⟨found, low, rfl⟩
    case h_3 => rfl
  case h_16 =>
    -- None of the other families is left.
    have bound : family word < 0x10 := family_lt word
    have found : family word = 0xF := by grind
    rw [toNat_byte]
    unfold ofLastByte
    split
    case h_10 => rfl
    all_goals exact ⟨⟨found, by assumption⟩, rfl⟩

theorem ofWord_eq_clear_iff {word : UInt16} : ofWord word = clear ↔ word = 0x00E0 := by
  constructor
  · intro clears
    have form := hasForm_ofWord word
    rw [clears] at form
    exact form
  · rintro rfl
    rfl

theorem ofWord_of_call {word : UInt16} (calls : family word = 0x2) :
    ofWord word = call (Fin.ofNat 4096 word.toNat) := by
  simp only [ofWord, ofInt, fields_ofWord, ofFields, val_family, calls]

theorem ofWord_of_random {word : UInt16} (draws : family word = 0xC) :
    ofWord word = random (xField word) (UInt8.ofNat (byte word)) := by
  have low : UInt8.ofNat word.toNat = UInt8.ofNat (byte word) := by
    rw [← UInt8.toNat_inj, toNat_byte, UInt8.toNat_ofNat', byte]
    exact (Nat.mod_mod _ _).symm
  simp only [ofWord, ofInt, fields_ofWord, ofFields, val_family, draws, low]

theorem ofWord_of_arithmetic {word : UInt16} {operation : Arithmetic}
    (found : family word = 0x8)
    (selected : Arithmetic.ofSelector? (nibble word) = some operation) :
    ofWord word = arithmetic operation (xField word) (yField word) := by
  have selector : (Fin.ofNat 16 word.toNat).val = nibble word := rfl
  simp only [ofWord, ofInt, fields_ofWord, ofFields, val_family, found, selector, selected]

theorem ofWord_of_draw {word : UInt16} (draws : family word = 0xD) :
    ofWord word = draw (xField word) (yField word) (Fin.ofNat 16 word.toNat) := by
  simp only [ofWord, ofInt, fields_ofWord, ofFields, val_family, draws]

theorem exists_ofWord_eq_draw_iff {word : UInt16} :
    (∃ x y rows, ofWord word = draw x y rows) ↔ family word = 0xD := by
  constructor
  · rintro ⟨x, y, rows, draws⟩
    have form := hasForm_ofWord word
    rw [draws] at form
    exact form.1
  · intro draws
    exact ⟨_, _, _, ofWord_of_draw draws⟩

theorem ofWord_of_addByte {word : UInt16} (adds : family word = 0x7) :
    ofWord word = addByte (xField word) (UInt8.ofNat word.toNat) := by
  simp only [ofWord, ofInt, fields_ofWord, ofFields, val_family, adds]

theorem ofWord_of_skipUnlessSame {word : UInt16} (skips : family word = 0x9)
    (even : nibble word = 0x0) : ofWord word = skipUnlessSame (xField word) (yField word) := by
  have zero : (Fin.ofNat 16 word.toNat).val = 0 := even
  simp only [ofWord, ofInt, fields_ofWord, ofFields, val_family, skips, zero, if_true]

end Chip8.Instruction
