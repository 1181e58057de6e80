import Chip8.Proofs.Instruction.Form

namespace Chip8

/-! Instructions are put back into words. The word that an instruction was decoded from is known
from the instruction; of an integer beyond 16 bits only the low 16 bits are, unless the
instruction was recognised by the whole integer. -/

namespace Arithmetic

def selector : Arithmetic → Nat
  | copy => 0x0
  | or => 0x1
  | and => 0x2
  | xor => 0x3
  | add => 0x4
  | subtract => 0x5
  | shiftRight => 0x6
  | subtractFrom => 0x7
  | shiftLeft => 0xE

theorem selector_of_selected {nibble : Nat} {operation : Arithmetic}
    (selected : ofSelector? nibble = some operation) : operation.selector = nibble := by
  unfold ofSelector? at selected
  split at selected <;> cases selected <;> rfl

end Arithmetic

namespace Instruction

variable {word : UInt16} {instruction : Instruction} {fields : Fields} {first second : Int}

/-- The word of an instruction. -/
def code : Instruction → Nat
  | clear => 0x00E0
  | ret => 0x00EE
  | jump target => 0x1000 + target.val
  | call target => 0x2000 + target.val
  | skipIfByte x value => 0x3000 + 0x100 * x.val + value.toNat
  | skipUnlessByte x value => 0x4000 + 0x100 * x.val + value.toNat
  | skipIfSame x y => 0x5000 + 0x100 * x.val + 0x10 * y.val
  | setByte x value => 0x6000 + 0x100 * x.val + value.toNat
  | addByte x value => 0x7000 + 0x100 * x.val + value.toNat
  | arithmetic operation x y => 0x8000 + 0x100 * x.val + 0x10 * y.val + operation.selector
  | skipUnlessSame x y => 0x9000 + 0x100 * x.val + 0x10 * y.val
  | setIndex target => 0xA000 + target.val
  | jumpOffset base => 0xB000 + base.val
  | random x mask => 0xC000 + 0x100 * x.val + mask.toNat
  | draw x y rows => 0xD000 + 0x100 * x.val + 0x10 * y.val + rows.val
  | skipIfHeld x => 0xE09E + 0x100 * x.val
  | skipUnlessHeld x => 0xE0A1 + 0x100 * x.val
  | getDelay x => 0xF007 + 0x100 * x.val
  | awaitKey x => 0xF00A + 0x100 * x.val
  | setDelay x => 0xF015 + 0x100 * x.val
  | setSound x => 0xF018 + 0x100 * x.val
  | addIndex x => 0xF01E + 0x100 * x.val
  | glyph x => 0xF029 + 0x100 * x.val
  | decimal x => 0xF033 + 0x100 * x.val
  | store x => 0xF055 + 0x100 * x.val
  | fill x => 0xF065 + 0x100 * x.val
  | unmapped raw => (raw % 0x10000).toNat

theorem code_of_form (form : HasForm word instruction) : instruction.code = word.toNat := by
  have bound := word.toNat_lt
  cases instruction with
  | clear | ret =>
      rw [form]
      rfl
  | jump target | call target | setIndex target | jumpOffset target =>
      obtain ⟨found, low⟩ := form
      simp only [family, address] at found low
      simp only [code]
      omega
  | skipIfByte x value | skipUnlessByte x value | setByte x value | addByte x value
  | random x value =>
      obtain ⟨found, rfl, low⟩ := form
      simp only [family, byte] at found low
      simp only [code, xField]
      omega
  | skipIfSame x y | skipUnlessSame x y =>
      obtain ⟨found, even, rfl, rfl⟩ := form
      simp only [family, nibble] at found even
      simp only [code, xField, yField]
      omega
  | arithmetic operation x y =>
      obtain ⟨⟨found, _⟩, selected, rfl, rfl⟩ := form
      have low := Arithmetic.selector_of_selected selected
      simp only [family, nibble] at found low
      simp only [code, xField, yField]
      omega
  | draw x y rows =>
      obtain ⟨found, rfl, rfl, low⟩ := form
      simp only [family, nibble] at found low
      simp only [code, xField, yField]
      omega
  | skipIfHeld x | skipUnlessHeld x =>
      obtain ⟨found, low, rfl⟩ := form
      simp only [family, byte] at found low
      simp only [code, xField]
      omega
  | unmapped raw =>
      rw [HasForm] at form
      simp only [code]
      omega
  | _ =>
      obtain ⟨⟨found, low⟩, rfl⟩ := form
      simp only [family, byte] at found low
      simp only [code, xField]
      omega

/-- The integer of an instruction that is recognised by the whole of it. -/
def whole? : Instruction → Option Int
  | clear => some 0x00E0
  | ret => some 0x00EE
  | unmapped raw => some raw
  | _ => none

/-- What is not recognised by the whole integer does not depend on it. -/
theorem ofFields_cases (fields : Fields) :
    (ofFields fields).whole? = some fields.raw ∨
      (ofFields fields).whole? = none ∧
        ∀ raw, ofFields { fields with raw := raw } = ofFields fields := by
  obtain ⟨raw, family, x, y, n, nn, nnn⟩ := fields
  simp only [ofFields]
  split
  case h_1 =>
    split
    case isTrue clears => exact .inl (congrArg some clears.symm)
    case isFalse =>
      split
      case isTrue returns => exact .inl (congrArg some returns.symm)
      case isFalse => exact .inl rfl
  case h_6 | h_10 =>
    split
    case isTrue => exact .inr ⟨rfl, fun _ => rfl⟩
    case isFalse => exact .inl rfl
  case h_9 =>
    split
    case h_1 => exact .inr ⟨rfl, fun _ => rfl⟩
    case h_2 => exact .inl rfl
  case h_15 =>
    unfold ofKeyByte
    split
    case h_3 => exact .inl rfl
    all_goals exact .inr ⟨rfl, fun _ => rfl⟩
  case h_16 =>
    unfold ofLastByte
    split
    case h_10 => exact .inl rfl
    all_goals exact .inr ⟨rfl, fun _ => rfl⟩
  all_goals exact .inr ⟨rfl, fun _ => rfl⟩

theorem ofInt_of_congr (same : first % 0x10000 = second % 0x10000)
    (parts : (ofInt first).whole? = none) : ofInt second = ofInt first := by
  have fields : Fields.ofInt second = { Fields.ofInt first with raw := second } := by
    simp only [Fields.ofInt, same]
  rcases ofFields_cases (Fields.ofInt first) with whole | ⟨_, independent⟩
  · rw [ofInt, whole] at parts
    contradiction
  · rw [ofInt, fields, independent]
    rfl

/-- The low 16 bits of any integer are those of the word of its instruction. -/
theorem code_ofInt (raw : Int) : (ofInt raw).code = (raw % 0x10000).toNat := by
  rcases ofFields_cases (Fields.ofInt raw) with whole | ⟨parts, _⟩
  · change (ofInt raw).whole? = some raw at whole
    generalize ofInt raw = instruction at whole
    unfold whole? at whole
    split at whole <;> cases whole <;> rfl
  · obtain ⟨word, low⟩ : ∃ word : UInt16, word.toNat = (raw % 0x10000).toNat :=
      ⟨UInt16.ofNat _, UInt16.toNat_ofNat_of_lt' (show (raw % 0x10000).toNat < 65536 by omega)⟩
    have same : raw % 0x10000 = (word.toNat : Int) % 0x10000 := by omega
    rw [← ofInt_of_congr same parts, ← low]
    exact code_of_form (hasForm_ofWord word)

theorem code_ofWord (word : UInt16) : (ofWord word).code = word.toNat :=
  code_of_form (hasForm_ofWord word)

/-- Integers are told apart by their instructions, but for the bits that are ignored. -/
theorem ofInt_inj :
    ofInt first = ofInt second ↔
      first = second ∨
        first % 0x10000 = second % 0x10000 ∧ (ofInt first).whole? = none := by
  constructor
  · intro same
    rcases ofFields_cases (Fields.ofInt first) with whole | ⟨parts, _⟩
    · rcases ofFields_cases (Fields.ofInt second) with other | ⟨parts, _⟩
      · change (ofInt first).whole? = some first at whole
        change (ofInt second).whole? = some second at other
        rw [same, other, Option.some_inj] at whole
        exact .inl whole.symm
      · change (ofInt first).whole? = some first at whole
        change (ofInt second).whole? = none at parts
        rw [same, parts] at whole
        contradiction
    · have low := congrArg code same
      rw [code_ofInt, code_ofInt] at low
      exact .inr ⟨by omega, parts⟩
  · rintro (rfl | ⟨low, parts⟩)
    · rfl
    · exact (ofInt_of_congr low parts).symm

end Instruction

end Chip8
