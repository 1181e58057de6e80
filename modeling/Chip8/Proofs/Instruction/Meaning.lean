import Chip8.Instruction.Arithmetic
import Chip8.Instruction.Text

namespace Chip8

/-! What instruction words mean. `Instruction` is the meaning, with `unmapped` for the words
that have none. A listing and an execution each find out on their own what a word means; here
the meaning is read off the fields once, and the listing is shown to tell it. -/

namespace Arithmetic

/-- The operation selected by the low nibble of a word. -/
def ofSelector? : Nat → Option Arithmetic
  | 0x0 => some copy
  | 0x1 => some or
  | 0x2 => some and
  | 0x3 => some xor
  | 0x4 => some add
  | 0x5 => some subtract
  | 0x6 => some shiftRight
  | 0x7 => some subtractFrom
  | 0xE => some shiftLeft
  | _ => none

def hasFlag : Arithmetic → Bool
  | copy | or | and | xor => false
  | add | subtract | shiftRight | subtractFrom | shiftLeft => true

def flag? (operation : Arithmetic) (left right : UInt8) : Option UInt8 :=
  if operation.hasFlag then some (operation.flag left right) else none

def mnemonic : Arithmetic → String
  | copy => "LD"
  | or => "OR"
  | and => "AND"
  | xor => "XOR"
  | add => "ADD"
  | subtract => "SUB"
  | shiftRight => "SHR"
  | subtractFrom => "SUBN"
  | shiftLeft => "SHL"

/-- What the tables of an execution select. -/
theorem ofSelector?_eq (n : Fin 16) :
    ofSelector? n.val =
      if selecting.get n then some (switch operations (if n.val = 14 then 8 else n.val))
      else none := by
  revert n
  decide

theorem flagging_eq (n : Fin 16) :
    flagging.get n = ((ofSelector? n.val).map hasFlag).getD false := by
  revert n
  decide

/-- What the table of a listing selects. -/
theorem lookup_mnemonics (n : Fin 16) :
    Instruction.mnemonics.lookup n.val = (ofSelector? n.val).map mnemonic := by
  revert n
  decide

end Arithmetic

/-- What a word can mean. -/
inductive Instruction where
  | clear
  | ret
  | jump (target : Address)
  | call (target : Address)
  | skipIfByte (x : Register) (byte : UInt8)
  | skipUnlessByte (x : Register) (byte : UInt8)
  | skipIfSame (x y : Register)
  | setByte (x : Register) (byte : UInt8)
  | addByte (x : Register) (byte : UInt8)
  | arithmetic (operation : Arithmetic) (x y : Register)
  | skipUnlessSame (x y : Register)
  | setIndex (address : Address)
  | jumpOffset (base : Address)
  | random (x : Register) (mask : UInt8)
  | draw (x y : Register) (rows : Fin 16)
  | skipIfHeld (x : Register)
  | skipUnlessHeld (x : Register)
  | getDelay (x : Register)
  | awaitKey (x : Register)
  | setDelay (x : Register)
  | setSound (x : Register)
  | addIndex (x : Register)
  | glyph (x : Register)
  | decimal (x : Register)
  | store (x : Register)
  | fill (x : Register)
  | unmapped (raw : Int)
deriving DecidableEq, Repr

namespace Instruction

/-- The meaning of `EXNN`, by its low byte. -/
def ofKeyByte (raw : Int) (x : Register) : Nat → Instruction
  | 0x9E => skipIfHeld x
  | 0xA1 => skipUnlessHeld x
  | _ => unmapped raw

/-- The meaning of `FXNN`, by its low byte. -/
def ofLastByte (raw : Int) (x : Register) : Nat → Instruction
  | 0x07 => getDelay x
  | 0x0A => awaitKey x
  | 0x15 => setDelay x
  | 0x18 => setSound x
  | 0x1E => addIndex x
  | 0x29 => glyph x
  | 0x33 => decimal x
  | 0x55 => store x
  | 0x65 => fill x
  | _ => unmapped raw

def ofFields (fields : Fields) : Instruction :=
  let ⟨raw, family, x, y, n, nn, nnn⟩ := fields
  match family.val with
  | 0x0 => if raw = 0x00E0 then clear else if raw = 0x00EE then ret else unmapped raw
  | 0x1 => jump nnn
  | 0x2 => call nnn
  | 0x3 => skipIfByte x nn
  | 0x4 => skipUnlessByte x nn
  | 0x5 => if n.val = 0 then skipIfSame x y else unmapped raw
  | 0x6 => setByte x nn
  | 0x7 => addByte x nn
  | 0x8 =>
      match Arithmetic.ofSelector? n with
      | some operation => arithmetic operation x y
      | none => unmapped raw
  | 0x9 => if n.val = 0 then skipUnlessSame x y else unmapped raw
  | 0xA => setIndex nnn
  | 0xB => jumpOffset nnn
  | 0xC => random x nn
  | 0xD => draw x y n
  | 0xE => ofKeyByte raw x nn.toNat
  | _ => ofLastByte raw x nn.toNat

def ofInt (raw : Int) : Instruction :=
  ofFields (Fields.ofInt raw)

def ofWord (word : UInt16) : Instruction :=
  ofInt word.toNat

def text : Instruction → String
  | clear => "CLS"
  | ret => "RET"
  | jump target => "JP " ++ addressText target
  | call target => "CALL " ++ addressText target
  | skipIfByte x byte => binaryText "SE" (registerText x) (byteText byte)
  | skipUnlessByte x byte => binaryText "SNE" (registerText x) (byteText byte)
  | skipIfSame x y => binaryText "SE" (registerText x) (registerText y)
  | setByte x byte => binaryText "LD" (registerText x) (byteText byte)
  | addByte x byte => binaryText "ADD" (registerText x) (byteText byte)
  | arithmetic operation x y =>
      binaryText operation.mnemonic (registerText x) (registerText y)
  | skipUnlessSame x y => binaryText "SNE" (registerText x) (registerText y)
  | setIndex address => binaryText "LD" "I" (addressText address)
  | jumpOffset base => binaryText "JP" "V0" (addressText base)
  | random x mask => binaryText "RND" (registerText x) (byteText mask)
  | draw x y rows =>
      binaryText "DRW" (registerText x) (registerText y) ++ ", " ++ Numeral.decimalNat rows
  | skipIfHeld x => "SKP " ++ registerText x
  | skipUnlessHeld x => "SKNP " ++ registerText x
  | getDelay x => binaryText "LD" (registerText x) "DT"
  | awaitKey x => binaryText "LD" (registerText x) "K"
  | setDelay x => binaryText "LD" "DT" (registerText x)
  | setSound x => binaryText "LD" "ST" (registerText x)
  | addIndex x => binaryText "ADD" "I" (registerText x)
  | glyph x => binaryText "LD" "F" (registerText x)
  | decimal x => binaryText "LD" "B" (registerText x)
  | store x => binaryText "LD" "[I]" (registerText x)
  | fill x => binaryText "LD" (registerText x) "[I]"
  | unmapped raw => "DW 0x" ++ Numeral.hex 4 raw

theorem text_ofKeyByte (raw : Int) (x : Register) (low : Nat) :
    (ofKeyByte raw x low).text =
      if low = 0x9E then "SKP " ++ registerText x
      else if low = 0xA1 then "SKNP " ++ registerText x
      else "DW 0x" ++ Numeral.hex 4 raw := by
  unfold ofKeyByte
  split
  case h_3 held free => rw [if_neg held, if_neg free, text]
  all_goals rfl

theorem text_ofLastByte (raw : Int) (x : Register) (low : Nat) :
    (ofLastByte raw x low).text =
      if (formats.lookup low).isSome then (formats.lookup low).getD id (registerText x)
      else "DW 0x" ++ Numeral.hex 4 raw := by
  unfold ofLastByte
  split
  case h_10 =>
    have absent : formats.lookup low = none := by
      rw [List.lookup_eq_none_iff]
      simp only [formats, List.forall_mem_cons, bne_iff_ne, List.not_mem_nil, false_implies,
        implies_true, and_true]
      and_intros <;> assumption
    rw [absent, text]
    rfl
  all_goals rfl

/-- The first form of a line that fits is that of the word's meaning. Both system instructions
come before all families there, so the family of their words has to be theirs. -/
theorem listing_eq_text {fields : Fields}
    (system : fields.raw = 0x00E0 ∨ fields.raw = 0x00EE → fields.family.val = 0x0) :
    listing fields = (ofFields fields).text := by
  obtain ⟨raw, ⟨family, bound⟩, x, y, n, nn, nnn⟩ := fields
  change raw = 0x00E0 ∨ raw = 0x00EE → family = 0x0 at system
  by_cases clears : raw = 0x00E0
  · obtain rfl := system (.inl clears)
    subst clears
    rfl
  by_cases returns : raw = 0x00EE
  · obtain rfl := system (.inr returns)
    subst returns
    rfl
  rw [listing, if_neg clears, if_neg returns]
  match family, bound with
  | 0x0, _ =>
      change _ = (if raw = 0x00E0 then _ else if raw = 0x00EE then _ else unmapped raw).text
      rw [if_neg clears, if_neg returns]
      rfl
  | 0x1, _ | 0x2, _ | 0x3, _ | 0x4, _ | 0x6, _ | 0x7, _ | 0xA, _ | 0xB, _ | 0xC, _ | 0xD, _ => rfl
  | 0x5, _ =>
      change (if 0x5 = 0x5 ∧ n.val = 0 then _ else _) =
        (if n.val = 0 then skipIfSame x y else unmapped raw).text
      rw [apply_ite text]
      simp only [true_and]
      rfl
  | 0x9, _ =>
      change (if 0x9 = 0x9 ∧ n.val = 0 then _ else _) =
        (if n.val = 0 then skipUnlessSame x y else unmapped raw).text
      rw [apply_ite text]
      simp only [true_and]
      rfl
  | 0x8, _ =>
      change (if 0x8 = 0x8 ∧ (mnemonics.lookup n.val).isSome then _ else _) =
        (match Arithmetic.ofSelector? n with
        | some operation => arithmetic operation x y
        | none => unmapped raw).text
      rw [Arithmetic.lookup_mnemonics]
      cases Arithmetic.ofSelector? n.val with
      | some operation => rfl
      | none => rfl
  | 0xE, _ =>
      refine Eq.trans ?_ (text_ofKeyByte raw x nn.toNat).symm
      change (if 0xE = 0xE ∧ nn.toNat = 0x9E then _
        else if 0xE = 0xE ∧ nn.toNat = 0xA1 then _ else _) = _
      simp only [true_and]
      rfl
  | 0xF, _ =>
      refine Eq.trans ?_ (text_ofLastByte raw x nn.toNat).symm
      change (if 0xF = 0xF ∧ (formats.lookup nn.toNat).isSome then _ else _) = _
      simp only [true_and]
  | _ + 0x10, bound => exact absurd bound (by omega)

/-- A listing tells what a word means. -/
theorem disassemble_eq_text (raw : Int) : disassemble raw = (ofInt raw).text := by
  refine listing_eq_text ?_
  rintro (clears | returns)
  · change raw = 0x00E0 at clears
    subst clears
    rfl
  · change raw = 0x00EE at returns
    subst returns
    rfl

end Instruction

end Chip8
