import Chip8.Proofs.Instruction.Encoding
import Chip8.Proofs.Instruction.Text
import Chip8.Proofs.Text.Numeral

namespace Chip8

open Numeral

/-! Assembly text is read back. A line is cut at its blanks into a mnemonic and operands, each
operand is known from its own text, and together they are those of one instruction only. -/

/-- Neither a blank nor a comma is part of the text. -/
def IsWord (text : String) : Prop := ' ' ∉ text.toList ∧ ',' ∉ text.toList

instance (text : String) : Decidable (IsWord text) := inferInstanceAs (Decidable (_ ∧ _))

theorem IsWord.append {first second : String} (left : IsWord first) (right : IsWord second) :
    IsWord (first ++ second) := by
  rw [IsWord, String.toList_append, List.mem_append, List.mem_append]
  exact ⟨not_or.mpr ⟨left.1, right.1⟩, not_or.mpr ⟨left.2, right.2⟩⟩

theorem IsWord.filter {text : String} (word : IsWord text) :
    text.toList.filter (· ≠ ',') = text.toList := by
  rw [List.filter_eq_self]
  exact fun c member => decide_eq_true fun comma => word.2 (comma ▸ member)

theorem isWord_of_isDigit {text : String} (digits : ∀ c ∈ text.toList, IsDigit c) :
    IsWord text :=
  ⟨fun blank => (digits ' ' blank).ne (by decide) rfl,
    fun comma => (digits ',' comma).ne (by decide) rfl⟩

theorem isWord_hexNat (width n : Nat) : IsWord (hexNat width n) :=
  isWord_of_isDigit fun _ member => isDigit_of_mem_hexNat member

inductive Operand where
  | register (x : Register)
  | byte (value : UInt8)
  | address (target : Address)
  | count (rows : Fin 16)
  | data (raw : Int)
  | index
  | block
  | delay
  | sound
  | key
  | glyph
  | decimal
deriving DecidableEq, Repr

namespace Operand

def text : Operand → String
  | register x => Instruction.registerText x
  | byte value => Instruction.byteText value
  | address target => Instruction.addressText target
  | count rows => decimalNat rows
  | data raw => "0x" ++ hex 4 raw
  | index => "I"
  | block => "[I]"
  | delay => "DT"
  | sound => "ST"
  | key => "K"
  | glyph => "F"
  | decimal => "B"

/-- A hexadecimal numeral of two digits is a byte, one of three digits an address. -/
def read : List Char → Operand
  | 'V' :: digits => register ⟨value 16 digits % 16, Nat.mod_lt _ (by decide)⟩
  | '0' :: 'x' :: digits =>
      if digits.length = 2 then byte (UInt8.ofNat (value 16 digits))
      else if digits.length = 3 then
        address ⟨value 16 digits % 4096, Nat.mod_lt _ (by decide)⟩
      else data (signedValue 16 digits)
  | ['I'] => index
  | ['[', 'I', ']'] => block
  | ['D', 'T'] => delay
  | ['S', 'T'] => sound
  | ['K'] => key
  | ['F'] => glyph
  | ['B'] => decimal
  | digits => count ⟨value 10 digits % 16, Nat.mod_lt _ (by decide)⟩

theorem read_text (operand : Operand) : read operand.text.toList = operand := by
  cases operand with
  | register x =>
      have digits : (Instruction.registerText x).toList = 'V' :: (hexNat 1 x).toList :=
        String.toList_append
      rw [text, digits, read]
      simp only [value_hexNat, Nat.mod_eq_of_lt x.isLt]
  | byte value =>
      have digits : (Instruction.byteText value).toList =
          '0' :: 'x' :: (hexNat 2 value.toNat).toList := String.toList_append
      have length := length_hexNat (show 0 < 2 by decide)
        (show value.toNat < Nat.pow 16 2 from value.toNat_lt)
      rw [text, digits, read, if_pos length, value_hexNat, UInt8.ofNat_toNat]
  | address target =>
      have digits : (Instruction.addressText target).toList =
          '0' :: 'x' :: (hexNat 3 target).toList := String.toList_append
      have length := length_hexNat (show 0 < 3 by decide)
        (show target.val < Nat.pow 16 3 from target.isLt)
      rw [text, digits, read, length, if_neg (by decide), if_pos rfl]
      simp only [value_hexNat, Nat.mod_eq_of_lt target.isLt]
  | count rows =>
      revert rows
      decide +kernel
  | data raw =>
      have digits : ("0x" ++ hex 4 raw).toList = '0' :: 'x' :: (hex 4 raw).toList :=
        String.toList_append
      have length := le_length_hex 4 raw
      rw [text, digits, read, if_neg (by omega), if_neg (by omega), signedValue_hex]
  | _ => rfl

theorem isWord_text (operand : Operand) : IsWord operand.text := by
  cases operand with
  | register x => exact IsWord.append (by decide) (isWord_hexNat 1 x)
  | byte value => exact IsWord.append (by decide) (isWord_hexNat 2 value.toNat)
  | address target => exact IsWord.append (by decide) (isWord_hexNat 3 target)
  | count rows =>
      refine isWord_of_isDigit fun c member => ?_
      rw [text, decimalNat, String.toList_ofList] at member
      exact isDigit_of_mem_digits (by decide) (by decide) member
  | data raw =>
      refine IsWord.append (by decide) ⟨fun blank => ?_, fun comma => ?_⟩
      · exact (mem_hex blank).elim (by decide) fun digit => digit.ne (by decide) rfl
      · exact (mem_hex comma).elim (by decide) fun digit => digit.ne (by decide) rfl
  | _ => decide

end Operand

namespace Instruction

variable {instruction : Instruction} {first second : Instruction}

def mnemonic : Instruction → String
  | clear => "CLS"
  | ret => "RET"
  | jump _ | jumpOffset _ => "JP"
  | call _ => "CALL"
  | skipIfByte _ _ | skipIfSame _ _ => "SE"
  | skipUnlessByte _ _ | skipUnlessSame _ _ => "SNE"
  | arithmetic operation _ _ => operation.mnemonic
  | addByte _ _ | addIndex _ => "ADD"
  | random _ _ => "RND"
  | draw _ _ _ => "DRW"
  | skipIfHeld _ => "SKP"
  | skipUnlessHeld _ => "SKNP"
  | setByte _ _ | setIndex _ | getDelay _ | awaitKey _ | setDelay _ | setSound _ | glyph _
  | decimal _ | store _ | fill _ => "LD"
  | unmapped _ => "DW"

def operands : Instruction → List Operand
  | clear | ret => []
  | jump target | call target => [.address target]
  | skipIfByte x byte | skipUnlessByte x byte | setByte x byte | addByte x byte
  | random x byte => [.register x, .byte byte]
  | skipIfSame x y | arithmetic _ x y | skipUnlessSame x y => [.register x, .register y]
  | setIndex target => [.index, .address target]
  | jumpOffset base => [.register offsetRegister, .address base]
  | draw x y rows => [.register x, .register y, .count rows]
  | skipIfHeld x | skipUnlessHeld x => [.register x]
  | getDelay x => [.register x, .delay]
  | awaitKey x => [.register x, .key]
  | setDelay x => [.delay, .register x]
  | setSound x => [.sound, .register x]
  | addIndex x => [.index, .register x]
  | glyph x => [.glyph, .register x]
  | decimal x => [.decimal, .register x]
  | store x => [.block, .register x]
  | fill x => [.register x, .block]
  | unmapped raw => [.data raw]

def ofMnemonic? (mnemonic : String) : Option Arithmetic :=
  [.copy, .or, .and, .xor, .add, .subtract, .shiftRight, .subtractFrom, .shiftLeft].find?
    (Arithmetic.mnemonic · = mnemonic)

def ofParts? (mnemonic : String) : List Operand → Option Instruction
  | [] => if mnemonic = "CLS" then some clear else some ret
  | [.data raw] => some (unmapped raw)
  | [.address target] => if mnemonic = "JP" then some (jump target) else some (call target)
  | [.register x] => if mnemonic = "SKP" then some (skipIfHeld x) else some (skipUnlessHeld x)
  | [.register x, .byte byte] =>
      if mnemonic = "SE" then some (skipIfByte x byte)
      else if mnemonic = "SNE" then some (skipUnlessByte x byte)
      else if mnemonic = "LD" then some (setByte x byte)
      else if mnemonic = "ADD" then some (addByte x byte)
      else some (random x byte)
  | [.register x, .register y] =>
      if mnemonic = "SE" then some (skipIfSame x y)
      else if mnemonic = "SNE" then some (skipUnlessSame x y)
      else (ofMnemonic? mnemonic).map (arithmetic · x y)
  | [.register x, .register y, .count rows] => some (draw x y rows)
  | [.register _, .address base] => some (jumpOffset base)
  | [.register x, .delay] => some (getDelay x)
  | [.register x, .key] => some (awaitKey x)
  | [.register x, .block] => some (fill x)
  | [.index, .address target] => some (setIndex target)
  | [.index, .register x] => some (addIndex x)
  | [.delay, .register x] => some (setDelay x)
  | [.sound, .register x] => some (setSound x)
  | [.glyph, .register x] => some (glyph x)
  | [.decimal, .register x] => some (decimal x)
  | [.block, .register x] => some (store x)
  | _ => none

theorem ofParts?_parts (instruction : Instruction) :
    ofParts? instruction.mnemonic instruction.operands = some instruction := by
  cases instruction with
  | arithmetic operation x y => cases operation <;> rfl
  | _ => rfl

/-- Operands one after the other, with commas between them. -/
def listed : List String → String
  | [] => ""
  | [operand] => operand
  | operand :: rest => operand ++ ", " ++ listed rest

def line (mnemonic : String) (operands : List String) : String :=
  if operands = [] then mnemonic else mnemonic ++ " " ++ listed operands

theorem line_pair (mnemonic left right : String) :
    line mnemonic [left, right] = binaryText mnemonic left right := by
  rw [line, if_neg (List.cons_ne_nil _ _), binaryText]
  simp only [listed, String.append_assoc]

theorem line_triple (mnemonic first second third : String) :
    line mnemonic [first, second, third] = binaryText mnemonic first second ++ ", " ++ third := by
  rw [line, if_neg (List.cons_ne_nil _ _), binaryText]
  simp only [listed, String.append_assoc]

theorem text_eq_line (instruction : Instruction) :
    instruction.text = line instruction.mnemonic (instruction.operands.map Operand.text) := by
  cases instruction with
  | clear | ret | jump | call | skipIfHeld | skipUnlessHeld | unmapped => rfl
  | jumpOffset base =>
      have offset : registerText offsetRegister = "V0" := by decide +kernel
      rw [text, ← offset]
      exact (line_pair _ _ _).symm
  | draw x y rows => exact (line_triple _ _ _ _).symm
  | _ => exact (line_pair _ _ _).symm

/-- The words of a line, without the commas between them. -/
def cut (line : String) : List String :=
  ((line.toList.filter (· ≠ ',')).splitOn ' ').map String.ofList

theorem filter_listed {operands : List String} (words : ∀ operand ∈ operands, IsWord operand) :
    (listed operands).toList.filter (· ≠ ',') =
      [' '].intercalate (operands.map String.toList) := by
  induction operands with
  | nil => rfl
  | cons operand rest ih =>
      have first := (words operand List.mem_cons_self).filter
      have later := ih fun other member => words other (List.mem_cons_of_mem _ member)
      have comma : (", ".toList).filter (· ≠ ',') = [' '] := rfl
      cases rest with
      | nil => exact first.trans List.intercalate_singleton.symm
      | cons next rest =>
          rw [listed, String.toList_append, String.toList_append, List.filter_append,
            List.filter_append, first, comma, later]
          · simp only [List.map_cons, List.intercalate_cons_cons]
          · nofun

theorem cut_line {mnemonic : String} {operands : List String} (word : IsWord mnemonic)
    (words : ∀ operand ∈ operands, IsWord operand) :
    cut (line mnemonic operands) = mnemonic :: operands := by
  have blanks : (line mnemonic operands).toList.filter (· ≠ ',') =
      [' '].intercalate ((mnemonic :: operands).map String.toList) := by
    have blank : (" ".toList).filter (· ≠ ',') = [' '] := rfl
    cases operands with
    | nil => exact word.filter.trans List.intercalate_singleton.symm
    | cons operand rest =>
        rw [line, if_neg (List.cons_ne_nil _ _), String.toList_append, String.toList_append,
          List.filter_append, List.filter_append, word.filter, blank, filter_listed words]
        simp only [List.map_cons, List.intercalate_cons_cons]
  have unbroken : ∀ text ∈ (mnemonic :: operands).map String.toList, ' ' ∉ text := by
    intro text member
    obtain ⟨part, among, rfl⟩ := List.mem_map.mp member
    rcases List.mem_cons.mp among with rfl | operand
    · exact word.1
    · exact (words part operand).1
  rw [cut, blanks, List.splitOn_intercalate ' ' unbroken (List.cons_ne_nil _ _), List.map_map]
  exact List.map_id'' (fun _ => String.ofList_toList) _

/-- The instruction that a line stands for. Nothing is said of lines that no instruction has. -/
def read? (line : String) : Option Instruction :=
  match cut line with
  | [] => none
  | mnemonic :: operands => ofParts? mnemonic (operands.map fun text => Operand.read text.toList)

theorem isWord_mnemonic (instruction : Instruction) : IsWord instruction.mnemonic := by
  cases instruction with
  | arithmetic operation x y =>
      rw [mnemonic]
      cases operation <;> decide
  | _ =>
      rw [mnemonic]
      decide

theorem read?_text (instruction : Instruction) : read? instruction.text = some instruction := by
  have words : ∀ operand ∈ instruction.operands.map Operand.text, IsWord operand := by
    intro text member
    obtain ⟨operand, _, rfl⟩ := List.mem_map.mp member
    exact operand.isWord_text
  have operands : (instruction.operands.map Operand.text).map (fun text =>
      Operand.read text.toList) = instruction.operands := by
    rw [List.map_map]
    exact List.map_id'' Operand.read_text _
  rw [read?, text_eq_line, cut_line (isWord_mnemonic instruction) words]
  change ofParts? _ ((instruction.operands.map Operand.text).map _) = _
  rw [operands, ofParts?_parts]

theorem text_injective : Function.Injective text := by
  intro first second same
  rw [← Option.some_inj, ← first.read?_text, same, second.read?_text]

/-- The word that a line of a listing stands for. -/
def wordOf? (line : String) : Option UInt16 :=
  (read? line).map fun instruction => UInt16.ofNat instruction.code

/-- What is recognised by the whole integer is shown as data or without operands. -/
theorem whole?_eq_none_iff (instruction : Instruction) :
    instruction.whole? = none ↔
      ¬ IsData instruction.text ∧ instruction.text ≠ "CLS" ∧ instruction.text ≠ "RET" := by
  have clears : instruction.text ≠ "CLS" ↔ instruction ≠ clear := text_injective.ne_iff' rfl
  have returns : instruction.text ≠ "RET" ↔ instruction ≠ ret := text_injective.ne_iff' rfl
  rw [isData_text_iff, clears, returns]
  cases instruction <;> simp [whole?]

/-- Two integers have the same line in a listing exactly if they are the same or differ above
their low 16 bits only, and those bits count for data and for the two instructions without
operands. So the word is known from its line. -/
theorem disassemble_eq_iff :
    (∀ first second : Int, disassemble first = disassemble second ↔
      first = second ∨ first % 0x10000 = second % 0x10000 ∧
        ¬ IsData (disassemble first) ∧ disassemble first ≠ "CLS" ∧
          disassemble first ≠ "RET") ∧
    ∀ word : UInt16, wordOf? (disassemble word.toNat) = some word := by
  constructor
  · intro first second
    rw [disassemble_eq_text, disassemble_eq_text, text_injective.eq_iff, ofInt_inj,
      whole?_eq_none_iff]
  · intro word
    rw [wordOf?, disassemble_eq_text, read?_text, Option.map_some]
    change some (UInt16.ofNat (ofWord word).code) = some word
    rw [code_ofWord, UInt16.ofNat_toNat]

/-- The bits above the low 16 are not shown, except for data. -/
example : disassemble 0x1D125 = disassemble 0xD125 ∧ disassemble 0x10123 ≠ disassemble 0x123 ∧
    wordOf? "DRW V1, V2, 5" = some 0xD125 := by
  decide +kernel

end Instruction

end Chip8
