import Chip8.Proofs.Instruction.Meaning

namespace Chip8.Instruction

/-! Which lines of a listing declare data. The line of a word without a meaning does, and its
first two letters tell it from the line of every instruction. -/

variable {head rest line : String}

/-- The line declares data, `DW`. -/
def IsData (line : String) : Prop := line.startsWith "DW " = true

theorem isData_iff : IsData line ↔ ['D', 'W', ' '] <+: line.toList :=
  String.startsWith_string_iff

def firstLetters (line : String) : List Char := line.toList.take 2

theorem firstLetters_append (long : 2 ≤ head.toList.length) :
    firstLetters (head ++ rest) = firstLetters head := by
  rw [firstLetters, String.toList_append, List.take_append_of_le_length long, firstLetters]

theorem firstLetters_binaryText {mnemonic : String} (long : 2 ≤ mnemonic.toList.length)
    (left right : String) :
    firstLetters (binaryText mnemonic left right) = firstLetters mnemonic := by
  simp only [binaryText, String.append_assoc]
  exact firstLetters_append long

theorem not_isData (letters : firstLetters line ≠ ['D', 'W']) : ¬ IsData line := by
  intro data
  obtain ⟨rest, whole⟩ := isData_iff.mp data
  apply letters
  rw [firstLetters, ← whole]
  rfl

theorem firstLetters_mnemonic (operation : Arithmetic) :
    2 ≤ operation.mnemonic.toList.length ∧ firstLetters operation.mnemonic ≠ ['D', 'W'] := by
  cases operation <;> decide

theorem isData_text_iff (instruction : Instruction) :
    IsData instruction.text ↔ ∃ raw, instruction = .unmapped raw := by
  constructor
  · intro data
    cases instruction with
    | unmapped raw => exact ⟨raw, rfl⟩
    | clear | ret => exact absurd data (not_isData (by decide))
    | arithmetic operation x y =>
        obtain ⟨long, letters⟩ := firstLetters_mnemonic operation
        refine absurd data (not_isData ?_)
        rw [text, firstLetters_binaryText long]
        exact letters
    | jump | call | skipIfHeld | skipUnlessHeld =>
        refine absurd data (not_isData ?_)
        rw [text, firstLetters_append (by decide)]
        decide
    | draw x y rows =>
        refine absurd data (not_isData ?_)
        rw [text, binaryText]
        simp only [String.append_assoc]
        rw [firstLetters_append (by decide)]
        decide
    | _ =>
        refine absurd data (not_isData ?_)
        rw [text, firstLetters_binaryText (by decide)]
        decide
  · rintro ⟨raw, rfl⟩
    rw [isData_iff, text, String.toList_append]
    have head : ['D', 'W', ' '] <+: "DW 0x".toList := by decide
    exact head.trans (List.prefix_append _ _)

end Chip8.Instruction
