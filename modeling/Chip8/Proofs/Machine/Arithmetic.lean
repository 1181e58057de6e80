import Chip8.Proofs.Machine.Footprint

namespace Chip8

/-! The arithmetic of two registers in whole numbers. A result and its flag together lose nothing
of a sum or of a register shifted by one bit, and of a difference they lose only whether it was
zero. Both operands are read before anything is written, so it makes no difference which of the
registers are the same; but where the result would go to the flag register, the flag is there
instead. -/

/-- The results of the operations that have a flag, by the low nibble of the word, and the flag
that comes with each. -/
structure Arithmetic.Balanced (left right : Nat) (result flag : Nat → Nat) : Prop where
  sum : 256 * flag 0x4 + result 0x4 = left + right
  difference : (result 0x5 : Int) = left - right + if left < right then 256 else 0
  half : 2 * result 0x6 + flag 0x6 = left
  opposite : (result 0x7 : Int) = right - left + if right < left then 256 else 0
  double : 256 * flag 0xE + result 0xE = 2 * left

/-- The flags alone. -/
structure Arithmetic.Flagged (left right : Nat) (flag : Nat → Nat) : Prop where
  carry : flag 0x4 = if 256 ≤ left + right then 1 else 0
  greater : flag 0x5 = if right < left then 1 else 0
  lowest : flag 0x6 = left % 2
  less : flag 0x7 = if left < right then 1 else 0
  highest : flag 0xE = left / 128

theorem Arithmetic.toNat_bit (condition : Prop) [Decidable condition] :
    (if condition then (1 : UInt8) else 0).toNat = if condition then 1 else 0 :=
  apply_ite UInt8.toNat condition 1 0

namespace Machine

/-- Execute `8XYN`. -/
def executeArithmetic (machine : Machine) (x y : Register) (n : Nat) : Machine :=
  machine.execute
    (Instruction.word ⟨0x8, by decide⟩ x y ⟨n % 16, Nat.mod_lt n (Nat.succ_pos 15)⟩)

section

variable {machine : Machine} {x y register : Register} {n : Nat}

theorem executeArithmetic_eq {operation : Arithmetic}
    (selected : Arithmetic.ofSelector? (n % 16) = some operation) :
    machine.executeArithmetic x y n = machine.arithmetic operation x y := by
  rw [executeArithmetic, execute_eq, Instruction.ofWord_arithmetic x y _ selected, perform]

theorem executeArithmetic_of_unselected (unselected : Arithmetic.ofSelector? (n % 16) = none) :
    machine.executeArithmetic x y n = machine := by
  simp only [executeArithmetic, execute_eq, Instruction.ofWord_word, Instruction.ofFields,
    unselected, perform]

theorem executeArithmetic_frame
    (changed : (machine.executeArithmetic x y n).registers.get register ≠
      machine.registers.get register) :
    register = x ∨ register = flagRegister := by
  cases selected : Arithmetic.ofSelector? (n % 16) with
  | some operation =>
      rw [executeArithmetic_eq selected] at changed
      exact (arithmetic_frame changed).imp_right And.left
  | none =>
      rw [executeArithmetic_of_unselected selected] at changed
      contradiction

theorem get_executeArithmetic_of_apart (apart : register ≠ x) (kept : register ≠ flagRegister) :
    (machine.executeArithmetic x y n).registers.get register = machine.registers.get register :=
  Classical.byContradiction fun changed => (executeArithmetic_frame changed).elim apart kept

theorem get_executeArithmetic_flag (operation : Arithmetic) {flag : UInt8}
    (selected : Arithmetic.ofSelector? (n % 16) = some operation)
    (flagged : operation.flag? (machine.registers.get x) (machine.registers.get y) = some flag) :
    (machine.executeArithmetic x y n).registers.get flagRegister = flag := by
  rw [executeArithmetic_eq selected, get_arithmetic_flag flagged]

theorem get_executeArithmetic (operation : Arithmetic)
    (selected : Arithmetic.ofSelector? (n % 16) = some operation) (kept : x ≠ flagRegister) :
    (machine.executeArithmetic x y n).registers.get x =
      operation.result (machine.registers.get x) (machine.registers.get y) := by
  rw [executeArithmetic_eq selected]
  cases flagged : operation.flag? (machine.registers.get x) (machine.registers.get y) with
  | some flag =>
      rw [arithmetic_of_flag flagged, get_setRegister, if_neg kept.symm, get_setRegister, if_pos rfl]
  | none => rw [arithmetic_of_plain flagged, get_setRegister, if_pos rfl]

/-- An operation without a flag leaves the flag register alone, unless its result goes there. -/
theorem executeArithmetic_of_plain (operation : Arithmetic)
    (selected : Arithmetic.ofSelector? (n % 16) = some operation)
    (plain : operation.flag? (machine.registers.get x) (machine.registers.get y) = none) :
    (machine.executeArithmetic x y n).registers =
      machine.registers.put x
        (operation.result (machine.registers.get x) (machine.registers.get y)) := by
  rw [executeArithmetic_eq selected, arithmetic_of_plain plain, setRegister]

/-- A second operation takes back from a register what the first has done to it. -/
theorem get_executeArithmetic_undone {first second : Nat} (operation undo : Arithmetic)
    (done : Arithmetic.ofSelector? (first % 16) = some operation)
    (undone : Arithmetic.ofSelector? (second % 16) = some undo)
    (inverse : ∀ left right, undo.result (operation.result left right) right = left)
    (apart : x ≠ y) (xKept : x ≠ flagRegister) (yKept : y ≠ flagRegister) :
    ((machine.executeArithmetic x y first).executeArithmetic x y second).registers.get x =
      machine.registers.get x := by
  rw [get_executeArithmetic undo undone xKept, get_executeArithmetic operation done xKept,
    get_executeArithmetic_of_apart apart.symm yKept, inverse]

end

variable (machine : Machine) (x y : Register)

theorem executeArithmetic_flagged :
    Arithmetic.Flagged (machine.registers.get x).toNat (machine.registers.get y).toNat fun n =>
      ((machine.executeArithmetic x y n).registers.get flagRegister).toNat where
  carry := by
    rw [get_executeArithmetic_flag .add rfl rfl, Arithmetic.flag, Arithmetic.toNat_bit]
    rfl
  greater := by
    rw [get_executeArithmetic_flag .subtract rfl rfl, Arithmetic.flag, Arithmetic.toNat_bit]
    rfl
  lowest := by
    rw [get_executeArithmetic_flag .shiftRight rfl rfl]
    exact UInt8.toNat_mod _ _
  less := by
    rw [get_executeArithmetic_flag .subtractFrom rfl rfl, Arithmetic.flag, Arithmetic.toNat_bit]
    rfl
  highest := by
    rw [get_executeArithmetic_flag .shiftLeft rfl rfl]
    exact UInt8.toNat_div _ _

variable {x} in
theorem executeArithmetic_balanced (kept : x ≠ flagRegister) :
    Arithmetic.Balanced (machine.registers.get x).toNat (machine.registers.get y).toNat
      (fun n => ((machine.executeArithmetic x y n).registers.get x).toNat)
      (fun n => ((machine.executeArithmetic x y n).registers.get flagRegister).toNat) := by
  have flags := machine.executeArithmetic_flagged x y
  have leftBound := (machine.registers.get x).toNat_lt
  have rightBound := (machine.registers.get y).toNat_lt
  constructor
  case sum =>
    rw [flags.carry, get_executeArithmetic .add rfl kept, Arithmetic.result, UInt8.toNat_add]
    split <;> omega
  case difference =>
    rw [get_executeArithmetic .subtract rfl kept, Arithmetic.result, UInt8.toNat_sub]
    split <;> omega
  case half =>
    rw [flags.lowest, get_executeArithmetic .shiftRight rfl kept, Arithmetic.result,
      UInt8.toNat_div]
    exact Nat.div_add_mod _ 2
  case opposite =>
    rw [get_executeArithmetic .subtractFrom rfl kept, Arithmetic.result, UInt8.toNat_sub]
    split <;> omega
  case double =>
    rw [flags.highest, get_executeArithmetic .shiftLeft rfl kept, Arithmetic.result,
      UInt8.toNat_mul]
    change 256 * (_ / 128) + _ * 2 % 256 = _
    omega

/-- The operations `8XYN` are exact, whichever of the registers are the same. The results of
those with a flag balance with their flags, and where the flag register would take the result, it
has the same flag instead. The other operations change one register only, and no operation
changes a third one. Subtracting what has been added restores a register, and so does
subtracting it from the other one twice. -/
theorem arithmetic_is_exact (machine : Machine) (x y : Register) :
    let left := machine.registers.get x
    let right := machine.registers.get y
    let after (n : Nat) := (machine.executeArithmetic x y n).registers
    let result (n : Nat) := ((after n).get x).toNat
    let flag (n : Nat) := ((after n).get flagRegister).toNat
    (x ≠ flagRegister → Arithmetic.Balanced left.toNat right.toNat result flag) ∧
      Arithmetic.Flagged left.toNat right.toNat flag ∧
      (after 0x0 = machine.registers.put x right ∧
        after 0x1 = machine.registers.put x (left ||| right) ∧
        after 0x2 = machine.registers.put x (left &&& right) ∧
        after 0x3 = machine.registers.put x (left ^^^ right)) ∧
      (∀ n register, register ≠ x → register ≠ flagRegister →
        (after n).get register = machine.registers.get register) ∧
      (x ≠ y → x ≠ flagRegister → y ≠ flagRegister →
        ((machine.executeArithmetic x y 0x4).executeArithmetic x y 0x5).registers.get x = left ∧
          ((machine.executeArithmetic x y 0x7).executeArithmetic x y 0x7).registers.get x =
            left) := by
  intro left right after result flag
  refine ⟨machine.executeArithmetic_balanced y, machine.executeArithmetic_flagged x y, ?_, ?_, ?_⟩
  · exact ⟨executeArithmetic_of_plain .copy rfl rfl, executeArithmetic_of_plain .or rfl rfl,
      executeArithmetic_of_plain .and rfl rfl, executeArithmetic_of_plain .xor rfl rfl⟩
  · intro n register apart kept
    exact get_executeArithmetic_of_apart apart kept
  · intro apart xKept yKept
    constructor
    · exact get_executeArithmetic_undone .add .subtract rfl rfl UInt8.add_sub_cancel apart xKept
        yKept
    · have involution (left right : UInt8) : right - (right - left) = left := by grind
      exact get_executeArithmetic_undone .subtractFrom .subtractFrom rfl rfl involution apart
        xKept yKept

end Machine

end Chip8
