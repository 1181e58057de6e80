import Chip8.Machine.Execute
import Chip8.Proofs.Instruction.Meaning
import Chip8.Proofs.Memory

namespace Chip8

/-! The effect of an instruction by its meaning, in which blocks of bytes are moved as blocks
and an operation either has a flag or not. An execution goes by its own switches and tables and
by stores of many cells at once, and comes to the same. -/

namespace Machine

/-- The result goes to `x` first and the flag, if there is one, to the flag register second. -/
def arithmetic (machine : Machine) (operation : Arithmetic) (x y : Register) : Machine :=
  let left := machine.registers.get x
  let right := machine.registers.get y
  let written := machine.setRegister x (operation.result left right)
  match operation.flag? left right with
  | some flag => written.setRegister flagRegister flag
  | none => written

def decimal (machine : Machine) (x : Register) : Machine :=
  { machine with
    memory := machine.memory.write machine.index.toNat
      (decimalDigits (machine.registers.get x)).toList }

def store (machine : Machine) (x : Register) : Machine :=
  { machine with
    memory := machine.memory.write machine.index.toNat
      (machine.registers.toList.take (x.val + 1)) }

def fill (machine : Machine) (x : Register) : Machine :=
  { machine with
    registers := Vector.ofFn fun register =>
      if register ≤ x then machine.memory.read (machine.index.toNat + register.val)
      else machine.registers.get register }

/-- Do what an instruction means. -/
def perform (machine : Machine) : Instruction → Machine
  | .clear => machine.clear
  | .ret => machine.ret
  | .jump target => machine.jump target
  | .call target => machine.call target
  | .skipIfByte x byte => machine.skipIf (machine.registers.get x = byte)
  | .skipUnlessByte x byte => machine.skipIf (machine.registers.get x ≠ byte)
  | .skipIfSame x y => machine.skipIf (machine.registers.get x = machine.registers.get y)
  | .setByte x byte => machine.setRegister x byte
  | .addByte x byte => machine.setRegister x (machine.registers.get x + byte)
  | .arithmetic operation x y => machine.arithmetic operation x y
  | .skipUnlessSame x y => machine.skipIf (machine.registers.get x ≠ machine.registers.get y)
  | .setIndex address => machine.setIndex address
  | .jumpOffset base => machine.jumpOffset base
  | .random x mask => machine.random x mask
  | .draw x y rows => machine.draw x y rows
  | .skipIfHeld x => machine.skipIf (machine.keys.get (machine.keyOf x))
  | .skipUnlessHeld x => machine.skipIf (!machine.keys.get (machine.keyOf x))
  | .getDelay x => machine.setRegister x machine.delay
  | .awaitKey x => machine.awaitKey x
  | .setDelay x => machine.setDelay x
  | .setSound x => machine.setSound x
  | .addIndex x => machine.addIndex x
  | .glyph x => machine.glyph x
  | .decimal x => machine.decimal x
  | .store x => machine.store x
  | .fill x => machine.fill x
  | .unmapped _ => machine

variable (machine : Machine) (x y : Register)

theorem setRegister_get : machine.setRegister x (machine.registers.get x) = machine := by
  have same : machine.registers.put x (machine.registers.get x) = machine.registers :=
    Vector.set_getElem_self x.isLt
  rw [setRegister, same]

theorem arithmetic_eq_ite (operation : Arithmetic) :
    machine.arithmetic operation x y =
      let left := machine.registers.get x
      let right := machine.registers.get y
      let written := machine.setRegister x (operation.result left right)
      if operation.hasFlag then written.setRegister flagRegister (operation.flag left right)
      else written := by
  simp only [arithmetic, Arithmetic.flag?]
  cases operation.hasFlag <;> rfl

/-- The tables know the same operations and flags. Without an operation, the register gets back
what is in it. -/
theorem combine_eq (n : Fin 16) :
    machine.combine x y n =
      match Arithmetic.ofSelector? n.val with
      | some operation => machine.arithmetic operation x y
      | none => machine := by
  have selected := Arithmetic.ofSelector?_eq n
  have flagged := Arithmetic.flagging_eq n
  cases selects : Arithmetic.selecting.get n with
  | true =>
      rw [selects, if_pos rfl] at selected
      rw [selected, Option.map_some, Option.getD_some] at flagged
      simp only [selected, arithmetic_eq_ite, ← flagged]
      simp only [combine, Arithmetic.outcome, selects, if_true]
  | false =>
      rw [selects, if_neg Bool.false_ne_true] at selected
      rw [selected, Option.map_none, Option.getD_none] at flagged
      simp only [combine, Arithmetic.outcome, selects, Bool.false_eq_true, if_false, flagged,
        selected, setRegister_get]

theorem get_fill (register : Register) :
    (machine.fill x).registers.get register =
      if register ≤ x then machine.memory.read (machine.index.toNat + register.val)
      else machine.registers.get register :=
  Vector.getElem_ofFn register.isLt

theorem get_choose_upTo (first second : Registers) (register : Register) :
    (Registers.choose (upTo x) first second).get register =
      if register ≤ x then first.get register else second.get register := by
  have marked : (upTo x).get register = decide (register ≤ x) :=
    Vector.getElem_ofFn register.isLt
  have chosen : (Registers.choose (upTo x) first second).get register =
      if (upTo x).get register then first.get register else second.get register :=
    Vector.getElem_ofFn register.isLt
  simp only [chosen, marked, decide_eq_true_eq]

theorem get_gather_blockWindow (register : Register) :
    (machine.memory.gather machine.blockWindow).get register =
      machine.memory.read (machine.index.toNat + register.val) := by
  rw [Memory.get_gather]
  exact (Memory.read_eq_get _ _ _ (Memory.val_get_window _ register).symm).symm

theorem loadRegisters_eq : machine.loadRegisters x = machine.fill x := by
  have registers : Registers.choose (upTo x) (machine.memory.gather machine.blockWindow)
      machine.registers = (machine.fill x).registers := by
    apply Vector.ext
    intro register inside
    change Vector.get _ ⟨register, inside⟩ = Vector.get _ ⟨register, inside⟩
    rw [get_choose_upTo, get_gather_blockWindow, get_fill]
  rw [loadRegisters, registers]
  rfl

/-- The registers up to `x` are the first of those that are chosen. -/
theorem take_choose_upTo (first second : Registers) :
    (Registers.choose (upTo x) first second).toList.take (x.val + 1) =
      first.toList.take (x.val + 1) := by
  apply List.ext_getElem
  · rw [Registers.length_take, Registers.length_take]
  · intro register inside _
    have bound : register < x.val + 1 := Registers.length_take _ x ▸ inside
    have small : register < 16 := Nat.lt_of_lt_of_le bound x.isLt
    rw [List.getElem_take, List.getElem_take, Vector.getElem_toList, Vector.getElem_toList]
    change Vector.get _ ⟨register, small⟩ = Vector.get _ ⟨register, small⟩
    rw [get_choose_upTo]
    exact if_pos (Nat.le_of_lt_succ bound)

/-- The bytes that are written back behind the block are there already, since no cell of the
block is reached a second time. -/
theorem write_back (bytes : List UInt8) (length : bytes.length = x.val + 1) (second : Registers)
    (kept : ∀ register, second.get register =
      machine.memory.read (machine.index.toNat + register.val)) :
    (machine.memory.write machine.index.toNat bytes).write (machine.index.toNat + bytes.length)
        (second.toList.drop (x.val + 1)) =
      machine.memory.write machine.index.toNat bytes := by
  apply Memory.write_of_read
  intro offset inside
  rw [List.length_drop, Vector.length_toList] at inside
  have small : x.val + 1 + offset < 16 := by omega
  -- The block has sixteen cells, so the later ones are apart from the first also around the end.
  have apart : ∀ other < bytes.length, (machine.index.toNat + other) % 4096 ≠
      (machine.index.toNat + bytes.length + offset) % 4096 := by omega
  rw [Memory.read_write_frame apart, length, Nat.add_assoc, List.getElem_drop,
    Vector.getElem_toList]
  exact kept ⟨x.val + 1 + offset, small⟩

theorem drop_choose_upTo (first second : Registers) :
    (Registers.choose (upTo x) first second).toList.drop (x.val + 1) =
      second.toList.drop (x.val + 1) := by
  apply List.ext_getElem
  · rw [List.length_drop, List.length_drop, Vector.length_toList, Vector.length_toList]
  · intro offset inside _
    rw [List.length_drop, Vector.length_toList] at inside
    have small : x.val + 1 + offset < 16 := by omega
    rw [List.getElem_drop, List.getElem_drop, Vector.getElem_toList, Vector.getElem_toList]
    change Vector.get _ ⟨x.val + 1 + offset, small⟩ = Vector.get _ ⟨x.val + 1 + offset, small⟩
    rw [get_choose_upTo]
    refine if_neg (Nat.not_le_of_lt ?_)
    change x.val < x.val + 1 + offset
    omega

/-- All sixteen cells are stored, which comes to the block of the registers up to `x`. -/
theorem storeRegisters_eq : machine.storeRegisters x = machine.store x := by
  have length := Registers.length_take machine.registers x
  have memory : machine.memory.scatter machine.blockWindow
        (Registers.choose (upTo x) machine.registers
          (machine.memory.gather machine.blockWindow)) =
      machine.memory.write machine.index.toNat (machine.registers.toList.take (x.val + 1)) := by
    -- The first part of what is stored are the registers, the rest is what was there before.
    rw [blockWindow, Memory.scatter_window (by decide),
      ← List.take_append_drop (x.val + 1) (Vector.toList (Registers.choose _ _ _)),
      take_choose_upTo, drop_choose_upTo, Memory.write_append]
    exact machine.write_back x _ length _ machine.get_gather_blockWindow
  rw [storeRegisters, memory]
  rfl

theorem storeDecimal_eq : machine.storeDecimal x = machine.decimal x := by
  rw [storeDecimal, Memory.scatter_window (by decide)]
  rfl

/-- A skip that depends on a zero nibble has no meaning without it. -/
theorem skipIf_and (n : Fin 16) (condition : Bool) (raw : Int) {skip : Instruction}
    (skips : machine.skipIf condition = machine.perform skip) :
    machine.skipIf (n.val == 0 && condition) =
      machine.perform (if n.val = 0 then skip else .unmapped raw) := by
  by_cases even : n.val = 0
  · rw [if_pos even, even, ← skips]
    rfl
  · rw [if_neg even, beq_false_of_ne even]
    rfl

theorem system_eq (fields : Fields) :
    system machine fields =
      machine.perform
        (if fields.raw = 0x00E0 then .clear else if fields.raw = 0x00EE then .ret
          else .unmapped fields.raw) := by
  by_cases clears : fields.raw = 0x00E0
  · simp only [system, clears]
    rfl
  · by_cases returns : fields.raw = 0x00EE
    · simp only [system, returns]
      rfl
    · rw [if_neg clears, if_neg returns, system, beq_false_of_ne clears, beq_false_of_ne returns]
      rfl

theorem keySkip_eq (fields : Fields) :
    skipWhen keyCondition machine fields =
      machine.perform (.ofKeyByte fields.raw fields.x fields.nn.toNat) := by
  rw [skipWhen, keyCondition]
  have same (low : UInt8) (found : fields.nn.toNat = low.toNat) : fields.nn = low :=
    UInt8.toNat_inj.mp found
  unfold Instruction.ofKeyByte
  split
  case h_1 found =>
    rw [same 0x9E found]
    exact congrArg machine.skipIf (Bool.or_false _)
  case h_2 found =>
    rw [same 0xA1 found]
    rfl
  case h_3 held free =>
    have heldOther : fields.nn ≠ 0x9E := fun same => held (congrArg UInt8.toNat same)
    have freeOther : fields.nn ≠ 0xA1 := fun same => free (congrArg UInt8.toNat same)
    rw [beq_false_of_ne heldOther, beq_false_of_ne freeOther]
    rfl

theorem timerOrMemory_eq (fields : Fields) :
    timerOrMemory machine fields =
      machine.perform (.ofLastByte fields.raw fields.x fields.nn.toNat) := by
  have same (low : UInt8) (found : fields.nn.toNat = low.toNat) : fields.nn = low :=
    UInt8.toNat_inj.mp found
  rw [timerOrMemory]
  unfold Instruction.ofLastByte
  split
  case h_1 found => rw [same 0x07 found]; rfl
  case h_2 found => rw [same 0x0A found]; rfl
  case h_3 found => rw [same 0x15 found]; rfl
  case h_4 found => rw [same 0x18 found]; rfl
  case h_5 found => rw [same 0x1E found]; rfl
  case h_6 found => rw [same 0x29 found]; rfl
  case h_7 found =>
    rw [same 0x33 found]
    exact machine.storeDecimal_eq fields.x
  case h_8 found =>
    rw [same 0x55 found]
    exact machine.storeRegisters_eq fields.x
  case h_9 found =>
    rw [same 0x65 found]
    exact machine.loadRegisters_eq fields.x
  case h_10 getDelay awaitKey setDelay setSound addIndex glyph decimal store fill =>
    have other (low : UInt8) (missed : fields.nn.toNat ≠ low.toNat) : (fields.nn == low) = false :=
      beq_false_of_ne fun same => missed (congrArg UInt8.toNat same)
    rw [timerOrMemoryIndex, other 0x07 getDelay, other 0x0A awaitKey, other 0x15 setDelay,
      other 0x18 setSound, other 0x1E addIndex, other 0x29 glyph, other 0x33 decimal,
      other 0x55 store, other 0x65 fill]
    rfl

/-- The switches of an execution find out what a word means. -/
theorem execute_eq (word : UInt16) :
    machine.execute word = machine.perform (Instruction.ofWord word) := by
  rw [execute, Instruction.ofWord, Instruction.ofInt]
  generalize Fields.ofInt word.toNat = fields
  obtain ⟨raw, ⟨family, bound⟩, x, y, n, nn, nnn⟩ := fields
  match family, bound with
  | 0x0, _ => exact machine.system_eq _
  | 0x1, _ | 0x2, _ | 0x3, _ | 0x6, _ | 0x7, _ | 0xA, _ | 0xB, _ | 0xC, _ | 0xD, _ => rfl
  | 0x4, _ => exact congrArg machine.skipIf decide_not.symm
  | 0x5, _ => exact machine.skipIf_and n _ raw rfl
  | 0x8, _ =>
      refine (machine.combine_eq x y n).trans ?_
      change _ = machine.perform
        (match Arithmetic.ofSelector? n with
        | some operation => .arithmetic operation x y
        | none => .unmapped raw)
      cases Arithmetic.ofSelector? n.val with
      | some operation => rfl
      | none => rfl
  | 0x9, _ => exact machine.skipIf_and n _ raw (congrArg machine.skipIf decide_not.symm)
  | 0xE, _ => exact machine.keySkip_eq _
  | 0xF, _ => exact machine.timerOrMemory_eq _
  | _ + 0x10, bound => exact absurd bound (by omega)

end Machine

end Chip8
