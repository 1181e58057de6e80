import Chip8.Proofs.Machine.Execution
import Mathlib.Data.List.FinRange

namespace Chip8

/-! Blocks of memory, one byte after the other. The instructions that store registers, load them
or store decimal digits reach one cell for each byte, and go on at cell 0 behind the last cell.
A block of registers is shorter than the memory, so no cell is reached twice. -/

/-- The first registers, in order. -/
def firstRegisters (count : Nat) : List Register := (List.finRange 16).take count

theorem firstRegisters_succ {count : Nat} (inside : count < 16) :
    firstRegisters (count + 1) = firstRegisters count ++ [⟨count, inside⟩] := by
  have bound : count < (List.finRange 16).length := by rwa [List.length_finRange]
  rw [firstRegisters, List.take_succ_eq_append_getElem bound, List.getElem_finRange]
  rfl

namespace Registers

variable (registers : Registers) (memory : Memory) (address : Nat) {count : Nat}

theorem getElem_take {index : Nat} (inside : index < (registers.toList.take count).length)
    (register : index < 16) :
    (registers.toList.take count)[index] = registers.get ⟨index, register⟩ := by
  rw [List.getElem_take, Vector.getElem_toList]
  rfl

/-- Of the registers that are loaded one after the other each has its byte as soon as it is
among those done, and its old value until then. -/
theorem get_foldl_put_read (bound : count ≤ 16) (register : Register) :
    ((firstRegisters count).foldl
        (fun registers k => registers.put k (memory.read (address + k.val))) registers).get
          register =
      if register.val < count then memory.read (address + register.val)
      else registers.get register := by
  induction count with
  | zero => rfl
  | succ count ih =>
      rw [firstRegisters_succ bound, List.foldl_append, List.foldl_cons, List.foldl_nil, get_put,
        ih (Nat.le_of_succ_le bound)]
      by_cases last : register.val = count
      · subst last
        rw [if_pos rfl, if_pos (Nat.lt_succ_self _)]
      · rw [if_neg fun same => last (congrArg Fin.val same.symm)]
        exact if_congr (by omega) rfl rfl

/-- Registers that are stored one after the other are written as a block. -/
theorem foldl_put_get (bound : count ≤ 16) :
    (firstRegisters count).foldl
        (fun memory k => memory.put (address + k.val) (registers.get k)) memory =
      memory.write address (registers.toList.take count) := by
  induction count with
  | zero => rfl
  | succ count ih =>
      have inside : count < registers.toList.length := by
        rw [Vector.length_toList]
        exact bound
      rw [firstRegisters_succ bound, List.foldl_append, ih (Nat.le_of_succ_le bound),
        List.take_succ_eq_append_getElem inside, Memory.write_append, List.length_take,
        Nat.min_eq_left (Nat.le_of_lt inside)]
      rfl

end Registers

namespace Machine

variable (machine : Machine) (x : Register)

theorem decimalDigits_eq (value : UInt8) :
    ∃ hundreds tens ones : UInt8, decimalDigits value = #v[hundreds, tens, ones] ∧
      hundreds.toNat ≤ 9 ∧ tens.toNat ≤ 9 ∧ ones.toNat ≤ 9 ∧
      100 * hundreds.toNat + 10 * tens.toNat + ones.toNat = value.toNat := by
  have bound : value.toNat < 256 := value.toNat_lt
  have hundreds : (value / 100).toNat = value.toNat / 100 := UInt8.toNat_div _ _
  have tens : (value / 10 % 10).toNat = value.toNat / 10 % 10 := by
    rw [UInt8.toNat_mod, UInt8.toNat_div]
    rfl
  have ones : (value % 10).toNat = value.toNat % 10 := UInt8.toNat_mod _ _
  exact ⟨_, _, _, rfl, by omega, by omega, by omega, by omega⟩

theorem fill_eq :
    machine.fill x =
      { machine with
        registers := (firstRegisters (x.val + 1)).foldl
          (fun registers k => registers.put k (machine.memory.read (machine.index.toNat + k.val)))
          machine.registers } := by
  have registers : (machine.fill x).registers =
      (firstRegisters (x.val + 1)).foldl
        (fun registers k => registers.put k (machine.memory.read (machine.index.toNat + k.val)))
        machine.registers := by
    apply Vector.ext
    intro register inside
    change (machine.fill x).registers.get ⟨register, inside⟩ = Vector.get _ ⟨register, inside⟩
    rw [get_fill, Registers.get_foldl_put_read _ _ _ x.isLt]
    exact if_congr Nat.lt_succ_iff.symm rfl rfl
  rw [← registers]
  rfl

theorem store_eq :
    machine.store x =
      { machine with
        memory := (firstRegisters (x.val + 1)).foldl
          (fun memory k => memory.put (machine.index.toNat + k.val) (machine.registers.get k))
          machine.memory } := by
  rw [Registers.foldl_put_get _ _ _ x.isLt]
  rfl

/-- What the instruction has stored for a register is found where it should be. -/
theorem read_store {register : Register} (stored : register ≤ x) :
    (machine.store x).memory.read (machine.index.toNat + register.val) =
      machine.registers.get register := by
  have length := machine.registers.length_take x
  have inside : register.val < (machine.registers.toList.take (x.val + 1)).length := by
    rw [length]
    exact Nat.lt_succ_of_le stored
  rw [store, Memory.read_write_inside (by omega) inside,
    Registers.getElem_take _ inside register.isLt]

theorem fill_store {register : Register} (stored : register ≤ x) (registers : Registers) :
    ({ machine.store x with registers := registers }.fill x).registers.get register =
      machine.registers.get register := by
  rw [get_fill, if_pos stored]
  exact machine.read_store x stored

theorem store_fill : ((machine.fill x).store x).memory = machine.memory := by
  have memory : (machine.fill x).memory = machine.memory := by rw [fill]
  have index : (machine.fill x).index = machine.index := by rw [fill]
  simp only [store, memory, index]
  apply Memory.write_of_read
  intro offset inside
  have small : offset < x.val + 1 := Registers.length_take _ x ▸ inside
  let register : Register := ⟨offset, Nat.lt_of_lt_of_le small x.isLt⟩
  have stored : register ≤ x := Nat.le_of_lt_succ small
  rw [Registers.getElem_take _ inside register.isLt, get_fill, if_pos stored]

theorem decimal_eq {hundreds tens ones : UInt8}
    (digits : decimalDigits (machine.registers.get x) = #v[hundreds, tens, ones]) :
    machine.decimal x =
      { machine with
        memory := ((machine.memory.put machine.index.toNat hundreds).put
          (machine.index.toNat + 1) tens).put (machine.index.toNat + 2) ones } := by
  rw [decimal, digits]
  rfl

/-- Registers are stored and loaded one byte after the other, in order and around the end of
memory, and the three decimal digits of a register are stored in the same way; nothing else
changes. What has been stored can be loaded again, whatever has become of the registers, and
storing what has just been loaded changes nothing. -/
theorem blocks_are_moved_bytewise (machine : Machine) (x : Register) :
    let store := Instruction.word ⟨0xF, by decide⟩ x ⟨0x5, by decide⟩ ⟨0x5, by decide⟩
    let fill := Instruction.word ⟨0xF, by decide⟩ x ⟨0x6, by decide⟩ ⟨0x5, by decide⟩
    let decimal := Instruction.word ⟨0xF, by decide⟩ x ⟨0x3, by decide⟩ ⟨0x3, by decide⟩
    let index := machine.index.toNat
    let put (memory : Memory) (offset : Nat) (byte : UInt8) : Memory :=
      memory.set ((index + offset) % 4096) byte
    machine.execute store =
        { machine with
          memory := (firstRegisters (x.val + 1)).foldl
            (fun memory k => put memory k.val (machine.registers.get k)) machine.memory } ∧
      machine.execute fill =
        { machine with
          registers := (firstRegisters (x.val + 1)).foldl
            (fun registers k => registers.put k machine.memory[(index + k.val) % 4096])
            machine.registers } ∧
      (∃ hundreds tens ones : UInt8,
        hundreds.toNat ≤ 9 ∧ tens.toNat ≤ 9 ∧ ones.toNat ≤ 9 ∧
        100 * hundreds.toNat + 10 * tens.toNat + ones.toNat =
          (machine.registers.get x).toNat ∧
        machine.execute decimal =
          { machine with memory := put (put (put machine.memory 0 hundreds) 1 tens) 2 ones }) ∧
      (∀ registers : Registers, ∀ register ≤ x,
        ({ machine.execute store with registers := registers }.execute fill).registers.get
          register = machine.registers.get register) ∧
      ((machine.execute fill).execute store).memory = machine.memory := by
  intro store fill decimal index put
  have stores (machine : Machine) : machine.execute store = machine.store x := by
    rw [execute_eq, Instruction.ofWord_store, perform]
  have fills (machine : Machine) : machine.execute fill = machine.fill x := by
    rw [execute_eq, Instruction.ofWord_fill, perform]
  rw [stores, fills, stores]
  refine ⟨machine.store_eq x, machine.fill_eq x, ?_, ?_, machine.store_fill x⟩
  · obtain ⟨hundreds, tens, ones, digits, hundredsBound, tensBound, onesBound, sum⟩ :=
      decimalDigits_eq (machine.registers.get x)
    refine ⟨hundreds, tens, ones, hundredsBound, tensBound, onesBound, sum, ?_⟩
    rw [execute_eq, Instruction.ofWord_decimal, perform]
    exact machine.decimal_eq x digits
  · intro registers register stored
    rw [fills]
    exact machine.fill_store x stored registers

end Machine

end Chip8
