namespace Chip8

/-! The 4096 byte cells. Program data is addressed by natural numbers taken
modulo the size, so a block that runs past the last cell continues at cell 0;
only the fetch of an instruction stops at the last cell instead. -/

abbrev Address := Fin 4096

abbrev Memory := Vector UInt8 4096

namespace Memory

abbrev size : Nat := 4096

/-- Programs are loaded here. -/
abbrev programStart : Nat := 0x200

/-- The largest program that fits. -/
abbrev programSpace : Nat := size - programStart

def zero : Memory := Vector.replicate 4096 0

def read (memory : Memory) (address : Nat) : UInt8 :=
  memory[address % 4096]

def put (memory : Memory) (address : Nat) (byte : UInt8) : Memory :=
  memory.set (address % 4096) byte

/-- Addresses past the end read the last cell. -/
def readClamped (memory : Memory) (address : Nat) : UInt8 :=
  memory[min address 4095]

/-- Store consecutive bytes, one cell after the other. -/
def write (memory : Memory) (address : Nat) : List UInt8 → Memory
  | [] => memory
  | byte :: bytes => write (memory.put address byte) (address + 1) bytes

/-- As many addresses as asked for, from `address` on. -/
def window (address count : Nat) : Vector Address count :=
  Vector.ofFn fun offset => ⟨(address + offset.val) % 4096, Nat.mod_lt _ (Nat.succ_pos 4095)⟩

/-- The bytes at many addresses at once. -/
def gather {count : Nat} (memory : Memory) (addresses : Vector Address count) :
    Vector UInt8 count :=
  Vector.ofFn fun offset => memory.get (addresses.get offset)

/-- Store at many addresses at once: each cell takes the byte that is sent to it. If the
addresses are not distinct, it is left to chance which of several bytes that is; here it
is the first one. -/
def scatter {count : Nat} (memory : Memory) (addresses : Vector Address count)
    (bytes : Vector UInt8 count) : Memory :=
  Vector.ofFn fun cell =>
    match (List.finRange count).find? fun offset => addresses.get offset == cell with
    | some offset => bytes.get offset
    | none => memory.get cell

theorem read_put (memory : Memory) (address target : Nat) (byte : UInt8) :
    (memory.put target byte).read address =
      if target % 4096 = address % 4096 then byte else memory.read address := by
  simp only [read, put, Vector.getElem_set]

theorem write_append (memory : Memory) (address : Nat) (first second : List UInt8) :
    memory.write address (first ++ second) =
      (memory.write address first).write (address + first.length) second := by
  induction first generalizing memory address with
  | nil => rfl
  | cons byte rest ih =>
      simp only [List.cons_append, write, ih, List.length_cons, Nat.add_assoc, Nat.add_comm 1]

/-- Cells that no byte of the block lands on keep their value. -/
theorem read_write_frame {memory : Memory} {address target : Nat} {bytes : List UInt8}
    (outside : ∀ offset < bytes.length, (target + offset) % 4096 ≠ address % 4096) :
    (memory.write target bytes).read address = memory.read address := by
  induction bytes generalizing memory target with
  | nil => rfl
  | cons byte rest ih =>
      have head : target % 4096 ≠ address % 4096 := outside 0 (by simp)
      rw [write, ih (fun offset bound => by
        have := outside (offset + 1) (by simp only [List.length_cons]; omega)
        rwa [Nat.add_assoc, Nat.add_comm 1]), read_put, if_neg head]

/-- A block that is no longer than the memory is stored as it is. -/
theorem read_write_inside {memory : Memory} {target offset : Nat} {bytes : List UInt8}
    (fits : bytes.length ≤ 4096) (inside : offset < bytes.length) :
    (memory.write target bytes).read (target + offset) = bytes[offset] := by
  induction bytes generalizing memory target offset with
  | nil => exact absurd inside (Nat.not_lt_zero offset)
  | cons byte rest ih =>
      simp only [List.length_cons] at fits inside
      cases offset with
      | zero =>
          rw [write, read_write_frame (fun later bound => by omega), Nat.add_zero, read_put,
            if_pos rfl, List.getElem_cons_zero]
      | succ offset =>
          have bound : offset < rest.length := by omega
          have later : ((memory.put target byte).write (target + 1) rest).read
              (target + 1 + offset) = rest[offset] := ih (by omega) bound
          rw [write, List.getElem_cons_succ, ← later, Nat.add_assoc, Nat.add_comm 1]

end Memory

end Chip8
