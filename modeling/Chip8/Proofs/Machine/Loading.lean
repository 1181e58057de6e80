import Chip8.Machine.Basic

namespace Chip8

/-! Programs as they are loaded and fetched. A program that fits takes the place of the cells
that it covers and of no other; the words of a program that was written high byte first are
fetched again in order, up to the last cell of memory. -/

variable {memory : Memory} {address : Nat} {word : UInt16} {words : List UInt16}
  {machine : Machine}

/-- The bytes of words, the high byte of each word first. -/
def bigEndian (words : List UInt16) : List UInt8 :=
  words.flatMap fun word => [UInt8.ofNat (word.toNat / 256), UInt8.ofNat (word.toNat % 256)]

theorem bigEndian_cons (word : UInt16) (words : List UInt16) :
    bigEndian (word :: words) =
      UInt8.ofNat (word.toNat / 256) :: UInt8.ofNat (word.toNat % 256) :: bigEndian words := rfl

theorem length_bigEndian (words : List UInt16) : (bigEndian words).length = 2 * words.length := by
  induction words with
  | nil => rfl
  | cons word words ih =>
      simp only [bigEndian_cons, List.length_cons, ih]
      omega

namespace Memory

theorem read_of_lt (memory : Memory) (inside : address < 4096) :
    memory.read address = memory[address] := by
  simp only [read, Nat.mod_eq_of_lt inside]

/-- The words lie one after the other from this address on, high byte first. -/
def Holds (memory : Memory) (address : Nat) : List UInt16 → Prop
  | [] => True
  | word :: words =>
      256 * (memory.read address).toNat + (memory.read (address + 1)).toNat = word.toNat ∧
        memory.Holds (address + 2) words

theorem holds_write (memory : Memory) (address : Nat) (fits : 2 * words.length ≤ 4096) :
    (memory.write address (bigEndian words)).Holds address words := by
  induction words generalizing memory address with
  | nil => trivial
  | cons word words ih =>
      have length := length_bigEndian words
      rw [List.length_cons] at fits
      rw [bigEndian_cons, write, write]
      -- The bytes behind the first two reach neither of them.
      refine ⟨?_, ih _ _ (by omega)⟩
      rw [read_write_frame fun offset bound => by omega,
        read_write_frame fun offset bound => by omega, read_put, read_put, read_put,
        if_neg (by omega), if_pos rfl, if_pos rfl, UInt8.toNat_ofNat', UInt8.toNat_ofNat']
      have bound : word.toNat < 65536 := word.toNat_lt
      omega

end Memory

namespace Machine

theorem word_inside (inside : machine.pc.toNat + 1 < 4096) :
    machine.word.toNat =
      256 * machine.memory[machine.pc.toNat].toNat +
        machine.memory[machine.pc.toNat + 1].toNat := by
  have next : (machine.pc + 1).toNat = machine.pc.toNat + 1 := by
    rw [UInt16.toNat_add]
    exact Nat.mod_eq_of_lt (show machine.pc.toNat + 1 < 65536 by omega)
  have high : min machine.pc.toNat 4095 = machine.pc.toNat := by omega
  have low : min (machine.pc.toNat + 1) 4095 = machine.pc.toNat + 1 := by omega
  have highByte := machine.memory[machine.pc.toNat].toNat_lt
  have lowByte := machine.memory[machine.pc.toNat + 1].toNat_lt
  simp only [Machine.word, Memory.readClamped, next, high, low]
  exact UInt16.toNat_ofNat_of_lt' (show _ < 65536 by omega)

def fetchMany (machine : Machine) : Nat → List UInt16 × Machine
  | 0 => ([], machine)
  | count + 1 =>
      let (word, next) := machine.fetch
      let (words, last) := next.fetchMany count
      (word :: words, last)

theorem fetch_of_holds (holds : machine.memory.Holds machine.pc.toNat (word :: words))
    (inside : machine.pc.toNat + 1 < 4096) : machine.fetch = (word, machine.advance) := by
  have read := holds.1
  rw [Memory.read_of_lt _ (Nat.lt_of_succ_lt inside), Memory.read_of_lt _ inside] at read
  have fetched : machine.word = word := UInt16.toNat_inj.mp ((word_inside inside).trans read)
  rw [fetch, fetched]

theorem fetchMany_of_holds (holds : machine.memory.Holds machine.pc.toNat words)
    (room : machine.pc.toNat + 2 * words.length ≤ 4096) {count : Nat}
    (enough : count ≤ words.length) :
    machine.fetchMany count =
      (words.take count, { machine with pc := UInt16.ofNat (machine.pc.toNat + 2 * count) }) := by
  induction count generalizing machine words with
  | zero =>
      rw [fetchMany, List.take_zero, Nat.mul_zero, Nat.add_zero, UInt16.ofNat_toNat]
  | succ count ih =>
      cases words with
      | nil => contradiction
      | cons word words =>
          rw [List.length_cons] at room enough
          have next : machine.advance.pc.toNat = machine.pc.toNat + 2 := by
            change (machine.pc + 2).toNat = _
            rw [UInt16.toNat_add]
            exact Nat.mod_eq_of_lt (show machine.pc.toNat + 2 < 65536 by omega)
          have rest : machine.advance.memory.Holds machine.advance.pc.toNat words :=
            next ▸ holds.2
          have later := ih rest (by omega) (Nat.le_of_succ_le_succ enough)
          rw [fetchMany, fetch_of_holds holds (by omega)]
          simp only [later, List.take_succ_cons, next]
          rw [Nat.add_assoc, Nat.mul_succ, Nat.add_comm 2]
          rfl

theorem load_of_fits {program : List UInt8} (fits : program.length ≤ 3584) :
    machine.load program =
      .ok { machine with memory := machine.memory.write Memory.programStart program } :=
  if_neg (Nat.not_lt_of_le fits)

theorem load_of_oversized {program : List UInt8} (oversized : 3584 < program.length) :
    machine.load program = .error ⟨program.length⟩ :=
  if_pos oversized

/-- The cells that a program covers hold its bytes, all others what they held before. -/
theorem getElem_write_program (memory : Memory) {program : List UInt8}
    (fits : program.length ≤ 3584) (inside : address < 4096) :
    (memory.write Memory.programStart program)[address] =
      if covered : 0x200 ≤ address ∧ address < 0x200 + program.length then
        program.get ⟨address - 0x200, by omega⟩
      else memory[address] := by
  rw [← Memory.read_of_lt _ inside]
  have start : Memory.programStart = 0x200 := rfl
  split
  next covered =>
    obtain ⟨offset, rfl⟩ : ∃ offset, address = Memory.programStart + offset :=
      ⟨address - 0x200, (Nat.add_sub_of_le covered.1).symm⟩
    rw [Memory.read_write_inside (by omega) (by omega)]
    simp only [start, Nat.add_sub_cancel_left, List.get_eq_getElem]
  next outside =>
    rw [Memory.read_write_frame fun offset bound => by omega, Memory.read_of_lt]

/-- The words of a program are fetched as they were written into it, and loading a program
changes the cells that it covers and nothing else. A program is refused exactly if it is too
large for the memory behind its start. -/
theorem programs_are_fetched_as_loaded :
    (∀ (machine : Machine) (words : List UInt16), 2 * words.length ≤ 3584 →
      machine.pc = 0x200 →
      ∃ loaded, machine.load (bigEndian words) = .ok loaded ∧
        ∀ count ≤ words.length,
          loaded.fetchMany count =
            (words.take count, { loaded with pc := UInt16.ofNat (0x200 + 2 * count) })) ∧
    ∀ (machine : Machine) (program : List UInt8),
      (∀ error, machine.load program = .error error ↔
        3584 < program.length ∧ error.size = program.length) ∧
      (program.length ≤ 3584 →
        ∃ memory, machine.load program = .ok { machine with memory := memory } ∧
          ∀ address (inside : address < 4096), memory[address] =
            if covered : 0x200 ≤ address ∧ address < 0x200 + program.length then
              program.get ⟨address - 0x200, by omega⟩
            else machine.memory[address]) := by
  constructor
  · intro machine words fits start
    have length := length_bigEndian words
    refine ⟨_, load_of_fits (by omega), fun count enough => ?_⟩
    have counter : machine.pc.toNat = 0x200 := congrArg UInt16.toNat start
    let loaded := { machine with
      memory := machine.memory.write Memory.programStart (bigEndian words) }
    have holds : loaded.memory.Holds loaded.pc.toNat words := by
      change (machine.memory.write _ _).Holds machine.pc.toNat words
      rw [counter]
      exact machine.memory.holds_write Memory.programStart (by omega)
    have room : loaded.pc.toNat + 2 * words.length ≤ 4096 := by
      change machine.pc.toNat + _ ≤ _
      omega
    rw [← counter]
    exact fetchMany_of_holds holds room enough
  · intro machine program
    refine ⟨fun error => ⟨fun failed => ?_, fun oversized => ?_⟩, fun fits => ?_⟩
    · rcases Nat.lt_or_ge 3584 program.length with oversized | fits
      · rw [load_of_oversized oversized] at failed
        cases failed
        exact ⟨oversized, rfl⟩
      · rw [load_of_fits fits] at failed
        contradiction
    · rw [load_of_oversized oversized.1, ← oversized.2]
    · exact ⟨_, load_of_fits fits, fun address inside => getElem_write_program _ fits inside⟩

/-- A program that fills the memory is fetched up to the last cell, and the counter is then
past it. -/
theorem full_program_is_fetched :
    ∃ loaded, (fresh ⟨0, 0⟩).load (bigEndian (List.replicate 1792 0xA5C3)) = .ok loaded ∧
      loaded.fetchMany 1792 = (List.replicate 1792 0xA5C3, { loaded with pc := 4096 }) := by
  have length : (List.replicate 1792 (0xA5C3 : UInt16)).length = 1792 := List.length_replicate
  obtain ⟨loaded, accepted, fetched⟩ := programs_are_fetched_as_loaded.1
    (fresh ⟨0, 0⟩) (List.replicate 1792 0xA5C3) (by omega) rfl
  refine ⟨loaded, accepted, (fetched 1792 (by omega)).trans ?_⟩
  rw [List.take_replicate, Nat.min_self]
  rfl

end Machine

end Chip8
