import Chip8.Memory

namespace Chip8.Memory

/-! Blocks of cells that are stored at once. The addresses of a block that is not longer
than the memory are distinct, also where it goes on at cell 0, so every byte arrives in a
cell of its own. Storing the block at once is then the same as storing one byte after the
other, and bytes that are there already may be left out. -/

variable {memory : Memory} {address target count : Nat} {bytes : List UInt8}

theorem read_eq_get (memory : Memory) (address : Nat) (cell : Address)
    (here : address % 4096 = cell.val) : memory.read address = memory.get cell := by
  obtain ⟨cell, inside⟩ := cell
  cases here
  rfl

theorem val_get_window (address : Nat) (offset : Fin count) :
    ((window address count).get offset).val = (address + offset.val) % 4096 :=
  congrArg Fin.val (Vector.getElem_ofFn offset.isLt)

/-- No two addresses of a block are the same. -/
theorem window_injective (small : count ≤ 4096) {first second : Fin count}
    (same : (window address count).get first = (window address count).get second) :
    first = second := by
  have cells := congrArg Fin.val same
  rw [val_get_window, val_get_window] at cells
  apply Fin.ext
  omega

theorem get_gather (addresses : Vector Address count) (offset : Fin count) :
    (memory.gather addresses).get offset = memory.get (addresses.get offset) :=
  Vector.getElem_ofFn offset.isLt

section Scatter

variable {addresses : Vector Address count} {values : Vector UInt8 count}

theorem get_scatter (memory : Memory) (addresses : Vector Address count)
    (values : Vector UInt8 count) (cell : Address) :
    (memory.scatter addresses values).get cell =
      match (List.finRange count).find? fun offset => addresses.get offset == cell with
      | some offset => values.get offset
      | none => memory.get cell :=
  Vector.getElem_ofFn cell.isLt

/-- A byte is found where it was sent, if nothing else was sent there. -/
theorem get_scatter_inside
    (distinct : ∀ first second, addresses.get first = addresses.get second → first = second)
    (offset : Fin count) :
    (memory.scatter addresses values).get (addresses.get offset) = values.get offset := by
  rw [get_scatter]
  cases found : (List.finRange count).find? fun other =>
      addresses.get other == addresses.get offset with
  | some other =>
      have hit := List.find?_some found
      rw [distinct other offset (beq_iff_eq.mp hit)]
  | none =>
      have missed := List.find?_eq_none.mp found offset (List.mem_finRange offset)
      exact absurd BEq.rfl missed

/-- Cells to which nothing is sent keep their bytes. -/
theorem get_scatter_outside {cell : Address} (outside : ∀ offset, addresses.get offset ≠ cell) :
    (memory.scatter addresses values).get cell = memory.get cell := by
  have missed :
      (List.finRange count).find? (fun offset => addresses.get offset == cell) = none := by
    rw [List.find?_eq_none]
    intro offset _ hit
    exact outside offset (beq_iff_eq.mp hit)
  rw [get_scatter, missed]

end Scatter

/-- A block that is stored at once is stored byte by byte. -/
theorem scatter_window (small : count ≤ 4096) (memory : Memory) (address : Nat)
    (values : Vector UInt8 count) :
    memory.scatter (window address count) values = memory.write address values.toList := by
  have length : values.toList.length = count := Vector.length_toList
  apply Vector.ext
  intro cell inside
  change (memory.scatter _ values).get ⟨cell, inside⟩ = (memory.write _ _).get ⟨cell, inside⟩
  -- A cell of the block has the byte that is sent to it on both sides, any other keeps its own.
  by_cases reached : ∃ offset : Fin count, (window address count).get offset = ⟨cell, inside⟩
  · obtain ⟨offset, here⟩ := reached
    have bound : offset.val < values.toList.length := by omega
    have stored : (memory.write address values.toList).read (address + offset.val) =
        values.toList[offset.val] :=
      read_write_inside (Nat.le_trans (Nat.le_of_eq length) small) bound
    rw [read_eq_get _ _ ⟨cell, inside⟩ (by rw [← here, val_get_window])] at stored
    rw [stored, ← here, get_scatter_inside (fun _ _ => window_injective small),
      Vector.getElem_toList]
    rfl
  · have outside : ∀ offset, (window address count).get offset ≠ ⟨cell, inside⟩ :=
      fun offset here => reached ⟨offset, here⟩
    have kept : (memory.write address values.toList).read cell = memory.read cell := by
      refine read_write_frame fun offset bound here => ?_
      refine outside ⟨offset, by omega⟩ (Fin.ext ?_)
      rw [val_get_window]
      exact here.trans (Nat.mod_eq_of_lt inside)
    rw [get_scatter_outside outside]
    rw [read_eq_get _ _ ⟨cell, inside⟩ (Nat.mod_eq_of_lt inside),
      read_eq_get _ _ ⟨cell, inside⟩ (Nat.mod_eq_of_lt inside)] at kept
    exact kept.symm

/-- Bytes that are there already can be written without effect. -/
theorem write_of_read
    (same : ∀ offset (inside : offset < bytes.length),
      bytes[offset] = memory.read (target + offset)) : memory.write target bytes = memory := by
  induction bytes generalizing target with
  | nil => rfl
  | cons byte rest ih =>
      have kept : memory.put target byte = memory := by
        rw [show byte = memory.read target from same 0 (Nat.succ_pos _)]
        exact Vector.set_getElem_self _
      rw [write, kept]
      refine ih fun offset inside => ?_
      rw [Nat.add_assoc, Nat.add_comm 1]
      exact same (offset + 1) (Nat.succ_lt_succ inside)

end Chip8.Memory
