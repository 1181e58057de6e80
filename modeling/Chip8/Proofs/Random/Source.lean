import Chip8.Proofs.Machine.Execution
import Chip8.Proofs.Random.Threefry

namespace Chip8

/-! The two keys that come of a split are apart, since the block function tells the counters
apart from which they are made. So the key that a machine keeps is never the one whose byte it
has drawn. -/

theorem Random.Key.split_apart (key : Random.Key) : key.split.1 ≠ key.split.2 := by
  intro same
  have counters : (⟨0, 0⟩ : Random.Words) = ⟨0, 1⟩ :=
    (Random.Threefry.block_bijective key).injective same
  exact absurd counters (by decide)

/-- The random instruction `CXNN` splits the key in two, keeps one part and stores the byte of
the other masked with `NN`, and these two are never the same. -/
theorem Machine.kept_key_is_not_drawn_from (machine : Machine) (x y n : Fin 16) :
    let mask := UInt8.ofNat (0x10 * y.val + n.val)
    let kept := machine.rng.split.1
    let used := machine.rng.split.2
    let drawn := machine.execute (Instruction.word ⟨0xC, by decide⟩ x y n)
    drawn.rng = kept ∧ drawn.registers.get x = used.byte &&& mask ∧ kept ≠ used := by
  intro mask kept used drawn
  have random : drawn = machine.perform (.random x mask) := by
    rw [← Instruction.ofWord_random x y n]
    exact machine.execute_eq _
  rw [random]
  refine ⟨rfl, ?_, machine.rng.split_apart⟩
  exact (machine.get_setRegister x x _).trans (if_pos rfl)

end Chip8
