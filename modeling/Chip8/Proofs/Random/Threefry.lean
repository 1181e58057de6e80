import Chip8.Random.Threefry
import Mathlib.Data.Finite.Prod

namespace Chip8.Random

/-! Under a fixed key the block function is a permutation of the pairs of words. Each of its
steps can be taken back: a round, because a rotation loses no bit and the exclusive or with
the sum cancels; the addition of the schedule's words, because sums modulo 2^32 cancel. -/

open Function (Injective Bijective)

theorem Words.add_injective (added : Words) : Injective fun words : Words => words.add added := by
  rintro ⟨first, second⟩ ⟨otherFirst, otherSecond⟩ same
  simp only [add, Words.mk.injEq, UInt32.add_left_inj] at same
  rw [same.1, same.2]

/-- A chain of steps that can each be taken back can be taken back. -/
theorem foldl_injective {α β : Type} {step : α → β → α} {inputs : List β}
    (steps : ∀ input ∈ inputs, Injective fun state => step state input) :
    Injective fun state => inputs.foldl step state := by
  induction inputs with
  | nil => exact Function.injective_id
  | cons input inputs ih =>
      have later := ih fun next member => steps next (List.mem_cons_of_mem input member)
      exact later.comp (steps input List.mem_cons_self)

namespace Threefry

variable {amount : UInt32}

theorem toBitVec_rotateLeft (word : UInt32) (moves : 0 < amount.toNat)
    (short : amount.toNat < 32) :
    (rotateLeft word amount).toBitVec = word.toBitVec.rotateLeft amount.toNat := by
  have back : (32 - amount).toNat = 32 - amount.toNat :=
    UInt32.toNat_sub_of_le _ _ (UInt32.le_iff_toNat_le.mpr (Nat.le_of_lt short))
  rw [rotateLeft, UInt32.toBitVec_or, UInt32.toBitVec_shiftLeft, UInt32.toBitVec_shiftRight,
    BitVec.rotateLeft_def, BitVec.shiftLeft_eq', BitVec.ushiftRight_eq']
  congr 2
  -- Shifts take their amounts modulo 32, which changes the second one if the first is 0.
  rw [BitVec.toNat_umod, UInt32.toNat_toBitVec, back, Nat.mod_eq_of_lt short]
  exact Nat.mod_eq_of_lt (Nat.sub_lt (by decide) moves)

/-- Where a bit goes: up by the amount, around the end of the word. -/
theorem getLsbD_rotateLeft (word : UInt32) (moves : 0 < amount.toNat)
    (short : amount.toNat < 32) {position : Nat} (inside : position < 32) :
    (rotateLeft word amount).toBitVec.getLsbD ((position + amount.toNat) % 32) =
      word.toBitVec.getLsbD position := by
  rw [toBitVec_rotateLeft word moves short, BitVec.getLsbD_rotateLeft, Nat.mod_eq_of_lt short]
  by_cases around : position + amount.toNat < 32
  · have high : ¬ position + amount.toNat < amount.toNat := by omega
    rw [Nat.mod_eq_of_lt around, decide_eq_false high, decide_eq_true around, cond_false,
      Bool.true_and, Nat.add_sub_cancel]
  · have wrapped : (position + amount.toNat) % 32 = position + amount.toNat - 32 := by omega
    have low : position + amount.toNat - 32 < amount.toNat := by omega
    have source : 32 - amount.toNat + (position + amount.toNat - 32) = position := by omega
    rw [wrapped, decide_eq_true low, cond_true, source]

theorem rotateLeft_injective (moves : 0 < amount.toNat) (short : amount.toNat < 32) :
    Injective fun word => rotateLeft word amount := by
  intro word other same
  apply UInt32.toBitVec_inj.mp
  apply BitVec.eq_of_getLsbD_eq
  intro position inside
  rw [← getLsbD_rotateLeft word moves short inside, ← getLsbD_rotateLeft other moves short inside]
  exact congrArg (fun rotated : UInt32 => rotated.toBitVec.getLsbD _) same

theorem mix_injective (moves : 0 < amount.toNat) (short : amount.toNat < 32) :
    Injective fun block => mix block amount := by
  rintro ⟨first, second⟩ ⟨otherFirst, otherSecond⟩ same
  obtain ⟨sum, mixed⟩ := Words.mk.inj same
  simp only at sum mixed
  rw [← sum, UInt32.xor_left_inj] at mixed
  have seconds : second = otherSecond := rotateLeft_injective moves short mixed
  rw [seconds, UInt32.add_left_inj] at sum
  rw [sum, seconds]

theorem rotations_inside (group : Nat) :
    ∀ amount ∈ rotations group, 0 < amount.toNat ∧ amount.toNat < 32 := by
  unfold rotations
  split <;> simp

theorem group_injective (key : Words) (index : Nat) :
    Injective fun block => group key block index := by
  have rounds : Injective fun block => (rotations index).foldl mix block :=
    foldl_injective fun amount member =>
      have ⟨moves, short⟩ := rotations_inside index amount member
      mix_injective moves short
  exact (Words.add_injective (subkey key (index + 1))).comp rounds

theorem block_injective (key : Words) : Injective (block key) := by
  have groups : Injective fun start => [0, 1, 2, 3, 4].foldl (group key) start :=
    foldl_injective fun index _ => group_injective key index
  intro counter other same
  exact Words.add_injective (subkey key 0) (groups same)

theorem block_bijective (key : Words) : Bijective (block key) := by
  have finite : Finite Words :=
    Finite.of_injective (fun words : Words => (words.first.toFin, words.second.toFin)) <| by
      rintro ⟨first, second⟩ ⟨otherFirst, otherSecond⟩ same
      simp only [Prod.mk.injEq, UInt32.toFin_inj] at same
      rw [same.1, same.2]
  exact Finite.injective_iff_bijective.mp (block_injective key)

end Threefry

end Chip8.Random
