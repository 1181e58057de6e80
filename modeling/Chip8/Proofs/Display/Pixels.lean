import Chip8.Display.Bitmap

namespace Chip8.Display

/-! The display seen one pixel at a time: `pixel` determines it, and what is done to
rows of bits is stated again in terms of `pixel`. -/

variable {display other : Display} {memory : Memory}

theorem ext_pixel (same : ∀ row column, display.pixel row column = other.pixel row column) :
    display = other := by
  apply Vector.ext
  intro row rowBound
  apply BitVec.eq_of_getMsbD_eq
  intro column columnBound
  exact same ⟨row, rowBound⟩ ⟨column, columnBound⟩

theorem ne_zero_iff (line : BitVec 64) :
    line ≠ 0 ↔ ∃ column : Fin 64, line.getMsbD column = true := by
  constructor
  · intro nonzero
    apply Classical.byContradiction
    intro dark
    apply nonzero
    apply BitVec.eq_of_getMsbD_eq
    intro column inside
    rw [Bool.eq_false_iff.mpr fun lit => dark ⟨⟨column, inside⟩, lit⟩]
    exact BitVec.getMsbD_zero.symm
  · rintro ⟨column, lit⟩ rfl
    rw [BitVec.ofNat_eq_ofNat, BitVec.getMsbD_zero] at lit
    contradiction

theorem overlaps_iff :
    display.overlaps other = true ↔
      ∃ row column, display.pixel row column = true ∧ other.pixel row column = true := by
  rw [overlaps, Vector.any_iff_exists]
  simp only [Vector.getElem_zipWith, decide_eq_true_eq, ne_zero_iff, BitVec.getMsbD_and,
    Bool.and_eq_true]
  constructor
  · rintro ⟨row, inside, column, both⟩
    exact ⟨⟨row, inside⟩, column, both⟩
  · rintro ⟨row, column, both⟩
    exact ⟨row.val, row.isLt, column, both⟩

/-- Light or clear one pixel. -/
def put (display : Display) (row : Fin 32) (column : Fin 64) (lit : Bool) : Display :=
  let mask := BitVec.twoPow 64 (63 - column.val)
  let line := if lit then display.get row ||| mask else display.get row &&& ~~~mask
  Vector.ofFn fun r => if r = row then line else display.get r

theorem pixel_put (row : Fin 32) (column : Fin 64) (lit : Bool) (r : Fin 32) (c : Fin 64) :
    (display.put row column lit).pixel r c =
      if r = row ∧ c = column then lit else display.pixel r c := by
  have mask : (BitVec.twoPow 64 (63 - column.val)).getMsbD c = decide (c = column) := by
    rw [BitVec.getMsbD_twoPow, decide_eq_true (show 63 - column.val < 64 by omega),
      Bool.true_and, decide_eq_decide, Fin.ext_iff]
    omega
  have old : display.pixel r c = (display.get r).getMsbD c := rfl
  rw [old]
  simp only [pixel, put, Fin.getElem_fin, Vector.getElem_ofFn]
  by_cases same : r = row
  · subst r
    rw [if_pos rfl]
    simp only [true_and]
    cases lit with
    | true =>
        rw [if_pos rfl, BitVec.getMsbD_or, mask]
        by_cases here : c = column <;> simp [here]
    | false =>
        rw [if_neg Bool.false_ne_true, BitVec.getMsbD_and, BitVec.getMsbD_not, mask,
          decide_eq_true c.isLt]
        by_cases here : c = column <;> simp [here]
  · have apart : ¬ (r = row ∧ c = column) := fun both => same both.1
    rw [if_neg same, if_neg apart]

theorem getMsbD_spriteRow (byte : UInt8) (left : Nat) (column : Fin 64) :
    (spriteRow byte left).getMsbD column =
      (decide (left ≤ column.val ∧ column.val < left + 8) &&
        byte.toNat.testBit (7 - (column.val - left))) := by
  have inside : column.val < 64 := column.isLt
  rw [spriteRow, BitVec.getMsbD_ushiftRight, BitVec.getMsbD_shiftLeft,
    BitVec.getMsbD_setWidth, BitVec.getMsbD_eq_getLsbD]
  by_cases reached : left ≤ column.val
  · by_cases covered : column.val < left + 8
    · have bit : column.val - left + 56 + 8 - 64 = column.val - left := by omega
      rw [bit, decide_eq_true inside, decide_eq_false (Nat.not_lt_of_le reached),
        decide_eq_true (show 64 - 8 ≤ column.val - left + 56 by omega),
        decide_eq_true (show column.val - left < 8 by omega),
        decide_eq_true (show left ≤ column.val ∧ column.val < left + 8 from ⟨reached, covered⟩)]
      rfl
    · rw [decide_eq_false (show ¬ column.val - left + 56 + 8 - 64 < 8 by omega),
        decide_eq_false (show ¬ (left ≤ column.val ∧ column.val < left + 8) by omega)]
      simp
  · rw [decide_eq_true (show column.val < left by omega),
      decide_eq_false (show ¬ (left ≤ column.val ∧ column.val < left + 8) by omega)]
    simp

theorem pixel_sprite (address top left rows : Nat) (row : Fin 32) (column : Fin 64) :
    (sprite memory address top left rows).pixel row column =
      (decide ((top ≤ row.val ∧ row.val < top + rows) ∧
          left ≤ column.val ∧ column.val < left + 8) &&
        (memory.read (address + (row.val - top))).toNat.testBit (7 - (column.val - left))) := by
  simp only [pixel, sprite, Fin.getElem_fin, Vector.getElem_ofFn]
  by_cases covered : top ≤ row.val ∧ row.val < top + rows
  · rw [if_pos covered, getMsbD_spriteRow]
    simp only [covered, true_and]
  · rw [if_neg covered, decide_eq_false fun both => covered both.1]
    exact BitVec.getMsbD_zero

theorem inside_of_pixel_sprite {address top left rows : Nat} {row : Fin 32} {column : Fin 64}
    (lit : (sprite memory address top left rows).pixel row column = true) :
    (top ≤ row.val ∧ row.val < top + rows) ∧ left ≤ column.val ∧ column.val < left + 8 := by
  rw [pixel_sprite, Bool.and_eq_true, decide_eq_true_eq] at lit
  exact lit.1

end Chip8.Display
