import Chip8.Keypad.Basic

namespace Chip8.Keys

/-! Sets of held keys seen one key at a time, and the lowest key of a set. -/

variable {keys : Keys} {key : Key}

@[simp] theorem get_empty (key : Key) : empty.get key = false :=
  Vector.getElem_replicate key.isLt

@[simp] theorem get_only (key other : Key) : (only key).get other = (other == key) :=
  Vector.getElem_ofFn other.isLt

theorem lowest?_eq_some_iff :
    keys.lowest? = some key ↔ keys.get key = true ∧ ∀ lower < key, keys.get lower = false := by
  rw [lowest?, List.find?_eq_some_iff_getElem]
  simp only [List.getElem_finRange, List.length_finRange, Bool.not_eq_true']
  constructor
  · rintro ⟨held, position, inside, rfl, above⟩
    exact ⟨held, fun lower less => above lower.val less⟩
  · rintro ⟨held, above⟩
    exact ⟨held, key.val, key.isLt, rfl, fun lower less =>
      above ⟨lower, Nat.lt_trans less key.isLt⟩ less⟩

theorem get_of_lowest?_eq_none (none : keys.lowest? = none) (key : Key) :
    keys.get key = false :=
  Bool.eq_false_iff.mpr (List.find?_eq_none.mp none key (List.mem_finRange key))

@[simp] theorem lowest?_empty : empty.lowest? = none :=
  List.find?_eq_none.mpr fun key _ => by rw [get_empty]; exact Bool.false_ne_true

@[simp] theorem lowest?_only (key : Key) : (only key).lowest? = some key := by
  refine lowest?_eq_some_iff.mpr ⟨?_, fun lower less => ?_⟩
  · rw [get_only, beq_self_eq_true]
  · rw [get_only]
    exact beq_eq_false_iff_ne.mpr (Fin.ne_of_lt less)

end Chip8.Keys
