import Chip8.Keypad.Keyboard
import Mathlib.Data.List.Nodup

namespace Chip8.Layout

/-! Layouts as finite maps. A layout has one pair for each of its codes, so its pairs are the
graph of `key?`; a key may still have several codes, and `code?` knows the last of them only. -/

variable {layout : Layout} {code key other : Int}

/-- The codes of one key are all the same. -/
def HasOneCode (layout : Layout) (key : Int) : Prop :=
  ∀ code other, layout.key? code = some key → layout.key? other = some key → code = other

theorem mem_pairs_of_key? (found : layout.key? code = some key) : (code, key) ∈ layout.pairs := by
  obtain ⟨⟨given, value⟩, search, rfl⟩ := Option.map_eq_some_iff.mp found
  have same : (given == code) = true :=
    List.find?_some (p := fun pair : Int × Int => pair.1 == code) search
  rw [← beq_iff_eq.mp same]
  exact List.mem_of_find?_eq_some search

theorem key?_of_mem_pairs (among : (code, key) ∈ layout.pairs) :
    layout.key? code = some key := by
  cases found : layout.key? code with
  | none =>
      have absent := List.find?_eq_none.mp (Option.map_eq_none_iff.mp found) _ among
      exact absurd BEq.rfl absent
  | some value =>
      have same := List.inj_on_of_nodup_map layout.distinct (mem_pairs_of_key? found) among rfl
      rw [(Prod.mk.inj same).2]

theorem mem_codes_iff : code ∈ layout.pairs.map Prod.fst ↔ ∃ key, (code, key) ∈ layout.pairs := by
  simp only [List.mem_map, Prod.exists, exists_and_right, exists_eq_right]

instance (layout : Layout) (code : Int) : Decidable (∃ key, (code, key) ∈ layout.pairs) :=
  decidable_of_iff _ mem_codes_iff

/-- The way back from a key leads to the last of its codes. -/
theorem code?_eq_some_iff :
    layout.code? key = some code ↔
      ∃ earlier later, layout.pairs = earlier ++ (code, key) :: later ∧
        ∀ pair ∈ later, pair.2 ≠ key := by
  constructor
  · intro found
    obtain ⟨⟨given, value⟩, search, rfl⟩ := Option.map_eq_some_iff.mp found
    obtain ⟨hit, later, earlier, reversed, missed⟩ := List.find?_eq_some_iff_append.mp search
    refine ⟨earlier.reverse, later.reverse, ?_, fun pair among => ?_⟩
    · rw [← List.reverse_reverse layout.pairs, reversed, ← beq_iff_eq.mp hit]
      simp
    · have passed := missed pair (List.mem_reverse.mp among)
      simpa using passed
  · rintro ⟨earlier, later, split, missed⟩
    have search : layout.pairs.reverse.find? (fun pair => pair.2 == key) = some (code, key) := by
      refine List.find?_eq_some_iff_append.mpr
        ⟨BEq.rfl, later.reverse, earlier.reverse, ?_, fun pair among => ?_⟩
      · rw [split]
        simp
      · have passed := missed pair (List.mem_reverse.mp among)
        simpa using passed
    rw [code?, search]
    rfl

theorem key?_of_code? (found : layout.code? key = some code) : layout.key? code = some key := by
  obtain ⟨earlier, later, split, -⟩ := code?_eq_some_iff.mp found
  apply key?_of_mem_pairs
  rw [split]
  exact List.mem_append_right earlier List.mem_cons_self

theorem exists_code? (mapped : layout.key? code = some key) :
    ∃ last, layout.code? key = some last := by
  cases found : layout.code? key with
  | some last => exact ⟨last, rfl⟩
  | none =>
      have among := List.mem_reverse.mpr (mem_pairs_of_key? mapped)
      have absent := List.find?_eq_none.mp (Option.map_eq_none_iff.mp found) _ among
      exact absurd BEq.rfl absent

/-- Every code of the key is the one that the way back leads to. -/
theorem hasOneCode_iff :
    layout.HasOneCode key ↔
      ∀ code, layout.key? code = some key → layout.code? key = some code := by
  constructor
  · intro single code mapped
    obtain ⟨last, found⟩ := exists_code? mapped
    rw [found, single code last mapped (key?_of_code? found)]
  · intro back code other mapped again
    exact Option.some.inj ((back code mapped).symm.trans (back other again))

end Chip8.Layout
