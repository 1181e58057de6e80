import Chip8.CallStack

namespace Chip8.CallStack

/-! The call stack as a bounded list. In a stack that has only been pushed to and
popped from, every slot above the recorded addresses is zero. Such a stack is
determined by its list of addresses, and a pop answers with the last of them. -/

variable {stack other : CallStack} {address : UInt16} {addresses : List UInt16}

/-- No address is left behind above the recorded ones. -/
def Cleared (stack : CallStack) : Prop :=
  ∀ address ∈ stack.slots.toList.drop stack.depth, address = 0

theorem cleared_empty : empty.Cleared := by
  intro address member
  exact List.eq_of_mem_replicate (List.mem_of_mem_drop member)

theorem Cleared.push (cleared : stack.Cleared) (address : UInt16) :
    (stack.push address).Cleared := by
  by_cases room : stack.depth < 16
  · intro left member
    simp only [CallStack.push, dif_pos room, Vector.toList_set] at member
    rw [List.drop_set_of_lt (Nat.lt_succ_self _)] at member
    exact cleared left (List.drop_subset_drop_left _ (Nat.le_succ _) member)
  · simpa only [CallStack.push, dif_neg room] using cleared

/-- The slots from the one that a pop answers with. -/
theorem drop_pred_depth (stack : CallStack) :
    stack.slots.toList.drop (stack.depth - 1) =
      stack.pop.1 :: stack.slots.toList.drop (stack.depth - 1 + 1) := by
  have bound : stack.depth - 1 < stack.slots.toList.length := by
    have := stack.depth_le
    simp only [Vector.length_toList]
    omega
  rw [List.drop_eq_getElem_cons bound]
  rfl

theorem pop_fst_mem (stack : CallStack) : stack.pop.1 ∈ stack.slots.toList := by
  refine List.mem_of_mem_drop (i := stack.depth - 1) ?_
  rw [drop_pred_depth]
  exact List.mem_cons_self

theorem mem_slots_push {pushed : UInt16}
    (member : address ∈ (stack.push pushed).slots.toList) :
    address ∈ stack.slots.toList ∨ address = pushed := by
  by_cases room : stack.depth < 16
  · simp only [CallStack.push, dif_pos room, Vector.toList_set] at member
    exact List.mem_or_eq_of_mem_set member
  · simp only [CallStack.push, dif_neg room] at member
    exact .inl member

theorem mem_slots_pop (member : address ∈ stack.pop.2.slots.toList) :
    address ∈ stack.slots.toList ∨ address = 0 := by
  simp only [CallStack.pop, Vector.toList_set] at member
  exact List.mem_or_eq_of_mem_set member

theorem Cleared.pop (cleared : stack.Cleared) : stack.pop.2.Cleared := by
  intro left member
  simp only [CallStack.pop, Vector.toList_set] at member
  rw [List.drop_set, if_neg (Nat.lt_irrefl _), Nat.sub_self, drop_pred_depth,
    List.set_cons_zero] at member
  rcases List.mem_cons.mp member with zero | above
  · exact zero
  · refine cleared left ?_
    cases depth : stack.depth with
    | zero => exact List.mem_of_mem_drop above
    | succ depth => simpa only [depth, Nat.add_sub_cancel] using above

theorem Cleared.slots (cleared : stack.Cleared) :
    stack.slots.toList = stack.toList ++ List.replicate (16 - stack.depth) 0 := by
  have above : stack.slots.toList.drop stack.depth = List.replicate (16 - stack.depth) 0 := by
    refine List.eq_replicate_iff.mpr ⟨?_, cleared⟩
    rw [List.length_drop, Vector.length_toList]
  rw [← above]
  exact (List.take_append_drop _ _).symm

theorem Cleared.eq_of_toList (cleared : stack.Cleared) (otherCleared : other.Cleared)
    (same : stack.toList = other.toList) : stack = other := by
  have depth : stack.depth = other.depth := by
    rw [← length_toList, same, length_toList]
  have slots : stack.slots = other.slots := by
    apply Vector.toList_inj.mp
    rw [cleared.slots, otherCleared.slots, same, depth]
  cases stack
  cases other
  cases depth
  cases slots
  rfl

theorem Cleared.pop_fst (cleared : stack.Cleared) :
    stack.pop.1 = stack.toList.getLast?.getD 0 := by
  have slots := drop_pred_depth stack
  rw [toList, List.getLast?_take]
  by_cases empty : stack.depth = 0
  · rw [if_pos empty]
    refine cleared stack.pop.1 ?_
    rw [empty] at slots ⊢
    exact slots ▸ List.mem_cons_self
  · have top : stack.slots.toList[stack.depth - 1]? = some stack.pop.1 := by
      rw [← List.head?_drop, slots, List.head?_cons]
    rw [if_neg empty, top]
    rfl

theorem push_of_full (full : stack.depth = capacity) (address : UInt16) :
    stack.push address = stack := by
  have noRoom : ¬ stack.depth < 16 := Nat.not_lt_of_le (Nat.le_of_eq full.symm)
  rw [push, dif_neg noRoom]

theorem depth_push (stack : CallStack) (address : UInt16) :
    (stack.push address).depth =
      if stack.depth = capacity then stack.depth else stack.depth + 1 := by
  by_cases full : stack.depth = capacity
  · rw [if_pos full, push_of_full full]
  · have room : stack.depth < 16 := Nat.lt_of_le_of_ne stack.depth_le full
    rw [if_neg full, push, dif_pos room]

/-- A pop of an empty stack takes nothing from it. -/
theorem Cleared.pop_of_empty (cleared : stack.Cleared) (empty : stack.depth = 0) :
    stack.pop = (0, stack) := by
  have none : stack.toList = [] := List.eq_nil_of_length_eq_zero ((length_toList _).trans empty)
  have address : stack.pop.1 = 0 := by
    rw [cleared.pop_fst, none]
    rfl
  have same : stack.pop.2 = stack :=
    cleared.pop.eq_of_toList cleared (by rw [toList_pop, none]; rfl)
  exact Prod.ext address same

/-- Addresses at the bottom of the stack stay there under a push, -/
theorem below_push (below : addresses <+: stack.toList) (address : UInt16) :
    addresses <+: (stack.push address).toList := by
  rw [toList_push]
  split
  · exact below.trans (List.prefix_append _ _)
  · exact below

/-- and under a pop that takes an address above them. -/
theorem below_pop (below : addresses <+: stack.toList) (above : addresses.length < stack.depth) :
    addresses <+: stack.pop.2.toList := by
  rw [toList_pop]
  obtain ⟨rest, whole⟩ := below
  have rest_ne_nil : rest ≠ [] := by
    rintro rfl
    rw [← length_toList, ← whole, List.append_nil] at above
    exact Nat.lt_irrefl _ above
  rw [← whole, List.dropLast_append_of_ne_nil rest_ne_nil]
  exact List.prefix_append _ _

end Chip8.CallStack
