namespace Chip8

/-! Sixteen slots for return addresses. A push onto a full stack is dropped; a
pop of an empty stack answers with the bottom slot. Popped slots are cleared,
so what a caller sees is the list of the slots below the depth, `toList`. -/

structure CallStack where
  slots : Vector UInt16 16
  depth : Nat
  depth_le : depth ≤ 16
deriving DecidableEq

namespace CallStack

abbrev capacity : Nat := 16

def empty : CallStack where
  slots := Vector.replicate 16 0
  depth := 0
  depth_le := Nat.zero_le 16

def push (stack : CallStack) (address : UInt16) : CallStack :=
  if room : stack.depth < 16 then
    { slots := stack.slots.set stack.depth address
      depth := stack.depth + 1
      depth_le := room }
  else
    stack

def pop (stack : CallStack) : UInt16 × CallStack :=
  have bound : stack.depth - 1 < 16 := by have := stack.depth_le; omega
  (stack.slots[stack.depth - 1],
    { slots := stack.slots.set (stack.depth - 1) 0
      depth := stack.depth - 1
      depth_le := by omega })

/-- The recorded return addresses, the oldest first. -/
def toList (stack : CallStack) : List UInt16 :=
  stack.slots.toList.take stack.depth

@[simp] theorem toList_empty : empty.toList = [] := rfl

@[simp] theorem length_toList (stack : CallStack) : stack.toList.length = stack.depth := by
  simp only [toList, List.length_take, Vector.length_toList]
  exact Nat.min_eq_left stack.depth_le

theorem toList_push (stack : CallStack) (address : UInt16) :
    (stack.push address).toList =
      if stack.depth < 16 then stack.toList ++ [address] else stack.toList := by
  by_cases room : stack.depth < 16
  · simp only [push, dif_pos room, if_pos room, toList, Vector.toList_set]
    rw [List.take_add_one, List.take_set_of_le (Nat.le_refl _), List.getElem?_set_self (by
      simpa only [Vector.length_toList] using room)]
    rfl
  · simp only [push, dif_neg room, if_neg room]

theorem toList_pop (stack : CallStack) : stack.pop.2.toList = stack.toList.dropLast := by
  simp only [pop, toList, Vector.toList_set, List.take_set_of_le (Nat.le_refl _),
    List.dropLast_eq_take, List.length_take, Vector.length_toList, List.take_take]
  congr 1
  have := stack.depth_le
  omega

end CallStack

end Chip8
