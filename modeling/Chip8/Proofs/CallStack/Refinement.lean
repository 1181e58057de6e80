import Chip8.Proofs.CallStack

namespace Chip8.CallStack

/-! Sixteen slots and a depth do the work of a list that takes at most sixteen addresses.
Whatever is pushed and popped, the stack answers as the list does, holds the addresses of the
list at its bottom, and nothing above them. -/

inductive Operation where
  | push (address : UInt16)
  | pop
deriving DecidableEq, Repr

/-- What an operation answers and what it leaves. Only a pop has an answer. -/
def operate (stack : CallStack) : Operation → Option UInt16 × CallStack
  | .push address => (none, stack.push address)
  | .pop => (some stack.pop.1, stack.pop.2)

/-- The same operations on a list, whose last address is the newest one. A list without
addresses answers a pop with zero. -/
def operateList (addresses : List UInt16) : Operation → Option UInt16 × List UInt16
  | .push address =>
      (none, if addresses.length < capacity then addresses ++ [address] else addresses)
  | .pop => (some (addresses.getLast?.getD 0), addresses.dropLast)

/-- The answers to a sequence of operations, in order, and what is left in the end. -/
def perform {α : Type} (operate : α → Operation → Option UInt16 × α) (start : α) :
    List Operation → List (Option UInt16) × α
  | [] => ([], start)
  | operation :: later =>
      let next := operate start operation
      let rest := perform operate next.2 later
      (next.1 :: rest.1, rest.2)

/-- The stack stands for these addresses, the oldest first. -/
structure Represents (stack : CallStack) (addresses : List UInt16) : Prop where
  cleared : stack.Cleared
  toList_eq : stack.toList = addresses

variable {stack : CallStack} {addresses : List UInt16}

theorem represents_empty : empty.Represents [] := ⟨cleared_empty, toList_empty⟩

namespace Represents

theorem depth_eq (represents : stack.Represents addresses) : stack.depth = addresses.length := by
  rw [← represents.toList_eq, length_toList]

theorem push (represents : stack.Represents addresses) (address : UInt16) :
    (stack.push address).Represents
      (if addresses.length < capacity then addresses ++ [address] else addresses) where
  cleared := represents.cleared.push address
  toList_eq := by rw [toList_push, represents.depth_eq, represents.toList_eq]

theorem pop (represents : stack.Represents addresses) :
    stack.pop.2.Represents addresses.dropLast where
  cleared := represents.cleared.pop
  toList_eq := by rw [toList_pop, represents.toList_eq]

theorem pop_fst (represents : stack.Represents addresses) :
    stack.pop.1 = addresses.getLast?.getD 0 := by
  rw [represents.cleared.pop_fst, represents.toList_eq]

theorem operate (represents : stack.Represents addresses) (operation : Operation) :
    (stack.operate operation).1 = (operateList addresses operation).1 ∧
      (stack.operate operation).2.Represents (operateList addresses operation).2 := by
  cases operation with
  | push address => exact ⟨rfl, represents.push address⟩
  | pop => exact ⟨congrArg some represents.pop_fst, represents.pop⟩

theorem perform (represents : stack.Represents addresses) (operations : List Operation) :
    (perform CallStack.operate stack operations).1 =
        (perform operateList addresses operations).1 ∧
      (perform CallStack.operate stack operations).2.Represents
        (perform operateList addresses operations).2 := by
  induction operations generalizing stack addresses with
  | nil => exact ⟨rfl, represents⟩
  | cons operation later ih =>
      obtain ⟨answer, next⟩ := represents.operate operation
      obtain ⟨answers, last⟩ := ih next
      refine ⟨?_, last⟩
      simp only [CallStack.perform, answer, answers]

end Represents

/-- A pop takes back what a push has put on top, and the slot with it. -/
theorem Cleared.pop_push (cleared : stack.Cleared) (room : stack.depth < capacity)
    (address : UInt16) : (stack.push address).pop = (address, stack) := by
  have pushed : (stack.push address).toList = stack.toList ++ [address] := by
    rw [toList_push, if_pos room]
  have popped : (stack.push address).pop.1 = address := by
    rw [(cleared.push address).pop_fst, pushed, List.getLast?_concat, Option.getD_some]
  have restored : (stack.push address).pop.2 = stack :=
    (cleared.push address).pop.eq_of_toList cleared (by
      rw [toList_pop, pushed, List.dropLast_concat])
  exact Prod.ext popped restored

/-- A stack that has been pushed to and popped from in any way has answered like the bounded
list, and its slots are the addresses of the list with zeros above them. While there is room, a
pop undoes a push slot by slot. -/
theorem operations_refine_bounded_list (operations : List Operation) :
    let stack := (perform operate empty operations).2
    let addresses := (perform operateList [] operations).2
    (perform operate empty operations).1 = (perform operateList [] operations).1 ∧
      stack.depth = addresses.length ∧ addresses.length ≤ capacity ∧
      stack.slots.toList = addresses ++ List.replicate (capacity - addresses.length) 0 ∧
      (addresses.length < capacity →
        ∀ address, (stack.push address).pop = (address, stack)) := by
  intro stack addresses
  obtain ⟨answers, represents⟩ := represents_empty.perform operations
  have depth : stack.depth = addresses.length := represents.depth_eq
  refine ⟨answers, depth, depth ▸ stack.depth_le, ?_, ?_⟩
  · rw [represents.cleared.slots, represents.toList_eq, depth]
  · intro room address
    exact represents.cleared.pop_push (depth ▸ room) address

/-- The seventeenth address is lost, and there is nothing below the first one. -/
example :
    let pushes := (List.range 17).map fun index => Operation.push (UInt16.ofNat (2 * index))
    let answers := (perform operate empty (pushes ++ List.replicate 17 .pop)).1
    answers[17]? = some (some 30) ∧ answers.getLast? = some (some 0) := by
  decide +kernel

end Chip8.CallStack
