import Chip8.Proofs.CallStack
import Chip8.Proofs.Interpreter.Run

namespace Chip8.Interpreter

/-! A subroutine that was called comes back to its caller. Whatever is executed in
between, the addresses that were on the stack after the call stay at its bottom for
as long as the stack is deeper than before the call; so what takes it back to that
depth is a return, to the instruction behind the call. -/

variable {σ : Type} {keypad : Keypad σ} {setup : Setup} {initial : Interpreter}
  {state : Attached σ} {calls : List Call}
  {addresses : List UInt16} {address : UInt16}

theorem round_cleared {machine : Machine} (cleared : machine.stack.Cleared) (keys : Keys) :
    (machine.round keys).stack.Cleared := by
  rw [Machine.round_stack]
  cases Instruction.ofWord machine.word with
  | call target => exact cleared.push _
  | ret => exact cleared.pop
  | _ => exact cleared

namespace Attached

theorem after_cleared (cleared : state.machine.stack.Cleared) (calls : List Call) :
    (state.after keypad calls).machine.stack.Cleared :=
  state.after_induction keypad (fun machine => machine.stack.Cleared)
    (fun _ cleared => cleared) (fun _ keys cleared _ => round_cleared cleared keys)
    cleared calls

/-- Addresses at the bottom of the stack stay there, unless the last of them is on top
and a return takes it. -/
theorem below_or_returns (call : Call) (cleared : state.machine.stack.Cleared)
    (below : addresses ++ [address] <+: state.machine.stack.toList) :
    addresses ++ [address] <+: (state.next keypad call).machine.stack.toList ∨
      state.completed? keypad call = some .ret ∧
        (state.next keypad call).machine.pc = address ∧
        (state.next keypad call).machine.stack.toList = addresses := by
  have stack := state.next_stack keypad call
  cases completed : state.completed? keypad call with
  | none =>
      rw [stack, completed]
      exact .inl below
  | some instruction =>
      rw [completed] at stack
      cases instruction with
      | call target =>
          rw [stack]
          exact .inl (CallStack.below_push below _)
      | ret =>
          -- The address is taken only if nothing lies above it.
          rw [stack, next_pc_of_ret keypad state call completed]
          by_cases above : (addresses ++ [address]).length < state.machine.stack.depth
          · exact .inl (CallStack.below_pop below above)
          · have top : state.machine.stack.toList = addresses ++ [address] :=
              (below.eq_of_length_le (by rw [CallStack.length_toList]; omega)).symm
            refine .inr ⟨rfl, ?_, ?_⟩
            · rw [cleared.pop_fst, top, List.getLast?_concat]
              rfl
            · rw [CallStack.toList_pop, top, List.dropLast_concat]
      | _ =>
          rw [stack]
          exact .inl below

theorem below_after (cleared : state.machine.stack.Cleared)
    (below : addresses ++ [address] <+: state.machine.stack.toList)
    (away : ∀ passed, passed <+: calls →
      (state.after keypad passed).machine.stack.depth ≠ addresses.length) :
    addresses ++ [address] <+: (state.after keypad calls).machine.stack.toList := by
  induction calls generalizing state with
  | nil => exact below
  | cons call calls ih =>
      have first : [call] <+: call :: calls := List.cons_prefix_cons.mpr ⟨rfl, List.nil_prefix⟩
      rcases below_or_returns call cleared below with stays | ⟨_, _, level⟩
      · exact ih (after_cleared cleared [call]) stays fun passed within =>
          away (call :: passed) (List.cons_prefix_cons.mpr ⟨rfl, within⟩)
      · exact absurd (by rw [← level, CallStack.length_toList]; rfl) (away [call] first)

end Attached

/-- The first time that the stack is as deep again as before a call, a return has just
gone back to the instruction behind the call, and the stack is the one of before. -/
theorem returns_to_caller {pad : σ} {before : Attached σ} {history between : List Call}
    {calling last : Call} {target : Address}
    (started : (start setup).2 = .ok initial)
    (reached : before = Attached.after keypad ⟨initial, pad⟩ history)
    (called : before.completed? keypad calling = some (.call target))
    (room : before.machine.stack.depth < CallStack.capacity)
    (away : ∀ passed, passed <+: between →
      (before.after keypad (calling :: passed)).machine.stack.depth ≠
        before.machine.stack.depth)
    (level : (before.after keypad (calling :: between ++ [last])).machine.stack.depth =
      before.machine.stack.depth) :
    (before.after keypad (calling :: between)).completed? keypad last = some .ret ∧
      (before.after keypad (calling :: between ++ [last])).machine.pc.toNat =
        before.machine.pc.toNat + 2 ∧
      (before.after keypad (calling :: between ++ [last])).machine.stack =
        before.machine.stack := by
  have cleared : before.machine.stack.Cleared := by
    obtain ⟨rng, memory, fresh⟩ := start_machine started
    rw [reached]
    refine Attached.after_cleared ?_ history
    rw [Attached.machine, fresh]
    exact CallStack.cleared_empty
  have pushed : (before.next keypad calling).machine.stack.toList =
      before.machine.stack.toList ++ [before.machine.pc + 2] := by
    rw [Attached.next_stack, called, CallStack.toList_push, if_pos room]
  have entered : (before.next keypad calling).machine.stack.Cleared :=
    Attached.after_cleared cleared [calling]
  have stays : before.machine.stack.toList ++ [before.machine.pc + 2] <+:
      ((before.next keypad calling).after keypad between).machine.stack.toList := by
    refine Attached.below_after entered (pushed ▸ List.prefix_rfl) fun passed within => ?_
    rw [CallStack.length_toList]
    exact away passed within
  have inside : ¬ Overruns before.machine := by
    rcases before.next_machine keypad calling with ⟨idle, _⟩ | ⟨inside, _⟩
    · rw [idle] at called
      contradiction
    · exact inside
  rw [Attached.after_append] at level ⊢
  rcases Attached.below_or_returns last (Attached.after_cleared entered between) stays
    with deeper | ⟨returns, counter, addresses⟩
  · have deep := deeper.length_le
    rw [List.length_append, List.length_singleton, CallStack.length_toList,
      CallStack.length_toList] at deep
    exact absurd level (Nat.ne_of_gt deep)
  · exact ⟨returns, (congrArg UInt16.toNat counter).trans (toNat_pc_add_two inside),
      (Attached.after_cleared (Attached.after_cleared entered between) [last]).eq_of_toList
        cleared addresses⟩

/-- A subroutine at `0x204` that calls another one at `0x208`, which just returns. -/
def nestedCalls : List UInt8 :=
  [0x22, 0x04, 0x12, 0x02, 0x22, 0x08, 0x00, 0xEE, 0x00, 0xEE]

theorem outer_call_returns :
    ((⟨booted nestedCalls, ()⟩ : Attached Unit).after Keypad.unattached
      (List.replicate 4 (.step false))).machine.pc.toNat = 0x200 + 2 := by
  generalize atStart : (⟨booted nestedCalls, ()⟩ : Attached Unit) = state
  have started := start_booted (show nestedCalls.length ≤ Memory.programSpace by decide)
  have called : state.completed? Keypad.unattached (.step false) = some (.call 0x204) := by
    rw [← atStart]
    decide +kernel
  have room : state.machine.stack.depth < CallStack.capacity := by
    rw [← atStart]
    decide +kernel
  have depths : ∀ count < 3,
      (state.after Keypad.unattached
        (.step false :: [.step false, .step false].take count)).machine.stack.depth ≠
        state.machine.stack.depth := by
    rw [← atStart]
    decide +kernel
  have level : (state.after Keypad.unattached
      (.step false :: [.step false, .step false] ++ [.step false])).machine.stack.depth =
        state.machine.stack.depth := by
    rw [← atStart]
    decide +kernel
  have away : ∀ passed, passed <+: [.step false, .step false] →
      (state.after Keypad.unattached (.step false :: passed)).machine.stack.depth ≠
        state.machine.stack.depth := by
    intro passed within
    rw [List.prefix_iff_eq_take.mp within]
    exact depths passed.length (Nat.lt_succ_of_le within.length_le)
  obtain ⟨_, counter, _⟩ :=
    returns_to_caller started (show state = Attached.after _ _ [] from atStart.symm) called room
      away level
  have atLoad : state.machine.pc.toNat = 0x200 := by
    rw [← atStart]
    rfl
  rw [atLoad] at counter
  exact counter

end Chip8.Interpreter
