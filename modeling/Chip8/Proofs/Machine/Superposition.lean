import Chip8.Proofs.Display.Pixels
import Chip8.Proofs.Machine.Execution
import Mathlib.Data.List.Perm.Basic

namespace Chip8

/-! Sprites drawn on top of each other. What a draw combines with the display by exclusive or
is made from the memory and from what it finds in the index and in two registers, and not from
the display. So the order of the draws makes no difference, and two that are alike cancel. -/

namespace Display

variable (display first second : Display)

theorem xor_right_comm :
    (display.xor first).xor second = (display.xor second).xor first := by
  apply ext_pixel
  intro row column
  simp only [pixel_xor, Bool.xor_right_comm]

instance : RightCommutative xor := ⟨xor_right_comm⟩

theorem xor_xor_cancel_right (sprite : Display) : (display.xor sprite).xor sprite = display := by
  apply ext_pixel
  intro row column
  rw [pixel_xor, pixel_xor, Bool.xor_assoc, Bool.xor_self, Bool.xor_false]

/-- Two like sprites cancel, whatever is drawn before, between and after them. -/
theorem foldl_xor_remove_pair (sprite : Display) (before between after : List Display) :
    (before ++ sprite :: (between ++ sprite :: after)).foldl xor display =
      (before ++ (between ++ after)).foldl xor display := by
  have second : (between ++ sprite :: after).Perm (sprite :: (between ++ after)) :=
    List.perm_middle
  have together : (before ++ sprite :: (between ++ sprite :: after)).Perm
      (sprite :: sprite :: (before ++ (between ++ after))) :=
    List.perm_middle.trans (((second.append_left before).trans List.perm_middle).cons sprite)
  rw [together.foldl_eq display, List.foldl_cons, List.foldl_cons, xor_xor_cancel_right]

end Display

/-- All that a draw depends on besides the memory: where its bytes begin, the values of the two
registers that name its corner, and how many rows it has. -/
structure Placement where
  index : UInt16
  left : UInt8
  top : UInt8
  rows : Fin 16
deriving DecidableEq, Repr

def Placement.sprite (placement : Placement) (memory : Memory) : Display :=
  Display.sprite memory placement.index.toNat (placement.top.toNat % 32)
    (placement.left.toNat % 64) placement.rows

namespace Machine

variable (machine : Machine) (x y : Register) (rows : Fin 16)

def placement : Placement where
  index := machine.index
  left := machine.registers.get x
  top := machine.registers.get y
  rows := rows

/-- Execute `DXYN`. -/
def executeDraw : Machine :=
  machine.execute (Instruction.word ⟨0xD, by decide⟩ x y rows)

theorem executeDraw_eq : machine.executeDraw x y rows = machine.draw x y rows := by
  rw [executeDraw, execute_eq, Instruction.ofWord_draw, perform]

theorem executeDraw_memory : (machine.executeDraw x y rows).memory = machine.memory := by
  rw [executeDraw_eq]
  rfl

theorem executeDraw_display :
    (machine.executeDraw x y rows).display =
      machine.display.xor ((machine.placement x y rows).sprite machine.memory) := by
  rw [executeDraw_eq]
  rfl

/-- A draw leaves its own placement as it is, unless its corner is in the flag register. -/
theorem executeDraw_placement (xKept : x ≠ flagRegister) (yKept : y ≠ flagRegister) :
    (machine.executeDraw x y rows).placement x y rows = machine.placement x y rows := by
  rw [executeDraw_eq]
  simp only [placement, draw, get_setRegister, if_neg xKept.symm, if_neg yKept.symm]
  rfl

theorem executeDraw_twice_display (xKept : x ≠ flagRegister) (yKept : y ≠ flagRegister) :
    ((machine.executeDraw x y rows).executeDraw x y rows).display = machine.display := by
  rw [executeDraw_display, executeDraw_placement machine x y rows xKept yKept,
    executeDraw_memory, executeDraw_display, Display.xor_xor_cancel_right]

theorem executeDraw_flag :
    (machine.executeDraw x y rows).registers.get flagRegister = 1 ↔
      ∃ row column, machine.display.pixel row column = true ∧
        (machine.executeDraw x y rows).display.pixel row column = false := by
  have flag : (machine.executeDraw x y rows).registers.get flagRegister =
      if machine.display.overlaps ((machine.placement x y rows).sprite machine.memory)
      then 1 else 0 := by
    rw [executeDraw_eq, draw, get_setRegister, if_pos rfl]
    rfl
  have raised (collision : Bool) : (if collision then (1 : UInt8) else 0) = 1 ↔
      collision = true := by
    cases collision <;> decide
  rw [flag, raised, Display.overlaps_iff, executeDraw_display]
  -- What is lit and stays so is not covered by the sprite.
  refine exists₂_congr fun row column => and_congr_right fun lit => ?_
  rw [Display.pixel_xor, lit, Bool.true_xor, Bool.not_eq_false']

end Machine

/-- A draw instruction and the machine that executes it, but for the memory and the display:
those are the ones that the draw before has left. -/
structure Drawing where
  setting : Machine
  x : Register
  y : Register
  rows : Fin 16

namespace Drawing

def placement (drawing : Drawing) : Placement :=
  drawing.setting.placement drawing.x drawing.y drawing.rows

def perform (machine : Machine) (drawing : Drawing) : Machine :=
  { drawing.setting with memory := machine.memory, display := machine.display }.executeDraw
    drawing.x drawing.y drawing.rows

def performAll (machine : Machine) (drawings : List Drawing) : Machine :=
  drawings.foldl perform machine

/-- The display that a list of draws leaves is a matter of what was there before, of the memory
and of the placements. -/
theorem performAll_display (machine : Machine) (drawings : List Drawing) :
    (performAll machine drawings).display =
      ((drawings.map placement).map (·.sprite machine.memory)).foldl Display.xor
        machine.display := by
  induction drawings generalizing machine with
  | nil => rfl
  | cons drawing later ih =>
      have memory : (perform machine drawing).memory = machine.memory :=
        Machine.executeDraw_memory _ _ _ _
      have display : (perform machine drawing).display =
          machine.display.xor (drawing.placement.sprite machine.memory) :=
        Machine.executeDraw_display _ _ _ _
      rw [performAll, List.foldl_cons, ← performAll, ih, memory, display, List.map_cons,
        List.map_cons, List.foldl_cons]

/-- Draws may be made in any order, and two with the same placement may be left out, wherever
they stand. In particular a draw that is made twice in a row leaves the display as it was,
unless it is placed by the flag register, which the first of the two has overwritten. A draw
raises the flag if and only if it clears a pixel. -/
theorem draws_commute_and_cancel (machine : Machine) :
    (∀ first second : List Drawing,
      (first.map placement).Perm (second.map placement) →
        (performAll machine first).display = (performAll machine second).display) ∧
    (∀ (before between after : List Drawing) (drawing again : Drawing),
      drawing.placement = again.placement →
        (performAll machine (before ++ drawing :: (between ++ again :: after))).display =
          (performAll machine (before ++ (between ++ after))).display) ∧
    (∀ (x y : Register) (rows : Fin 16), x ≠ flagRegister → y ≠ flagRegister →
      ((machine.executeDraw x y rows).executeDraw x y rows).display = machine.display) ∧
    ∀ (x y : Register) (rows : Fin 16),
      (machine.executeDraw x y rows).registers.get flagRegister = 1 ↔
        ∃ row column, machine.display.pixel row column = true ∧
          (machine.executeDraw x y rows).display.pixel row column = false := by
  refine ⟨?_, ?_, machine.executeDraw_twice_display, machine.executeDraw_flag⟩
  · intro first second reordered
    rw [performAll_display, performAll_display]
    exact (reordered.map _).foldl_eq machine.display
  · intro before between after drawing again same
    simp only [performAll_display, List.map_append, List.map_cons, same]
    exact Display.foldl_xor_remove_pair _ _ _ _ _

end Drawing

end Chip8
