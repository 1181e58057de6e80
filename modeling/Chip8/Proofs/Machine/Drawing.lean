import Chip8.Proofs.Display.Pixels
import Chip8.Proofs.Instruction.Decode
import Chip8.Proofs.Machine.Meaning

namespace Chip8

/-! Drawing a sprite pixel by pixel, in reading order and in place, until it runs over
an edge of the display. A partly drawn sprite is the exclusive or of the display with
those of its pixels that come before the current one; the draw instruction combines
the display with all of them at once. -/

/-- A display that is drawn on, and whether a lit pixel was cleared on it. -/
structure Canvas where
  display : Display
  erased : Bool
deriving DecidableEq

namespace Canvas

/-- Draw a set bit: clear a lit pixel, light a dark one. -/
def mark (canvas : Canvas) (row : Fin 32) (column : Fin 64) : Canvas :=
  if canvas.display.pixel row column then
    { display := canvas.display.put row column false, erased := true }
  else
    { display := canvas.display.put row column true, erased := canvas.erased }

/-- Draw one part of a sprite after the other, as many as remain, and stop early at the
edge of the display. -/
def untilEdge {edge : Nat} (origin : Nat) (draw : Nat → Fin edge → Canvas → Canvas)
    (canvas : Canvas) (offset : Nat) : Nat → Canvas
  | 0 => canvas
  | remaining + 1 =>
      if inside : origin + offset < edge then
        (draw offset ⟨origin + offset, inside⟩ canvas).untilEdge origin draw (offset + 1)
          remaining
      else
        canvas

def drawByte (left : Nat) (byte : UInt8) (row : Fin 32) (canvas : Canvas) : Canvas :=
  canvas.untilEdge left
    (fun offset column canvas =>
      if byte.toNat.testBit (7 - offset) then canvas.mark row column else canvas) 0 8

def drawSprite (memory : Memory) (address top left rows : Nat) (canvas : Canvas) : Canvas :=
  canvas.untilEdge top
    (fun offset row canvas => canvas.drawByte left memory[(address + offset) % 4096] row) 0 rows

variable {canvas : Canvas} {original sprite : Display} {drawn : Fin 32 → Fin 64 → Bool}
  {memory : Memory} {address top left rows : Nat}

/-- What holds after each part, drawn or beyond the edge, holds after the loop. -/
theorem untilEdge_invariant {edge origin last : Nat} {draw : Nat → Fin edge → Canvas → Canvas}
    (invariant : Nat → Canvas → Prop)
    (drawn : ∀ offset canvas (inside : origin + offset < edge), offset < last →
      invariant offset canvas →
      invariant (offset + 1) (draw offset ⟨origin + offset, inside⟩ canvas))
    (beyond : ∀ offset canvas, edge ≤ origin + offset →
      invariant offset canvas → invariant (offset + 1) canvas)
    {offset remaining : Nat} (whole : offset + remaining = last)
    (holds : invariant offset canvas) :
    invariant last (canvas.untilEdge origin draw offset remaining) := by
  induction remaining generalizing offset canvas with
  | zero =>
      rw [Nat.add_zero] at whole
      exact whole ▸ holds
  | succ remaining ih =>
      have rest : offset + 1 + remaining = last := by omega
      rw [untilEdge]
      by_cases inside : origin + offset < edge
      · rw [dif_pos inside]
        exact ih rest (drawn offset canvas inside (by omega) holds)
      · -- The loop has ended here; going on beyond the edge would draw nothing either.
        have stopped : canvas.untilEdge origin draw (offset + 1) remaining = canvas := by
          cases remaining with
          | zero => rfl
          | succ remaining => exact dif_neg (by omega)
        rw [dif_neg inside, ← stopped]
        exact ih rest (beyond offset canvas (Nat.le_of_not_lt inside) holds)

/-- The canvas after some pixels have been drawn on the original display. -/
structure Shows (canvas : Canvas) (original : Display) (drawn : Fin 32 → Fin 64 → Bool) :
    Prop where
  pixel : ∀ row column, canvas.display.pixel row column =
    (original.pixel row column ^^ drawn row column)
  erased : canvas.erased = true ↔
    ∃ row column, original.pixel row column = true ∧ drawn row column = true

theorem mark_eq (canvas : Canvas) (row : Fin 32) (column : Fin 64) :
    canvas.mark row column =
      { display := canvas.display.put row column (!canvas.display.pixel row column)
        erased := canvas.display.pixel row column || canvas.erased } := by
  rw [mark]
  cases canvas.display.pixel row column <;> rfl

theorem Shows.mark {row : Fin 32} {column : Fin 64} (shows : canvas.Shows original drawn)
    (fresh : drawn row column = false) :
    (canvas.mark row column).Shows original fun r c =>
      drawn r c || decide (r = row ∧ c = column) := by
  have found : canvas.display.pixel row column = original.pixel row column := by
    rw [shows.pixel, fresh, Bool.xor_false]
  rw [mark_eq, found]
  constructor
  · intro r c
    rw [Display.pixel_put]
    by_cases here : r = row ∧ c = column
    · obtain ⟨rfl, rfl⟩ := here
      simp
    · rw [if_neg here, decide_eq_false here, Bool.or_false, shows.pixel]
  · rw [Bool.or_eq_true, shows.erased]
    constructor
    · rintro (lit | ⟨r, c, lit, earlier⟩)
      · exact ⟨row, column, lit, by simp⟩
      · exact ⟨r, c, lit, by rw [earlier, Bool.true_or]⟩
    · rintro ⟨r, c, lit, marked⟩
      rcases (Bool.or_eq_true _ _).mp marked with earlier | here
      · exact .inr ⟨r, c, lit, earlier⟩
      · obtain ⟨rfl, rfl⟩ := of_decide_eq_true here
        exact .inl lit

/-- The pixels of a sprite that come before the given one in reading order. -/
def drawnTo (sprite : Display) (bottom right : Nat) (row : Fin 32) (column : Fin 64) : Bool :=
  decide (row.val < bottom ∨ row.val = bottom ∧ column.val < right) && sprite.pixel row column

theorem drawnTo_congr {bottom right bottom' right' : Nat}
    (same : ∀ row column, sprite.pixel row column = true →
      (row.val < bottom ∨ row.val = bottom ∧ column.val < right ↔
        row.val < bottom' ∨ row.val = bottom' ∧ column.val < right')) :
    drawnTo sprite bottom right = drawnTo sprite bottom' right' := by
  funext row column
  cases lit : sprite.pixel row column with
  | false => rw [drawnTo, drawnTo, lit, Bool.and_false, Bool.and_false]
  | true => rw [drawnTo, drawnTo, lit, decide_eq_decide.mpr (same row column lit)]

theorem drawnTo_here (row : Fin 32) (column : Fin 64) :
    drawnTo sprite row column row column = false := by
  simp [drawnTo]

theorem drawnTo_succ (row : Fin 32) (column : Fin 64) :
    drawnTo sprite row (column + 1) = fun r c =>
      drawnTo sprite row column r c ||
        (decide (r = row ∧ c = column) && sprite.pixel row column) := by
  funext r c
  by_cases here : r = row ∧ c = column
  · obtain ⟨rfl, rfl⟩ := here
    simp [drawnTo]
  · have order : r.val < row.val ∨ r.val = row.val ∧ c.val < column.val + 1 ↔
        r.val < row.val ∨ r.val = row.val ∧ c.val < column.val := by
      simp only [Fin.ext_iff] at here
      omega
    rw [decide_eq_false here, Bool.false_and, Bool.or_false, drawnTo, drawnTo,
      decide_eq_decide.mpr order]

theorem drawByte_shows {row : Fin 32} {byte : UInt8}
    (bits : ∀ offset < 8, ∀ inside : left + offset < 64,
      sprite.pixel row ⟨left + offset, inside⟩ = byte.toNat.testBit (7 - offset))
    (shows : canvas.Shows original (drawnTo sprite row left)) :
    (canvas.drawByte left byte row).Shows original (drawnTo sprite row (left + 8)) := by
  refine untilEdge_invariant
    (fun offset canvas => canvas.Shows original (drawnTo sprite row (left + offset)))
    ?_ ?_ (Nat.zero_add 8) shows
  · intro offset canvas inside small shows
    have pixel := bits offset small inside
    rw [← pixel, ← Nat.add_assoc, drawnTo_succ row ⟨left + offset, inside⟩]
    cases lit : sprite.pixel row ⟨left + offset, inside⟩ with
    | true =>
        rw [if_pos rfl]
        simp only [Bool.and_true]
        exact shows.mark (drawnTo_here row ⟨left + offset, inside⟩)
    | false =>
        rw [if_neg Bool.false_ne_true]
        simpa only [Bool.and_false, Bool.or_false] using shows
  · intro offset canvas outside shows
    have same : drawnTo sprite row (left + offset) = drawnTo sprite row (left + (offset + 1)) :=
      drawnTo_congr fun r c _ => by omega
    exact same ▸ shows

/-- No pixel of a sprite comes before its corner, -/
theorem drawnTo_corner (row : Fin 32) (column : Fin 64) :
    drawnTo (Display.sprite memory address top left rows) top left row column = false := by
  cases lit : (Display.sprite memory address top left rows).pixel row column with
  | false => rw [drawnTo, lit, Bool.and_false]
  | true =>
      have := Display.inside_of_pixel_sprite lit
      rw [drawnTo, decide_eq_false (by omega), Bool.false_and]

/-- and all of them come before the row below the sprite. -/
theorem drawnTo_below :
    drawnTo (Display.sprite memory address top left rows) (top + rows) left =
      (Display.sprite memory address top left rows).pixel := by
  funext row column
  cases lit : (Display.sprite memory address top left rows).pixel row column with
  | false => rw [drawnTo, lit, Bool.and_false]
  | true =>
      have := Display.inside_of_pixel_sprite lit
      rw [drawnTo, decide_eq_true (by omega), Bool.true_and, lit]

theorem drawSprite_shows (original : Display) (memory : Memory) (address top left rows : Nat) :
    (drawSprite memory address top left rows ⟨original, false⟩).Shows original
      (Display.sprite memory address top left rows).pixel := by
  rw [← drawnTo_below]
  refine untilEdge_invariant
    (fun offset canvas => canvas.Shows original
      (drawnTo (Display.sprite memory address top left rows) (top + offset) left))
    ?_ ?_ (Nat.zero_add rows) ?_
  · intro offset canvas inside small shows
    have newLine :
        drawnTo (Display.sprite memory address top left rows) (top + (offset + 1)) left =
          drawnTo (Display.sprite memory address top left rows) (top + offset) (left + 8) :=
      drawnTo_congr fun row column lit => by
        have := Display.inside_of_pixel_sprite lit
        omega
    have bits : ∀ column < 8, ∀ within : left + column < 64,
        (Display.sprite memory address top left rows).pixel ⟨top + offset, inside⟩
            ⟨left + column, within⟩ =
          memory[(address + offset) % 4096].toNat.testBit (7 - column) := by
      intro column columnBound within
      have covered : (top ≤ top + offset ∧ top + offset < top + rows) ∧
          left ≤ left + column ∧ left + column < left + 8 := by omega
      rw [Display.pixel_sprite, decide_eq_true covered, Bool.true_and,
        Nat.add_sub_cancel_left, Nat.add_sub_cancel_left]
      rfl
    rw [newLine]
    exact drawByte_shows bits shows
  · intro offset canvas outside shows
    have same : drawnTo (Display.sprite memory address top left rows) (top + offset) left =
        drawnTo (Display.sprite memory address top left rows) (top + (offset + 1)) left :=
      drawnTo_congr fun row column _ => by omega
    exact same ▸ shows
  · constructor
    · intro row column
      rw [Nat.add_zero, drawnTo_corner, Bool.xor_false]
    · refine ⟨fun erased => absurd erased Bool.false_ne_true, ?_⟩
      rintro ⟨row, column, _, drawn⟩
      rw [Nat.add_zero, drawnTo_corner] at drawn
      contradiction

theorem Shows.eq (shows : canvas.Shows original sprite.pixel) :
    canvas = ⟨original.xor sprite, original.overlaps sprite⟩ := by
  have display : canvas.display = original.xor sprite := by
    apply Display.ext_pixel
    intro row column
    rw [shows.pixel, Display.pixel_xor]
  have erased : canvas.erased = original.overlaps sprite :=
    Bool.eq_iff_iff.mpr (shows.erased.trans Display.overlaps_iff.symm)
  cases canvas
  cases display
  cases erased
  rfl

end Canvas

/-- The draw instruction draws its sprite pixel by pixel, from the corner that its
registers name before, and then puts whether a lit pixel was cleared into the flag
register. Nothing else changes. -/
theorem Machine.draw_pixelwise (machine : Machine) (x y n : Fin 16) :
    let top := (machine.registers.get y).toNat % 32
    let left := (machine.registers.get x).toNat % 64
    let canvas := Canvas.drawSprite machine.memory machine.index.toNat top left n.val
      ⟨machine.display, false⟩
    machine.execute (Instruction.word ⟨0xD, by decide⟩ x y n) =
      { machine with
        display := canvas.display
        registers := machine.registers.put flagRegister (if canvas.erased then 1 else 0) } := by
  intro top left canvas
  have drawn : canvas = ⟨_, _⟩ := (Canvas.drawSprite_shows _ _ _ _ _ _).eq
  rw [Machine.execute_eq, Instruction.ofWord_draw, drawn]
  rfl

end Chip8
