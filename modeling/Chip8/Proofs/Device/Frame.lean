import Chip8.Device.Beeper
import Chip8.Device.Window
import Chip8.Proofs.Display.Rendering

namespace Chip8

/-! What a window shows, told from the calls that were made. A call that fills the window
or shows a picture in it determines all its pixels; one that opens it or draws something
else on it leaves them unknown; the others do not touch it. -/

namespace Device

namespace Window

variable {window : Window} {display : Display} {machine : Option Machine} {scale : Nat}

theorem debugCalls_of_plain (plain : window.debug = false) : window.debugCalls machine = [] := by
  cases machine with
  | none => rfl
  | some machine => rw [debugCalls, plain, if_neg Bool.false_ne_true]

/-- A window at a whole scale that can be updated is asked to show the rendered display. -/
theorem update_ok {calls : List Call} (scaled : window.scale = some (scale : Int))
    (updated : window.update display machine = .ok calls) :
    0 < scale ∧
      calls = .show .window (display.render scale window.palette) ::
        window.debugCalls machine ++ [.flip] := by
  simp only [update, scaled, Picture.scaleOf, Display.renderChecked, bind, Except.bind, pure,
    Except.pure] at updated
  by_cases small : (scale : Int) < 1
  · simp only [if_pos small, reduceCtorEq] at updated
  · simp only [if_neg small, Int.toNat_natCast] at updated
    cases checked : Picture.checkScale window.host.room scale with
    | error error => simp only [checked, reduceCtorEq] at updated
    | ok done =>
        simp only [checked, Except.ok.injEq] at updated
        exact ⟨by omega, updated.symm⟩

end Window

/-- The call changes what the window shows. -/
def Call.paints : Call → Bool
  | .open .window _ _ | .fill .window _ | .blit .window _ _ _ | .show .window _ => true
  | _ => false

/-- The size that the window was opened with, and its colors by column and row as far as
they are known. -/
structure Frame where
  width : Option Int
  height : Option Int
  color? : Nat → Nat → Option Color

namespace Frame

def closed : Frame := ⟨none, none, fun _ _ => none⟩

/-- Only a picture that is as large as the window can be shown in it. -/
def apply (frame : Frame) : Call → Frame
  | .open .window width height => ⟨width, height, fun _ _ => none⟩
  | .fill .window components =>
      { frame with color? := fun _ _ => (Color.ofComponents components).toOption }
  | .blit .window _ _ _ => { frame with color? := fun _ _ => none }
  | .show .window picture =>
      if frame.width = some (picture.width : Int) ∧ frame.height = some (picture.height : Int) then
        { frame with color? := fun column row => picture.pixel? row column }
      else
        { frame with color? := fun _ _ => none }
  | _ => frame

def after (frame : Frame) (calls : List Call) : Frame := calls.foldl apply frame

/-- The window was opened as large as the display is at this scale. -/
structure Fits (frame : Frame) (scale : Nat) : Prop where
  width : frame.width = some ((64 * scale : Nat) : Int)
  height : frame.height = some ((32 * scale : Nat) : Int)

/-- Every pixel of the display is a square of `scale` by `scale` in the window, and there
is nothing else in the window. -/
structure Shows (frame : Frame) (display : Display) (scale : Nat) (palette : Palette) : Prop
    extends frame.Fits scale where
  pixels : ∀ (column : Fin (64 * scale)) (row : Fin (32 * scale)),
    frame.color? column row =
      some (if display.pixel row.divNat column.divNat then palette.on else palette.off)

variable {frame : Frame} {display : Display} {scale : Nat} {palette : Palette}

theorem after_append (frame : Frame) (first second : List Call) :
    frame.after (first ++ second) = (frame.after first).after second :=
  List.foldl_append

theorem apply_of_not_paints {call : Call} (quiet : call.paints = false) :
    frame.apply call = frame := by
  cases call with
  | «open» surface | fill surface | blit surface | «show» surface =>
      cases surface with
      | window => contradiction
      | overlay | text => rfl
  | _ => rfl

theorem after_of_not_paints {calls : List Call} (quiet : ∀ call ∈ calls, call.paints = false) :
    frame.after calls = frame := by
  induction calls with
  | nil => rfl
  | cons call calls ih =>
      rw [after, List.foldl_cons, apply_of_not_paints (quiet call (List.mem_cons_self ..))]
      exact ih fun other member => quiet other (List.mem_cons_of_mem call member)

theorem shows_clear (fits : frame.Fits scale) (window : Window) :
    (frame.after window.clear).Shows Display.blank scale window.palette where
  width := fits.width
  height := fits.height
  pixels column row := by
    rw [Display.pixel_blank]
    exact congrArg Except.toOption (Color.ofComponents_components window.palette.off)

theorem shows_update {window : Window} {machine : Option Machine} {calls : List Call}
    (fits : frame.Fits scale) (scaled : window.scale = some (scale : Int))
    (plain : window.debug = false) (updated : window.update display machine = .ok calls) :
    (frame.after calls).Shows display scale window.palette := by
  obtain ⟨positive, asked⟩ := Window.update_ok scaled updated
  rw [Window.debugCalls_of_plain plain, List.cons_append, List.nil_append] at asked
  have sized : frame.width = some ((display.render scale window.palette).width : Int) ∧
      frame.height = some ((display.render scale window.palette).height : Int) := by
    rw [display.width_render _ positive, display.height_render _ positive]
    exact ⟨fits.width, fits.height⟩
  have shown : frame.after [.show .window (display.render scale window.palette), .flip] =
      { frame with
        color? := fun column row =>
          (display.render scale window.palette).pixel? row column } := if_pos sized
  rw [asked, shown]
  exact {
    width := fits.width
    height := fits.height
    pixels := fun column row => display.pixel?_render window.palette row column }

end Frame

namespace Beeper

variable (beeper : Beeper)

theorem play_quiet : ∀ call ∈ beeper.play.2, call.paints = false := by
  intro call member
  rw [play] at member
  split at member
  · rw [List.mem_singleton.mp member]
    rfl
  · contradiction

theorem pause_quiet : ∀ call ∈ beeper.pause.2, call.paints = false := by
  intro call member
  rw [pause] at member
  split at member
  · rw [List.mem_singleton.mp member]
    rfl
  · contradiction

theorem withFormat_quiet (room : Nat) {opening : List Call} (frequency : Sound.Amount)
    (format : AudioFormat) (quiet : ∀ call ∈ opening, call.paints = false) :
    ∀ call ∈ (withFormat room opening frequency format).calls, call.paints = false := by
  intro call member
  rw [withFormat] at member
  split at member
  · exact quiet call member
  · rcases List.mem_append.mp member with old | tone
    · exact quiet call old
    · rw [List.mem_singleton.mp tone]
      rfl

theorem create_quiet (room : Nat) (audio : Audio) (frequency : Sound.Amount) (rate : Int) :
    ∀ call ∈ (create room audio frequency rate).calls, call.paints = false := by
  have asked : ∀ call ∈ [Call.openAudio ⟨rate, -16, 1⟩], call.paints = false := by
    intro call member
    rw [List.mem_singleton.mp member]
    rfl
  rw [create]
  split
  · exact withFormat_quiet room frequency _ fun _ member => absurd member List.not_mem_nil
  · dsimp only
    split
    · exact asked
    · exact withFormat_quiet room frequency _ asked

end Beeper

end Device

end Chip8
