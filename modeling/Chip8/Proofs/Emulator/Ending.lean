import Chip8.Proofs.Emulator.Loop
import Chip8.Proofs.Interpreter.StackWarnings
import Chip8.Proofs.Keypad.Keyboard

namespace Chip8

open Interpreter (AwaitsKey Due IsKey Overruns Verdict WaitEnds)

namespace Keyboard

/-- The keys of the standard layout are those of the pad. -/
theorem isKey_of_standard {code key : Int} (mapped : (code, key) ∈ standard.layout.pairs) :
    IsKey key := by
  have inside : ∀ pair ∈ standard.layout.pairs, 0 ≤ pair.2 ∧ pair.2 ≤ 0xF := by decide
  exact inside _ mapped

theorem await_isKey {events : List Event} {key : Int}
    (answered : (standard.await events).1.key = some key) : IsKey key := by
  induction events with
  | nil => contradiction
  | cons event rest ih =>
      by_cases decides : standard.Decides event
      · obtain ⟨answer, settled⟩ := decides.exists_settles
        rw [await_of_settles settled] at answered
        cases settled with
        | pressed free mapped =>
            cases answered
            exact isKey_of_standard mapped
        | reserved | quit => contradiction
      · rw [await_of_not_decides decides] at answered
        exact ih answered

end Keyboard

namespace Emulator

/-! How a run ends. Whatever a script says, the user asks to stop, a key wait is cancelled,
the program runs past the end of memory, or the display cannot be drawn, and nothing else
ends the run. -/

inductive Ending where
  | quit
  | waitCancelled
  | pastMemory (pc : UInt16)
  | unshown (error : RenderError)
deriving DecidableEq, Repr

/-- The error with which a run ends in this way. -/
def Ending.error? : Ending → Option Error
  | quit | waitCancelled => none
  | pastMemory pc => some (.fault (.endOfMemory pc))
  | unshown error => some (.render error)

/-- How a script ends the run of an emulator. -/
inductive Ends : Emulator → List Reading → Ending → Prop
  | usedUp {emulator : Emulator} : Ends emulator [] .quit
  | asked {emulator : Emulator} {reading : Reading} {later : List Reading}
      (asks : asksToStop reading.events = true) : Ends emulator (reading :: later) .quit
  | waitCancelled {emulator : Emulator} {reading : Reading} {later : List Reading}
      (stays : asksToStop reading.events = false)
      (due : emulator.interpreter.Due reading.now)
      (inside : ¬ Overruns emulator.interpreter.machine)
      (awaits : AwaitsKey emulator.interpreter.machine)
      (ends : WaitEnds emulator.cancelled (Keyboard.standard.keypad.await reading.keys).1) :
      Ends emulator (reading :: later) .waitCancelled
  | pastMemory {emulator : Emulator} {reading : Reading} {later : List Reading}
      (stays : asksToStop reading.events = false)
      (due : emulator.interpreter.Due reading.now)
      (overruns : Overruns emulator.interpreter.machine) :
      Ends emulator (reading :: later) (.pastMemory emulator.interpreter.machine.pc)
  | unshown {emulator : Emulator} {reading : Reading} {later : List Reading}
      {error : RenderError} (stays : asksToStop reading.events = false)
      (completed : (emulator.cycled reading.keys reading.now).fault = none)
      (refused : (emulator.afterCycle reading.keys reading.now).drawing = .error error) :
      Ends emulator (reading :: later) (.unshown error)
  | next {emulator : Emulator} {reading : Reading} {later : List Reading} {ending : Ending}
      (stays : asksToStop reading.events = false)
      (going : (emulator.turn reading.keys reading.now).pace = .going)
      (ends : Ends (emulator.turn reading.keys reading.now).emulator later ending) :
      Ends emulator (reading :: later) ending

variable {emulator : Emulator} {keys : KeyboardState} {now : Int}

theorem cycled_verdict (keys : KeyboardState) (due : emulator.interpreter.Due now)
    (fault : Option Interpreter.Fault) :
    (emulator.cycled keys now).fault = fault ↔
      Verdict emulator.interpreter.machine emulator.cancelled
        (Keyboard.standard.keypad.await keys).1 fault := by
  rw [cycled, (Interpreter.cycle_outcome due).verdict fault]
  have pc := (Interpreter.Call.cycle now false).gated_pc emulator.interpreter
  have word := (Interpreter.Call.cycle now false).gated_word emulator.interpreter
  exact ⟨Verdict.congr pc.symm word.symm, Verdict.congr pc word⟩

theorem not_due_of_fault {fault : Interpreter.Fault}
    (failed : (emulator.cycled keys now).fault = some fault) : emulator.interpreter.Due now := by
  refine Classical.byContradiction fun closed => ?_
  rw [cycled, Interpreter.cycle_of_not_due closed] at failed
  contradiction

/-- How a turn can end: it goes on, its key wait is cancelled, it finds the program counter
past memory, or what it drew cannot be shown. -/
theorem turn_cases (emulator : Emulator) (keys : KeyboardState) (now : Int) :
    (emulator.turn keys now).pace = .going ∨
      ((emulator.turn keys now).pace = .ended ∧ emulator.interpreter.Due now ∧
        ¬ Overruns emulator.interpreter.machine ∧ AwaitsKey emulator.interpreter.machine ∧
        WaitEnds emulator.cancelled (Keyboard.standard.keypad.await keys).1) ∨
      ((emulator.turn keys now).pace =
          .failed (.fault (.endOfMemory emulator.interpreter.machine.pc)) ∧
        emulator.interpreter.Due now ∧ Overruns emulator.interpreter.machine) ∨
      ∃ error, (emulator.turn keys now).pace = .failed (.render error) ∧
        (emulator.cycled keys now).fault = none ∧
        (emulator.afterCycle keys now).drawing = .error error := by
  cases ending : (emulator.cycled keys now).fault with
  | some fault =>
      have due := not_due_of_fault ending
      have verdict := (cycled_verdict keys due _).mp ending
      rw [cycled] at ending
      cases verdict with
      | endOfMemory overruns =>
          refine .inr (.inr (.inl ⟨?_, due, overruns⟩))
          simp only [turn, ending]
      | waitCancelled inside awaits ends =>
          refine .inr (.inl ⟨?_, due, inside, awaits, ends⟩)
          simp only [turn, ending]
      | keyOutOfRange inside awaits lasts answered outside =>
          exact absurd (Keyboard.await_isKey answered) outside
  | none =>
      have presented := turn_of_completed ending
      cases drawn : (emulator.afterCycle keys now).drawing with
      | error error =>
          refine .inr (.inr (.inr ⟨error, ?_, rfl, rfl⟩))
          rw [presented, present_of_refused drawn]
      | ok calls =>
          refine .inl ?_
          rw [presented]
          exact (present_of_drawn drawn _ _).1

/-- Every script ends the run in one of the ways. -/
theorem exists_ends (emulator : Emulator) (script : List Reading) :
    ∃ ending, Ends emulator script ending := by
  induction script generalizing emulator with
  | nil => exact ⟨.quit, .usedUp⟩
  | cons reading later ih =>
      cases asks : asksToStop reading.events with
      | true => exact ⟨.quit, .asked asks⟩
      | false =>
          rcases turn_cases emulator reading.keys reading.now with
            going | ⟨_, due, inside, awaits, ends⟩ | ⟨_, due, overruns⟩ |
              ⟨error, _, completed, refused⟩
          · obtain ⟨ending, ends⟩ := ih (emulator.turn reading.keys reading.now).emulator
            exact ⟨ending, .next asks going ends⟩
          · exact ⟨_, .waitCancelled asks due inside awaits ends⟩
          · exact ⟨_, .pastMemory asks due overruns⟩
          · exact ⟨_, .unshown asks completed refused⟩

/-- The way in which a run ends determines the error with which it ends. -/
theorem Ends.play_error {script : List Reading} {ending : Ending}
    (ends : Ends emulator script ending) : (emulator.play script).error = ending.error? := by
  induction ends with
  | usedUp => rfl
  | asked asks =>
      rw [play, if_pos asks]
      rfl
  | @waitCancelled emulator reading later stays due inside awaits ends =>
      have failed := (cycled_verdict reading.keys due _).mpr (.waitCancelled inside awaits ends)
      rw [cycled] at failed
      simp only [play, stays, turn, failed]
      rfl
  | @pastMemory emulator reading later stays due overruns =>
      have failed := (cycled_verdict reading.keys due _).mpr (.endOfMemory overruns)
      rw [cycled] at failed
      simp only [play, stays, turn, failed]
      rfl
  | unshown stays completed refused =>
      have failed := present_of_refused refused
      simp only [play, stays, turn_of_completed completed, failed]
      rfl
  | next stays going ends ih =>
      simp only [play, stays, going]
      exact ih

/-- Why a display cannot be shown at a scale that is blank or positive. -/
inductive Unshowable (room : Nat) : Option Int → RenderError → Prop
  | blank : Unshowable room none .noScale
  | large {scale : Int} {cause : CapacityError}
      (exceeds : Picture.checkScale room scale.toNat = .error cause) :
      Unshowable room (some scale) (.capacity cause)

theorem unshowable_of_drawing (emulator : Emulator) {error : RenderError}
    (positive : ∀ scale, emulator.window.scale = some scale → 0 < scale)
    (refused : emulator.drawing = .error error) :
    Unshowable emulator.window.host.room emulator.window.scale error := by
  rw [drawing] at refused
  split at refused
  · cases given : emulator.window.scale with
    | none =>
        simp only [Device.Window.update, given] at refused
        cases refused
        exact .blank
    | some scale =>
        have large : ¬ scale < 1 := Int.not_lt.mpr (positive scale given)
        cases checked : Picture.checkScale emulator.window.host.room scale.toNat with
        | error cause =>
            simp only [Device.Window.update, given, Picture.scaleOf, if_neg large,
              Display.renderChecked, checked, bind, Except.bind] at refused
            cases refused
            exact .large checked
        | ok =>
            simp only [Device.Window.update, given, Picture.scaleOf, if_neg large,
              Display.renderChecked, checked, bind, Except.bind, pure, Except.pure,
              reduceCtorEq] at refused
  · contradiction

theorem followSound_window (emulator : Emulator) :
    emulator.followSound.1.window = emulator.window := rfl

theorem present_window (emulator : Emulator) (keys : KeyboardState) (effects : List Effect) :
    (emulator.present keys effects).emulator.window = emulator.window := by
  simp only [present]
  split
  · rfl
  · exact emulator.followSound_window

theorem turn_window (emulator : Emulator) (keys : KeyboardState) (now : Int) :
    (emulator.turn keys now).emulator.window = emulator.window := by
  cases ending : (emulator.cycled keys now).fault with
  | some fault =>
      rw [(turn_of_fault ending).1]
      rfl
  | none =>
      rw [turn_of_completed ending, present_window]
      rfl

/-- A run fails to show what is drawn only because of the scale that its window has. -/
theorem Ends.unshowable {script : List Reading} {error : RenderError}
    (positive : ∀ scale, emulator.window.scale = some scale → 0 < scale)
    (ends : Ends emulator script (.unshown error)) :
    Unshowable emulator.window.host.room emulator.window.scale error := by
  generalize way : Ending.unshown error = ending at ends
  induction ends with
  | usedUp | asked | waitCancelled | pastMemory => contradiction
  | @unshown emulator reading later error stays completed refused =>
      cases way
      exact unshowable_of_drawing (emulator.afterCycle reading.keys reading.now) positive refused
  | @next emulator reading later ending stays going ends ih =>
      have window := emulator.turn_window reading.keys reading.now
      rw [window] at ih
      exact ih positive way

/-- No failure is told of among the effects. -/
def Unfailing (effects : List Effect) : Prop :=
  ∀ failure, .notice (.failed failure) ∉ effects

theorem Unfailing.append {first second : List Effect} (before : Unfailing first)
    (after : Unfailing second) : Unfailing (first ++ second) := by
  intro failure member
  rcases List.mem_append.mp member with early | late
  · exact before failure early
  · exact after failure late

theorem unfailing_devices (calls : List Device.Call) : Unfailing (devices calls) := by
  intro failure member
  obtain ⟨call, _, same⟩ := List.mem_map.mp member
  contradiction

theorem unfailing_notices {notes : List Log.Notice} (calm : ∀ failure, .failed failure ∉ notes) :
    Unfailing (notices notes) := by
  intro failure member
  obtain ⟨note, among, same⟩ := List.mem_map.mp member
  cases same
  exact calm failure among

/-- What the interpreter tells of a cycle is no failure. -/
theorem unfailing_cycled (emulator : Emulator) (keys : KeyboardState) (now : Int) :
    Unfailing (noteEffects (emulator.cycled keys now).effects) := by
  obtain ⟨before, plain, effects⟩ :=
    Interpreter.Attached.perform_effects Keyboard.standard.keypad ⟨emulator.interpreter, keys⟩
      (.cycle now emulator.cancelled)
  intro failure member
  obtain ⟨effect, among, same⟩ := List.mem_filterMap.mp member
  cases effect with
  | heldQuery | keyWait => contradiction
  | notice note =>
      cases same
      have told : (emulator.cycled keys now).effects = _ := effects
      rw [told] at among
      rcases List.mem_append.mp among with early | late
      · exact nomatch plain _ early
      · split at late
        · contradiction
        · rcases Interpreter.mem_warnings late with ⟨_, _, other⟩ | ⟨_, other⟩
          · cases other
          · cases other

theorem unfailing_present {effects : List Effect} (before : Unfailing effects)
    (emulator : Emulator) (keys : KeyboardState) :
    Unfailing (emulator.present keys effects).effects := by
  have cleared : Unfailing (if emulator.interpreter.clearRequested then
      devices emulator.window.clear else []) := by
    split
    · exact unfailing_devices _
    · exact nofun
  simp only [present]
  split
  · exact before.append cleared
  · exact (before.append cleared).append (unfailing_devices _)

theorem unfailing_turn (emulator : Emulator) (keys : KeyboardState) (now : Int) :
    Unfailing (emulator.turn keys now).effects := by
  have told := emulator.unfailing_cycled keys now
  cases ending : (emulator.cycled keys now).fault with
  | none =>
      rw [turn_of_completed ending]
      exact unfailing_present told _ _
  | some fault =>
      rw [cycled] at ending
      cases fault with
      | waitCancelled pc =>
          simp only [turn, ending]
          exact told.append (unfailing_notices (by simp))
      | endOfMemory pc | keyOutOfRange key =>
          simp only [turn, ending]
          exact told

theorem unfailing_finish (emulator : Emulator) (error : Option Error) (left : Nat) :
    Unfailing (emulator.finish error left).effects :=
  (unfailing_devices _).append (unfailing_notices (by simp))

theorem unfailing_play (emulator : Emulator) (script : List Reading) :
    Unfailing (emulator.play script).effects := by
  induction script generalizing emulator with
  | nil => exact emulator.unfailing_finish none 0
  | cons reading later ih =>
      have turned := emulator.unfailing_turn reading.keys reading.now
      rw [play]
      split
      · exact emulator.unfailing_finish none _
      · dsimp only
        split
        · exact turned.append (ih _)
        · exact turned.append (unfailing_finish _ none _)
        · exact turned.append (unfailing_finish _ _ _)

end Emulator

end Chip8
