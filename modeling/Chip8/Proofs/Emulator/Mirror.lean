import Chip8.Proofs.Device.Frame
import Chip8.Proofs.Emulator.Creation
import Chip8.Proofs.Interpreter.Signals

namespace Chip8.Emulator

open Device

/-! The window mirrors the machine. Building an emulator leaves the window filled with the
unlit color, which is how a blank display looks; a turn that goes on shows what its cycle
has changed, and the other turns change nothing. -/

variable {host : Host} {scale : Nat} {palette : Palette} {moment : Moment} {keys : KeyboardState}
  {now : Int}

/-- What is left in the window by all calls so far is the display as it is now. -/
def Moment.Mirrors (moment : Moment) (scale : Nat) (palette : Palette) : Prop :=
  (Frame.closed.after (callsOf moment.effects)).Shows
    moment.emulator.interpreter.machine.display scale palette

/-- What turns keep: a window without the registers on top that mirrors the display. -/
structure Faithful (host : Host) (scale : Nat) (palette : Palette) (moment : Moment) : Prop where
  window : moment.emulator.window = ⟨host, some scale, palette, false⟩
  mirrors : moment.Mirrors scale palette

theorem followSound_quiet (emulator : Emulator) :
    ∀ call ∈ emulator.followSound.2, call.paints = false := by
  cases sounding : emulator.interpreter.beepActive with
  | true =>
      rw [followSound, sounding]
      exact emulator.beeper.play_quiet
  | false =>
      rw [followSound, sounding]
      exact emulator.beeper.pause_quiet

theorem fits_clearing {frame : Frame} (fits : frame.Fits scale) (emulator : Emulator) :
    (frame.after emulator.clearing).Fits scale := by
  rw [clearing]
  split
  · exact (Frame.shows_clear fits emulator.window).toFits
  · exact fits

/-- The calls that present a cycle turn a picture of the display before it into a picture of
the display after it. -/
theorem shows_presented {frame : Frame} {before : Interpreter} {emulator : Emulator}
    {completed : Option Instruction} {calls : List Device.Call}
    (window : emulator.window = ⟨host, some scale, palette, false⟩)
    (shows : frame.Shows before.machine.display scale palette)
    (signals : before.Signals emulator.interpreter completed)
    (drawn : emulator.drawing = .ok calls) :
    (frame.after (emulator.clearing ++ (calls ++ emulator.followSound.2))).Shows
      emulator.interpreter.machine.display scale palette := by
  have colored : emulator.window.palette = palette := by rw [window]
  rw [Frame.after_append, Frame.after_append,
    Frame.after_of_not_paints emulator.followSound_quiet]
  cases dirty : emulator.interpreter.displayDirty with
  | true =>
      rw [drawing, dirty, if_pos rfl] at drawn
      rw [← colored]
      -- The picture covers whatever clearing has left.
      have fits := fits_clearing shows.toFits emulator
      exact Frame.shows_update fits (by rw [window]) (by rw [window]) drawn
  | false =>
      rw [drawing, dirty, if_neg Bool.false_ne_true] at drawn
      cases drawn
      cases cleared : emulator.interpreter.clearRequested with
      | true =>
          rw [clearing, cleared, if_pos rfl, signals.blank (signals.cleared.mp cleared), ← colored]
          exact Frame.shows_clear shows.toFits emulator.window
      | false =>
          rw [clearing, cleared, if_neg Bool.false_ne_true, signals.kept cleared dirty]
          exact shows

theorem Faithful.turned (faithful : Faithful host scale palette moment)
    (rendered : ∀ cause, (moment.emulator.turn keys now).pace ≠ .failed (.render cause)) :
    Faithful host scale palette (moment.turned keys now) := by
  obtain ⟨window, shows⟩ := faithful
  cases ending : (moment.emulator.cycled keys now).fault with
  | some fault =>
      -- Nothing is presented of a cycle that fails, and it has not touched the display.
      obtain ⟨emulator, silent⟩ := turn_of_fault ending
      have display : (moment.turned keys now).emulator.interpreter.machine.display =
          moment.emulator.interpreter.machine.display := by
        rw [Moment.turned, emulator]
        exact Interpreter.cycle_display_of_failed ending
      refine ⟨?_, ?_⟩
      · rw [Moment.turned, emulator]
        exact window
      · rw [Moment.Mirrors, display, Moment.turned, callsOf_append, silent, List.append_nil]
        exact shows
  | none =>
      have presented := turn_of_completed ending
      have signals := Interpreter.Attached.cycle_signals Keyboard.standard.keypad
        ⟨moment.emulator.interpreter, keys⟩ moment.emulator.cancelled now
      cases drawn : (moment.emulator.afterCycle keys now).drawing with
      | error cause =>
          refine absurd ?_ (rendered cause)
          rw [presented]
          exact present_of_refused drawn _ _
      | ok calls =>
          obtain ⟨_, emulator, calls⟩ := present_of_drawn drawn
            (moment.emulator.cycled keys now).pad
            (noteEffects (moment.emulator.cycled keys now).effects)
          rw [← presented] at emulator calls
          refine ⟨?_, ?_⟩
          · rw [Moment.turned, emulator]
            exact window
          · rw [Moment.Mirrors, Moment.turned, emulator, callsOf_append, calls,
              callsOf_noteEffects, List.nil_append, Frame.after_append]
            exact shows_presented window shows signals drawn

theorem Faithful.closed (faithful : Faithful host scale palette moment) :
    Faithful host scale palette moment.closed where
  window := faithful.window
  mirrors := by
    have quiet : ∀ call ∈ moment.emulator.beeper.pause.2 ++ [.quit], call.paints = false := by
      intro call member
      rcases List.mem_append.mp member with tone | last
      · exact moment.emulator.beeper.pause_quiet call tone
      · rw [List.mem_singleton.mp last]
        rfl
    rw [Moment.Mirrors, Moment.closed, close, callsOf_append, callsOf_append, callsOf_devices,
      callsOf_notices, List.append_nil, Frame.after_append, Frame.after_of_not_paints quiet]
    exact faithful.mirrors

theorem Heads.faithful {first : Moment} (initial : Faithful host scale palette first)
    (head : Heads first moment) : Faithful host scale palette moment := by
  induction head with
  | first => exact initial
  | next head going ih =>
      refine ih.turned fun cause failed => ?_
      rw [going] at failed
      contradiction

theorem Leaves.faithful {first last : Moment} {ending : Option Error}
    (initial : Faithful host scale palette first) (leaves : Leaves first ending last)
    (rendered : ∀ cause, ending ≠ some (.render cause)) : Faithful host scale palette last := by
  cases leaves with
  | asked head => exact head.faithful initial
  | ended head ended =>
      refine (head.faithful initial).turned fun cause failed => ?_
      rw [ended] at failed
      contradiction
  | failed head failed =>
      refine (head.faithful initial).turned fun cause again => rendered cause ?_
      rw [failed, Pace.failed.injEq] at again
      rw [again]

/-- A new window is as large as its display and filled with the unlit color, and a new
display is blank. -/
theorem create_faithful {settings : Settings} {site : Site} {opened : List Effect}
    {emulator : Emulator} {scheme : Scheme}
    (created : create settings site = (opened, .ok emulator))
    (plain : settings.debug = false) (scaled : settings.scale = some (scale : Int))
    (colored : settings.scheme = some scheme.name) :
    Faithful site.host scale scheme.palette ⟨emulator, opened⟩ := by
  obtain ⟨program, _, started, _, calls, shown, made⟩ := create_ok created
  obtain ⟨name, palette, named, found, window, asked⟩ := openWindow_ok shown
  rw [colored, Option.some_inj] at named
  rw [← named, Palette.named_name, Except.ok.injEq] at found
  rw [scaled, plain, ← found] at window
  have blank : emulator.interpreter.machine.display = Display.blank := by
    obtain ⟨_, _, _, _, running⟩ := startInterpreter_ok started
    obtain ⟨rng, memory, machine⟩ := Interpreter.start_machine running
    rw [machine]
    rfl
  refine ⟨window, ?_⟩
  have colors : emulator.window.palette = scheme.palette := by rw [window]
  have quiet := Beeper.create_quiet site.host.room site.audio Sound.defaultFrequency
    Sound.defaultRate
  have fits : (Frame.closed.after ([.reserveAudio .standard, .start] ++ calls)).Fits scale := by
    rw [asked, scaled]
    exact ⟨rfl, rfl⟩
  rw [Moment.Mirrors, blank, made, ← List.append_assoc, Frame.after_append, Frame.after_append,
    Frame.after_of_not_paints quiet, ← colors]
  exact Frame.shows_clear fits emulator.window

/-- However the user, the clock and the keys behave, the window shows the display at every
head of the loop and wherever the loop is left, unless a picture could not be made; and it
still does after the devices were given back. -/
theorem window_mirrors_display {settings : Settings} {site : Site} {opened : List Effect}
    {emulator : Emulator} {scheme : Scheme}
    (created : create settings site = (opened, .ok emulator))
    (plain : settings.debug = false) (scaled : settings.scale = some (scale : Int))
    (colored : settings.scheme = some scheme.name) :
    (∀ head, Heads ⟨emulator, opened⟩ head → head.Mirrors scale scheme.palette) ∧
    (∀ ending last, Leaves ⟨emulator, opened⟩ ending last →
      (∀ cause, ending ≠ some (.render cause)) →
      last.Mirrors scale scheme.palette ∧ last.closed.Mirrors scale scheme.palette) ∧
    ∀ keys now pace polls,
      (∀ cause, (emulator.run keys now pace polls).error ≠ some (.render cause)) →
      Moment.Mirrors
        ⟨(emulator.run keys now pace polls).emulator,
          opened ++ (emulator.run keys now pace polls).effects⟩
        scale scheme.palette := by
  have initial := create_faithful created plain scaled colored
  refine ⟨fun head reached => (reached.faithful initial).mirrors, ?_, ?_⟩
  · intro ending last leaves rendered
    have faithful := leaves.faithful initial rendered
    exact ⟨faithful.mirrors, faithful.closed.mirrors⟩
  · intro keys now pace polls rendered
    have start : Heads ⟨emulator, opened⟩ ⟨emulator, opened⟩ := .first
    obtain ⟨last, leaves, closed⟩ := run_leaves start keys now pace polls
    have faithful := (leaves.faithful initial rendered).closed
    rw [closed] at faithful
    exact faithful.mirrors

/-- It draws the digit that lies in memory at address 0 in the upper left corner. -/
def drawZero : List UInt8 := [0xD0, 0x05]

def zeroSettings : Settings where
  title := "zero"
  path := "zero"
  scale := some (2 : Nat)
  scheme := some Scheme.blue.name

/-- Two turns of it, in a window twice as large as the display. -/
def zeroRun : Run :=
  (quietEmulator drawZero (some (2 : Nat)) .blue).run ⟨[], []⟩ 2000000 2000000 [[], []]

theorem zero_is_mirrored :
    ∃ opened,
      create zeroSettings (quietSite drawZero "no device") =
        (opened, .ok (quietEmulator drawZero (some (2 : Nat)) .blue)) ∧
      zeroRun.error = none ∧
      (Frame.closed.after (callsOf (opened ++ zeroRun.effects))).color? 6 1 = some ⟨0, 255, 255⟩ ∧
      (Frame.closed.after (callsOf (opened ++ zeroRun.effects))).color? 2 3 = some ⟨0, 0, 64⟩ := by
  obtain ⟨opened, created⟩ : ∃ opened, create zeroSettings (quietSite drawZero "no device") =
      (opened, .ok (quietEmulator drawZero (some (2 : Nat)) .blue)) := by
    have built := create_quietSite (show drawZero.length ≤ Memory.programSpace by decide) "zero"
      "zero" (some (2 : Nat)) .blue "no device"
    exact ⟨_, Prod.ext rfl built⟩
  have ended : zeroRun.error = none := by decide +kernel
  have lit : zeroRun.emulator.interpreter.machine.display.pixel 0 3 = true := by decide +kernel
  have unlit : ¬ zeroRun.emulator.interpreter.machine.display.pixel 1 1 = true := by decide +kernel
  have mirrors :
      Moment.Mirrors ⟨zeroRun.emulator, opened ++ zeroRun.effects⟩ 2 Scheme.blue.palette :=
    (window_mirrors_display created rfl rfl rfl).2.2 ⟨[], []⟩ 2000000 2000000 [[], []]
      fun cause rendered => Option.some_ne_none _ (rendered.symm.trans ended)
  simp only [Moment.Mirrors] at mirrors
  have shownLit := mirrors.pixels 6 1
  have shownUnlit := mirrors.pixels 2 3
  rw [show (1 : Fin (32 * 2)).divNat = 0 from rfl, show (6 : Fin (64 * 2)).divNat = 3 from rfl,
    if_pos lit] at shownLit
  rw [show (3 : Fin (32 * 2)).divNat = 1 from rfl, show (2 : Fin (64 * 2)).divNat = 1 from rfl,
    if_neg unlit] at shownUnlit
  exact ⟨opened, created, ended, shownLit, shownUnlit⟩

end Chip8.Emulator
