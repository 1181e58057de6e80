import Chip8.Proofs.Device.Tone
import Chip8.Proofs.Emulator.Creation
import Chip8.Proofs.Interpreter.ToneSignal

namespace Chip8.Emulator

open Device
open Interpreter (shortTone)

/-! The tone follows the sound timer. A turn that goes on has a cycle that did not fail, whose
signal for the tone is right, and lets the beeper follow it; any other turn leaves the beeper
alone. So the tone may still sound when the loop is left, and closing stops it. -/

variable {emulator : Emulator} {moment : Moment} {keys : KeyboardState} {now : Int}
  {audible : Bool}

theorem draws_clearing (emulator : Emulator) :
    ∀ call ∈ emulator.clearing, call.draws = true := by
  rw [clearing]
  split
  · exact emulator.window.draws_clear
  · exact List.forall_mem_nil _

theorem draws_drawing {calls : List Device.Call} (drawn : emulator.drawing = .ok calls) :
    ∀ call ∈ calls, call.draws = true := by
  rw [drawing] at drawn
  split at drawn
  · exact Window.draws_update drawn
  · cases drawn
    exact List.forall_mem_nil _

/-- A turn that does not go on asks nothing of the beeper. -/
theorem turn_beeper_of_stopped (stopped : (emulator.turn keys now).pace ≠ .going) :
    (emulator.turn keys now).emulator.beeper = emulator.beeper ∧
      ∀ call ∈ callsOf (emulator.turn keys now).effects, call.draws = true := by
  cases ending : (emulator.cycled keys now).fault with
  | some fault =>
      obtain ⟨same, none⟩ := turn_of_fault ending
      rw [same, none]
      exact ⟨rfl, List.forall_mem_nil _⟩
  | none =>
      rw [turn_of_completed ending] at stopped ⊢
      cases drawn : (emulator.afterCycle keys now).drawing with
      | error error =>
          obtain ⟨same, cleared⟩ := present_cleared_of_refused drawn
            (emulator.cycled keys now).pad (noteEffects (emulator.cycled keys now).effects)
          rw [same, cleared, callsOf_noteEffects, List.nil_append]
          exact ⟨rfl, draws_clearing _⟩
      | ok calls => exact absurd (present_of_drawn drawn _ _).1 stopped

/-- A turn that goes on lets the beeper follow its cycle after all else is shown. -/
theorem turn_beeper_of_going (going : (emulator.turn keys now).pace = .going) :
    (emulator.turn keys now).emulator.interpreter.ToneCurrent ∧
      ∃ active shown, (emulator.turn keys now).emulator.interpreter.beepActive = active ∧
        (emulator.turn keys now).emulator.beeper = (emulator.beeper.follow active).1 ∧
        (∀ call ∈ shown, call.draws = true) ∧
        callsOf (emulator.turn keys now).effects =
          shown ++ (emulator.beeper.follow active).2 := by
  obtain ⟨completed, calls, drawn⟩ := exists_drawn_of_going going
  obtain ⟨_, same, made⟩ := present_of_drawn drawn (emulator.cycled keys now).pad
    (noteEffects (emulator.cycled keys now).effects)
  rw [turn_of_completed completed, same, made, callsOf_noteEffects, List.nil_append,
    ← List.append_assoc]
  refine ⟨Interpreter.cycle_current completed, _, _, rfl, rfl, ?_, rfl⟩
  intro call member
  rcases List.mem_append.mp member with cleared | shown
  · exact draws_clearing _ call cleared
  · exact draws_drawing drawn call shown

/-- What the beeper remembers at a moment, with a device or without one. -/
structure Moment.Recalls (audible : Bool) (moment : Moment) : Prop where
  audible : moment.emulator.beeper.audible = audible
  calls : moment.emulator.beeper.Recalls (callsOf moment.effects)

/-- The beeper plays if and only if the sound timer runs. -/
structure Moment.InStep (audible : Bool) (moment : Moment) : Prop
    extends moment.Recalls audible where
  follows : moment.emulator.beeper.playing = moment.emulator.interpreter.beepActive
  current : moment.emulator.interpreter.ToneCurrent

namespace Moment

theorem Recalls.stopped (recalls : moment.Recalls audible)
    (stopped : (moment.emulator.turn keys now).pace ≠ .going) :
    (moment.turned keys now).Recalls audible := by
  obtain ⟨same, drawn⟩ := turn_beeper_of_stopped stopped
  refine ⟨?_, ?_⟩
  · rw [turned, same]
    exact recalls.audible
  · rw [turned, same, callsOf_append]
    exact recalls.calls.append (soundCalls_of_draws drawn)

theorem Recalls.turned (recalls : moment.Recalls audible)
    (going : (moment.emulator.turn keys now).pace = .going) :
    (moment.turned keys now).InStep audible := by
  obtain ⟨current, active, shown, signal, beeper, drawn, made⟩ := turn_beeper_of_going going
  refine ⟨⟨?_, ?_⟩, ?_, current⟩
  · rw [Moment.turned, beeper, Beeper.follow_audible]
    exact recalls.audible
  · rw [Moment.turned, beeper, callsOf_append, made, ← List.append_assoc]
    exact (recalls.calls.append (soundCalls_of_draws drawn)).follow active
  · rw [Moment.turned, beeper, signal, Beeper.follow_playing]

theorem Recalls.closed (recalls : moment.Recalls audible) : moment.closed.Recalls audible where
  audible := recalls.audible
  calls := by
    have made : callsOf moment.closed.effects =
        callsOf moment.effects ++ moment.emulator.beeper.pause.2 ++ [.quit] := by
      rw [Moment.closed, close, callsOf_append, callsOf_append, callsOf_devices, callsOf_notices,
        List.append_nil, List.append_assoc]
    rw [made]
    exact recalls.calls.pause.append rfl

end Moment

theorem Heads.inStep {first : Moment} (initial : first.InStep audible)
    (head : Heads first moment) : moment.InStep audible := by
  induction head with
  | first => exact initial
  | next head going ih => exact ih.toRecalls.turned going

theorem Leaves.recalls {first last : Moment} {ending : Option Error}
    (initial : first.InStep audible) (leaves : Leaves first ending last) :
    last.Recalls audible := by
  cases leaves with
  | asked head => exact (head.inStep initial).toRecalls
  | ended head ended =>
      refine (head.inStep initial).toRecalls.stopped fun going => ?_
      rw [ended] at going
      contradiction
  | failed head failed =>
      refine (head.inStep initial).toRecalls.stopped fun going => ?_
      rw [failed] at going
      contradiction

/-- A new emulator is silent, and its sound timer does not run. -/
theorem create_inStep {settings : Settings} {site : Site} {opened : List Effect}
    (created : create settings site = (opened, .ok emulator)) :
    Moment.InStep emulator.beeper.audible ⟨emulator, []⟩ ∧
      (emulator.beeper.audible = true ↔ site.audio.Present) := by
  obtain ⟨program, _, started, made, _⟩ := create_ok created
  obtain ⟨rate, seed, _, _, running⟩ := startInterpreter_ok started
  obtain ⟨resting, device⟩ := Beeper.create_ok made
  refine ⟨⟨⟨rfl, Beeper.recalls_nil resting⟩, ?_, Interpreter.start_current running⟩, device⟩
  obtain ⟨rng, memory, initial⟩ := Interpreter.start_eq running
  simp only [resting, initial]

/-- However the user, the clock and the keys behave, with an audio device the tone sounds at
the heads of the loop just while the sound timer runs. The tone is started and stopped in turn,
and it is never left on when the loop has been left. Without a device nothing is asked of it. -/
theorem tone_follows_sound_timer {settings : Settings} {site : Site} {opened : List Effect}
    (created : create settings site = (opened, .ok emulator)) :
    (site.audio.Present →
      (∀ head, Heads ⟨emulator, []⟩ head →
        (sounding (callsOf head.effects) = true ↔
          head.emulator.interpreter.machine.sound ≠ 0) ∧
        ∃ count, soundCalls (callsOf head.effects) = tones count ∨
          soundCalls (callsOf head.effects) = tones count ++ [.playTone (-1)]) ∧
      (∀ ending last, Leaves ⟨emulator, []⟩ ending last →
        (∃ count, soundCalls (callsOf last.closed.effects) = tones count) ∧
        ∀ call, (soundCalls (callsOf last.closed.effects)).getLast? = some call →
          call = .stopTone) ∧
      ∀ keys now pace polls,
        ∃ count, soundCalls (callsOf (emulator.run keys now pace polls).effects) = tones count) ∧
    (¬ site.audio.Present →
      (∀ ending last, Leaves ⟨emulator, []⟩ ending last →
        soundCalls (callsOf last.closed.effects) = []) ∧
      ∀ keys now pace polls,
        soundCalls (callsOf (emulator.run keys now pace polls).effects) = []) := by
  obtain ⟨initial, device⟩ := create_inStep created
  refine ⟨fun present => ?_, fun absent => ?_⟩
  · have audible := device.mpr present
    rw [audible] at initial
    have closes : ∀ ending last, Leaves ⟨emulator, []⟩ ending last →
        ∃ count, soundCalls (callsOf last.closed.effects) = tones count := by
      intro ending last leaves
      have recalls := (leaves.recalls initial).closed
      obtain ⟨count, made⟩ := recalls.calls.inTurn recalls.audible
      exact ⟨count, made.trans (List.append_nil _)⟩
    refine ⟨?_, ?_, ?_⟩
    · intro head reached
      have inStep := reached.inStep initial
      obtain ⟨count, made⟩ := inStep.calls.inTurn inStep.audible
      refine ⟨?_, count, ?_⟩
      · rw [inStep.calls.sounding inStep.audible, inStep.follows]
        exact inStep.current
      · rw [made]
        cases head.emulator.beeper.playing with
        | true => exact .inr rfl
        | false => exact .inl (List.append_nil _)
    · intro ending last leaves
      obtain ⟨count, made⟩ := closes ending last leaves
      refine ⟨⟨count, made⟩, fun call last => ?_⟩
      rw [made] at last
      exact getLast?_tones last
    · exact run_closed (motive := fun moment =>
        ∃ count, soundCalls (callsOf moment.effects) = tones count) closes
  · have mute : emulator.beeper.audible = false :=
      Bool.eq_false_iff.mpr fun audible => absent (device.mp audible)
    rw [mute] at initial
    have closes : ∀ ending last, Leaves ⟨emulator, []⟩ ending last →
        soundCalls (callsOf last.closed.effects) = [] := by
      intro ending last leaves
      have recalls := (leaves.recalls initial).closed
      exact recalls.calls.none recalls.audible
    exact ⟨closes, run_closed (motive := fun moment => soundCalls (callsOf moment.effects) = [])
      closes⟩

/-- An emulator of this program, with an audio device and without one. -/
def toneEmulator (audible : Bool) : Emulator :=
  { quietEmulator shortTone (some (1 : Nat)) .classic with beeper := ⟨audible, false⟩ }

def toneSettings : Settings where
  title := "tone"
  path := "tone"
  scale := some (1 : Nat)
  scheme := some Scheme.classic.name

/-- Four turns of it. -/
def toneRun (audible : Bool) : Run :=
  (toneEmulator audible).run ⟨[], []⟩ 5000000 5000000 [[], [], [], []]

/-- The last cycle fails, and what it leaves is a signal for a tone without a sound timer. Yet
the tone is off. -/
theorem shortTone_is_stopped :
    let site : Site := ⟨fun _ => .ok shortTone, {}, 0, plainHost⟩
    let mute : Site := quietSite shortTone "no device"
    let head := (Moment.turned ⟨toneEmulator true, []⟩ ⟨[], []⟩ 5000000).turned ⟨[], []⟩ 10000000
    (∃ opened, create toneSettings site = (opened, .ok (toneEmulator true))) ∧
      site.audio.Present ∧
      (∃ opened, create toneSettings mute = (opened, .ok (toneEmulator false))) ∧
      ¬ mute.audio.Present ∧
      head.emulator.interpreter.machine.sound = 1 ∧ sounding (callsOf head.effects) = true ∧
      (toneRun true).error = some (.fault (.endOfMemory 0xFFF)) ∧
      (toneRun true).emulator.interpreter.machine.sound = 0 ∧
      (toneRun true).emulator.interpreter.beepActive = true ∧
      (∃ count, soundCalls (callsOf (toneRun true).effects) = tones count) ∧
      soundCalls (callsOf (toneRun false).effects) = [] := by
  intro site mute head
  have fits : shortTone.length ≤ Memory.programSpace := by decide
  have created : ∃ opened, create toneSettings site = (opened, .ok (toneEmulator true)) :=
    ⟨_, Prod.ext rfl (create_booted fits "tone" "tone" (some (1 : Nat)) .classic
      (Beeper.create_standard (by decide)))⟩
  have muted : ∃ opened, create toneSettings mute = (opened, .ok (toneEmulator false)) :=
    ⟨_, Prod.ext rfl (create_quietSite fits "tone" "tone" (some (1 : Nat)) .classic "no device")⟩
  have present : site.audio.Present := .inr rfl
  have absent : ¬ mute.audio.Present := by
    rintro (found | opened)
    · exact found rfl
    · contradiction
  obtain ⟨opened, made⟩ := created
  obtain ⟨silently, mutely⟩ := muted
  have tone := (tone_follows_sound_timer made).1 present
  have silent := (tone_follows_sound_timer mutely).2 absent
  have reached : Heads ⟨toneEmulator true, []⟩ head :=
    .next (.next .first (by decide +kernel)) (by decide +kernel)
  have sound : head.emulator.interpreter.machine.sound = 1 := by decide +kernel
  refine ⟨⟨opened, made⟩, present, ⟨silently, mutely⟩, absent, sound, ?_, by decide +kernel,
    by decide +kernel, by decide +kernel, tone.2.2 _ _ _ _, silent.2 _ _ _ _⟩
  refine (tone.1 head reached).1.mpr ?_
  rw [sound]
  decide

end Chip8.Emulator
