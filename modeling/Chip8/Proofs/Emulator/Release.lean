import Chip8.Proofs.Emulator.Session
import Chip8.Proofs.Emulator.Tone

namespace Chip8

namespace Device

/-! The devices are taken once and given back once. What is drawn or sounds in between
neither takes nor gives them. -/

def Call.startsOrQuits : Call → Bool
  | .start | .quit => true
  | _ => false

def startsAndQuits (calls : List Call) : List Call := calls.filter Call.startsOrQuits

@[simp] theorem startsAndQuits_append (first second : List Call) :
    startsAndQuits (first ++ second) = startsAndQuits first ++ startsAndQuits second :=
  List.filter_append ..

theorem startsAndQuits_of_draws {calls : List Call} (drawn : ∀ call ∈ calls, call.draws = true) :
    startsAndQuits calls = [] := by
  rw [startsAndQuits, List.filter_eq_nil_iff]
  intro call member
  have draws := drawn call member
  cases call with
  | start | quit => contradiction
  | _ => exact Bool.false_ne_true

theorem sounding_of_draws {calls : List Call} (drawn : ∀ call ∈ calls, call.draws = true) :
    sounding calls = false := by
  rw [← sounding_soundCalls, soundCalls_of_draws drawn]
  rfl

theorem sounding_append {first second : List Call} (silent : sounding first = false) :
    sounding (first ++ second) = sounding second := by
  rw [sounding, List.foldl_append]
  exact congrArg (fun before => second.foldl Call.leavesSounding before) silent

namespace Beeper

variable {beeper : Beeper} {calls : List Call}

theorem Recalls.silent (recalls : beeper.Recalls calls) (paused : beeper.playing = false) :
    Device.sounding calls = false := by
  rw [← sounding_soundCalls]
  cases recalls with
  | mute none =>
      rw [none]
      rfl
  | paused stopped => rw [stopped, sounding_tones]
  | playing => contradiction

theorem startsAndQuits_play (beeper : Beeper) : startsAndQuits beeper.play.2 = [] := by
  simp only [play]
  split <;> rfl

theorem startsAndQuits_pause (beeper : Beeper) : startsAndQuits beeper.pause.2 = [] := by
  simp only [pause]
  split <;> rfl

theorem startsAndQuits_follow (beeper : Beeper) (active : Bool) :
    startsAndQuits (beeper.follow active).2 = [] := by
  cases active with
  | true => exact beeper.startsAndQuits_play
  | false => exact beeper.startsAndQuits_pause

theorem withFormat_calls (room : Nat) (opening : List Call) (frequency : Sound.Amount)
    (format : AudioFormat) :
    (withFormat room opening frequency format).calls = opening ∨
      ∃ tone, (withFormat room opening frequency format).calls = opening ++ [.makeTone tone] := by
  rw [withFormat]
  split
  · exact .inl rfl
  · exact .inr ⟨_, rfl⟩

theorem create_calls (room : Nat) (audio : Audio) (frequency : Sound.Amount) (rate : Int) :
    startsAndQuits (create room audio frequency rate).calls = [] ∧
      Device.sounding (create room audio frequency rate).calls = false := by
  rw [create]
  split
  · rename_i format found
    rcases withFormat_calls room [] frequency format with calls | ⟨tone, calls⟩
    · rw [calls]
      exact ⟨rfl, rfl⟩
    · rw [calls]
      exact ⟨rfl, rfl⟩
  · dsimp only
    split
    · exact ⟨rfl, rfl⟩
    · rcases withFormat_calls room [.openAudio ⟨rate, -16, 1⟩] frequency
        (audio.granted.getD ⟨rate, -16, 1⟩) with calls | ⟨tone, calls⟩
      · rw [calls]
        exact ⟨rfl, rfl⟩
      · rw [calls]
        exact ⟨rfl, rfl⟩

end Beeper

end Device

namespace Emulator

open Device (startsAndQuits sounding)
open Interpreter (shortTone)

variable {settings : Settings} {site : Site} {emulator : Emulator}

/-- There is a program that fits, and a rate and a seed to start an interpreter with. -/
structure Startable (settings : Settings) (site : Site) : Prop where
  readied : ∃ program, Readied settings site program ∧ program.length ≤ Memory.programSpace
  positive : ∀ rate, settings.rate = some rate → 0 < rate

theorem startable_of_started {program : List UInt8} {interpreter : Interpreter}
    (read : site.read settings.path = .ok program)
    (started : (startInterpreter settings site.now program).2 = .ok interpreter) :
    Startable settings site := by
  obtain ⟨rate, seed, rated, given, running⟩ := startInterpreter_ok started
  have positive : 0 < rate := by
    refine Int.not_le.mp fun slow => ?_
    simp only [Interpreter.start, if_pos slow, reduceCtorEq] at running
  have inside : IsSeed seed := by
    refine not_not.mp fun outside => ?_
    rw [start_of_not_isSeed positive outside] at running
    contradiction
  have fits : program.length ≤ Memory.programSpace := by
    refine Nat.not_lt.mp fun large => ?_
    rw [start_of_oversized positive inside large] at running
    contradiction
  refine ⟨⟨program, ⟨read, rated ▸ Option.some_ne_none rate, seed, given, inside⟩, fits⟩, ?_⟩
  intro other same
  cases rated.symm.trans same
  exact positive

theorem create_of_not_startable (unfit : ¬ Startable settings site) :
    callsOf (create settings site).1 = [] ∧ ∃ error, (create settings site).2 = .error error := by
  cases read : site.read settings.path with
  | error error =>
      simp only [create, read]
      exact ⟨rfl, _, rfl⟩
  | ok program =>
      cases started : (startInterpreter settings site.now program).2 with
      | error error =>
          simp only [create, read, started]
          exact ⟨callsOf_notices _, _, rfl⟩
      | ok interpreter => exact absurd (startable_of_started read started) unfit

theorem create_of_startable (fit : Startable settings site) :
    ∃ interpreter,
      callsOf (create settings site).1 = callsOf (openDevices settings site interpreter).1 ∧
        (create settings site).2 = (openDevices settings site interpreter).2 := by
  obtain ⟨⟨program, readied, fits⟩, positive⟩ := fit
  obtain ⟨interpreter, started⟩ := startInterpreter_of_fitting positive readied fits
  refine ⟨interpreter, ?_, create_of_started readied.read started⟩
  simp only [create, readied.read, started, callsOf_append, callsOf_notices, List.nil_append]

theorem draws_openWindow {host : Device.Host} {window : Device.Window}
    {calls : List Device.Call} (shown : openWindow settings host = .ok (window, calls)) :
    ∀ call ∈ calls, call.draws = true := by
  obtain ⟨_, _, _, _, _, rfl⟩ := openWindow_ok shown
  intro call member
  simp only [List.mem_cons, List.not_mem_nil, or_false] at member
  rcases member with rfl | rfl <;> rfl

/-- If one of the devices cannot be made, they are given back at once. -/
theorem startsAndQuits_openDevices (settings : Settings) (site : Site)
    (interpreter : Interpreter) :
    startsAndQuits (callsOf (openDevices settings site interpreter).1) =
      match (openDevices settings site interpreter).2 with
      | .ok _ => [.start]
      | .error _ => [.start, .quit] := by
  cases shown : openWindow settings site.host with
  | error error =>
      simp only [openDevices, shown, callsOf_append, callsOf_devices]
      rfl
  | ok opened =>
      obtain ⟨window, calls⟩ := opened
      have drawn := Device.startsAndQuits_of_draws (draws_openWindow shown)
      have cleared := Device.startsAndQuits_of_draws window.draws_clear
      have tone := (Device.Beeper.create_calls site.host.room site.audio Sound.defaultFrequency
        Sound.defaultRate).1
      cases made : (Device.Beeper.create site.host.room site.audio Sound.defaultFrequency
          Sound.defaultRate).beeper with
      | error error =>
          simp only [openDevices, shown, made, callsOf_append, callsOf_devices, callsOf_notices,
            Device.startsAndQuits_append, drawn, tone]
          rfl
      | ok beeper =>
          simp only [openDevices, shown, made, callsOf_append, callsOf_devices, callsOf_notices,
            Device.startsAndQuits_append, drawn, tone, cleared]
          rfl

theorem startsAndQuits_create (fit : Startable settings site) :
    startsAndQuits (callsOf (create settings site).1) =
      match (create settings site).2 with
      | .ok _ => [.start]
      | .error _ => [.start, .quit] := by
  obtain ⟨interpreter, calls, result⟩ := create_of_startable fit
  rw [calls, result, startsAndQuits_openDevices]

theorem sounding_create {opened : List Effect}
    (created : create settings site = (opened, .ok emulator)) :
    sounding (callsOf opened) = false := by
  obtain ⟨program, _, _, _, calls, shown, made⟩ := create_ok created
  obtain ⟨_, silent⟩ := Device.Beeper.create_calls site.host.room site.audio Sound.defaultFrequency
    Sound.defaultRate
  rw [made, List.append_assoc, Device.sounding_append rfl, List.append_assoc,
    Device.sounding_append (Device.sounding_of_draws (draws_openWindow shown)),
    Device.sounding_append silent, Device.sounding_of_draws emulator.window.draws_clear]

theorem startsAndQuits_turn (emulator : Emulator) (keys : KeyboardState) (now : Int) :
    startsAndQuits (callsOf (emulator.turn keys now).effects) = [] := by
  by_cases going : (emulator.turn keys now).pace = .going
  · obtain ⟨_, active, shown, _, _, drawn, made⟩ := turn_beeper_of_going going
    rw [made, Device.startsAndQuits_append, Device.startsAndQuits_of_draws drawn,
      Device.Beeper.startsAndQuits_follow]
    rfl
  · exact Device.startsAndQuits_of_draws (turn_beeper_of_stopped going).2

theorem Moment.startsAndQuits_turned (moment : Moment) (keys : KeyboardState) (now : Int) :
    startsAndQuits (callsOf (moment.turned keys now).effects) =
      startsAndQuits (callsOf moment.effects) := by
  rw [Moment.turned, callsOf_append, Device.startsAndQuits_append, startsAndQuits_turn,
    List.append_nil]

theorem Heads.startsAndQuits {first head : Moment} (reached : Heads first head) :
    startsAndQuits (callsOf head.effects) = startsAndQuits (callsOf first.effects) := by
  induction reached with
  | first => rfl
  | next reached going ih => rw [Moment.startsAndQuits_turned, ih]

theorem Leaves.startsAndQuits {first last : Moment} {ending : Option Error}
    (leaves : Leaves first ending last) :
    startsAndQuits (callsOf last.effects) = startsAndQuits (callsOf first.effects) := by
  cases leaves with
  | asked reached => exact reached.startsAndQuits
  | ended reached | failed reached =>
      rw [Moment.startsAndQuits_turned, reached.startsAndQuits]

section Count

/-- The word of the instruction that a turn completes, if it completes one. -/
def executed? (emulator : Emulator) (reading : Reading) : Option UInt16 :=
  Interpreter.Attached.executed? Keyboard.standard.keypad ⟨emulator.interpreter, reading.keys⟩
    (.cycle reading.now emulator.cancelled)

/-- The words of the instructions that are completed on the way through a script. -/
def executedWords (emulator : Emulator) : List Reading → List UInt16
  | [] => []
  | reading :: later =>
      if asksToStop reading.events then
        []
      else
        let turn := emulator.turn reading.keys reading.now
        (emulator.executed? reading).toList ++
          if turn.pace = .going then turn.emulator.executedWords later else []

theorem turn_interpreter (emulator : Emulator) (keys : KeyboardState) (now : Int) :
    (emulator.turn keys now).emulator.interpreter = (emulator.cycled keys now).interpreter := by
  cases ending : (emulator.cycled keys now).fault with
  | some fault =>
      rw [(turn_of_fault ending).1]
      rfl
  | none =>
      rw [turn_of_completed ending]
      cases drawn : (emulator.afterCycle keys now).drawing with
      | error error =>
          rw [(present_cleared_of_refused drawn _ _).1]
          rfl
      | ok calls =>
          rw [(present_of_drawn drawn _ _).2.1]
          rfl

theorem turn_count (emulator : Emulator) (reading : Reading) :
    (emulator.turn reading.keys reading.now).emulator.interpreter.count =
      emulator.interpreter.count + (emulator.executed? reading).toList.length := by
  rw [turn_interpreter]
  exact Interpreter.Attached.next_count Keyboard.standard.keypad
    ⟨emulator.interpreter, reading.keys⟩ (.cycle reading.now emulator.cancelled)

/-- The way in which a run ends adds nothing to what it has counted. -/
theorem play_count (emulator : Emulator) (script : List Reading) :
    (emulator.play script).emulator.interpreter.count =
      emulator.interpreter.count + (emulator.executedWords script).length := by
  induction script generalizing emulator with
  | nil => rfl
  | cons reading later ih =>
      have counted := emulator.turn_count reading
      rw [play, executedWords]
      split
      · rfl
      · dsimp only
        rw [List.length_append, ← Nat.add_assoc, ← counted]
        cases pace : (emulator.turn reading.keys reading.now).pace with
        | going => exact ih _
        | ended | failed => rfl

end Count

theorem create_count (created : (create settings site).2 = .ok emulator) :
    emulator.interpreter.count = 0 := by
  obtain ⟨_, _, started, _⟩ := create_ok (Prod.ext rfl created)
  obtain ⟨_, _, _, _, running⟩ := startInterpreter_ok started
  obtain ⟨rng, memory, initial⟩ := Interpreter.start_eq running
  rw [initial]

/-- Whatever way the loop is left, the tone is off by the time the devices are given back, and
they are given back before the number of instructions is told. -/
theorem exists_closing {opened : List Effect}
    (created : create settings site = (opened, .ok emulator)) (script : List Reading) :
    ∃ before,
      opened ++ (emulator.play script).effects =
        before ++ [.device .quit,
          .notice (.executed (emulator.play script).emulator.interpreter.count)] ∧
      startsAndQuits (callsOf before) = startsAndQuits (callsOf opened) ∧
      sounding (callsOf before) = false := by
  obtain ⟨initial, _⟩ := create_inStep created
  obtain ⟨last, leaves, closed⟩ :=
    play_leaves (.first : Heads ⟨emulator, []⟩ ⟨emulator, []⟩) script
  -- The tone may still sound where the loop is left; closing begins by stopping it.
  have paused := (leaves.recalls initial).calls.pause.silent rfl
  have neither : startsAndQuits (callsOf last.effects) = [] := leaves.startsAndQuits
  have same : last.emulator.close.1 = (emulator.play script).emulator :=
    congrArg Moment.emulator closed
  have made : last.effects ++ last.emulator.close.2 = (emulator.play script).effects :=
    congrArg Moment.effects closed
  refine ⟨opened ++ (last.effects ++ devices last.emulator.beeper.pause.2), ?_, ?_, ?_⟩
  · rw [← made, ← same]
    simp only [close, devices, notices, List.map_append, List.append_assoc]
    rfl
  · simp only [callsOf_append, callsOf_devices, Device.startsAndQuits_append, neither,
      Device.Beeper.startsAndQuits_pause, List.append_nil]
  · rw [callsOf_append, callsOf_append, callsOf_devices,
      Device.sounding_append (sounding_create created), paused]

/-- The line that tells how many instructions were executed. -/
def executedLine (debug : Bool) (count : Nat) : Log.Line where
  channel := .out
  text := (loggerFor debug).format 0.0 "INFO"
    ("Executed " ++ Numeral.decimalNat count ++ " instructions") ++ "\n"

theorem linesFor_executed (debug : Bool) (count : Nat) :
    linesFor debug [.executed count] = [executedLine debug count] := by
  have enabled : (loggerFor debug).enabled Log.Level.info.name = true := by
    cases debug <;> decide +kernel
  have channel : Log.Logger.channel Log.Level.info.name = .out := by decide +kernel
  rw [linesFor_singleton (.executed count) enabled]
  exact congrArg (fun channel => [Log.Line.mk channel _]) channel

theorem getLast?_linesFor (debug : Bool) (notes : List Log.Notice) (count : Nat) :
    (linesFor debug (notes ++ [.executed count])).getLast? = some (executedLine debug count) := by
  rw [linesFor_append, linesFor_executed, List.getLast?_concat]

/-- An emulator that was built has run and given the devices back. -/
structure Released (settings : Settings) (session : Session) (count : Nat) : Prop where
  once : startsAndQuits session.calls = [.start, .quit]
  last : ∃ before, session.effects = before ++ [.device .quit, .notice (.executed count)] ∧
    sounding (callsOf before) = false
  told : (linesFor settings.debug session.notices).getLast? =
    some (executedLine settings.debug count)

theorem released_of_created (created : (create settings site).2 = .ok emulator)
    (begun : startsAndQuits (callsOf (create settings site).1) = [.start])
    (script : List Reading) :
    Released settings (Session.play settings site script)
      (emulator.executedWords script).length := by
  obtain ⟨before, made, taken, silent⟩ := exists_closing (Prod.ext rfl created) script
  have effects : (Session.play settings site script).effects =
      before ++ [.device .quit, .notice (.executed (emulator.executedWords script).length)] := by
    rw [play_count, create_count created, Nat.zero_add] at made
    simp only [Session.play, created]
    exact made
  refine ⟨?_, ⟨before, effects, silent⟩, ?_⟩
  · rw [calls_eq_callsOf, effects, callsOf_append, Device.startsAndQuits_append, taken, begun]
    rfl
  · rw [Session.notices, effects, List.filterMap_append]
    exact getLast?_linesFor settings.debug _ _

/-- The devices are given back on every path. If no interpreter can be started, they are never
taken; if one of them cannot be made, they are given back before the error is passed on; and
once an emulator has been built, it gives them back however its run ends. -/
theorem devices_are_given_back (settings : Settings) (site : Site) (script : List Reading) :
    let session := Session.play settings site script
    (¬ Startable settings site →
      (∃ error, session.result = .error error) ∧ startsAndQuits session.calls = []) ∧
    (Startable settings site →
      (∀ name, settings.scheme = some name → Scheme.ofName? name = none →
        (create settings site).2 = .error (.scheme ⟨name⟩)) ∧
      (∀ error, (create settings site).2 = .error error →
        session.result = .error error ∧ startsAndQuits session.calls = [.start, .quit]) ∧
      ∀ emulator, (create settings site).2 = .ok emulator →
        startsAndQuits (callsOf (create settings site).1) = [.start] ∧
        (∃ ending, Ends emulator script ending ∧
          (emulator.play script).error = ending.error?) ∧
        Released settings session (emulator.executedWords script).length) := by
  intro session
  refine ⟨fun unfit => ?_, fun fit => ⟨?_, ?_, ?_⟩⟩
  · obtain ⟨none, error, failed⟩ := create_of_not_startable unfit
    refine ⟨⟨error, (play_of_not_built failed script).1⟩, ?_⟩
    simp only [session, Session.play, failed, calls_eq_callsOf, none]
    rfl
  · intro name named unknown
    obtain ⟨interpreter, _, result⟩ := create_of_startable fit
    simp only [result, openDevices, openWindow, named, Device.Window.create, Palette.named,
      unknown]
  · intro error failed
    have both := startsAndQuits_create fit
    rw [failed] at both
    refine ⟨(play_of_not_built failed script).1, ?_⟩
    simp only [session, Session.play, failed, calls_eq_callsOf]
    exact both
  · intro emulator created
    have begun := startsAndQuits_create fit
    rw [created] at begun
    obtain ⟨ending, ends⟩ := exists_ends emulator script
    exact ⟨begun, ⟨ending, ends, ends.play_error⟩, released_of_created created begun script⟩

/-- A scheme that nobody knows is found out only when the devices have been taken. -/
example :
    startsAndQuits (Session.play { toneSettings with scheme := some "sepia" }
      ⟨fun _ => .ok shortTone, {}, 0, plainHost⟩ []).calls = [.start, .quit] := by
  decide +kernel

end Emulator

end Chip8
