import Chip8.CommandLine.Command
import Chip8.Proofs.CommandLine.Accepted
import Chip8.Proofs.Emulator.Session

namespace Chip8

namespace CommandLine

open Emulator

/-! The exit status of the command. -/

/-- The line by which a failure is reported. -/
def failureLine (debug : Bool) (failure : Failure) : Log.Line where
  channel := .err
  text := (loggerFor debug).format 0.0 Log.Level.critical.name failure.text ++ "\n"

/-- The lines end in a report of this failure, and no other line is critical. -/
def Tells (debug : Bool) (report : Option Failure) (lines : List Log.Line) : Prop :=
  ∃ notices : List Log.Notice, (∀ notice ∈ notices, notice.level ≠ .critical) ∧
    lines = linesFor debug notices ++ (report.map (failureLine debug)).toList

/-- What the command leaves behind of a session. -/
def outcomeOf (options : Options) (session : Session) : Outcome where
  exit := (exitOf session).1
  lines := linesFor options.debug (session.notices ++ (exitOf session).2)
  calls := session.calls
  left := session.left

section Outcome

variable {options : Options} {session : Session} {error : Error} {failure : Failure}

theorem level_of_unfailing (calm : Unfailing session.effects) :
    ∀ notice ∈ session.notices, notice.level ≠ .critical := by
  intro notice member critical
  obtain ⟨effect, among, same⟩ := List.mem_filterMap.mp member
  cases effect with
  | device => contradiction
  | notice _ =>
      cases same
      cases notice with
      | failed failure => exact calm failure among
      | _ => contradiction

theorem linesFor_failed (debug : Bool) (failure : Failure) :
    linesFor debug [.failed failure] = [failureLine debug failure] := by
  have enabled : (loggerFor debug).enabled Log.Level.critical.name = true := by
    cases debug <;> decide +kernel
  have channel : Log.Logger.channel Log.Level.critical.name = .err := by decide +kernel
  rw [linesFor_singleton (.failed failure) enabled]
  exact congrArg (fun channel => [Log.Line.mk channel _]) channel

theorem outcome_of_reported (calm : Unfailing session.effects)
    (ended : session.result = .error error) (told : error.failure? = some failure) :
    (outcomeOf options session).exit = .ok 1 ∧
      Tells options.debug (some failure) (outcomeOf options session).lines := by
  have exit : exitOf session = (.ok 1, [.failed failure]) := by
    simp only [exitOf, ended, told]
  rw [outcomeOf, exit]
  refine ⟨rfl, session.notices, level_of_unfailing calm, ?_⟩
  dsimp only
  rw [linesFor_append, linesFor_failed]
  rfl

theorem outcome_of_untold (calm : Unfailing session.effects)
    (ended : session.result = .error error) (untold : error.failure? = none) :
    (outcomeOf options session).exit = .error error ∧
      Tells options.debug none (outcomeOf options session).lines := by
  have exit : exitOf session = (.error error, []) := by
    simp only [exitOf, ended, untold]
  rw [outcomeOf, exit]
  refine ⟨rfl, session.notices, level_of_unfailing calm, ?_⟩
  exact linesFor_append _ _ _

theorem outcome_of_ok {emulator : Emulator} (calm : Unfailing session.effects)
    (ended : session.result = .ok emulator) :
    (outcomeOf options session).exit = .ok 0 ∧
      Tells options.debug none (outcomeOf options session).lines := by
  have exit : exitOf session = (.ok 0, []) := by simp only [exitOf, ended]
  rw [outcomeOf, exit]
  refine ⟨rfl, session.notices, level_of_unfailing calm, ?_⟩
  exact linesFor_append _ _ _

end Outcome

section Status

variable (options : Options) (site : Site) (script : List Reading)

/-- The emulator is built, and the script ends its run in this way. -/
def RunEnds (ending : Ending) : Prop :=
  ∃ emulator, (create (settingsOf options) site).2 = .ok emulator ∧ emulator.Ends script ending

/-- The failures that end the command and are told to the user. -/
inductive Reported : Failure → Prop
  | refused {error : Error} {failure : Failure}
      (refused : Refused (settingsOf options) site error failure) : Reported failure
  | pastMemory {pc : UInt16} (ends : RunEnds options site script (.pastMemory pc)) :
      Reported ⟨.counterOverflow, "Reached end of memory", some pc.toNat⟩

/-- The errors that end the command and are not told to the user. -/
inductive Escapes : Error → Prop
  | unforeseen {error : Error} (unforeseen : Unforeseen (settingsOf options) site error) :
      Escapes error
  | unshown {error : RenderError} (ends : RunEnds options site script (.unshown error))
      (unshowable : Unshowable site.host.room options.scale error) : Escapes (.render error)

/-- What an outcome says of how the command ended. -/
structure ExitStatus (outcome : Outcome) : Prop where
  failed : outcome.exit = .ok 1 ↔ ∃ failure, Reported options site script failure
  succeeded : outcome.exit = .ok 0 ↔
    RunEnds options site script .quit ∨ RunEnds options site script .waitCancelled
  escaped : ∀ error, outcome.exit = .error error ↔ Escapes options site script error
  settled : outcome.exit = .ok 0 ∨ outcome.exit = .ok 1 ∨ ∃ error, outcome.exit = .error error
  told : ∀ failure, Reported options site script failure →
    Tells options.debug (some failure) outcome.lines
  silent : outcome.exit ≠ .ok 1 → Tells options.debug none outcome.lines

end Status

section Accepted

variable {options : Options} {site : Site} {script : List Reading} {ending : Ending}
  {failure : Failure} {error : Error}

theorem play_of_failed (ends : RunEnds options site script ending)
    (failed : ending.error? = some error) :
    (Session.play (settingsOf options) site script).result = .error error ∧
      Unfailing (Session.play (settingsOf options) site script).effects := by
  obtain ⟨emulator, built, ends⟩ := ends
  obtain ⟨result, calm⟩ := play_of_built built script
  rw [ends.play_error, failed] at result
  exact ⟨result, calm⟩

theorem play_of_finished (ends : RunEnds options site script ending)
    (finished : ending.error? = none) :
    ∃ emulator, (Session.play (settingsOf options) site script).result = .ok emulator ∧
      Unfailing (Session.play (settingsOf options) site script).effects := by
  obtain ⟨emulator, built, ends⟩ := ends
  obtain ⟨result, calm⟩ := play_of_built built script
  rw [ends.play_error, finished] at result
  exact ⟨_, result, calm⟩

theorem reported_of_valid (valid : options.Valid)
    (reported : Reported options site script failure) :
    (outcomeOf options (Session.play (settingsOf options) site script)).exit = .ok 1 ∧
      Tells options.debug (some failure)
        (outcomeOf options (Session.play (settingsOf options) site script)).lines := by
  cases reported with
  | refused refused =>
      obtain ⟨result, calm⟩ := play_of_not_built (refused.create valid.rate) script
      exact outcome_of_reported calm result refused.failure?
  | pastMemory ends =>
      obtain ⟨result, calm⟩ := play_of_failed ends rfl
      exact outcome_of_reported calm result rfl

theorem finished_of_runEnds
    (ends : RunEnds options site script .quit ∨ RunEnds options site script .waitCancelled) :
    (outcomeOf options (Session.play (settingsOf options) site script)).exit = .ok 0 ∧
      Tells options.debug none
        (outcomeOf options (Session.play (settingsOf options) site script)).lines := by
  rcases ends with quit | waitCancelled
  · obtain ⟨_, result, calm⟩ := play_of_finished quit rfl
    exact outcome_of_ok calm result
  · obtain ⟨_, result, calm⟩ := play_of_finished waitCancelled rfl
    exact outcome_of_ok calm result

theorem escaped_of_valid (valid : options.Valid) (escapes : Escapes options site script error) :
    (outcomeOf options (Session.play (settingsOf options) site script)).exit = .error error ∧
      Tells options.debug none
        (outcomeOf options (Session.play (settingsOf options) site script)).lines := by
  cases escapes with
  | unforeseen unforeseen =>
      obtain ⟨result, calm⟩ := play_of_not_built (unforeseen.create valid.rate valid.scheme) script
      exact outcome_of_untold calm result unforeseen.failure?
  | unshown ends unshowable =>
      obtain ⟨result, calm⟩ := play_of_failed ends rfl
      exact outcome_of_untold calm result rfl

/-- Nothing else can happen. -/
theorem status_cases (valid : options.Valid) (site : Site) (script : List Reading) :
    (∃ failure, Reported options site script failure) ∨
      (RunEnds options site script .quit ∨ RunEnds options site script .waitCancelled) ∨
      ∃ error, Escapes options site script error := by
  rcases create_cases (settingsOf options) site valid.rate valid.scheme with
    ⟨_, failure, refused⟩ | ⟨error, unforeseen⟩ | ⟨emulator, built⟩
  · exact .inl ⟨failure, .refused refused⟩
  · exact .inr (.inr ⟨error, .unforeseen unforeseen⟩)
  · obtain ⟨ending, ends⟩ := emulator.exists_ends script
    have runs : RunEnds options site script ending := ⟨emulator, built, ends⟩
    cases ending with
    | quit => exact .inr (.inl (.inl runs))
    | waitCancelled => exact .inr (.inl (.inr runs))
    | pastMemory pc => exact .inl ⟨_, .pastMemory runs⟩
    | unshown error =>
        obtain ⟨scaled, host⟩ := create_window built
        have unshowable := ends.unshowable fun scale given =>
          valid.scale scale (scaled.symm.trans given)
        rw [host, scaled] at unshowable
        exact .inr (.inr ⟨_, .unshown runs unshowable⟩)

theorem exitStatus_of_valid (valid : options.Valid) (site : Site) (script : List Reading) :
    ExitStatus options site script
      (outcomeOf options (Session.play (settingsOf options) site script)) := by
  generalize atEnd : outcomeOf options (Session.play (settingsOf options) site script) = outcome
  have reported {failure : Failure} (reported : Reported options site script failure) :
      outcome.exit = .ok 1 ∧ Tells options.debug (some failure) outcome.lines :=
    atEnd ▸ reported_of_valid valid reported
  have finished (ends : RunEnds options site script .quit ∨
        RunEnds options site script .waitCancelled) :
      outcome.exit = .ok 0 ∧ Tells options.debug none outcome.lines :=
    atEnd ▸ finished_of_runEnds ends
  have escaped {error : Error} (escapes : Escapes options site script error) :
      outcome.exit = .error error ∧ Tells options.debug none outcome.lines :=
    atEnd ▸ escaped_of_valid valid escapes
  have cases := status_cases valid site script
  constructor
  case failed =>
    refine ⟨fun exit => ?_, fun ⟨_, told⟩ => (reported told).1⟩
    rcases cases with told | ends | ⟨_, escapes⟩
    · exact told
    · cases exit.symm.trans (finished ends).1
    · cases exit.symm.trans (escaped escapes).1
  case succeeded =>
    refine ⟨fun exit => ?_, fun ends => (finished ends).1⟩
    rcases cases with ⟨_, told⟩ | ends | ⟨_, escapes⟩
    · cases exit.symm.trans (reported told).1
    · exact ends
    · cases exit.symm.trans (escaped escapes).1
  case escaped =>
    refine fun error => ⟨fun exit => ?_, fun escapes => (escaped escapes).1⟩
    rcases cases with ⟨_, told⟩ | ends | ⟨_, escapes⟩
    · cases exit.symm.trans (reported told).1
    · cases exit.symm.trans (finished ends).1
    · cases exit.symm.trans (escaped escapes).1
      exact escapes
  case settled =>
    rcases cases with ⟨_, told⟩ | ends | ⟨error, escapes⟩
    · exact .inr (.inl (reported told).1)
    · exact .inl (finished ends).1
    · exact .inr (.inr ⟨error, (escaped escapes).1⟩)
  case told => exact fun failure told => (reported told).2
  case silent =>
    intro exit
    rcases cases with ⟨_, told⟩ | ends | ⟨_, escapes⟩
    · exact absurd (reported told).1 exit
    · exact (finished ends).2
    · exact (escaped escapes).2

/-- Whatever command line is accepted, wherever it is run and however the clock, the keys and
the user behave: the exit status is 1 exactly if the program cannot be read, does not fit, or
runs past the end of memory, and then that is reported; it is 0 exactly if the user quits or a
key wait is cancelled; and an error escapes only for one of the causes that nobody has
foreseen. A command is run by a steady clock. -/
theorem exit_status {arguments : List String} {options : Options}
    (accepted : parse arguments = .ok options) :
    (∀ site script, ExitStatus options site script
      (outcomeOf options (Session.play (settingsOf options) site script))) ∧
    ∀ world : World, ∃ script, script.map Reading.events = world.polls ∧
      Steady (world.site.now + world.pace) world.pace script ∧
      command arguments world =
        outcomeOf options (Session.play (settingsOf options) world.site script) := by
  refine ⟨exitStatus_of_valid (parse_valid accepted), fun world => ?_⟩
  obtain ⟨script, polled, steady, same⟩ := exists_session_play (settingsOf options) world
  refine ⟨script, polled, steady, ?_⟩
  rw [← same, command, accepted]
  rfl

end Accepted

theorem eq_ok_of_toOption {ε α : Type} {result : Except ε α} {value : α}
    (some : result.toOption = Option.some value) : result = .ok value := by
  cases result with
  | error error => contradiction
  | ok found => exact congrArg Except.ok (Option.some_inj.mp some)

/-- It jumps to the last byte of memory, where no instruction fits. -/
def jumpToEnd : List UInt8 := [0x1F, 0xFF]

/-- Two turns, far enough apart for an instruction each. -/
def twoTurns : List Reading := [⟨[], 2000000, ⟨[], []⟩⟩, ⟨[], 4000000, ⟨[], []⟩⟩]

theorem jumpToEnd_fails :
    parse ["game"] = .ok { path := "game" } ∧
      (outcomeOf { path := "game" }
        (Session.play (settingsOf { path := "game" }) (quietSite jumpToEnd "no device")
          twoTurns)).exit = .ok 1 := by
  have accepted : parse ["game"] = .ok { path := "game" } :=
    eq_ok_of_toOption (by decide +kernel)
  have built : (create (settingsOf { path := "game" }) (quietSite jumpToEnd "no device")).2 =
      .ok (quietEmulator jumpToEnd (some (10 : Nat)) .classic) :=
    create_quietSite (by decide) "CHIP-8 Emulation" "game" (some (10 : Nat)) .classic "no device"
  let first := quietEmulator jumpToEnd (some (10 : Nat)) .classic
  have going : (first.turn ⟨[], []⟩ 2000000).pace = .going := by decide +kernel
  have due : (first.turn ⟨[], []⟩ 2000000).emulator.interpreter.Due 4000000 := by decide +kernel
  have overruns : Memory.size ≤
      (first.turn ⟨[], []⟩ 2000000).emulator.interpreter.machine.pc.toNat + 1 := by decide +kernel
  have ends : first.Ends twoTurns (.pastMemory _) := .next rfl going (.pastMemory rfl due overruns)
  exact ⟨accepted,
    ((exit_status accepted).1 _ _).failed.mpr ⟨_, .pastMemory ⟨first, built, ends⟩⟩⟩

/-- The first seed that is not one. -/
def largeSeed : Options := { path := "game", seed := some 0x8000000000000000 }

/-- A quiet place in which the user quits at once. -/
def quietWorld (program : List UInt8) : World where
  site := quietSite program "no device"
  pace := 1000000
  keys := ⟨[], []⟩
  polls := []

/-- The command line is accepted, the program is read and fits, and nobody is told why it is
not run. -/
theorem largeSeed_escapes :
    parse ["--seed", "9223372036854775808", "game"] = .ok largeSeed ∧
      (quietWorld jumpToEnd).site.read "game" = .ok jumpToEnd ∧
      jumpToEnd.length ≤ Memory.programSpace ∧
      (command ["--seed", "9223372036854775808", "game"] (quietWorld jumpToEnd)).exit =
        .error (.start (.seed 0x8000000000000000)) := by
  have accepted : parse ["--seed", "9223372036854775808", "game"] = .ok largeSeed :=
    eq_ok_of_toOption (by decide +kernel)
  refine ⟨accepted, rfl, by decide, ?_⟩
  obtain ⟨script, _, _, same⟩ := exists_session_play (settingsOf largeSeed) (quietWorld jumpToEnd)
  have escapes : Escapes largeSeed (quietWorld jumpToEnd).site script
      (.start (.seed 0x8000000000000000)) :=
    .unforeseen (.seed rfl (Option.some_ne_none _) rfl (by decide))
  rw [command, accepted]
  dsimp only
  rw [same]
  exact (escaped_of_valid (parse_valid accepted) escapes).1

end CommandLine

end Chip8
