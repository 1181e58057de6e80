import Chip8.Proofs.Emulator.Creation
import Chip8.Proofs.Emulator.Ending

namespace Chip8.Emulator

/-! A session from its construction to its end. Settings that have passed their checks leave
two reasons for building no emulator that are told to the user, and a few that nobody has
foreseen; an emulator that is built goes on to the end of its script. -/

/-- The numbers that a seed can be. -/
def IsSeed (seed : Int) : Prop := -0x8000000000000000 ≤ seed ∧ seed < 0x8000000000000000

instance (seed : Int) : Decidable (IsSeed seed) := inferInstanceAs (Decidable (_ ∧ _))

/-- A program was read, and all that is needed to start it was given. -/
structure Readied (settings : Settings) (site : Site) (program : List UInt8) : Prop where
  read : site.read settings.path = .ok program
  rate : settings.rate ≠ none
  seed : ∃ seed, settings.seed = some seed ∧ IsSeed seed

/-- The errors in building an emulator that are told to the user, with what is told. -/
inductive Refused (settings : Settings) (site : Site) : Error → Failure → Prop
  | unreadable {error : ReadError} {reason : String}
      (refused : site.read settings.path = .error error) (told : error.reason? = some reason) :
      Refused settings site (.read settings.path error) (Error.readFailure settings.path reason)
  | oversized {program : List UInt8} (readied : Readied settings site program)
      (large : Memory.programSpace < program.length) :
      Refused settings site (.start (.program ⟨program.length⟩))
        (OversizedProgram.failure ⟨program.length⟩)

/-- The errors in building an emulator that are not told to the user. -/
inductive Unforeseen (settings : Settings) (site : Site) : Error → Prop
  | nul (refused : site.read settings.path = .error .nul) :
      Unforeseen settings site (.read settings.path .nul)
  | noRate {program : List UInt8} (read : site.read settings.path = .ok program)
      (blank : settings.rate = none) : Unforeseen settings site .noRate
  | noSeed {program : List UInt8} (read : site.read settings.path = .ok program)
      (rated : settings.rate ≠ none) (blank : settings.seed = none) :
      Unforeseen settings site .noSeed
  | seed {program : List UInt8} {seed : Int} (read : site.read settings.path = .ok program)
      (rated : settings.rate ≠ none) (given : settings.seed = some seed)
      (outside : ¬ IsSeed seed) : Unforeseen settings site (.start (.seed seed))
  | noScheme {program : List UInt8} (readied : Readied settings site program)
      (fits : program.length ≤ Memory.programSpace) (blank : settings.scheme = none) :
      Unforeseen settings site .noScheme
  | tone {program : List UInt8} {error : CapacityError}
      (readied : Readied settings site program)
      (fits : program.length ≤ Memory.programSpace) (colored : settings.scheme ≠ none)
      (mute : (Device.Beeper.create site.host.room site.audio Sound.defaultFrequency
        Sound.defaultRate).beeper = .error error) : Unforeseen settings site (.tone error)

variable {settings : Settings} {site : Site} {error : Error} {failure : Failure}

theorem Refused.failure? (refused : Refused settings site error failure) :
    error.failure? = some failure := by
  cases refused with
  | unreadable refused told => rw [Error.failure?, told]; rfl
  | oversized readied large => rfl

theorem Unforeseen.failure? (unforeseen : Unforeseen settings site error) :
    error.failure? = none := by
  cases unforeseen <;> rfl

section Start

variable {setup : Interpreter.Setup}

theorem start_of_not_isSeed (positive : 0 < setup.rate) (outside : ¬ IsSeed setup.seed) :
    (Interpreter.start setup).2 = .error (.seed setup.seed) := by
  have seed : Random.Key.ofSeed? setup.seed = none := if_neg outside
  simp only [Interpreter.start, if_neg (Int.not_le.mpr positive), seed]

theorem start_of_oversized (positive : 0 < setup.rate) (inside : IsSeed setup.seed)
    (large : Memory.programSpace < setup.program.length) :
    (Interpreter.start setup).2 = .error (.program ⟨setup.program.length⟩) := by
  obtain ⟨key, seed⟩ : ∃ key, Random.Key.ofSeed? setup.seed = some key := ⟨_, if_pos inside⟩
  simp only [Interpreter.start, if_neg (Int.not_le.mpr positive), seed, Machine.load, if_pos large]

theorem start_of_fitting (positive : 0 < setup.rate) (inside : IsSeed setup.seed)
    (fits : setup.program.length ≤ Memory.programSpace) :
    ∃ interpreter, (Interpreter.start setup).2 = .ok interpreter := by
  obtain ⟨key, seed⟩ : ∃ key, Random.Key.ofSeed? setup.seed = some key := ⟨_, if_pos inside⟩
  simp only [Interpreter.start, if_neg (Int.not_le.mpr positive), seed, Machine.load,
    if_neg (Nat.not_lt.mpr fits)]
  exact ⟨_, rfl⟩

end Start

theorem create_of_not_started {program : List UInt8} (read : site.read settings.path = .ok program)
    (failed : (startInterpreter settings site.now program).2 = .error error) :
    (create settings site).2 = .error error := by
  simp only [create, read, failed]

theorem create_of_started {program : List UInt8} {interpreter : Interpreter}
    (read : site.read settings.path = .ok program)
    (started : (startInterpreter settings site.now program).2 = .ok interpreter) :
    (create settings site).2 = (openDevices settings site interpreter).2 := by
  simp only [create, read, started]

theorem openWindow_of_colored
    (colored : ∀ name, settings.scheme = some name → ∃ scheme : Scheme, scheme.name = name)
    (chosen : settings.scheme ≠ none) (host : Device.Host) :
    ∃ window calls, openWindow settings host = .ok (window, calls) := by
  obtain ⟨name, named⟩ := Option.ne_none_iff_exists'.mp chosen
  obtain ⟨scheme, rfl⟩ := colored name named
  simp only [openWindow, named, Device.Window.create, Palette.named_name]
  exact ⟨_, _, rfl⟩

section Positive

variable {program : List UInt8} (positive : ∀ rate, settings.rate = some rate → 0 < rate)

include positive

theorem startInterpreter_of_not_isSeed {seed : Int} (rated : settings.rate ≠ none)
    (given : settings.seed = some seed) (outside : ¬ IsSeed seed) :
    (startInterpreter settings site.now program).2 = .error (.start (.seed seed)) := by
  obtain ⟨rate, rated⟩ := Option.ne_none_iff_exists'.mp rated
  simp only [startInterpreter, rated, given]
  rw [start_of_not_isSeed (positive rate rated) outside]
  rfl

theorem startInterpreter_of_oversized (readied : Readied settings site program)
    (large : Memory.programSpace < program.length) :
    (startInterpreter settings site.now program).2 =
      .error (.start (.program ⟨program.length⟩)) := by
  obtain ⟨rate, rated⟩ := Option.ne_none_iff_exists'.mp readied.rate
  obtain ⟨seed, given, inside⟩ := readied.seed
  simp only [startInterpreter, rated, given]
  rw [start_of_oversized (positive rate rated) inside large]
  rfl

theorem startInterpreter_of_fitting (readied : Readied settings site program)
    (fits : program.length ≤ Memory.programSpace) :
    ∃ interpreter, (startInterpreter settings site.now program).2 = .ok interpreter := by
  obtain ⟨rate, rated⟩ := Option.ne_none_iff_exists'.mp readied.rate
  obtain ⟨seed, given, inside⟩ := readied.seed
  obtain ⟨interpreter, started⟩ :
      ∃ interpreter, (Interpreter.start ⟨program, rate, site.now, seed, settings.debug⟩).2 =
        .ok interpreter := start_of_fitting (positive rate rated) inside fits
  simp only [startInterpreter, rated, given, started]
  exact ⟨interpreter, rfl⟩

theorem Refused.create (refused : Refused settings site error failure) :
    (create settings site).2 = .error error := by
  cases refused with
  | unreadable refused told => simp only [Emulator.create, refused]
  | oversized readied large =>
      exact create_of_not_started readied.read
        (startInterpreter_of_oversized positive readied large)

theorem Unforeseen.create
    (colored : ∀ name, settings.scheme = some name → ∃ scheme : Scheme, scheme.name = name)
    (unforeseen : Unforeseen settings site error) :
    (create settings site).2 = .error error := by
  cases unforeseen with
  | nul refused => simp only [Emulator.create, refused]
  | noRate read blank =>
      refine create_of_not_started read ?_
      simp only [startInterpreter, blank]
  | noSeed read rated blank =>
      obtain ⟨rate, rated⟩ := Option.ne_none_iff_exists'.mp rated
      refine create_of_not_started read ?_
      simp only [startInterpreter, rated, blank]
  | seed read rated given outside =>
      exact create_of_not_started read
        (startInterpreter_of_not_isSeed positive rated given outside)
  | noScheme readied fits blank =>
      obtain ⟨interpreter, started⟩ := startInterpreter_of_fitting positive readied fits
      rw [create_of_started readied.read started]
      simp only [openDevices, openWindow, blank]
  | tone readied fits chosen mute =>
      obtain ⟨interpreter, started⟩ := startInterpreter_of_fitting positive readied fits
      obtain ⟨window, calls, shown⟩ := openWindow_of_colored colored chosen site.host
      rw [create_of_started readied.read started]
      simp only [openDevices, shown, mute]

end Positive

/-- An emulator is built, or it is not for one of the reasons. -/
theorem create_cases (settings : Settings) (site : Site)
    (positive : ∀ rate, settings.rate = some rate → 0 < rate)
    (colored : ∀ name, settings.scheme = some name → ∃ scheme : Scheme, scheme.name = name) :
    (∃ error failure, Refused settings site error failure) ∨
      (∃ error, Unforeseen settings site error) ∨
      ∃ emulator, (create settings site).2 = .ok emulator := by
  cases read : site.read settings.path with
  | error cause =>
      cases told : cause.reason? with
      | some reason => exact .inl ⟨_, _, .unreadable read told⟩
      | none =>
          cases cause with
          | nul => exact .inr (.inl ⟨_, .nul read⟩)
          | missing | directory | notDirectory | nameTooLong | other => contradiction
  | ok program =>
      by_cases rated : settings.rate = none
      · exact .inr (.inl ⟨_, .noRate read rated⟩)
      · cases given : settings.seed with
        | none => exact .inr (.inl ⟨_, .noSeed read rated given⟩)
        | some seed =>
            by_cases inside : IsSeed seed
            · have readied : Readied settings site program := ⟨read, rated, seed, given, inside⟩
              by_cases large : Memory.programSpace < program.length
              · exact .inl ⟨_, _, .oversized readied large⟩
              · have fits := Nat.not_lt.mp large
                by_cases chosen : settings.scheme = none
                · exact .inr (.inl ⟨_, .noScheme readied fits chosen⟩)
                · obtain ⟨interpreter, started⟩ :=
                    startInterpreter_of_fitting positive readied fits
                  obtain ⟨window, calls, shown⟩ := openWindow_of_colored colored chosen site.host
                  cases sounding : (Device.Beeper.create site.host.room site.audio
                      Sound.defaultFrequency Sound.defaultRate).beeper with
                  | error cause => exact .inr (.inl ⟨_, .tone readied fits chosen sounding⟩)
                  | ok beeper =>
                      refine .inr (.inr ⟨⟨interpreter, window, beeper, false⟩, ?_⟩)
                      rw [create_of_started read started]
                      simp only [openDevices, shown, sounding]
            · exact .inr (.inl ⟨_, .seed read rated given inside⟩)

theorem create_window {emulator : Emulator} (built : (create settings site).2 = .ok emulator) :
    emulator.window.scale = settings.scale ∧ emulator.window.host = site.host := by
  obtain ⟨_, _, _, _, calls, shown, _⟩ := create_ok (Prod.ext rfl built)
  obtain ⟨_, _, _, _, window, _⟩ := openWindow_ok shown
  rw [window]
  exact ⟨rfl, rfl⟩

theorem startInterpreter_notices (settings : Settings) (now : Int) (program : List UInt8) :
    ∀ failure, .failed failure ∉ (startInterpreter settings now program).1 := by
  intro failure member
  unfold startInterpreter at member
  split at member
  · contradiction
  · contradiction
  · have plain := Interpreter.start_plain _ _ (List.mem_map_of_mem member)
    cases plain

theorem beeper_notices (room : Nat) (audio : Device.Audio) (frequency : Sound.Amount) (rate : Int) :
    ∀ failure, .failed failure ∉ (Device.Beeper.create room audio frequency rate).notices := by
  intro failure member
  have silent (opening : List Device.Call) (format : Device.AudioFormat) :
      (Device.Beeper.withFormat room opening frequency format).notices = [] := by
    rw [Device.Beeper.withFormat]
    split <;> rfl
  unfold Device.Beeper.create at member
  split at member
  · rw [silent] at member
    contradiction
  · dsimp only at member
    split at member
    · cases List.mem_singleton.mp member
    · rw [silent] at member
      contradiction

theorem unfailing_openDevices (settings : Settings) (site : Site) (interpreter : Interpreter) :
    Unfailing (openDevices settings site interpreter).1 := by
  have tone := beeper_notices site.host.room site.audio Sound.defaultFrequency Sound.defaultRate
  unfold openDevices
  dsimp only
  split
  · exact (unfailing_devices _).append (unfailing_devices _)
  · split
    · exact (((unfailing_devices _).append (unfailing_devices _)).append
        (unfailing_notices tone)).append (unfailing_devices _)
    · exact (((unfailing_devices _).append (unfailing_devices _)).append
        (unfailing_notices tone)).append (unfailing_devices _)

theorem unfailing_create (settings : Settings) (site : Site) :
    Unfailing (create settings site).1 := by
  unfold create
  split
  · exact nofun
  · rename_i program _
    have started := startInterpreter_notices settings site.now program
    have read : Unfailing (notices
        (.programRead settings.path :: (startInterpreter settings site.now program).1)) :=
      unfailing_notices fun failure member => by
        rcases List.mem_cons.mp member with first | later
        · cases first
        · exact started failure later
    dsimp only
    split
    · exact read
    · exact read.append (unfailing_openDevices _ _ _)

theorem linesFor_append (debug : Bool) (first second : List Log.Notice) :
    linesFor debug (first ++ second) = linesFor debug first ++ linesFor debug second :=
  List.filterMap_append

theorem linesFor_singleton {debug : Bool} (notice : Log.Notice)
    (enabled : (loggerFor debug).enabled notice.level.name = true) :
    linesFor debug [notice] =
      [⟨Log.Logger.channel notice.level.name,
        (loggerFor debug).format 0.0 notice.level.name notice.text ++ "\n"⟩] := by
  simp only [linesFor, List.filterMap_cons, List.filterMap_nil, Log.Logger.notice?,
    Log.Logger.line?, enabled, if_true]

/-- Build an emulator and let a script run it to its end. -/
def Session.play (settings : Settings) (site : Site) (script : List Reading) : Session :=
  let (opened, created) := create settings site
  match created with
  | .error error => ⟨opened, .error error, script.length⟩
  | .ok emulator =>
      let run := emulator.play script
      ⟨opened ++ run.effects,
        match run.error with
        | some error => .error error
        | none => .ok run.emulator,
        run.left⟩

theorem exists_session_play (settings : Settings) (world : World) :
    ∃ script, script.map Reading.events = world.polls ∧
      Steady (world.site.now + world.pace) world.pace script ∧
      Session.of settings world = Session.play settings world.site script := by
  cases built : (create settings world.site).2 with
  | error error =>
      refine ⟨world.polls.mapIdx fun index events =>
        ⟨events, world.site.now + world.pace + index * world.pace, world.keys⟩, ?_, ?_, ?_⟩
      · refine List.ext_getElem? fun index => ?_
        rw [List.getElem?_map, List.getElem?_mapIdx, Option.map_map]
        exact Option.map_id'
      · intro index reading found
        rw [List.getElem?_mapIdx] at found
        obtain ⟨events, _, rfl⟩ := Option.map_eq_some_iff.mp found
        rfl
      · simp only [Session.of, Session.play, built, List.length_mapIdx]
  | ok emulator =>
      obtain ⟨script, polled, steady, same⟩ := emulator.exists_play world.keys
        (world.site.now + world.pace) world.pace world.polls
      refine ⟨script, polled, steady, ?_⟩
      cases ending : (emulator.play script).error with
      | none => simp only [Session.of, Session.play, built, same, ending]
      | some error => simp only [Session.of, Session.play, built, same, ending]

theorem play_of_not_built (failed : (create settings site).2 = .error error)
    (script : List Reading) :
    (Session.play settings site script).result = .error error ∧
      Unfailing (Session.play settings site script).effects := by
  simp only [Session.play, failed, true_and]
  exact unfailing_create settings site

theorem play_of_built {emulator : Emulator} (built : (create settings site).2 = .ok emulator)
    (script : List Reading) :
    (Session.play settings site script).result =
        (match (emulator.play script).error with
        | some error => .error error
        | none => .ok (emulator.play script).emulator) ∧
      Unfailing (Session.play settings site script).effects := by
  simp only [Session.play, built, true_and]
  exact (unfailing_create settings site).append (emulator.unfailing_play script)

end Chip8.Emulator
