import Chip8.Proofs.Emulator.Loop
import Chip8.Proofs.Interpreter.Run

namespace Chip8

theorem Scheme.ofName?_name (scheme : Scheme) : Scheme.ofName? scheme.name = some scheme := by
  cases scheme <;> decide

theorem Palette.named_name (scheme : Scheme) : Palette.named scheme.name = .ok scheme.palette := by
  rw [named, Scheme.ofName?_name]

namespace Emulator

/-! What is there when an emulator has been built: the interpreter that the settings ask
for, the window that they ask for, and all the calls made on the way. -/

variable {settings : Settings} {site : Site} {opened : List Effect} {emulator : Emulator}

theorem eq_ok_of_mapError {α ε ε' : Type} {rename : ε → ε'} {result : Except ε α} {value : α}
    (success : result.mapError rename = .ok value) : result = .ok value := by
  cases result with
  | error error => cases success
  | ok found => exact congrArg Except.ok (Except.ok.inj success)

theorem startInterpreter_ok {now : Int} {program : List UInt8} {interpreter : Interpreter}
    (started : (startInterpreter settings now program).2 = .ok interpreter) :
    ∃ rate seed, settings.rate = some rate ∧ settings.seed = some seed ∧
      (Interpreter.start
        { program := program
          rate := rate
          start := now
          seed := seed
          debug := settings.debug }).2 = .ok interpreter := by
  cases rated : settings.rate with
  | none =>
      simp only [startInterpreter, rated, reduceCtorEq] at started
  | some rate =>
      cases seeded : settings.seed with
      | none => simp only [startInterpreter, rated, seeded, reduceCtorEq] at started
      | some seed =>
          simp only [startInterpreter, rated, seeded] at started
          exact ⟨rate, seed, rfl, rfl, eq_ok_of_mapError started⟩

theorem openWindow_ok {host : Device.Host} {window : Device.Window} {calls : List Device.Call}
    (shown : openWindow settings host = .ok (window, calls)) :
    ∃ name palette, settings.scheme = some name ∧ Palette.named name = .ok palette ∧
      window = ⟨host, settings.scale, palette, settings.debug⟩ ∧
      calls =
        [.open .window (settings.scale.map (Display.width * ·))
            (settings.scale.map (Display.height * ·)),
          .caption settings.title] := by
  cases schemed : settings.scheme with
  | none => simp only [openWindow, schemed, reduceCtorEq] at shown
  | some name =>
      cases named : Palette.named name with
      | error error =>
          simp only [openWindow, schemed, Device.Window.create, named, reduceCtorEq] at shown
      | ok palette =>
          simp only [openWindow, schemed, Device.Window.create, named, Except.ok.injEq,
            Prod.mk.injEq] at shown
          exact ⟨name, palette, rfl, named, shown.1.symm, shown.2.symm⟩

theorem openDevices_ok {interpreter : Interpreter}
    (made : openDevices settings site interpreter = (opened, .ok emulator)) :
    emulator.interpreter = interpreter ∧
      (Device.Beeper.create site.host.room site.audio Sound.defaultFrequency
          Sound.defaultRate).beeper =
        .ok emulator.beeper ∧
      ∃ calls, openWindow settings site.host = .ok (emulator.window, calls) ∧
        callsOf opened =
          [.reserveAudio .standard, .start] ++
            (calls ++
              (Device.Beeper.create site.host.room site.audio Sound.defaultFrequency
                Sound.defaultRate).calls) ++
            emulator.window.clear := by
  cases shown : openWindow settings site.host with
  | error error => simp only [openDevices, shown, Prod.mk.injEq, reduceCtorEq, and_false] at made
  | ok windowed =>
      obtain ⟨window, calls⟩ := windowed
      simp only [openDevices, shown] at made
      split at made
      · simp only [Prod.mk.injEq, reduceCtorEq, and_false] at made
      · rename_i beeper sounding
        simp only [Prod.mk.injEq, Except.ok.injEq] at made
        obtain ⟨rfl, rfl⟩ := made
        refine ⟨rfl, sounding, calls, rfl, ?_⟩
        simp only [callsOf_append, callsOf_devices, callsOf_notices, List.append_nil]

theorem create_ok (created : create settings site = (opened, .ok emulator)) :
    ∃ program, site.read settings.path = .ok program ∧
      (startInterpreter settings site.now program).2 = .ok emulator.interpreter ∧
      (Device.Beeper.create site.host.room site.audio Sound.defaultFrequency
          Sound.defaultRate).beeper =
        .ok emulator.beeper ∧
      ∃ calls, openWindow settings site.host = .ok (emulator.window, calls) ∧
        callsOf opened =
          [.reserveAudio .standard, .start] ++
            (calls ++
              (Device.Beeper.create site.host.room site.audio Sound.defaultFrequency
                Sound.defaultRate).calls) ++
            emulator.window.clear := by
  cases read : site.read settings.path with
  | error error => simp only [create, read, Prod.mk.injEq, reduceCtorEq, and_false] at created
  | ok program =>
      cases started : (startInterpreter settings site.now program).2 with
      | error error =>
          simp only [create, read, started, Prod.mk.injEq, reduceCtorEq, and_false] at created
      | ok interpreter =>
          simp only [create, read, started, Prod.mk.injEq] at created
          obtain ⟨effects, made⟩ := created
          obtain ⟨same, beeper, calls, shown, made⟩ := openDevices_ok (Prod.ext rfl made)
          refine ⟨program, rfl, same ▸ started, beeper, calls, shown, ?_⟩
          rw [← effects, callsOf_append, callsOf_notices, List.nil_append]
          exact made

/-- A megabyte of room, and a font in which all characters are equally wide. -/
def plainHost : Device.Host where
  room := 0x100000
  font := { height := 18, lineWidth := fun line => 7 * line.length }

/-- The same program at every path, and no audio device. -/
def quietSite (program : List UInt8) (reason : String) : Site where
  read _ := .ok program
  audio := { failure := some reason }
  now := 0
  host := plainHost

def quietEmulator (program : List UInt8) (scale : Option Int) (scheme : Scheme) : Emulator where
  interpreter := .booted program
  window := ⟨plainHost, scale, scheme.palette, false⟩
  beeper := ⟨false, false⟩
  cancelled := false

theorem create_booted {program : List UInt8} (fits : program.length ≤ Memory.programSpace)
    (title path : String) (scale : Option Int) (scheme : Scheme) {audio : Device.Audio}
    {beeper : Device.Beeper}
    (sounding : (Device.Beeper.create plainHost.room audio Sound.defaultFrequency
      Sound.defaultRate).beeper = .ok beeper) :
    (create { title := title, path := path, scale := scale, scheme := some scheme.name }
        ⟨fun _ => .ok program, audio, 0, plainHost⟩).2 =
      .ok { quietEmulator program scale scheme with beeper := beeper } := by
  have started : (startInterpreter
      { title := title, path := path, scale := scale, scheme := some scheme.name } 0 program).2 =
        .ok (.booted program) := by
    have booted := Interpreter.start_booted fits
    exact congrArg (Except.mapError Error.start) booted
  simp only [create, started, openDevices, openWindow, Device.Window.create, Palette.named_name,
    sounding]
  rfl

/-- Without an audio device, an emulator is built all the same. -/
theorem create_quietSite {program : List UInt8} (fits : program.length ≤ Memory.programSpace)
    (title path : String) (scale : Option Int) (scheme : Scheme) (reason : String) :
    (create { title := title, path := path, scale := scale, scheme := some scheme.name }
        (quietSite program reason)).2 =
      .ok (quietEmulator program scale scheme) :=
  create_booted fits title path scale scheme rfl

end Emulator

end Chip8
