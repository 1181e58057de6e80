import Chip8.Proofs.Interpreter.StackWarnings
import Chip8.Proofs.Interpreter.Unnoticed
import Chip8.Proofs.Log.Reading
import Chip8.Proofs.Machine.Loading

namespace Chip8

open Log (Fetch)

/-! The trace of a run that is debugged. Every instruction that is fetched is traced once, at once,
whether or not it can be executed; nothing else is, and the trace is all that debugging changes.
So the trace read back from the log is the history of the run. -/

/-- The word under the counter, if both of its bytes lie in memory. -/
def Machine.fetch? (machine : Machine) : Option Fetch :=
  machine.memory[machine.pc.toNat]?.bind fun high =>
    machine.memory[machine.pc.toNat + 1]?.map fun low =>
      { pc := machine.pc, word := UInt16.ofNat (256 * high.toNat + low.toNat) }

namespace Interpreter

variable {σ : Type} {keypad : Keypad σ} {interpreter : Interpreter} {machine : Machine}

theorem fetch?_of_overruns (overruns : Overruns machine) : machine.fetch? = none := by
  have missing : machine.memory[machine.pc.toNat + 1]? = none :=
    Vector.getElem?_eq_none overruns
  rw [Machine.fetch?, missing]
  cases machine.memory[machine.pc.toNat]? <;> rfl

theorem fetch?_of_inside (inside : ¬ Overruns machine) :
    machine.fetch? = some ⟨machine.pc, machine.word⟩ := by
  have bound : machine.pc.toNat + 1 < 4096 := Nat.lt_of_not_le inside
  rw [Machine.fetch?, Vector.getElem?_eq_getElem (Nat.lt_of_succ_lt bound),
    Vector.getElem?_eq_getElem bound, Option.bind_some, Option.map_some,
    ← Machine.word_inside bound, UInt16.ofNat_toNat]

def notices (effects : List Effect) : List Log.Notice :=
  effects.filterMap fun
    | .notice notice => some notice
    | .heldQuery | .keyWait => none

/-- The fetches that are told among the effects. -/
def fetchesTold (effects : List Effect) : List Fetch :=
  (notices effects).filterMap Log.Notice.fetch?

theorem fetchesTold_append (first second : List Effect) :
    fetchesTold (first ++ second) = fetchesTold first ++ fetchesTold second := by
  rw [fetchesTold, notices, List.filterMap_append, List.filterMap_append]
  rfl

theorem fetchesTold_of_quiet {effects : List Effect}
    (quiet : ∀ effect ∈ effects, effect.isTrace = false) : fetchesTold effects = [] := by
  rw [fetchesTold, notices, List.filterMap_filterMap, List.filterMap_eq_nil_iff]
  intro effect member
  have silent := quiet effect member
  cases effect with
  | notice notice =>
      cases notice with
      | fetched pc word => contradiction
      | _ => rfl
  | _ => rfl

theorem mem_notices {effects : List Effect} {notice : Log.Notice} :
    notice ∈ notices effects ↔ .notice notice ∈ effects := by
  rw [notices, List.mem_filterMap]
  constructor
  · rintro ⟨effect, member, same⟩
    cases effect with
    | notice other =>
        cases same
        exact member
    | _ => contradiction
  · exact fun member => ⟨_, member, rfl⟩

/-- A fault that the key pad or a token brings about, after the instruction is fetched. -/
def Fault.refusesKey : Fault → Bool
  | endOfMemory _ => false
  | waitCancelled _ | keyOutOfRange _ => true

def withDebug (debug : Bool) (interpreter : Interpreter) : Interpreter :=
  { interpreter with debug := debug }

def withoutTraces (effects : List Effect) : List Effect :=
  effects.filter fun effect => !effect.isTrace

theorem withoutTraces_append (first second : List Effect) :
    withoutTraces (first ++ second) = withoutTraces first ++ withoutTraces second :=
  List.filter_append ..

theorem notices_withoutTraces (effects : List Effect) :
    notices (withoutTraces effects) =
      (notices effects).filter fun notice => notice.fetch?.isNone := by
  rw [notices, notices, withoutTraces, List.filter_filterMap, List.filterMap_filter]
  refine List.filterMap_congr fun effect _ => ?_
  cases effect with
  | notice notice => cases notice <;> rfl
  | _ => rfl

theorem start_withDebug (debug : Bool) (setup : Setup) :
    start { setup with debug := debug } =
      ((start setup).1, (start setup).2.map (withDebug debug)) :=
  start_map rfl rfl rfl fun _ => rfl

theorem trace_eq (interpreter : Interpreter) :
    interpreter.trace = [] ∨ ∃ pc word, interpreter.trace = [.notice (.fetched pc word)] := by
  unfold trace
  split
  · exact .inr ⟨_, _, rfl⟩
  · exact .inl rfl

/-- Nothing but the trace depends on whether a run is debugged. -/
theorem unnoticed_withDebug : Unnoticed (withDebug false) withoutTraces id where
  machine _ := rfl
  complete _ _ := rfl
  gated interpreter now := by
    rw [gated_eq, gated_eq]
    rfl
  due _ _ := Iff.rfl
  opened _ _ := rfl
  refreshBeep _ := rfl
  silent := rfl
  traced interpreter effects quiet := by
    have kept : effects.filter (fun effect => !effect.isTrace) = effects := by
      rw [List.filter_eq_self]
      exact fun effect member => congrArg not (quiet effect member)
    rw [withoutTraces_append, withoutTraces, withoutTraces, kept]
    rcases interpreter.trace_eq with none | ⟨pc, word, traced⟩
    · rw [none]
      rfl
    · rw [traced]
      rfl

theorem step_fetches (debugged : interpreter.debug = true) (pad : σ) (cancelled : Bool) :
    fetchesTold (interpreter.step keypad pad cancelled).effects =
      interpreter.machine.fetch?.toList := by
  by_cases overruns : Overruns interpreter.machine
  · rw [step_of_overruns overruns, fetch?_of_overruns overruns]
    rfl
  · have traced : fetchesTold interpreter.trace =
        [⟨interpreter.machine.pc, interpreter.machine.word⟩] := by
      rw [trace, if_pos debugged]
      rfl
    have asked := fetchesTold_of_quiet
      (isTrace_of_mem_sense_effects keypad interpreter.machine pad cancelled)
    rw [fetch?_of_inside overruns]
    cases sensed : (sense keypad interpreter.machine pad cancelled).keys with
    | error fault =>
        rw [step_of_refused overruns sensed, fetchesTold_append, traced, asked]
        rfl
    | ok keys =>
        rw [step_of_sensed overruns sensed, fetchesTold_append, fetchesTold_append, traced, asked,
          fetchesTold_of_quiet isTrace_of_mem_warnings]
        rfl

/-- Of what a step tells, a reader of the log takes nothing but the trace for one. -/
theorem legible_of_mem_step {notice : Log.Notice} {pad : σ} {cancelled : Bool}
    (member : .notice notice ∈ (interpreter.step keypad pad cancelled).effects) :
    notice.Legible := by
  have traced : .notice notice ∈ interpreter.trace → notice.Legible := by
    intro told
    rcases interpreter.trace_eq with none | ⟨pc, word, trace⟩
    · rw [none] at told
      contradiction
    · rw [trace] at told
      cases List.mem_singleton.mp told
      exact fun _ => nofun
  have asked : .notice notice ∉ (sense keypad interpreter.machine pad cancelled).effects := by
    intro told
    rcases mem_sense_effects told with same | same <;> contradiction
  have warned : .notice notice ∈ warnings interpreter.machine → notice.Legible := by
    intro told
    rcases mem_warnings told with ⟨pc, target, same⟩ | ⟨pc, same⟩ <;> cases same <;> exact nofun
  by_cases overruns : Overruns interpreter.machine
  · rw [step_of_overruns overruns] at member
    contradiction
  · cases sensed : (sense keypad interpreter.machine pad cancelled).keys with
    | error fault =>
        rw [step_of_refused overruns sensed] at member
        exact (List.mem_append.mp member).elim traced fun told => absurd told asked
    | ok keys =>
        rw [step_of_sensed overruns sensed] at member
        rcases List.mem_append.mp member with before | told
        · exact (List.mem_append.mp before).elim traced fun told => absurd told asked
        · exact warned told

namespace Attached

variable (keypad) (state : Attached σ) (call : Call)

def fetch? : Option Fetch :=
  if call.Attempts state.interpreter then state.machine.fetch? else none

def fetches (state : Attached σ) : List Call → List Fetch
  | [] => []
  | call :: calls => (state.fetch? call).toList ++ (state.next keypad call).fetches calls

def faults (state : Attached σ) : List Call → List Fault
  | [] => []
  | call :: calls =>
      (state.perform keypad call).fault.toList ++ (state.next keypad call).faults calls

def withDebug (debug : Bool) (state : Attached σ) : Attached σ :=
  { state with interpreter := state.interpreter.withDebug debug }

theorem next_debug : (state.next keypad call).interpreter.debug = state.interpreter.debug := by
  cases call with
  | step cancelled =>
      rw [next, perform]
      rcases step_cases keypad state.interpreter state.pad cancelled with
        ⟨_, same⟩ | ⟨_, _, keys, complete⟩
      · rw [same]
      · rw [complete]
        rfl
  | cycle now cancelled =>
      have gate : (state.interpreter.gated now).debug = state.interpreter.debug := by
        rw [gated_eq]
      rw [next, perform, ← gate]
      rcases cycle_cases keypad state.interpreter state.pad cancelled now with
        ⟨_, _, same⟩ | ⟨_, _, same⟩ | ⟨_, _, keys, complete⟩
      · rw [same]
        rfl
      · rw [same]
      · rw [complete]
        rfl

theorem perform_fetches (debugged : state.interpreter.debug = true) :
    fetchesTold (state.perform keypad call).effects = (state.fetch? call).toList := by
  rw [fetch?]
  split
  next attempts =>
    have gate : (call.gated state.interpreter).debug = true := by
      cases call with
      | step cancelled => exact debugged
      | cycle now cancelled =>
          rw [Call.gated, gated_eq]
          exact debugged
    rw [effects_of_attempts keypad state attempts, attempt, step_fetches gate]
    exact congrArg Option.toList (call.gated_view Machine.fetch? (fun _ => rfl) state.interpreter)
  next idle =>
    rw [effects_of_not_attempts keypad state idle]
    rfl

theorem effects_fetches (debugged : state.interpreter.debug = true) (calls : List Call) :
    fetchesTold (state.effects keypad calls) = state.fetches keypad calls := by
  induction calls generalizing state with
  | nil => rfl
  | cons call calls ih =>
      rw [effects, fetchesTold_append, fetches, perform_fetches keypad state call debugged,
        ih _ ((state.next_debug keypad call).trans debugged)]

theorem legible_effects (calls : List Call) :
    ∀ notice ∈ notices (state.effects keypad calls), notice.Legible := by
  simp only [mem_notices]
  induction calls generalizing state with
  | nil => nofun
  | cons call calls ih =>
      intro notice member
      rcases List.mem_append.mp member with first | later
      · by_cases attempts : call.Attempts state.interpreter
        · rw [effects_of_attempts keypad state attempts] at first
          exact legible_of_mem_step first
        · rw [effects_of_not_attempts keypad state attempts] at first
          contradiction
      · exact ih _ notice later

/-- What is fetched is executed, or the key pad does not let it. -/
theorem length_fetch? :
    (state.fetch? call).toList.length =
      (state.executed? keypad call).toList.length +
        (state.perform keypad call).fault.toList.countP Fault.refusesKey := by
  rw [fetch?, executed?, completed?]
  by_cases attempts : call.Attempts state.interpreter
  · have verdict := step_verdict keypad (call.gated state.interpreter) state.pad call.cancelled
    rw [← attempt, ← (state.perform_of_attempts keypad attempts).1] at verdict
    generalize (state.perform keypad call).fault = fault at verdict
    cases verdict with
    | endOfMemory overruns =>
        rw [call.overruns_gated] at overruns
        simp [fetch?_of_overruns overruns, Fault.refusesKey]
    | waitCancelled inside | keyOutOfRange inside | completes inside =>
        rw [call.overruns_gated] at inside
        simp [fetch?_of_inside inside, attempts, Fault.refusesKey]
  · obtain ⟨_, _, turn⟩ := state.perform_eq_idle keypad attempts
    simp [attempts, turn]

theorem length_fetches (calls : List Call) :
    state.interpreter.count + (state.fetches keypad calls).length =
      (state.after keypad calls).interpreter.count +
        (state.faults keypad calls).countP Fault.refusesKey := by
  induction calls generalizing state with
  | nil => rfl
  | cons call calls ih =>
      have counted := state.next_count keypad call
      have fetched := state.length_fetch? keypad call
      have rest := ih (state.next keypad call)
      rw [fetches, faults, after, List.length_append, List.countP_append]
      omega

theorem perform_withDebug :
    (state.withDebug false).perform keypad call =
      (state.perform keypad call).map (Interpreter.withDebug false) withoutTraces := by
  cases call with
  | step cancelled => exact unnoticed_withDebug.step keypad state.interpreter state.pad cancelled
  | cycle now cancelled =>
      exact unnoticed_withDebug.cycle keypad state.interpreter state.pad cancelled now

theorem next_withDebug :
    (state.withDebug false).next keypad call = (state.next keypad call).withDebug false := by
  rw [next, perform_withDebug]
  rfl

theorem after_withDebug (calls : List Call) :
    (state.withDebug false).after keypad calls = (state.after keypad calls).withDebug false := by
  induction calls generalizing state with
  | nil => rfl
  | cons call calls ih => rw [after, next_withDebug, ih, after]

theorem effects_withDebug (calls : List Call) :
    (state.withDebug false).effects keypad calls = withoutTraces (state.effects keypad calls) := by
  induction calls generalizing state with
  | nil => rfl
  | cons call calls ih =>
      rw [effects, perform_withDebug, next_withDebug, ih, effects, withoutTraces_append]
      rfl

end Attached

/-- Of a run that is debugged by a logger that lets traces through, the log holds what was
fetched, in order, whatever the times are that its lines are written at; and there are as many
traces in it as instructions were completed or refused a key. Without the traces it is the log
of the same run not debugged, which does the same call by call. -/
theorem trace_is_complete_and_unnoticed (keypad : Keypad σ) (pad : σ) {setup : Setup}
    {initial : Interpreter} {logger : Log.Logger} (started : (start setup).2 = .ok initial)
    (debugged : setup.debug = true) (enabled : logger.threshold = .debug) (calls : List Call) :
    let loud : Attached σ := ⟨initial, pad⟩
    let quiet : Attached σ := ⟨initial.withDebug false, pad⟩
    start { setup with debug := false } = ((start setup).1, .ok (initial.withDebug false)) ∧
    (∀ call, (quiet.after keypad calls).perform keypad call =
      ((loud.after keypad calls).perform keypad call).map (withDebug false) withoutTraces) ∧
    ∀ told : List (Float × Log.Notice), told.map Prod.snd = notices (loud.effects keypad calls) →
      let log := logger.lines told
      log.filterMap logger.fetch? = loud.fetches keypad calls ∧
      log.countP (fun line => (logger.fetch? line).isSome) =
        (loud.after keypad calls).interpreter.count +
          (loud.faults keypad calls).countP Fault.refusesKey ∧
      ∃ rest : List (Float × Log.Notice),
        rest.map Prod.snd = notices (quiet.effects keypad calls) ∧
          logger.lines rest = log.filter fun line => (logger.fetch? line).isNone := by
  intro loud quiet
  obtain ⟨rng, memory, fresh⟩ := start_eq started
  have verbose : loud.interpreter.debug = true := (congrArg Interpreter.debug fresh).trans debugged
  have count : loud.interpreter.count = 0 := congrArg Interpreter.count fresh
  have turnedOff : quiet = loud.withDebug false := rfl
  refine ⟨?_, fun call => ?_, fun told during => ?_⟩
  · rw [start_withDebug, started]
    rfl
  · rw [turnedOff, Attached.after_withDebug, Attached.perform_withDebug]
  · intro log
    have legible : ∀ notice ∈ told.map Prod.snd, notice.Legible :=
      during ▸ loud.legible_effects keypad calls
    have history : log.filterMap logger.fetch? = loud.fetches keypad calls := by
      rw [Log.filterMap_fetch?_lines enabled legible, during]
      exact loud.effects_fetches keypad verbose calls
    refine ⟨history, ?_, _, ?_, (Log.filter_lines legible).symm⟩
    · rw [← List.length_filterMap_eq_countP, history, ← loud.length_fetches keypad calls, count,
        Nat.zero_add]
    · rw [turnedOff, Attached.effects_withDebug, notices_withoutTraces, ← during,
        List.filter_map]
      rfl

def storeThenWait : List UInt8 := [0x6A, 0x05, 0xF0, 0x0A]

/-- The wait is traced as often as it is refused. -/
theorem storeThenWait_is_traced :
    let logger : Log.Logger :=
      { name := "chip8vm", threshold := .debug, colored := true, stamped := true, start := 0.0 }
    let loud : Attached Unit := ⟨(booted storeThenWait).withDebug true, ()⟩
    let told := (notices (loud.effects Keypad.unattached
      [.cycle 20000000 false, .step false, .step true])).map fun notice => (1.5, notice)
    (logger.lines told).filterMap logger.fetch? =
      [⟨0x200, 0x6A05⟩, ⟨0x202, 0xF00A⟩, ⟨0x202, 0xF00A⟩] := by
  intro logger loud told
  have started : (start { program := storeThenWait, debug := true }).2 =
      .ok ((booted storeThenWait).withDebug true) := by
    rw [start_withDebug true { program := storeThenWait }, start_booted (by decide)]
    rfl
  obtain ⟨_, _, traced⟩ := trace_is_complete_and_unnoticed Keypad.unattached () started rfl
    (show logger.threshold = .debug from rfl) [.cycle 20000000 false, .step false, .step true]
  refine (traced told ?_).1.trans ?_
  · rw [List.map_map]
    exact List.map_id _
  · decide +kernel

end Interpreter

end Chip8
