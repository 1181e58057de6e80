import Chip8.Proofs.Interpreter.KeyWait
import Chip8.Proofs.Interpreter.Snapshot
import Chip8.Proofs.Interpreter.StackWarnings

namespace Chip8

/-! Key presses on their way from the key pad to the registers. What a run asks of the key
pad is among its effects; served again in that order, the requests bring the key pad to where
the run leaves it and yield the answers that the run was given. Those that are keys are what
the run's key waits store. -/

variable {σ : Type} {answer : KeyAnswer} {key : Key}

/-- The key of an answer, if it is one of the pad and came while nothing was cancelled. -/
def KeyAnswer.press? : KeyAnswer → Option Key
  | ⟨some key, false⟩ =>
      if valid : 0 ≤ key ∧ key ≤ 15 then some ⟨key.toNat, by omega⟩ else none
  | _ => none

theorem KeyAnswer.press?_eq_some_iff :
    answer.press? = some key ↔ answer = ⟨some key.val, false⟩ := by
  constructor
  · intro pressed
    unfold press? at pressed
    split at pressed
    · split at pressed
      · rename_i given valid
        cases pressed
        rw [Int.toNat_of_nonneg valid.1]
      · contradiction
    · contradiction
  · rintro rfl
    have valid : 0 ≤ (key.val : Int) ∧ (key.val : Int) ≤ 15 := by omega
    simp only [press?, dif_pos valid, Int.toNat_natCast]

theorem KeyAnswer.exists_press {given : Int} (found : answer.key = some given)
    (isKey : Interpreter.IsKey given) (lasts : answer.cancelled = false) :
    ∃ key, answer.press? = some key := by
  obtain ⟨pressed, ended⟩ := answer
  cases found
  cases lasts
  exact ⟨_, dif_pos isKey⟩

namespace Interpreter

def Effect.asks : Effect → Bool
  | .notice _ => false
  | .heldQuery | .keyWait => true

def Demand.requests (demand : Demand) (cancelled : Bool) : List Effect :=
  match demand with
  | .nothing => []
  | .heldKeys => [.heldQuery]
  | .keyPress => if cancelled then [] else [.keyWait]

end Interpreter

namespace Keypad

open Interpreter (Effect)

/-- The answers to the waits among the effects, one after the other, and the state that the
key pad is left in. -/
def serve (keypad : Keypad σ) (pad : σ) : List Effect → List KeyAnswer × σ
  | [] => ([], pad)
  | .notice _ :: effects => keypad.serve pad effects
  | .heldQuery :: effects => keypad.serve (keypad.held pad).2 effects
  | .keyWait :: effects =>
      let (answers, rest) := keypad.serve (keypad.await pad).2 effects
      ((keypad.await pad).1 :: answers, rest)

variable (keypad : Keypad σ)

theorem serve_append (pad : σ) (first second : List Effect) :
    keypad.serve pad (first ++ second) =
      ((keypad.serve pad first).1 ++ (keypad.serve (keypad.serve pad first).2 second).1,
        (keypad.serve (keypad.serve pad first).2 second).2) := by
  induction first generalizing pad with
  | nil => rfl
  | cons effect effects ih =>
      cases effect with
      | notice notice => exact ih pad
      | heldQuery => exact ih (keypad.held pad).2
      | keyWait => simp only [List.cons_append, serve, ih]

theorem serve_requests (pad : σ) (effects : List Effect) :
    keypad.serve pad (effects.filter Effect.asks) = keypad.serve pad effects := by
  induction effects generalizing pad with
  | nil => rfl
  | cons effect effects ih =>
      cases effect with
      | notice notice => exact ih pad
      | heldQuery => exact ih (keypad.held pad).2
      | keyWait => rw [List.filter_cons_of_pos rfl, serve, serve, ih]

end Keypad

namespace Interpreter

variable {keypad : Keypad σ} {interpreter : Interpreter}

theorem sense_requests (keypad : Keypad σ) (machine : Machine) (pad : σ) (cancelled : Bool) :
    (sense keypad machine pad cancelled).effects =
        (Demand.ofWord machine.word).requests cancelled ∧
      (sense keypad machine pad cancelled).pad =
        (keypad.serve pad ((Demand.ofWord machine.word).requests cancelled)).2 := by
  cases demand : Demand.ofWord machine.word with
  | nothing | heldKeys =>
      simp only [sense, demand]
      exact ⟨rfl, rfl⟩
  | keyPress =>
      simp only [sense, demand]
      cases cancelled <;> exact ⟨rfl, rfl⟩

theorem requests_trace (interpreter : Interpreter) :
    interpreter.trace.filter Effect.asks = [] := by
  unfold trace
  split <;> rfl

theorem requests_warnings (machine : Machine) : (warnings machine).filter Effect.asks = [] := by
  rw [List.filter_eq_nil_iff]
  intro effect member
  rcases mem_warnings member with ⟨pc, target, rfl⟩ | ⟨pc, rfl⟩ <;> exact Bool.false_ne_true

theorem requests_requests (demand : Demand) (cancelled : Bool) :
    (demand.requests cancelled).filter Effect.asks = demand.requests cancelled := by
  cases demand <;> cases cancelled <;> rfl

/-- What a step asks of the key pad depends on the word that it fetches and on the token. -/
theorem step_requests (keypad : Keypad σ) (pad : σ) (cancelled : Bool)
    (inside : ¬ Overruns interpreter.machine) :
    (interpreter.step keypad pad cancelled).effects.filter Effect.asks =
        (Demand.ofWord interpreter.machine.word).requests cancelled ∧
      (interpreter.step keypad pad cancelled).pad =
        (keypad.serve pad ((Demand.ofWord interpreter.machine.word).requests cancelled)).2 := by
  obtain ⟨effects, rest⟩ := sense_requests keypad interpreter.machine pad cancelled
  cases sensed : (sense keypad interpreter.machine pad cancelled).keys with
  | error fault =>
      rw [step_of_refused inside sensed, List.filter_append, requests_trace, effects,
        requests_requests]
      exact ⟨rfl, rest⟩
  | ok keys =>
      rw [step_of_sensed inside sensed, List.filter_append, List.filter_append, requests_trace,
        requests_warnings, effects, requests_requests]
      exact ⟨List.append_nil _, rest⟩

namespace Attached

variable (keypad) (state : Attached σ) (call : Call)

/-- The call fetches the word under the program counter. -/
def Fetches : Prop := call.Attempts state.interpreter ∧ ¬ Overruns state.machine

/-- The call fetches a key wait, with a token that is not cancelled. -/
def Waits : Prop := state.Fetches call ∧ AwaitsKey state.machine ∧ call.cancelled = false

def requests : List Effect := (state.perform keypad call).effects.filter Effect.asks

/-- The byte that a call stores, if it completes a key wait. -/
def stored? : Option UInt8 :=
  match state.completed? keypad call with
  | some (.awaitKey x) => some ((state.next keypad call).machine.registers.get x)
  | _ => none

/-- The bytes that the key waits of a run store. -/
def stored (state : Attached σ) : List Call → List UInt8
  | [] => []
  | call :: calls =>
      (state.stored? keypad call).toList ++ (state.next keypad call).stored calls

variable {keypad state call} {x : Register}

theorem fetches_of_completed (completed : state.completed? keypad call ≠ none) :
    state.Fetches call := by
  refine ⟨((state.completed?_ne_none_iff keypad call).mp completed).1, ?_⟩
  rcases state.next_machine keypad call with ⟨idle, _⟩ | ⟨inside, _⟩
  · exact absurd idle completed
  · exact inside

theorem requests_of_fetches (fetches : state.Fetches call) :
    state.requests keypad call = (Demand.ofWord state.machine.word).requests call.cancelled ∧
      (state.next keypad call).pad =
        (keypad.serve state.pad (state.requests keypad call)).2 := by
  obtain ⟨attempts, inside⟩ := fetches
  obtain ⟨_, _, turn⟩ := state.perform_eq_attempt keypad attempts
  rw [← call.overruns_gated] at inside
  obtain ⟨effects, rest⟩ := step_requests keypad state.pad call.cancelled inside
  rw [Call.gated_word] at effects rest
  rw [← effects] at rest
  rw [requests, next, turn]
  exact ⟨effects, rest⟩

theorem silent_of_not_fetches (keypad : Keypad σ) (idle : ¬ state.Fetches call) :
    state.requests keypad call = [] ∧ (state.next keypad call).pad = state.pad := by
  rw [requests, next]
  by_cases attempts : call.Attempts state.interpreter
  · obtain ⟨_, _, turn⟩ := state.perform_eq_attempt keypad attempts
    have overruns : Overruns state.machine :=
      not_not.mp fun inside => idle ⟨attempts, inside⟩
    rw [turn, attempt, step_of_overruns ((call.overruns_gated _).mpr overruns)]
    exact ⟨rfl, rfl⟩
  · obtain ⟨_, _, turn⟩ := state.perform_eq_idle keypad attempts
    rw [turn]
    exact ⟨rfl, rfl⟩

theorem next_pad :
    (state.next keypad call).pad = (keypad.serve state.pad (state.perform keypad call).effects).2 := by
  rw [← keypad.serve_requests]
  by_cases fetches : state.Fetches call
  · exact (requests_of_fetches fetches).2
  · obtain ⟨silent, same⟩ := silent_of_not_fetches keypad fetches
    rw [requests] at silent
    rw [silent, same]
    rfl

theorem requests_of_waits (waits : state.Waits call) : state.requests keypad call = [.keyWait] := by
  obtain ⟨fetches, awaits, lasts⟩ := waits
  rw [(requests_of_fetches fetches).1, (Demand.ofWord_eq_keyPress_iff _).mpr awaits, lasts]
  rfl

theorem requests_of_not_waits (keypad : Keypad σ) (idle : ¬ state.Waits call) :
    state.requests keypad call = [] ∨
      (state.Fetches call ∧ state.machine.word.toNat / 0x1000 = 0xE) ∧
        state.requests keypad call = [.heldQuery] := by
  by_cases fetches : state.Fetches call
  · rw [(requests_of_fetches fetches).1]
    cases demand : Demand.ofWord state.machine.word with
    | nothing => exact .inl rfl
    | heldKeys => exact .inr ⟨⟨fetches, (Demand.ofWord_eq_heldKeys_iff _).mp demand⟩, rfl⟩
    | keyPress =>
        have awaits : AwaitsKey state.machine := (Demand.ofWord_eq_keyPress_iff _).mp demand
        have cancelled : call.cancelled = true := by
          rw [← Bool.not_eq_false]
          exact fun lasts => idle ⟨fetches, awaits, lasts⟩
        rw [cancelled]
        exact .inl rfl
  · exact .inl (silent_of_not_fetches keypad fetches).1

theorem awaitsKey_of_completed (completed : state.completed? keypad call = some (.awaitKey x)) :
    state.machine.word.toNat = keyWaitWord x := by
  have instruction : Instruction.ofWord state.machine.word = .awaitKey x := by
    unfold completed? at completed
    split at completed
    · exact Option.some_inj.mp completed
    · contradiction
  have form := Instruction.hasForm_ofWord state.machine.word
  rw [instruction] at form
  obtain ⟨⟨family, low⟩, rfl⟩ := form
  simp only [Instruction.family, Instruction.byte] at family low
  simp only [keyWaitWord, Instruction.xField]
  omega

/-- A key wait completes only if it waits, and only with a key. -/
theorem press_of_completed (awaits : AwaitsKey state.machine)
    (completed : state.completed? keypad call ≠ none) :
    state.Waits call ∧ ∃ key, (keypad.await state.pad).1.press? = some key := by
  obtain ⟨attempts, ended⟩ := (state.completed?_ne_none_iff keypad call).mp completed
  have verdict := step_verdict keypad (call.gated state.interpreter) state.pad call.cancelled
  rw [(state.perform_of_attempts keypad attempts).1, attempt] at ended
  rw [ended] at verdict
  cases verdict with
  | completes inside sensed =>
      rw [AwaitsKey, Call.gated_word] at sensed
      obtain ⟨lasts, given, found, isKey⟩ := sensed awaits
      simp only [WaitEnds, not_or, Bool.not_eq_true] at lasts
      exact ⟨⟨fetches_of_completed completed, awaits, lasts.1⟩,
        KeyAnswer.exists_press found isKey lasts.2.2⟩

theorem stored?_of_press (waits : state.Waits call)
    (pressed : (keypad.await state.pad).1.press? = some key) :
    state.stored? keypad call = some (UInt8.ofNat key.val) := by
  obtain ⟨⟨attempts, inside⟩, ⟨x, awaits⟩, lasts⟩ := waits
  have awaits' : (call.gated state.interpreter).machine.word.toNat = keyWaitWord x := by
    rw [Call.gated_word, awaits]
  rw [← call.overruns_gated] at inside
  obtain ⟨ended, stores⟩ :=
    step_of_answer inside awaits' (KeyAnswer.press?_eq_some_iff.mp pressed)
  obtain ⟨fault, machine⟩ := state.perform_of_attempts keypad attempts
  rw [attempt, lasts] at fault machine
  have completed : state.completed? keypad call = some (.awaitKey x) := by
    rw [completed?, if_pos ⟨attempts, fault.trans ended⟩,
      Machine.instruction_of_keyWaitWord awaits]
  rw [stored?, completed]
  simp only [machine, stores, Machine.round_of_awaitKey awaits' (Keys.lowest?_only key),
    Registers.get_put, if_true]

theorem completed?_of_rejected (waits : state.Waits call)
    (rejected : (keypad.await state.pad).1.press? = none) :
    state.completed? keypad call = none := by
  by_contra completed
  obtain ⟨_, key, pressed⟩ := press_of_completed waits.2.1 completed
  exact Option.some_ne_none key (pressed.symm.trans rejected)

theorem stored?_of_rejected (waits : state.Waits call)
    (rejected : (keypad.await state.pad).1.press? = none) : state.stored? keypad call = none := by
  rw [stored?, completed?_of_rejected waits rejected]

theorem stored?_of_not_waits (idle : ¬ state.Waits call) : state.stored? keypad call = none := by
  unfold stored?
  split
  · rename_i x completed
    have awaits : AwaitsKey state.machine := ⟨x, awaitsKey_of_completed completed⟩
    exact absurd (press_of_completed awaits (completed ▸ Option.some_ne_none _)).1 idle
  · rfl

/-- A call stores the key that it is given, and nothing else. -/
theorem stored?_eq :
    (state.stored? keypad call).toList =
      ((keypad.serve state.pad (state.perform keypad call).effects).1.filterMap
        KeyAnswer.press?).map fun key => UInt8.ofNat key.val := by
  -- Of its effects the key pad notices the requests only, and there is at most one.
  rw [← keypad.serve_requests]
  change _ = ((keypad.serve state.pad (state.requests keypad call)).1.filterMap _).map _
  by_cases waits : state.Waits call
  · rw [requests_of_waits waits]
    cases pressed : (keypad.await state.pad).1.press? with
    | some key =>
        rw [stored?_of_press waits pressed]
        simp only [Keypad.serve, List.filterMap_cons_some pressed, List.filterMap_nil,
          List.map_singleton, Option.toList_some]
    | none =>
        rw [stored?_of_rejected waits pressed]
        simp only [Keypad.serve, List.filterMap_cons_none pressed, List.filterMap_nil,
          List.map_nil, Option.toList_none]
  · rw [stored?_of_not_waits waits]
    rcases requests_of_not_waits keypad waits with silent | ⟨_, held⟩
    · rw [silent]
      rfl
    · rw [held]
      rfl

/-- All that a run asks of the key pad is in its effects, and its key waits store the keys
among the answers, in order. -/
theorem serve_after (keypad : Keypad σ) (state : Attached σ) (calls : List Call) :
    (state.after keypad calls).pad = (keypad.serve state.pad (state.effects keypad calls)).2 ∧
      state.stored keypad calls =
        ((keypad.serve state.pad (state.effects keypad calls)).1.filterMap
          KeyAnswer.press?).map fun key => UInt8.ofNat key.val := by
  induction calls generalizing state with
  | nil => exact ⟨rfl, rfl⟩
  | cons call calls ih =>
      obtain ⟨pad, stores⟩ := ih (state.next keypad call)
      rw [next_pad] at pad stores
      rw [effects, Keypad.serve_append, List.filterMap_append, List.map_append, stored,
        stored?_eq, stores]
      exact ⟨pad, rfl⟩

/-- A call that completes nothing leaves the machine as it is, but for its timers. -/
theorem next_of_quiet (idle : state.completed? keypad call = none) :
    ∃ delay sound, (state.next keypad call).machine =
      { state.machine with delay := delay, sound := sound } := by
  rcases state.next_machine keypad call with ⟨_, gated⟩ | ⟨_, completed, _⟩
  · rw [gated]
    rcases call.gated_machine state.interpreter with same | ticked
    · exact ⟨_, _, same⟩
    · exact ⟨_, _, ticked⟩
  · rw [idle] at completed
    contradiction

theorem after_of_quiet (calls : List Call) (quiet : state.executedWords keypad calls = []) :
    ∃ delay sound, (state.after keypad calls).machine =
      { state.machine with delay := delay, sound := sound } := by
  induction calls generalizing state with
  | nil => exact ⟨_, _, rfl⟩
  | cons call calls ih =>
      obtain ⟨first, rest⟩ := List.append_eq_nil_iff.mp quiet
      have idle : state.completed? keypad call = none := by
        rcases state.executed?_cases keypad call with ⟨idle, _⟩ | ⟨_, executed⟩
        · exact idle
        · rw [executed] at first
          contradiction
      obtain ⟨_, _, once⟩ := next_of_quiet idle
      obtain ⟨delay, sound, frozen⟩ := ih rest
      rw [once] at frozen
      exact ⟨delay, sound, frozen⟩

end Attached

/-- What a call has to do with the key pad. -/
structure Asks (keypad : Keypad σ) (state : Attached σ) (call : Call) : Prop where
  waits : state.Waits call → (state.perform keypad call).effects.count .keyWait = 1
  silent : ¬ state.Waits call → .keyWait ∉ (state.perform keypad call).effects
  held : .heldQuery ∈ (state.perform keypad call).effects →
    state.Fetches call ∧ state.machine.word.toNat / 0x1000 = 0xE
  /-- Until an instruction is completed again, the machine stays at the wait; and the
  instruction that is completed then is the wait, asked for again. -/
  retried : state.Waits call → (keypad.await state.pad).1.press? = none →
    state.stored? keypad call = none ∧
    ∀ retries, (state.next keypad call).executedWords keypad retries = [] →
      let again := (state.next keypad call).after keypad retries
      (∃ delay sound, again.machine = { state.machine with delay := delay, sound := sound }) ∧
      ∀ retry, again.completed? keypad retry ≠ none →
        again.Waits retry ∧ ∃ key, (keypad.await again.pad).1.press? = some key ∧
          again.stored? keypad retry = some (UInt8.ofNat key.val)

namespace Attached

variable {keypad : Keypad σ} {state : Attached σ} {call : Call}

theorem mem_requests_iff {effect : Effect} (asks : effect.asks = true) :
    effect ∈ state.requests keypad call ↔ effect ∈ (state.perform keypad call).effects := by
  rw [requests, List.mem_filter, and_iff_left asks]

theorem asks (keypad : Keypad σ) (state : Attached σ) (call : Call) : Asks keypad state call where
  waits waiting := by
    rw [← List.count_filter (p := Effect.asks) rfl]
    exact congrArg (List.count Effect.keyWait) (requests_of_waits waiting)
  silent idle := by
    rw [← mem_requests_iff rfl]
    rcases requests_of_not_waits keypad idle with none | ⟨_, held⟩
    · rw [none]
      exact List.not_mem_nil
    · rw [held]
      decide
  held queried := by
    rw [← mem_requests_iff rfl] at queried
    by_cases waiting : state.Waits call
    · rw [requests_of_waits waiting] at queried
      contradiction
    · rcases requests_of_not_waits keypad waiting with none | ⟨skip, _⟩
      · rw [none] at queried
        contradiction
      · exact skip
  retried waiting rejected := by
    refine ⟨stored?_of_rejected waiting rejected, fun retries quiet => ?_⟩
    obtain ⟨_, _, once⟩ := next_of_quiet (completed?_of_rejected waiting rejected)
    obtain ⟨delay, sound, frozen⟩ := after_of_quiet retries quiet
    rw [once] at frozen
    refine ⟨⟨delay, sound, frozen⟩, fun retry completed => ?_⟩
    -- The word under the program counter is the same, so what completes there is the wait.
    have awaits : AwaitsKey ((state.next keypad call).after keypad retries).machine := by
      rw [frozen]
      exact waiting.2.1
    obtain ⟨again, key, pressed⟩ := press_of_completed awaits completed
    exact ⟨again, key, pressed, stored?_of_press again pressed⟩

end Attached

/-- No key press is lost, doubled or put out of order. Whatever key pad is attached and
whatever calls are made, the key pad is asked for what the effects tell and for nothing else;
it waits for a key exactly once in each call that fetches a key wait with a token that is not
cancelled, and in no other; and what key waits store is, in order, the keys among its answers.
A wait that is given none stays where it is and waits again. -/
theorem key_presses_are_kept (keypad : Keypad σ) (state : Attached σ) (calls : List Call) :
    let served := keypad.serve state.pad (state.effects keypad calls)
    (state.after keypad calls).pad = served.2 ∧
      state.stored keypad calls =
        (served.1.filterMap KeyAnswer.press?).map (fun key => UInt8.ofNat key.val) ∧
      ∀ call, Asks keypad (state.after keypad calls) call := by
  obtain ⟨pad, stores⟩ := Attached.serve_after keypad state calls
  exact ⟨pad, stores, Attached.asks keypad _⟩

/-- A key that is none, and one that comes with a cancellation, are not taken. -/
example :
    let scripted : Keypad (List KeyAnswer) :=
      { held := fun answers => (Keys.empty, answers)
        await := fun answers => (answers.headD ⟨none, true⟩, answers.tail) }
    Attached.stored scripted
      ⟨booted [0xF3, 0x0A], [⟨some 16, false⟩, ⟨some 5, true⟩, ⟨some 7, false⟩]⟩
      (List.replicate 4 (.step false)) = [7] := by
  decide +kernel

end Interpreter

end Chip8
