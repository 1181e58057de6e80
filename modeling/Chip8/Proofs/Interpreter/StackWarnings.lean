import Chip8.Proofs.Instruction.Form
import Chip8.Proofs.Interpreter.Subroutine

namespace Chip8.Interpreter

open Instruction
  (family address ofWord_of_call hasForm_ofWord raw_eq_iff toNat_family fields_ofWord)

/-! The log accounts for the call stack. A call that the full stack does not record and a
return that the empty stack invents are each told once, in the step that executes them, and
nothing else is told in these words; so the depth of the stack is the number of calls less
the number of returns, those that were warned of left out on either side. -/

/-- The messages of the lines that a logger writes of what was done. The time at which they
are written makes no difference. -/
def messages (logger : Log.Logger) (effects : List Effect) : List String :=
  effects.filterMap fun
    | .notice notice => (logger.notice? logger.start notice).map fun _ => notice.text
    | .heldQuery | .keyWait => none

/-- The message starts with these words. -/
def beginsWith (start message : String) : Bool := start.toList.isPrefixOf message.toList

abbrev overflowWords : String := "Stack overflow"

abbrev underflowWords : String := "Stack underflow"

/-- How often something is told in a message that starts with these words. -/
def timesTold (logger : Log.Logger) (start : String) (effects : List Effect) : Nat :=
  (messages logger effects).countP (beginsWith start)

/-- The words `2NNN`. -/
def IsCall (word : UInt16) : Prop := family word = 0x2

/-- The word `00EE`. -/
def IsReturn (word : UInt16) : Prop := word = 0x00EE

instance (word : UInt16) : Decidable (IsCall word) :=
  inferInstanceAs (Decidable (family word = 0x2))

instance (word : UInt16) : Decidable (IsReturn word) :=
  inferInstanceAs (Decidable (word = 0x00EE))

section Messages

variable {logger : Log.Logger} {start head rest : String} {effects first second : List Effect}

theorem message_eq (logger : Log.Logger) (now : Float) (notice : Log.Notice) :
    ((logger.notice? now notice).map fun _ => notice.text) =
      if logger.enabled notice.level.name then some notice.text else none := by
  rw [Log.Logger.notice?, Log.Logger.line?]
  cases logger.enabled notice.level.name <;> rfl

theorem beginsWith_iff {message : String} :
    beginsWith start message = true ↔ start.toList <+: message.toList :=
  List.isPrefixOf_iff_prefix

theorem beginsWith_append (begins : beginsWith start head = true) :
    beginsWith start (head ++ rest) = true := by
  rw [beginsWith_iff] at begins ⊢
  rw [String.toList_append]
  exact begins.trans (List.prefix_append _ _)

/-- The two differ at a place where both have a letter. -/
def Differ (start message : String) : Prop :=
  beginsWith start message = false ∧ beginsWith message start = false

instance (start message : String) : Decidable (Differ start message) :=
  inferInstanceAs (Decidable (_ ∧ _))

/-- Words that differ do so whatever follows. -/
theorem Differ.append (differ : Differ start head) : Differ start (head ++ rest) := by
  rw [Differ, Bool.eq_false_iff, Bool.eq_false_iff]
  constructor
  · intro begins
    rw [beginsWith_iff, String.toList_append] at begins
    rcases List.prefix_or_prefix_of_prefix begins (List.prefix_append _ _) with within | within
    · exact Bool.false_ne_true (differ.1.symm.trans (beginsWith_iff.mpr within))
    · exact Bool.false_ne_true (differ.2.symm.trans (beginsWith_iff.mpr within))
  · intro within
    rw [beginsWith_iff, String.toList_append] at within
    exact Bool.false_ne_true
      (differ.2.symm.trans (beginsWith_iff.mpr ((List.prefix_append _ _).trans within)))

theorem words_callDropped (pc : UInt16) (target : Nat) :
    beginsWith overflowWords (Log.Notice.callDropped pc target).text = true ∧
      beginsWith underflowWords (Log.Notice.callDropped pc target).text = false := by
  have overflow : beginsWith overflowWords "Stack overflow at 0x" = true := by decide +kernel
  have underflow : Differ underflowWords "Stack overflow at 0x" := by decide +kernel
  exact ⟨beginsWith_append (beginsWith_append (beginsWith_append (beginsWith_append overflow))),
    underflow.append.append.append.append.1⟩

theorem words_returnInvented (pc : UInt16) :
    beginsWith overflowWords (Log.Notice.returnInvented pc).text = false ∧
      beginsWith underflowWords (Log.Notice.returnInvented pc).text = true := by
  have overflow : Differ overflowWords "Stack underflow at 0x" := by decide +kernel
  have underflow : beginsWith underflowWords "Stack underflow at 0x" = true := by decide +kernel
  exact ⟨overflow.append.append.1, beginsWith_append (beginsWith_append underflow)⟩

/-- The effects of construction and of turns that do not concern the stack. -/
inductive Plain : Effect → Prop
  | fontLoaded : Plain (.notice .fontLoaded)
  | programLoaded (size : Nat) (rate : Int) : Plain (.notice (.programLoaded size rate))
  | fetched (pc word : UInt16) : Plain (.notice (.fetched pc word))
  | heldQuery : Plain .heldQuery
  | keyWait : Plain .keyWait

theorem Plain.differ {notice : Log.Notice} (plain : Plain (.notice notice)) :
    Differ overflowWords notice.text ∧ Differ underflowWords notice.text := by
  cases plain with
  | fontLoaded => decide +kernel
  | programLoaded size rate =>
      have heads : Differ overflowWords "Loaded ROM (" ∧ Differ underflowWords "Loaded ROM (" := by
        decide +kernel
      exact ⟨heads.1.append.append.append.append, heads.2.append.append.append.append⟩
  | fetched pc word =>
      have heads : Differ overflowWords "0x" ∧ Differ underflowWords "0x" := by decide +kernel
      exact ⟨heads.1.append.append.append.append.append,
        heads.2.append.append.append.append.append⟩

theorem timesTold_append (first second : List Effect) :
    timesTold logger start (first ++ second) =
      timesTold logger start first + timesTold logger start second := by
  rw [timesTold, messages, List.filterMap_append, List.countP_append]
  rfl

theorem timesTold_warning (enabled : logger.enabled "WARNING" = true) {notice : Log.Notice}
    (level : notice.level = .warning) :
    timesTold logger start [.notice notice] = if beginsWith start notice.text then 1 else 0 := by
  have passes : logger.enabled notice.level.name = true := level ▸ enabled
  simp only [timesTold, messages, List.filterMap_cons, List.filterMap_nil, message_eq, passes,
    if_true, List.countP_singleton]

theorem told_of_plain (logger : Log.Logger) (plain : ∀ effect ∈ effects, Plain effect) :
    timesTold logger overflowWords effects = 0 ∧ timesTold logger underflowWords effects = 0 := by
  have silent : ∀ message ∈ messages logger effects,
      beginsWith overflowWords message = false ∧ beginsWith underflowWords message = false := by
    intro message member
    obtain ⟨effect, among, told⟩ := List.mem_filterMap.mp member
    cases effect with
    | heldQuery | keyWait => contradiction
    | notice notice =>
        obtain ⟨_, _, rfl⟩ := Option.map_eq_some_iff.mp told
        have differ := (plain _ among).differ
        exact ⟨differ.1.1, differ.2.1⟩
  exact ⟨List.countP_eq_zero.mpr fun message member =>
      Bool.eq_false_iff.mp (silent message member).1,
    List.countP_eq_zero.mpr fun message member =>
      Bool.eq_false_iff.mp (silent message member).2⟩

end Messages

/-- A word is a call, or a return, or its instruction is neither of them. -/
theorem stackUse_cases (word : UInt16) :
    (IsCall word ∧ ¬ IsReturn word ∧ ∃ target, Instruction.ofWord word = .call target) ∨
      (¬ IsCall word ∧ IsReturn word ∧ Instruction.ofWord word = .ret) ∨
      ¬ IsCall word ∧ ¬ IsReturn word ∧
        (∀ target, Instruction.ofWord word ≠ .call target) ∧
        Instruction.ofWord word ≠ .ret := by
  by_cases returns : IsReturn word
  · rw [IsReturn] at returns
    rw [returns]
    exact .inr (.inl ⟨by decide, rfl, rfl⟩)
  · by_cases calls : IsCall word
    · exact .inl ⟨calls, returns, _, ofWord_of_call calls⟩
    · have form := hasForm_ofWord word
      refine .inr (.inr ⟨calls, returns, fun target instruction => ?_, fun instruction => ?_⟩)
      · rw [instruction] at form
        exact calls form.1
      · rw [instruction] at form
        exact returns form

theorem warnings_eq (machine : Machine) :
    warnings machine =
      if IsCall machine.word ∧ CallStack.capacity ≤ machine.stack.depth then
        [.notice (.callDropped machine.pc (address machine.word))]
      else if IsReturn machine.word ∧ machine.stack.depth = 0 then
        [.notice (.returnInvented machine.pc)]
      else [] := by
  have returns : (Fields.ofInt machine.word.toNat).raw = 0x00EE ↔ IsReturn machine.word :=
    raw_eq_iff machine.word 0x00EE
  have calls : (Fields.ofInt machine.word.toNat).family.val = family machine.word :=
    toNat_family machine.word
  have target : (Fields.ofInt machine.word.toNat).nnn.val = address machine.word := by
    rw [fields_ofWord]
    rfl
  simp only [warnings, calls, returns, target]
  rfl

/-- What is told of the stack is what its depth before the instruction asks for. -/
theorem told_warnings {logger : Log.Logger} (enabled : logger.enabled "WARNING" = true)
    (machine : Machine) :
    timesTold logger overflowWords (warnings machine) =
        (if IsCall machine.word ∧ machine.stack.depth = CallStack.capacity then 1 else 0) ∧
      timesTold logger underflowWords (warnings machine) =
        (if IsReturn machine.word ∧ machine.stack.depth = 0 then 1 else 0) := by
  have full : CallStack.capacity ≤ machine.stack.depth ↔
      machine.stack.depth = CallStack.capacity :=
    ⟨fun above => Nat.le_antisymm machine.stack.depth_le above, Nat.le_of_eq ∘ Eq.symm⟩
  have apart : IsCall machine.word → ¬ IsReturn machine.word := by
    intro calls returns
    rw [IsReturn] at returns
    rw [IsCall, returns] at calls
    contradiction
  rw [warnings_eq]
  simp only [full]
  by_cases dropped : IsCall machine.word ∧ machine.stack.depth = CallStack.capacity
  · obtain ⟨overflow, underflow⟩ := words_callDropped machine.pc (address machine.word)
    rw [if_pos dropped, if_pos dropped, if_neg fun both => apart dropped.1 both.1,
      timesTold_warning enabled rfl, timesTold_warning enabled rfl, overflow, underflow]
    exact ⟨rfl, rfl⟩
  · rw [if_neg dropped, if_neg dropped]
    by_cases invented : IsReturn machine.word ∧ machine.stack.depth = 0
    · obtain ⟨overflow, underflow⟩ := words_returnInvented machine.pc
      rw [if_pos invented, if_pos invented, timesTold_warning enabled rfl,
        timesTold_warning enabled rfl, overflow, underflow]
      exact ⟨rfl, rfl⟩
    · rw [if_neg invented, if_neg invented]
      exact ⟨rfl, rfl⟩

theorem warnings_tick (machine : Machine) : warnings machine.tick = warnings machine := rfl

theorem sense_plain {σ : Type} (keypad : Keypad σ) (machine : Machine) (pad : σ)
    (cancelled : Bool) :
    ∀ effect ∈ (sense keypad machine pad cancelled).effects, Plain effect := by
  intro effect member
  rcases mem_sense_effects member with rfl | rfl
  · exact .heldQuery
  · exact .keyWait

theorem trace_plain (interpreter : Interpreter) :
    ∀ effect ∈ interpreter.trace, Plain effect := by
  intro effect member
  unfold trace at member
  split at member
  · cases List.mem_singleton.mp member
    exact .fetched _ _
  · contradiction

/-- A step warns of the stack last of all, and only if it completes. -/
theorem step_effects {σ : Type} (keypad : Keypad σ) (interpreter : Interpreter) (pad : σ)
    (cancelled : Bool) :
    ∃ before, (∀ effect ∈ before, Plain effect) ∧
      (interpreter.step keypad pad cancelled).effects = before ++
        if (interpreter.step keypad pad cancelled).fault = none then
          warnings interpreter.machine
        else [] := by
  have plain : ∀ effect ∈ interpreter.trace ++
      (sense keypad interpreter.machine pad cancelled).effects, Plain effect := by
    intro effect member
    rcases List.mem_append.mp member with traced | sensed
    · exact trace_plain interpreter effect traced
    · exact sense_plain keypad _ _ _ effect sensed
  by_cases overruns : Overruns interpreter.machine
  · rw [step_of_overruns overruns]
    exact ⟨[], nofun, rfl⟩
  · cases sensed : (sense keypad interpreter.machine pad cancelled).keys with
    | error fault =>
        rw [step_of_refused overruns sensed]
        exact ⟨_, plain, (List.append_nil _).symm⟩
    | ok keys =>
        rw [step_of_sensed overruns sensed]
        exact ⟨_, plain, rfl⟩

namespace Attached

variable {σ : Type} (keypad : Keypad σ) (state : Attached σ)

theorem effects_of_attempts {call : Call} (attempts : call.Attempts state.interpreter) :
    (state.perform keypad call).effects = (state.attempt keypad call).effects := by
  obtain ⟨_, _, turn⟩ := state.perform_eq_attempt keypad attempts
  rw [turn]

theorem effects_of_not_attempts {call : Call} (idle : ¬ call.Attempts state.interpreter) :
    (state.perform keypad call).effects = [] := by
  obtain ⟨_, _, turn⟩ := state.perform_eq_idle keypad idle
  rw [turn]

/-- A call warns of the stack last of all, and only if it completes an instruction. -/
theorem perform_effects (call : Call) :
    ∃ before, (∀ effect ∈ before, Plain effect) ∧
      (state.perform keypad call).effects = before ++
        if state.completed? keypad call = none then [] else warnings state.machine := by
  by_cases attempts : call.Attempts state.interpreter
  · obtain ⟨before, plain, effects⟩ :=
      step_effects keypad (call.gated state.interpreter) state.pad call.cancelled
    refine ⟨before, plain, ?_⟩
    rw [effects_of_attempts keypad state attempts, attempt, effects,
      call.gated_view warnings warnings_tick]
    have fault := (state.perform_of_attempts keypad attempts).1
    rw [attempt] at fault
    congr 1
    by_cases completes : (state.perform keypad call).fault = none
    · rw [if_pos (fault.symm.trans completes),
        if_neg ((state.completed?_ne_none_iff keypad call).mpr ⟨attempts, completes⟩)]
    · have none : state.completed? keypad call = none := if_neg fun both => completes both.2
      rw [if_neg (fault ▸ completes), if_pos none]
  · have none : state.completed? keypad call = none := if_neg fun both => attempts both.1
    refine ⟨[], nofun, ?_⟩
    rw [effects_of_not_attempts keypad state attempts, if_pos none]
    rfl

/-- The call executes a word of this kind on a stack of this depth. -/
def ExecutesAt (kind : UInt16 → Prop) (depth : Nat) (call : Call) : Prop :=
  (∃ word ∈ state.executed? keypad call, kind word) ∧ state.machine.stack.depth = depth

instance (kind : UInt16 → Prop) [DecidablePred kind] (depth : Nat) (call : Call) :
    Decidable (state.ExecutesAt keypad kind depth call) :=
  inferInstanceAs (Decidable (_ ∧ _))

abbrev DropsCall (call : Call) : Prop := state.ExecutesAt keypad IsCall CallStack.capacity call

abbrev InventsReturn (call : Call) : Prop := state.ExecutesAt keypad IsReturn 0 call

/-- The number of words of this kind that a call executes, which is one or none. -/
def executes (kind : UInt16 → Prop) [DecidablePred kind] (call : Call) : Nat :=
  (state.executed? keypad call).toList.countP (kind ·)

section Executed

variable {keypad state} {call : Call} {word : UInt16}

theorem executesAt_iff (executed : state.executed? keypad call = some word)
    (kind : UInt16 → Prop) (depth : Nat) :
    state.ExecutesAt keypad kind depth call ↔ kind word ∧ state.machine.stack.depth = depth := by
  simp only [ExecutesAt, executed, Option.mem_some_iff, exists_eq_left']

theorem executes_eq (executed : state.executed? keypad call = some word)
    (kind : UInt16 → Prop) [DecidablePred kind] :
    state.executes keypad kind call = if kind word then 1 else 0 := by
  simp only [executes, executed, Option.toList_some, List.countP_singleton, decide_eq_true_eq]

end Executed

theorem told_perform {logger : Log.Logger} (enabled : logger.enabled "WARNING" = true)
    (call : Call) :
    timesTold logger overflowWords (state.perform keypad call).effects =
        (if state.DropsCall keypad call then 1 else 0) ∧
      timesTold logger underflowWords (state.perform keypad call).effects =
        (if state.InventsReturn keypad call then 1 else 0) := by
  obtain ⟨before, plain, effects⟩ := state.perform_effects keypad call
  obtain ⟨noOverflow, noUnderflow⟩ := told_of_plain logger plain
  rw [effects, timesTold_append, timesTold_append, noOverflow, noUnderflow,
    Nat.zero_add, Nat.zero_add]
  rcases state.executed?_cases keypad call with ⟨idle, executed⟩ | ⟨completed, executed⟩
  · simp [ExecutesAt, idle, executed, timesTold, messages]
  · simp only [executesAt_iff executed, completed, reduceCtorEq,
      if_false]
    exact told_warnings enabled state.machine

theorem depth_next (call : Call) :
    ((state.next keypad call).machine.stack.depth : Int) =
      state.machine.stack.depth +
        (state.executes keypad IsCall call - if state.DropsCall keypad call then 1 else 0) -
        (state.executes keypad IsReturn call -
          if state.InventsReturn keypad call then 1 else 0) := by
  have stack := state.next_stack keypad call
  rcases state.executed?_cases keypad call with ⟨idle, executed⟩ | ⟨completed, executed⟩
  · rw [idle] at stack
    simp [stack, executes, ExecutesAt, executed]
  · rw [completed] at stack
    simp only [executes_eq executed, executesAt_iff executed]
    rcases stackUse_cases state.machine.word with
      ⟨calls, returns, target, instruction⟩ | ⟨calls, returns, instruction⟩ |
        ⟨calls, returns, noCall, noRet⟩
    · rw [instruction] at stack
      simp only [stack, CallStack.depth_push, calls, returns, true_and, false_and, if_true,
        if_false]
      split <;> omega
    · rw [instruction] at stack
      have depth : (state.next keypad call).machine.stack.depth =
          state.machine.stack.depth - 1 := by
        rw [stack]
        rfl
      simp only [depth, calls, returns, true_and, false_and, if_true, if_false]
      split <;> omega
    · have same : (state.next keypad call).machine.stack = state.machine.stack := by
        rw [stack]
        cases instruction : Instruction.ofWord state.machine.word with
        | call target => exact absurd instruction (noCall target)
        | ret => exact absurd instruction noRet
        | _ => rfl
      simp only [same, calls, returns, false_and, if_false]
      omega

/-- All that a run does outside the machine, in order. -/
def effects (state : Attached σ) : List Call → List Effect
  | [] => []
  | call :: calls =>
      (state.perform keypad call).effects ++ (state.next keypad call).effects calls

/-- The depth that a run begins with, and its calls and returns, account for the depth that
it ends with, but for what was told of. -/
theorem depth_after {logger : Log.Logger} (enabled : logger.enabled "WARNING" = true)
    (calls : List Call) :
    ((state.after keypad calls).machine.stack.depth : Int) =
      state.machine.stack.depth +
        ((state.executedWords keypad calls).countP (IsCall ·) -
          timesTold logger overflowWords (state.effects keypad calls)) -
        ((state.executedWords keypad calls).countP (IsReturn ·) -
          timesTold logger underflowWords (state.effects keypad calls)) := by
  induction calls generalizing state with
  | nil => simp [after, executedWords, effects, timesTold, messages]
  | cons call calls ih =>
      obtain ⟨overflows, underflows⟩ := state.told_perform keypad enabled call
      have depth := state.depth_next keypad call
      rw [executes, executes] at depth
      rw [after, executedWords, effects, ih, depth, List.countP_append, List.countP_append,
        timesTold_append, timesTold_append, overflows, underflows]
      simp only [Int.natCast_add]
      split <;> split <;> omega

end Attached

/-- The warnings of a call about the stack, and what they mean. -/
structure Accounted {σ : Type} (logger : Log.Logger) (keypad : Keypad σ) (state : Attached σ)
    (call : Call) : Prop where
  overflow : timesTold logger overflowWords (state.perform keypad call).effects =
    if state.DropsCall keypad call then 1 else 0
  underflow : timesTold logger underflowWords (state.perform keypad call).effects =
    if state.InventsReturn keypad call then 1 else 0
  dropped : state.DropsCall keypad call →
    (state.next keypad call).machine.stack = state.machine.stack ∧
      (state.next keypad call).machine.pc.toNat = address state.machine.word
  invented : state.InventsReturn keypad call →
    (state.next keypad call).machine.stack = state.machine.stack ∧
      (state.next keypad call).machine.pc = 0x000

theorem start_plain (setup : Setup) :
    ∀ effect ∈ (start setup).1.map Effect.notice, Plain effect := by
  intro effect member
  obtain ⟨notice, told, rfl⟩ := List.mem_map.mp member
  have possible : notice = .fontLoaded ∨ ∃ size rate, notice = .programLoaded size rate := by
    unfold start at told
    split at told
    · contradiction
    · split at told
      · contradiction
      · split at told
        · exact .inl (List.mem_singleton.mp told)
        · rcases List.mem_cons.mp told with font | program
          · exact .inl font
          · exact .inr ⟨_, _, List.mem_singleton.mp program⟩
  rcases possible with rfl | ⟨size, rate, rfl⟩
  · exact .fontLoaded
  · exact .programLoaded size rate

theorem Attached.accounted {σ : Type} {keypad : Keypad σ} {state : Attached σ}
    {logger : Log.Logger} (enabled : logger.enabled "WARNING" = true)
    (cleared : state.machine.stack.Cleared) (call : Call) :
    Accounted logger keypad state call where
  overflow := (state.told_perform keypad enabled call).1
  underflow := (state.told_perform keypad enabled call).2
  dropped := by
    rintro ⟨⟨word, executed, calls⟩, full⟩
    obtain ⟨completed, rfl⟩ := (state.executed?_eq_some_iff keypad call).mp executed
    have stack := state.next_stack keypad call
    rw [ofWord_of_call calls] at completed
    rw [completed] at stack
    refine ⟨stack.trans (CallStack.push_of_full full _), ?_⟩
    rw [state.next_pc_of_call keypad call completed]
    have small : state.machine.word.toNat % 4096 < 65536 := by omega
    exact Nat.mod_eq_of_lt small
  invented := by
    rintro ⟨⟨word, executed, returns⟩, empty⟩
    obtain ⟨completed, rfl⟩ := (state.executed?_eq_some_iff keypad call).mp executed
    have stack := state.next_stack keypad call
    have instruction : Instruction.ofWord state.machine.word = .ret := by
      rw [returns]
      rfl
    rw [instruction] at completed
    rw [completed] at stack
    have popped := cleared.pop_of_empty empty
    refine ⟨stack.trans (congrArg Prod.snd popped), ?_⟩
    rw [state.next_pc_of_ret keypad call completed, popped]

/-- From the construction of an interpreter on, the depth of its stack is the number of
calls less the number of returns, but for the calls and the returns that it warned of. It
warns of a call exactly if the stack is full, and goes there without recording it; it warns
of a return exactly if the stack is empty, and returns to the bottom of memory. -/
theorem warnings_account_for_depth {σ : Type} (keypad : Keypad σ) (pad : σ) {setup : Setup}
    {initial : Interpreter} {logger : Log.Logger} (started : (start setup).2 = .ok initial)
    (enabled : logger.enabled "WARNING" = true) (calls : List Call) :
    let fresh : Attached σ := ⟨initial, pad⟩
    let reached := fresh.after keypad calls
    let executed := fresh.executedWords keypad calls
    let told := (start setup).1.map .notice ++ fresh.effects keypad calls
    (reached.machine.stack.depth : Int) =
      (executed.countP (IsCall ·) - timesTold logger overflowWords told) -
        (executed.countP (IsReturn ·) - timesTold logger underflowWords told) ∧
    ∀ call, Accounted logger keypad reached call := by
  intro fresh reached executed told
  obtain ⟨rng, memory, atStart⟩ := start_machine started
  have stack : fresh.machine.stack = CallStack.empty := by
    rw [Attached.machine, atStart]
    rfl
  have cleared : reached.machine.stack.Cleared :=
    Attached.after_cleared (stack ▸ CallStack.cleared_empty) calls
  refine ⟨?_, Attached.accounted enabled cleared⟩
  obtain ⟨noOverflow, noUnderflow⟩ := told_of_plain logger (start_plain setup)
  rw [timesTold_append, timesTold_append, noOverflow, noUnderflow, Nat.zero_add,
    Nat.zero_add, fresh.depth_after keypad enabled calls, stack]
  exact congrArg (· - _) (Int.zero_add _)

/-- A subroutine that only calls itself. -/
def endlessCalls : List UInt8 := [0x22, 0x00]

/-- The seventeenth call is the first one that is not recorded. -/
theorem endlessCalls_overflow :
    let logger : Log.Logger :=
      { name := "chip8vm", threshold := .info, colored := false, stamped := false, start := 0.0 }
    let deep := Attached.after Keypad.unattached ⟨booted endlessCalls, ()⟩
      (List.replicate 16 (.step false))
    let effects := (deep.perform Keypad.unattached (.step false)).effects
    deep.machine.stack.depth = 16 ∧ timesTold logger overflowWords effects = 1 := by
  intro logger deep effects
  have started := start_booted (show endlessCalls.length ≤ Memory.programSpace by decide)
  have enabled : logger.enabled "WARNING" = true := by decide +kernel
  obtain ⟨_, accounted⟩ := warnings_account_for_depth Keypad.unattached () started enabled
    (List.replicate 16 (.step false))
  have drops : deep.DropsCall Keypad.unattached (.step false) := by decide +kernel
  have overflow := (accounted (.step false)).overflow
  rw [if_pos drops] at overflow
  exact ⟨drops.2, overflow⟩

end Chip8.Interpreter
