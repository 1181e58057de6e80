import Chip8.Keypad.Keyboard
import Chip8.Proofs.Interpreter.Counter

namespace Chip8

/-! The keys that a machine remembers are never looked at before they are asked for
again. Two interpreters that differ in nothing else behave in the same way, and the first
instruction that asks the key pad makes them equal. -/

/-- Two key pads that cannot be told apart by what they answer, from related states on. -/
structure Keypad.Alike {σ τ : Type} (first : Keypad σ) (second : Keypad τ)
    (related : σ → τ → Prop) : Prop where
  held : ∀ {left right}, related left right →
    (first.held left).1 = (second.held right).1 ∧
      related (first.held left).2 (second.held right).2
  await : ∀ {left right}, related left right →
    (first.await left).1 = (second.await right).1 ∧
      related (first.await left).2 (second.await right).2

theorem Keypad.Alike.refl {σ : Type} (keypad : Keypad σ) : keypad.Alike keypad Eq where
  held same := by rw [same]; exact ⟨rfl, rfl⟩
  await same := by rw [same]; exact ⟨rfl, rfl⟩

namespace Interpreter

variable {σ τ : Type} {keypad : Keypad σ} {other : Keypad τ} {related : σ → τ → Prop}
  {interpreter : Interpreter} {machine : Machine} {keys : Keys} {word : UInt16}
  {pad : σ} {pad' : τ} {cancelled : Bool} {now : Int}

def withKeys (interpreter : Interpreter) (keys : Keys) : Interpreter :=
  { interpreter with machine := { interpreter.machine with keys := keys } }

/-- The words that ask the key pad: `EXNN`, whether or not it has a meaning, and `FX0A`. -/
def AsksKeypad (word : UInt16) : Prop :=
  word.toNat / 0x1000 = 0xE ∨ ∃ x, word.toNat = keyWaitWord x

theorem Demand.ofWord_eq_heldKeys_iff (word : UInt16) :
    Demand.ofWord word = .heldKeys ↔ word.toNat / 0x1000 = 0xE := by
  simp only [Demand.ofWord, Instruction.toNat_family]
  constructor
  · intro demand
    split at demand
    · assumption
    · split at demand <;> contradiction
  · intro family
    rw [if_pos family]

theorem asksKeypad_iff : AsksKeypad word ↔ Demand.ofWord word ≠ .nothing := by
  rw [AsksKeypad, ← Demand.ofWord_eq_heldKeys_iff, ← Demand.ofWord_eq_keyPress_iff]
  cases Demand.ofWord word <;> decide

theorem readsKeys_of_not_asksKeypad (silent : ¬ AsksKeypad word) :
    (Instruction.ofWord word).readsKeys = false := by
  rw [Bool.eq_false_iff]
  intro reads
  apply silent
  change (Instruction.ofFields (Fields.ofInt word.toNat)).readsKeys = true at reads
  rcases Instruction.family_of_readsKeys reads with family | ⟨family, low⟩
  · rw [Instruction.toNat_family] at family
    exact .inl family
  · refine .inr ((Demand.ofWord_eq_keyPress_iff word).mp ?_)
    rw [Demand.ofWord, if_neg (by rw [family]; decide), if_pos ⟨family, low⟩]

/-- What two key pads that are alike let two machines sense that differ in their keys. -/
theorem sense_alike (alike : keypad.Alike other related) (pads : related pad pad')
    (machine : Machine) (keys : Keys) (cancelled : Bool) :
    let first := sense keypad machine pad cancelled
    let second := sense other { machine with keys := keys } pad' cancelled
    second.cancelled = first.cancelled ∧ second.effects = first.effects ∧
      related first.pad second.pad ∧
      (AsksKeypad machine.word → second.keys = first.keys) ∧
      (¬ AsksKeypad machine.word → first.keys = .ok machine.keys ∧ second.keys = .ok keys) := by
  have word : { machine with keys := keys }.word = machine.word := rfl
  rw [asksKeypad_iff]
  simp only [sense, word]
  cases demand : Demand.ofWord machine.word with
  | nothing => exact ⟨rfl, rfl, pads, fun asks => absurd rfl asks, fun _ => ⟨rfl, rfl⟩⟩
  | heldKeys =>
      obtain ⟨held, rest⟩ := alike.held pads
      have asks : Demand.heldKeys ≠ Demand.nothing := by decide
      exact ⟨rfl, rfl, rest, fun _ => congrArg Except.ok held.symm, fun silent => absurd asks silent⟩
  | keyPress =>
      obtain ⟨answer, rest⟩ := alike.await pads
      have asks : Demand.keyPress ≠ Demand.nothing := by decide
      cases cancelled with
      | true => exact ⟨rfl, rfl, pads, fun _ => rfl, fun silent => absurd asks silent⟩
      | false =>
          simp only [Bool.false_eq_true, if_false, answer]
          exact ⟨trivial, trivial, rest, fun _ => trivial, fun silent => absurd asks silent⟩

theorem complete_withKeys (silent : ¬ AsksKeypad interpreter.machine.word) (keys : Keys) :
    (interpreter.withKeys keys).complete keys =
      (interpreter.complete interpreter.machine.keys).withKeys keys := by
  have word : { interpreter.machine with keys := keys }.word = interpreter.machine.word := rfl
  have same := interpreter.machine.advance.perform_of_readsKeys_eq_false
    (readsKeys_of_not_asksKeypad silent) keys
  simp only [complete, withKeys, word, Machine.execute_eq, Interpreter.mk.injEq, and_true]
  exact same

/-- Two turns that differ in nothing but the keys that the machines remember. -/
structure Turn.Alike (related : σ → τ → Prop) (first : Turn σ) (second : Turn τ) : Prop where
  fault : second.fault = first.fault
  effects : second.effects = first.effects
  cancelled : second.cancelled = first.cancelled
  pad : related first.pad second.pad
  interpreter : ∃ keys, second.interpreter = first.interpreter.withKeys keys

theorem step_alike (alike : keypad.Alike other related) (pads : related pad pad')
    (interpreter : Interpreter) (keys : Keys) (cancelled : Bool) :
    Turn.Alike related (interpreter.step keypad pad cancelled)
        ((interpreter.withKeys keys).step other pad' cancelled) ∧
      (interpreter.machine.keys = keys ∨
        (interpreter.step keypad pad cancelled).fault = none ∧
          AsksKeypad interpreter.machine.word →
        ((interpreter.withKeys keys).step other pad' cancelled).interpreter =
          (interpreter.step keypad pad cancelled).interpreter) := by
  by_cases overruns : Overruns interpreter.machine
  · have overruns' : Overruns (interpreter.withKeys keys).machine := overruns
    rw [step_of_overruns overruns, step_of_overruns overruns']
    refine ⟨⟨rfl, rfl, rfl, pads, keys, rfl⟩, ?_⟩
    rintro (rfl | ⟨completed, _⟩)
    · rfl
    · contradiction
  · have inside' : ¬ Overruns (interpreter.withKeys keys).machine := overruns
    obtain ⟨token, effects, rest, asked, silent⟩ :=
      sense_alike alike pads interpreter.machine keys cancelled
    by_cases asks : AsksKeypad interpreter.machine.word
    · -- Both sense the same keys, which take the place of those that differ.
      cases sensed : (sense keypad interpreter.machine pad cancelled).keys with
      | error fault =>
          rw [step_of_refused overruns sensed, step_of_refused inside' ((asked asks).trans sensed)]
          refine ⟨⟨rfl, congrArg (interpreter.trace ++ ·) effects, token, rest, keys, rfl⟩, ?_⟩
          rintro (rfl | ⟨completed, _⟩)
          · rfl
          · contradiction
      | ok held =>
          rw [step_of_sensed overruns sensed, step_of_sensed inside' ((asked asks).trans sensed)]
          exact ⟨⟨rfl, congrArg (interpreter.trace ++ · ++ warnings interpreter.machine) effects,
            token, rest, (interpreter.complete held).machine.keys, rfl⟩, fun _ => rfl⟩
    · obtain ⟨old, new⟩ := silent asks
      rw [step_of_sensed overruns old, step_of_sensed inside' new]
      refine ⟨⟨rfl, congrArg (interpreter.trace ++ · ++ warnings interpreter.machine) effects,
        token, rest, keys, complete_withKeys asks keys⟩, ?_⟩
      rintro (rfl | ⟨_, asked⟩)
      · rfl
      · exact absurd asked asks

theorem gated_withKeys (interpreter : Interpreter) (keys : Keys) (now : Int) :
    (interpreter.withKeys keys).gated now = (interpreter.gated now).withKeys keys := by
  by_cases due : timerPeriod ≤ now - interpreter.lastTimerTick
  · simp only [gated_eq, withKeys, due, if_true]
    rfl
  · simp only [gated_eq, withKeys, due, if_false]

theorem cycle_alike (alike : keypad.Alike other related) (pads : related pad pad')
    (interpreter : Interpreter) (keys : Keys) (cancelled : Bool) (now : Int) :
    Turn.Alike related (interpreter.cycle keypad pad cancelled now)
        ((interpreter.withKeys keys).cycle other pad' cancelled now) ∧
      (interpreter.machine.keys = keys ∨
        (interpreter.Due now ∧ (interpreter.cycle keypad pad cancelled now).fault = none) ∧
          AsksKeypad interpreter.machine.word →
        ((interpreter.withKeys keys).cycle other pad' cancelled now).interpreter =
          (interpreter.cycle keypad pad cancelled now).interpreter) := by
  have gate := gated_withKeys interpreter keys now
  have gateKeys : (interpreter.gated now).machine.keys = interpreter.machine.keys :=
    (Call.cycle now cancelled).gated_keys interpreter
  have gateWord : (interpreter.gated now).machine.word = interpreter.machine.word :=
    (Call.cycle now cancelled).gated_word interpreter
  obtain ⟨turns, settled⟩ := step_alike alike pads (interpreter.gated now) keys cancelled
  rw [← gate] at turns settled
  rw [gateKeys, gateWord] at settled
  by_cases due : interpreter.Due now
  · have due' : (interpreter.withKeys keys).Due now := due
    cases ending : ((interpreter.gated now).step keypad pad cancelled).fault with
    | some fault =>
        rw [cycle_of_failed due ending, cycle_of_failed due' (turns.fault.trans ending)]
        exact ⟨turns, fun reason => settled (reason.imp_right fun both => ⟨both.1.2, both.2⟩)⟩
    | none =>
        rw [cycle_of_completed due ending, cycle_of_completed due' (turns.fault.trans ending)]
        obtain ⟨after, interpreters⟩ := turns.interpreter
        refine ⟨⟨turns.fault, turns.effects, turns.cancelled, turns.pad, after, ?_⟩, ?_⟩
        · simp only [interpreters]
          rfl
        · intro reason
          have same := settled (reason.imp_right fun both => ⟨ending, both.2⟩)
          simp only [same]
  · have closed : ¬ (interpreter.withKeys keys).Due now := due
    rw [cycle_of_not_due due, cycle_of_not_due closed, gate]
    refine ⟨⟨rfl, rfl, rfl, pads, keys, rfl⟩, ?_⟩
    rintro (rfl | ⟨⟨opened, _⟩, _⟩)
    · rw [← gateKeys]
      rfl
    · exact absurd opened due

namespace Attached

variable {left : Attached σ} {right : Attached τ} {state : Attached σ} {call : Call}
  {calls : List Call} {x : Register}

/-- Two interpreters that differ in nothing but the keys they remember, attached to key pads
in related states. -/
structure Twins (related : σ → τ → Prop) (left : Attached σ) (right : Attached τ) : Prop where
  interpreter : ∃ keys, right.interpreter = left.interpreter.withKeys keys
  pad : related left.pad right.pad

theorem perform_alike (alike : keypad.Alike other related) (twins : Twins related left right)
    (call : Call) :
    Turn.Alike related (left.perform keypad call) (right.perform other call) ∧
      (left.machine.keys = right.machine.keys ∨
        left.completed? keypad call ≠ none ∧ AsksKeypad left.machine.word →
        (right.next other call).interpreter = (left.next keypad call).interpreter) := by
  obtain ⟨keys, interpreters⟩ := twins.interpreter
  rw [completed?_ne_none_iff]
  simp only [next, perform, machine, interpreters]
  cases call with
  | step cancelled =>
      obtain ⟨turns, settled⟩ := step_alike alike twins.pad left.interpreter keys cancelled
      refine ⟨turns, fun reason => settled (reason.imp_right fun both => ?_)⟩
      exact ⟨both.1.2, both.2⟩
  | cycle now cancelled =>
      obtain ⟨turns, settled⟩ := cycle_alike alike twins.pad left.interpreter keys cancelled now
      exact ⟨turns, settled⟩

theorem next_twins (alike : keypad.Alike other related) (twins : Twins related left right)
    (call : Call) : Twins related (left.next keypad call) (right.next other call) := by
  obtain ⟨turns, _⟩ := perform_alike alike twins call
  exact ⟨turns.interpreter, turns.pad⟩

theorem after_twins (alike : keypad.Alike other related) (twins : Twins related left right)
    (calls : List Call) : Twins related (left.after keypad calls) (right.after other calls) := by
  induction calls generalizing left right with
  | nil => exact twins
  | cons call calls ih => exact ih (next_twins alike twins call)

/-- Once nothing tells the interpreters apart, nothing ever does. -/
theorem after_eq (alike : keypad.Alike other related) (pads : related left.pad right.pad)
    (same : right.interpreter = left.interpreter) (calls : List Call) :
    (right.after other calls).interpreter = (left.after keypad calls).interpreter := by
  induction calls generalizing left right with
  | nil => exact same
  | cons call calls ih =>
      have twins : Twins related left right := ⟨⟨left.machine.keys, same⟩, pads⟩
      have keys : left.machine.keys = right.machine.keys := by rw [machine, machine, same]
      obtain ⟨turns, settled⟩ := perform_alike alike twins call
      exact ih turns.pad (settled (.inl keys))

theorem next_keys_of_keySkip (completed : state.completed? keypad call ≠ none)
    (family : state.machine.word.toNat / 0x1000 = 0xE) :
    (state.next keypad call).machine.keys = (keypad.held state.pad).1 := by
  have sensed : (sense keypad (call.gated state.interpreter).machine state.pad
      call.cancelled).keys = .ok (keypad.held state.pad).1 := by
    have demand : Demand.ofWord (call.gated state.interpreter).machine.word = .heldKeys := by
      rw [Call.gated_word]
      exact (Demand.ofWord_eq_heldKeys_iff _).mpr family
    simp only [sense, demand]
  rcases state.next_machine keypad call with ⟨idle, _⟩ | ⟨inside, _⟩
  · exact absurd idle completed
  · have attempts := ((state.completed?_ne_none_iff keypad call).mp completed).1
    rw [← call.overruns_gated] at inside
    rw [(state.perform_of_attempts keypad attempts).2, attempt, step_of_sensed inside sensed]
    exact Machine.round_keys _ _

theorem next_pc_of_keySkip (completed : state.completed? keypad call ≠ none)
    (family : state.machine.word.toNat / 0x1000 = 0xE) :
    (state.next keypad call).machine.pc.toNat =
      nextCounter state.machine (keypad.held state.pad).1 := by
  rw [next_counter completed, next_keys_of_keySkip completed family]

theorem next_pc_of_skipIfHeld (completed : state.completed? keypad call ≠ none)
    (skip : state.machine.word =
      Instruction.word ⟨0xE, by decide⟩ x ⟨0x9, by decide⟩ ⟨0xE, by decide⟩) :
    (state.next keypad call).machine.pc.toNat =
      if (keypad.held state.pad).1.get (state.machine.keyOf x) then state.machine.pc.toNat + 4
      else state.machine.pc.toNat + 2 := by
  have family : state.machine.word.toNat / 0x1000 = 0xE := by
    rw [skip, Instruction.toNat_word_div]
  rw [next_pc_of_keySkip completed family, nextCounter, skip, Instruction.ofWord_skipIfHeld]
  rfl

theorem next_pc_of_skipUnlessHeld (completed : state.completed? keypad call ≠ none)
    (skip : state.machine.word =
      Instruction.word ⟨0xE, by decide⟩ x ⟨0xA, by decide⟩ ⟨0x1, by decide⟩) :
    (state.next keypad call).machine.pc.toNat =
      if (keypad.held state.pad).1.get (state.machine.keyOf x) then state.machine.pc.toNat + 2
      else state.machine.pc.toNat + 4 := by
  have family : state.machine.word.toNat / 0x1000 = 0xE := by
    rw [skip, Instruction.toNat_word_div]
  have flip : ∀ held : Bool,
      (if !held then state.machine.pc.toNat + 4 else state.machine.pc.toNat + 2) =
        if held then state.machine.pc.toNat + 2 else state.machine.pc.toNat + 4 := by
    intro held
    cases held <;> rfl
  rw [next_pc_of_keySkip completed family, nextCounter, skip, Instruction.ofWord_skipUnlessHeld]
  exact flip _

end Attached

/-- Two interpreters that differ only in the keys they remember, attached to key pads that
are alike, make the same turns for as long as they run: the same faults, notices and queries,
and the same state but for those keys. From the first instruction on that asks the key pad
they agree in the keys too. A skip on a key goes by the keys that are held when it is
executed. -/
theorem remembered_keys_are_never_read {left : Attached σ} {right : Attached τ}
    (alike : keypad.Alike other related) (twins : left.Twins related right)
    (calls : List Call) :
    (∀ call, Turn.Alike related ((left.after keypad calls).perform keypad call)
      ((right.after other calls).perform other call)) ∧
    (∀ before call later, calls = before ++ call :: later →
      (left.after keypad before).completed? keypad call ≠ none →
      AsksKeypad (left.after keypad before).machine.word →
      (right.after other calls).interpreter = (left.after keypad calls).interpreter) ∧
    (∀ call x, (left.after keypad calls).completed? keypad call ≠ none →
      let state := left.after keypad calls
      let held := (keypad.held state.pad).1.get (state.machine.keyOf x)
      let after := (state.next keypad call).machine.pc.toNat
      (state.machine.word =
          Instruction.word ⟨0xE, by decide⟩ x ⟨0x9, by decide⟩ ⟨0xE, by decide⟩ →
        after = if held then state.machine.pc.toNat + 4 else state.machine.pc.toNat + 2) ∧
      (state.machine.word =
          Instruction.word ⟨0xE, by decide⟩ x ⟨0xA, by decide⟩ ⟨0x1, by decide⟩ →
        after = if held then state.machine.pc.toNat + 2 else state.machine.pc.toNat + 4)) := by
  refine ⟨fun call => ?_, ?_, ?_⟩
  · exact (Attached.perform_alike alike (Attached.after_twins alike twins calls) call).1
  · rintro before call later rfl completed asks
    have same := Attached.after_twins alike twins before
    obtain ⟨turns, settled⟩ := Attached.perform_alike alike same call
    rw [Attached.after_append, Attached.after_append]
    exact Attached.after_eq alike turns.pad (settled (.inr ⟨completed, asks⟩)) later
  · intro call x completed
    exact ⟨Attached.next_pc_of_skipIfHeld completed, Attached.next_pc_of_skipUnlessHeld completed⟩

/-- A word of the family of skips on keys that has no meaning, and a skip on key 0. -/
def strayThenSkip : List UInt8 := [0xE0, 0x00, 0xE0, 0x9E]

theorem strayThenSkip_forgets :
    let keyboard : KeyboardState := ⟨[Layout.codeOf 'x'], []⟩
    let left : Attached KeyboardState := ⟨booted strayThenSkip, keyboard⟩
    let right : Attached KeyboardState := ⟨(booted strayThenSkip).withKeys (Keys.only 5), keyboard⟩
    let keypad := Keyboard.standard.keypad
    (right.after keypad [.step false]).interpreter = (left.after keypad [.step false]).interpreter ∧
      ((left.after keypad [.step false]).next keypad (.step false)).machine.pc.toNat = 0x206 := by
  intro keyboard left right keypad
  have twins : left.Twins Eq right := ⟨⟨Keys.only 5, rfl⟩, rfl⟩
  obtain ⟨_, settles, skips⟩ :=
    remembered_keys_are_never_read (Keypad.Alike.refl keypad) twins [.step false]
  refine ⟨settles [] (.step false) [] rfl (by decide +kernel) (.inl (by decide +kernel)), ?_⟩
  rw [(skips (.step false) 0 (by decide +kernel)).1 (by decide +kernel)]
  decide +kernel

end Interpreter

end Chip8
