import Chip8.Interpreter.Step
import Chip8.Proofs.Instruction.Decode

namespace Chip8.Interpreter

/-! When a step fails, and what it leaves behind. There are three faults, and each
is looked for only after the one before it: the program counter at the end of
memory, a key wait that was cancelled, a key that is none. -/

variable {σ : Type} {keypad : Keypad σ} {interpreter : Interpreter} {machine : Machine}
  {pad : σ} {cancelled : Bool} {answer : KeyAnswer}

/-- The word of a key wait into register `x`. -/
def keyWaitWord (x : Register) : Nat := 0xF00A + 0x100 * x.val

def AwaitsKey (machine : Machine) : Prop := ∃ x, machine.word.toNat = keyWaitWord x

/-- The instruction under the program counter does not lie in memory as a whole. -/
def Overruns (machine : Machine) : Prop := Memory.size ≤ machine.pc.toNat + 1

theorem toNat_pc_add_two (inside : ¬ Overruns machine) :
    (machine.pc + 2).toNat = machine.pc.toNat + 2 := by
  have bound : machine.pc.toNat + 1 < 4096 := Nat.lt_of_not_le inside
  rw [UInt16.toNat_add]
  exact Nat.mod_eq_of_lt (show machine.pc.toNat + 2 < 65536 by omega)

/-- A wait ends without a key: the token was cancelled before it, there was no key,
or the token was cancelled while it lasted. -/
def WaitEnds (cancelled : Bool) (answer : KeyAnswer) : Prop :=
  cancelled = true ∨ answer.key = none ∨ answer.cancelled = true

def IsKey (key : Int) : Prop := 0 ≤ key ∧ key ≤ 0xF

/-- The fault of a turn that tries to execute an instruction, or none, if a key wait
would be answered by `answer`. -/
inductive Verdict (machine : Machine) (cancelled : Bool) (answer : KeyAnswer) :
    Option Fault → Prop
  | endOfMemory (overruns : Overruns machine) :
      Verdict machine cancelled answer (some (.endOfMemory machine.pc))
  | waitCancelled (inside : ¬ Overruns machine) (awaits : AwaitsKey machine)
      (ends : WaitEnds cancelled answer) :
      Verdict machine cancelled answer (some (.waitCancelled machine.pc))
  | keyOutOfRange {key : Int} (inside : ¬ Overruns machine) (awaits : AwaitsKey machine)
      (lasts : ¬ WaitEnds cancelled answer) (answered : answer.key = some key)
      (outside : ¬ IsKey key) :
      Verdict machine cancelled answer (some (.keyOutOfRange key))
  | completes (inside : ¬ Overruns machine)
      (sensed : AwaitsKey machine →
        ¬ WaitEnds cancelled answer ∧ ∃ key, answer.key = some key ∧ IsKey key) :
      Verdict machine cancelled answer none

/-- What a turn that tries to execute an instruction makes of the interpreter that it
finds behind the timer gate. -/
structure Outcome (interpreter : Interpreter) (pad : σ) (cancelled : Bool)
    (answer : KeyAnswer) (turn : Turn σ) : Prop where
  verdict : ∀ fault, turn.fault = fault ↔
    Verdict interpreter.machine cancelled answer fault
  silent : Overruns interpreter.machine →
    turn.effects = [] ∧ turn.pad = pad ∧ turn.cancelled = cancelled
  counted : turn.fault = none → turn.interpreter.count = interpreter.count + 1
  unchanged : turn.fault ≠ none → turn.interpreter = interpreter

theorem Verdict.unique {fault other : Option Fault}
    (first : Verdict machine cancelled answer fault)
    (second : Verdict machine cancelled answer other) : fault = other := by
  cases first with
  | endOfMemory overruns =>
      cases second with
      | endOfMemory => rfl
      | waitCancelled inside | keyOutOfRange inside | completes inside =>
          exact absurd overruns inside
  | waitCancelled inside awaits ends =>
      cases second with
      | endOfMemory overruns => exact absurd overruns inside
      | waitCancelled => rfl
      | keyOutOfRange _ _ lasts => exact absurd ends lasts
      | completes _ sensed => exact absurd ends (sensed awaits).1
  | keyOutOfRange inside awaits lasts answered outside =>
      cases second with
      | endOfMemory overruns => exact absurd overruns inside
      | waitCancelled _ _ ends => exact absurd ends lasts
      | keyOutOfRange _ _ _ again =>
          cases answered.symm.trans again
          rfl
      | completes _ sensed =>
          obtain ⟨_, key, again, isKey⟩ := sensed awaits
          cases answered.symm.trans again
          exact absurd isKey outside
  | completes inside sensed =>
      cases second with
      | endOfMemory overruns => exact absurd overruns inside
      | waitCancelled _ awaits ends => exact absurd ends (sensed awaits).1
      | keyOutOfRange _ awaits _ answered outside =>
          obtain ⟨_, key, again, isKey⟩ := sensed awaits
          cases answered.symm.trans again
          exact absurd isKey outside
      | completes => rfl

/-- Of a machine, a verdict depends on the program counter and the word there only. -/
theorem Verdict.congr {other : Machine} {fault : Option Fault} (pc : other.pc = machine.pc)
    (word : other.word = machine.word) (verdict : Verdict machine cancelled answer fault) :
    Verdict other cancelled answer fault := by
  have overruns : Overruns other ↔ Overruns machine := by rw [Overruns, pc, Overruns]
  have awaits : AwaitsKey other ↔ AwaitsKey machine := by rw [AwaitsKey, word, AwaitsKey]
  cases verdict with
  | endOfMemory beyond => exact pc ▸ .endOfMemory (overruns.mpr beyond)
  | waitCancelled inside wait ends =>
      exact pc ▸ .waitCancelled (mt overruns.mp inside) (awaits.mpr wait) ends
  | keyOutOfRange inside wait lasts answered outside =>
      exact .keyOutOfRange (mt overruns.mp inside) (awaits.mpr wait) lasts answered outside
  | completes inside sensed =>
      exact .completes (mt overruns.mp inside) fun wait => sensed (awaits.mp wait)

theorem Demand.ofWord_eq_keyPress_iff (word : UInt16) :
    Demand.ofWord word = .keyPress ↔ ∃ x, word.toNat = keyWaitWord x := by
  have low : (Fields.ofInt word.toNat).nn = 0x0A ↔ word.toNat % 0x100 = 0x0A := by
    rw [← UInt8.toNat_inj, Instruction.toNat_nn]
    rfl
  simp only [Demand.ofWord, Instruction.toNat_family, low]
  constructor
  · intro demand
    split at demand
    · contradiction
    · split at demand
      · rename_i wait
        exact ⟨⟨word.toNat / 256 % 16, by omega⟩, by simp only [keyWaitWord]; omega⟩
      · contradiction
  · rintro ⟨x, wait⟩
    simp only [keyWaitWord] at wait
    rw [if_neg (by omega), if_pos (by omega)]

/-- The fault of an attempt to find the keys to execute with. -/
def fault? : Except Fault Keys → Option Fault
  | .ok _ => none
  | .error fault => some fault

theorem accept_verdict (inside : ¬ Overruns machine) (awaits : AwaitsKey machine) :
    Verdict machine false answer (fault? ((accept machine.pc answer).map Keys.only)) := by
  unfold accept
  cases answered : answer.key with
  | none => exact .waitCancelled inside awaits (.inr (.inl answered))
  | some key =>
      cases ended : answer.cancelled with
      | true => exact .waitCancelled inside awaits (.inr (.inr ended))
      | false =>
          have lasts : ¬ WaitEnds false answer := by
            simp [WaitEnds, answered, ended]
          by_cases valid : 0 ≤ key ∧ key < 16
          · have isKey : IsKey key := ⟨valid.1, Int.le_of_lt_add_one valid.2⟩
            simp only [Bool.false_eq_true, if_false, dif_pos valid]
            exact .completes inside fun _ => ⟨lasts, key, answered, isKey⟩
          · have outside : ¬ IsKey key := fun isKey =>
              valid ⟨isKey.1, Int.lt_add_one_of_le isKey.2⟩
            simp only [Bool.false_eq_true, if_false, dif_neg valid]
            exact .keyOutOfRange inside awaits lasts answered outside

theorem sense_verdict (keypad : Keypad σ) (pad : σ) (cancelled : Bool)
    (inside : ¬ Overruns machine) :
    Verdict machine cancelled (keypad.await pad).1
      (fault? (sense keypad machine pad cancelled).keys) := by
  cases demand : Demand.ofWord machine.word with
  | nothing | heldKeys =>
      have noWait : ¬ AwaitsKey machine := by
        rw [AwaitsKey, ← Demand.ofWord_eq_keyPress_iff, demand]
        decide
      simp only [sense, demand]
      exact .completes inside fun awaits => absurd awaits noWait
  | keyPress =>
      have awaits : AwaitsKey machine := (Demand.ofWord_eq_keyPress_iff _).mp demand
      simp only [sense, demand]
      cases cancelled with
      | true => exact .waitCancelled inside awaits (.inl rfl)
      | false => exact accept_verdict inside awaits

/-- The key pad is the only one asked before an instruction is executed. -/
theorem mem_sense_effects {effect : Effect}
    (member : effect ∈ (sense keypad machine pad cancelled).effects) :
    effect = .heldQuery ∨ effect = .keyWait := by
  unfold sense at member
  cases demand : Demand.ofWord machine.word with
  | nothing =>
      rw [demand] at member
      contradiction
  | heldKeys =>
      rw [demand] at member
      exact .inl (List.mem_singleton.mp member)
  | keyPress =>
      simp only [demand] at member
      cases cancelled with
      | true => contradiction
      | false => exact .inr (List.mem_singleton.mp member)

theorem mem_warnings {machine : Machine} {effect : Effect} (member : effect ∈ warnings machine) :
    (∃ pc target, effect = .notice (.callDropped pc target)) ∨
      ∃ pc, effect = .notice (.returnInvented pc) := by
  simp only [warnings] at member
  split at member
  · exact .inl ⟨_, _, List.mem_singleton.mp member⟩
  · split at member
    · exact .inr ⟨_, List.mem_singleton.mp member⟩
    · contradiction

theorem step_of_overruns (overruns : Overruns interpreter.machine) :
    interpreter.step keypad pad cancelled =
      { fault := some (.endOfMemory interpreter.machine.pc)
        interpreter := interpreter
        pad := pad
        cancelled := cancelled
        effects := [] } := by
  rw [Overruns] at overruns
  simp only [step, if_pos overruns]

theorem step_of_refused {fault : Fault} (inside : ¬ Overruns interpreter.machine)
    (refused : (sense keypad interpreter.machine pad cancelled).keys = .error fault) :
    interpreter.step keypad pad cancelled =
      { fault := some fault
        interpreter := interpreter
        pad := (sense keypad interpreter.machine pad cancelled).pad
        cancelled := (sense keypad interpreter.machine pad cancelled).cancelled
        effects := interpreter.trace ++
          (sense keypad interpreter.machine pad cancelled).effects } := by
  rw [Overruns] at inside
  simp only [step, if_neg inside, refused]

theorem step_of_sensed {keys : Keys} (inside : ¬ Overruns interpreter.machine)
    (sensed : (sense keypad interpreter.machine pad cancelled).keys = .ok keys) :
    interpreter.step keypad pad cancelled =
      { fault := none
        interpreter := interpreter.complete keys
        pad := (sense keypad interpreter.machine pad cancelled).pad
        cancelled := (sense keypad interpreter.machine pad cancelled).cancelled
        effects := interpreter.trace ++
          (sense keypad interpreter.machine pad cancelled).effects ++
          warnings interpreter.machine } := by
  rw [Overruns] at inside
  simp only [step, if_neg inside, sensed]

/-- A step either fails and changes nothing, or it completes one instruction. -/
theorem step_cases (keypad : Keypad σ) (interpreter : Interpreter) (pad : σ)
    (cancelled : Bool) :
    ((∃ fault, (interpreter.step keypad pad cancelled).fault = some fault) ∧
        (interpreter.step keypad pad cancelled).interpreter = interpreter) ∨
      (interpreter.step keypad pad cancelled).fault = none ∧
        ¬ Overruns interpreter.machine ∧
        ∃ keys, (interpreter.step keypad pad cancelled).interpreter =
          interpreter.complete keys := by
  by_cases overruns : Overruns interpreter.machine
  · rw [step_of_overruns overruns]
    exact .inl ⟨⟨_, rfl⟩, rfl⟩
  · cases sensed : (sense keypad interpreter.machine pad cancelled).keys with
    | error fault =>
        rw [step_of_refused overruns sensed]
        exact .inl ⟨⟨fault, rfl⟩, rfl⟩
    | ok keys =>
        rw [step_of_sensed overruns sensed]
        exact .inr ⟨rfl, overruns, keys, rfl⟩

theorem step_verdict (keypad : Keypad σ) (interpreter : Interpreter) (pad : σ)
    (cancelled : Bool) :
    Verdict interpreter.machine cancelled (keypad.await pad).1
      (interpreter.step keypad pad cancelled).fault := by
  by_cases overruns : Overruns interpreter.machine
  · rw [step_of_overruns overruns]
    exact .endOfMemory overruns
  · have verdict := sense_verdict keypad pad cancelled overruns
    cases sensed : (sense keypad interpreter.machine pad cancelled).keys with
    | error fault =>
        rw [step_of_refused overruns sensed]
        rwa [sensed] at verdict
    | ok keys =>
        rw [step_of_sensed overruns sensed]
        rwa [sensed] at verdict

theorem step_outcome (keypad : Keypad σ) (interpreter : Interpreter) (pad : σ)
    (cancelled : Bool) :
    Outcome interpreter pad cancelled (keypad.await pad).1
      (interpreter.step keypad pad cancelled) where
  verdict fault := by
    have verdict := step_verdict keypad interpreter pad cancelled
    exact ⟨fun same => same ▸ verdict, verdict.unique⟩
  silent overruns := by
    rw [step_of_overruns overruns]
    exact ⟨rfl, rfl, rfl⟩
  counted completed := by
    rcases step_cases keypad interpreter pad cancelled with
      ⟨⟨fault, failed⟩, _⟩ | ⟨_, _, keys, complete⟩
    · rw [completed] at failed
      contradiction
    · rw [complete]
      rfl
  unchanged failed := by
    rcases step_cases keypad interpreter pad cancelled with ⟨_, same⟩ | ⟨completed, _⟩
    · exact same
    · exact absurd completed failed

end Chip8.Interpreter
