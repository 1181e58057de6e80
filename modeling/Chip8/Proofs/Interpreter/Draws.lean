import Chip8.Proofs.Interpreter.Snapshot
import Chip8.Proofs.Machine.Footprint
import Mathlib.Logic.Function.Iterate

namespace Chip8.Interpreter

open Instruction (family byte xField)

/-! The random bytes of a run. Whatever is done to a machine, its key moves on by one for
each random instruction that is completed and stays where it is otherwise; so the bytes
depend on the first key and on how many were drawn before, and on nothing else. -/

/-- What is done to an interpreter: a call of the host, or one part of a machine's cycle or
a tick of its timers on its own. -/
inductive Operation where
  | fetch
  | execute (word : UInt16)
  | tick
  | call (call : Call)
deriving DecidableEq, Repr

/-- The words `CXNN`. -/
def IsRandom (word : UInt16) : Prop := family word = 0xC

instance (word : UInt16) : Decidable (IsRandom word) :=
  inferInstanceAs (Decidable (family word = 0xC))

theorem not_asksKeypad_of_isRandom {word : UInt16} (random : IsRandom word) :
    ¬ AsksKeypad word := by
  have first : word.toNat / 0x1000 = 0xC := random
  rintro (skip | ⟨x, wait⟩)
  · omega
  · simp only [keyWaitWord] at wait
    omega

namespace Attached

variable {σ τ : Type} (keypad : Keypad σ) (state : Attached σ)

def withMachine (machine : Machine) : Attached σ :=
  { state with interpreter := { state.interpreter with machine := machine } }

def operate : Operation → Attached σ
  | .fetch => state.withMachine state.machine.fetch.2
  | .execute word => state.withMachine (state.machine.execute word)
  | .tick => state.withMachine state.machine.tick
  | .call call => state.next keypad call

def operateAll (state : Attached σ) : List Operation → Attached σ
  | [] => state
  | operation :: operations => (state.operate keypad operation).operateAll operations

/-- The word of the instruction that an operation completes, if it completes one. -/
def executedBy? : Operation → Option UInt16
  | .execute word => some word
  | .call call => state.executed? keypad call
  | .fetch | .tick => none

/-- The same, if the instruction is a random one. -/
def randomWord? (operation : Operation) : Option UInt16 :=
  (state.executedBy? keypad operation).filter (IsRandom ·)

def randomWords (state : Attached σ) : List Operation → List UInt16
  | [] => []
  | operation :: operations =>
      (state.randomWord? keypad operation).toList ++
        (state.operate keypad operation).randomWords operations

/-- The bytes that were drawn, before anything of them is masked. -/
def drawn (state : Attached σ) : List Operation → List UInt8
  | [] => []
  | operation :: operations =>
      ((state.randomWord? keypad operation).map fun _ => state.machine.rng.draw).toList ++
        (state.operate keypad operation).drawn operations

/-- The machine that the instruction of an operation is executed on. A call finds it behind
the timer gate and fetches the instruction first. -/
def readied : Operation → Machine
  | .call call => (call.gated state.interpreter).machine.advance
  | .fetch | .execute _ | .tick => state.machine

theorem readied_rng (operation : Operation) :
    (state.readied operation).rng = state.machine.rng := by
  cases operation with
  | call call => exact call.gated_view Machine.rng (fun _ => rfl) state.interpreter
  | fetch | execute | tick => rfl

theorem next_machine_of_silent {call : Call} (completed : state.completed? keypad call ≠ none)
    (silent : ¬ AsksKeypad state.machine.word) :
    (state.next keypad call).machine =
      (call.gated state.interpreter).machine.advance.execute state.machine.word := by
  have sensed : (sense keypad (call.gated state.interpreter).machine state.pad
      call.cancelled).keys = .ok (call.gated state.interpreter).machine.keys := by
    have demand : Demand.ofWord (call.gated state.interpreter).machine.word = .nothing := by
      rw [Call.gated_word]
      exact Classical.not_not.mp (mt asksKeypad_iff.mpr silent)
    simp only [sense, demand]
  rcases state.next_machine keypad call with ⟨idle, _⟩ | ⟨inside, _⟩
  · exact absurd idle completed
  · have attempts := ((state.completed?_ne_none_iff keypad call).mp completed).1
    rw [← call.overruns_gated] at inside
    rw [(state.perform_of_attempts keypad attempts).2, attempt, step_of_sensed inside sensed,
      ← call.gated_word]
    rfl

theorem execute_of_random (machine : Machine) {word : UInt16} (random : IsRandom word) :
    machine.execute word = machine.random (xField word) (UInt8.ofNat (byte word)) := by
  rw [machine.execute_eq, Instruction.ofWord_of_random random, Machine.perform]

/-- An operation completes a random instruction, or it leaves the key alone. -/
theorem operate_cases (operation : Operation) :
    (state.randomWord? keypad operation = none ∧
        (state.operate keypad operation).machine.rng = state.machine.rng) ∨
      ∃ word, state.randomWord? keypad operation = some word ∧
        (state.operate keypad operation).machine =
          (state.readied operation).random (xField word) (UInt8.ofNat (byte word)) := by
  cases operation with
  | fetch | tick => exact .inl ⟨rfl, rfl⟩
  | execute word =>
      by_cases random : IsRandom word
      · refine .inr ⟨word, Option.filter_some_pos (decide_eq_true random), ?_⟩
        rw [operate, withMachine, machine, execute_of_random _ random]
        rfl
      · refine .inl ⟨Option.filter_some_neg (decide_eq_false random), ?_⟩
        exact Machine.execute_rng_of_not_random _ random
  | call call =>
      rcases state.next_machine keypad call with ⟨idle, machine⟩ | ⟨_, completed, keys, machine⟩
      · refine .inl ⟨by rw [randomWord?, executedBy?, executed?, idle]; rfl, ?_⟩
        rw [operate, machine]
        exact state.readied_rng (.call call)
      · have word : state.executedBy? keypad (.call call) = some state.machine.word := by
          rw [executedBy?, executed?, completed]
          rfl
        rw [randomWord?, word]
        by_cases random : IsRandom state.machine.word
        · refine .inr ⟨_, Option.filter_some_pos (decide_eq_true random), ?_⟩
          have ended : state.completed? keypad call ≠ none := by
            rw [completed]
            exact Option.some_ne_none _
          have silent := not_asksKeypad_of_isRandom random
          rw [operate, next_machine_of_silent keypad state ended silent,
            execute_of_random _ random]
          rfl
        · refine .inl ⟨Option.filter_some_neg (decide_eq_false random), ?_⟩
          rw [operate, machine, Machine.round, call.gated_word,
            Machine.execute_rng_of_not_random _ random]
          exact state.readied_rng (.call call)

theorem random_rng (machine : Machine) (x : Register) (mask : UInt8) :
    (machine.random x mask).rng = machine.rng.next := rfl

/-- After any run the key has moved on by one for each random instruction. -/
theorem operateAll_rng (operations : List Operation) :
    (state.operateAll keypad operations).machine.rng =
      Random.Key.next^[(state.randomWords keypad operations).length] state.machine.rng := by
  induction operations generalizing state with
  | nil => rfl
  | cons operation operations ih =>
      rw [operateAll, randomWords, ih, List.length_append]
      rcases state.operate_cases keypad operation with ⟨idle, same⟩ | ⟨word, random, machine⟩
      · rw [idle, same, Option.toList_none, List.length_nil, Nat.zero_add]
      · rw [random, machine, random_rng, readied_rng, Option.toList_some, List.length_singleton,
          Nat.add_comm, Function.iterate_succ_apply]

/-- The bytes that were drawn are those of the keys on the way. -/
theorem drawn_eq (operations : List Operation) :
    state.drawn keypad operations =
      (List.range (state.randomWords keypad operations).length).map fun index =>
        (Random.Key.next^[index] state.machine.rng).draw := by
  induction operations generalizing state with
  | nil => rfl
  | cons operation operations ih =>
      rw [drawn, randomWords, ih, List.length_append]
      rcases state.operate_cases keypad operation with ⟨idle, same⟩ | ⟨word, random, machine⟩
      · rw [idle, same, Option.map_none, Option.toList_none, Option.toList_none, List.length_nil,
          Nat.zero_add, List.nil_append]
      · rw [random, machine, random_rng, readied_rng, Option.map_some, Option.toList_some,
          Option.toList_some, List.length_singleton, Nat.add_comm, List.range_succ_eq_map,
          List.map_cons, List.map_map]
        rfl

end Attached

/-- Whatever is done to a machine, its key is the first one moved on by one for each random
instruction that was completed. The next one to be completed stores the byte of that key,
masked, in its register and changes nothing else but the key. So two runs from the same key
draw the same bytes, one of them perhaps more than the other. -/
theorem random_bytes_depend_on_key_and_count {σ : Type} (keypad : Keypad σ) (state : Attached σ)
    (operations : List Operation) :
    let key := state.machine.rng
    let count := (state.randomWords keypad operations).length
    let reached := state.operateAll keypad operations
    reached.machine.rng = Random.Key.next^[count] key ∧
    (∀ operation word, reached.executedBy? keypad operation = some word →
      word.toNat / 0x1000 = 0xC →
      let ready := reached.readied operation
      (reached.operate keypad operation).machine =
        { ready with
          registers := ready.registers.put (xField word)
            ((Random.Key.next^[count] key).draw &&& UInt8.ofNat (byte word))
          rng := Random.Key.next^[count + 1] key }) ∧
    state.drawn keypad operations =
      (List.range count).map (fun index => (Random.Key.next^[index] key).draw) ∧
    ∀ {τ : Type} (other : Keypad τ) (twin : Attached τ) (others : List Operation),
      twin.machine.rng = key → count ≤ (twin.randomWords other others).length →
      state.drawn keypad operations <+: twin.drawn other others := by
  intro key count reached
  have rng : reached.machine.rng = Random.Key.next^[count] key :=
    state.operateAll_rng keypad operations
  refine ⟨rng, ?_, state.drawn_eq keypad operations, ?_⟩
  · intro operation word completed random ready
    have drawing : reached.randomWord? keypad operation = some word := by
      rw [Attached.randomWord?, completed]
      exact Option.filter_some_pos (decide_eq_true random)
    rcases reached.operate_cases keypad operation with ⟨idle, _⟩ | ⟨_, again, machine⟩
    · rw [idle] at drawing
      contradiction
    · cases drawing.symm.trans again
      rw [machine, Function.iterate_succ_apply', ← rng, ← reached.readied_rng operation]
      rfl
  · intro τ other twin others same longer
    have fewer : List.range count <+: List.range (twin.randomWords other others).length := by
      rw [← Nat.min_eq_left longer, ← List.take_range]
      exact List.take_prefix _ _
    rw [state.drawn_eq, twin.drawn_eq, same]
    exact fewer.map _

/-- The first bytes that are drawn unless another seed is asked for. -/
example : [0, 1].map (fun index => (Random.Key.next^[index] ⟨0, 0⟩).draw) = [14, 36] := by
  decide +kernel

end Chip8.Interpreter
