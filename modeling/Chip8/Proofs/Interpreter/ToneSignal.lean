import Chip8.Proofs.Interpreter.Schedule

namespace Chip8.Interpreter

/-! The signal for the tone. A cycle that does not fail sets it by the sound timer as it is
then. A cycle that fails leaves the signal as it was, though the timers may have ticked in it;
so the signal may outlast the sound timer, but it is never off while the timer runs. -/

/-- The signal is on if and only if the sound timer runs. -/
def ToneCurrent (interpreter : Interpreter) : Prop :=
  interpreter.beepActive = true ↔ interpreter.machine.sound ≠ 0

instance (interpreter : Interpreter) : Decidable interpreter.ToneCurrent :=
  inferInstanceAs (Decidable (_ ↔ _))

theorem refreshBeep_current (interpreter : Interpreter) :
    interpreter.refreshBeep.ToneCurrent := by
  change decide (0 < interpreter.machine.sound) = true ↔ interpreter.machine.sound ≠ 0
  rw [decide_eq_true_iff]
  exact UInt8.pos_iff_ne_zero

theorem start_current {setup : Setup} {initial : Interpreter}
    (started : (start setup).2 = .ok initial) : initial.ToneCurrent := by
  obtain ⟨rng, memory, rfl⟩ := start_eq started
  exact iff_of_false Bool.false_ne_true fun running => running rfl

theorem cycle_current {σ : Type} {keypad : Keypad σ} {interpreter : Interpreter} {pad : σ}
    {cancelled : Bool} {now : Int}
    (completed : (interpreter.cycle keypad pad cancelled now).fault = none) :
    (interpreter.cycle keypad pad cancelled now).interpreter.ToneCurrent := by
  rcases cycle_cases keypad interpreter pad cancelled now with
    ⟨_, _, after⟩ | ⟨_, ⟨fault, failed⟩, _⟩ | ⟨_, _, keys, after⟩
  · rw [after]
    exact refreshBeep_current _
  · exact absurd (failed.symm.trans completed) (Option.some_ne_none fault)
  · rw [after]
    exact refreshBeep_current _

namespace Attached

variable {σ : Type} {keypad : Keypad σ} {state : Attached σ} {call : Call} {calls : List Call}

theorem next_of_failed (failed : (state.perform keypad call).fault ≠ none) :
    (state.next keypad call).interpreter = call.gated state.interpreter := by
  rw [next]
  cases call with
  | step cancelled =>
      rcases step_cases keypad state.interpreter state.pad cancelled with
        ⟨_, same⟩ | ⟨completed, _⟩
      · exact same
      · exact absurd completed failed
  | cycle now cancelled =>
      rcases cycle_cases keypad state.interpreter state.pad cancelled now with
        ⟨_, completed, _⟩ | ⟨_, _, same⟩ | ⟨_, completed, _⟩
      · exact absurd completed failed
      · exact same
      · exact absurd completed failed

/-- A call that fails leaves the signal alone, but the sound timer may have ticked in it. -/
theorem next_tone_of_failed (failed : (state.perform keypad call).fault ≠ none) :
    (state.next keypad call).interpreter.beepActive = state.interpreter.beepActive ∧
      (state.next keypad call).machine.sound.toNat =
        state.machine.sound.toNat - call.ticks state.interpreter := by
  rw [machine, next_of_failed failed]
  constructor
  · cases call with
    | step cancelled => rfl
    | cycle now cancelled => rw [Call.gated, gated_eq]
  · rw [call.gated_machine_eq]
    exact state.machine.toNat_timer_ticks .sound _

/-- Every call of the run fails. -/
def Failing (keypad : Keypad σ) (state : Attached σ) : List Call → Prop
  | [] => True
  | call :: calls =>
      (state.perform keypad call).fault ≠ none ∧ (state.next keypad call).Failing keypad calls

/-- The last call of the run did not fail, if there was one. -/
def Settled (keypad : Keypad σ) (state : Attached σ) (calls : List Call) : Prop :=
  ∀ earlier call, calls = earlier ++ [call] →
    ((state.after keypad earlier).perform keypad call).fault = none

theorem settled_nil (keypad : Keypad σ) (state : Attached σ) : state.Settled keypad [] :=
  fun earlier call same => absurd same.symm (List.append_ne_nil_of_right_ne_nil earlier
    (List.cons_ne_nil call []))

theorem Failing.concat {last : Call} (failing : state.Failing keypad calls)
    (failed : ((state.after keypad calls).perform keypad last).fault ≠ none) :
    state.Failing keypad (calls ++ [last]) := by
  induction calls generalizing state with
  | nil => exact ⟨failed, trivial⟩
  | cons call calls ih => exact ⟨failing.1, ih failing.2 failed⟩

/-- Every run consists of a part that ends without a failure and of failures. -/
theorem exists_settled (keypad : Keypad σ) (state : Attached σ) (calls : List Call) :
    ∃ before failing, calls = before ++ failing ∧ state.Settled keypad before ∧
      (state.after keypad before).Failing keypad failing := by
  induction calls using List.reverseRecOn with
  | nil => exact ⟨[], [], rfl, state.settled_nil keypad, trivial⟩
  | append_singleton calls last ih =>
      by_cases completed : ((state.after keypad calls).perform keypad last).fault = none
      · refine ⟨calls ++ [last], [], (List.append_nil _).symm, ?_, trivial⟩
        intro earlier call same
        obtain ⟨rfl, rfl⟩ := List.append_singleton_inj.mp same
        exact completed
      · obtain ⟨before, failing, rfl, settled, fails⟩ := ih
        rw [after_append] at completed
        exact ⟨before, failing ++ [last], List.append_assoc _ _ _, settled,
          fails.concat completed⟩

theorem Failing.tone (failing : state.Failing keypad calls) :
    (state.after keypad calls).interpreter.beepActive = state.interpreter.beepActive ∧
      (state.after keypad calls).machine.sound.toNat =
        state.machine.sound.toNat - state.ticks keypad calls := by
  induction calls generalizing state with
  | nil => exact ⟨rfl, rfl⟩
  | cons call calls ih =>
      obtain ⟨beep, sound⟩ := next_tone_of_failed failing.1
      obtain ⟨laterBeep, laterSound⟩ := ih failing.2
      rw [after, ticks, laterBeep, laterSound, beep, sound, Nat.sub_sub]
      exact ⟨rfl, rfl⟩

/-- After cycles of which the last one did not fail the signal is current. -/
theorem Settled.current {before failing : List Call} {readings : List Reading}
    (settled : state.Settled keypad before) (initial : state.interpreter.ToneCurrent)
    (cycles : readings.map .ofReading = before ++ failing) :
    (state.after keypad before).interpreter.ToneCurrent := by
  rcases List.eq_nil_or_concat' before with rfl | ⟨earlier, last, rfl⟩
  · exact initial
  · have member : last ∈ readings.map Call.ofReading := by
      rw [cycles]
      exact List.mem_append_left _ (List.mem_append_right _ List.mem_cons_self)
    obtain ⟨reading, _, rfl⟩ := List.mem_map.mp member
    have completed := settled earlier (.ofReading reading) rfl
    rw [after_append]
    exact cycle_current completed

end Attached

/-- After every cycle that does not fail the signal for the tone is on if and only if the
sound timer runs. A cycle that fails leaves it as it was, ticks or not. So while the timer
runs the signal is on; and it is still on with the timer at zero exactly if the timer ran
when a cycle ended well for the last time, and has been counted down to zero by the cycles
that failed since. -/
theorem tone_lags_only_after_failures {σ : Type} (keypad : Keypad σ) {setup : Setup}
    {state : Attached σ} (started : (start setup).2 = .ok state.interpreter)
    (readings : List Reading) :
    let reached := state.after keypad (readings.map .ofReading)
    (∀ reading, (reached.perform keypad (.ofReading reading)).fault = none →
      (reached.next keypad (.ofReading reading)).interpreter.ToneCurrent) ∧
    (∀ reading, (reached.perform keypad (.ofReading reading)).fault ≠ none →
      (reached.next keypad (.ofReading reading)).interpreter.beepActive =
        reached.interpreter.beepActive) ∧
    (reached.machine.sound ≠ 0 → reached.interpreter.beepActive = true) ∧
    ∃ before failing, readings.map .ofReading = before ++ failing ∧
      state.Settled keypad before ∧ (state.after keypad before).Failing keypad failing ∧
      let settled := state.after keypad before
      (¬ reached.interpreter.ToneCurrent ↔
        0 < settled.machine.sound.toNat ∧
          settled.machine.sound.toNat ≤ settled.ticks keypad failing) := by
  intro reached
  obtain ⟨before, failing, cycles, settled, fails⟩ :=
    state.exists_settled keypad (readings.map .ofReading)
  obtain ⟨beep, sound⟩ := fails.tone
  rw [← Attached.after_append, ← cycles] at beep sound
  have nonzero : ∀ value : UInt8, value ≠ 0 ↔ value.toNat ≠ 0 := fun value =>
    not_congr UInt8.toNat_inj.symm
  have current : reached.interpreter.beepActive = true ↔
      (state.after keypad before).machine.sound.toNat ≠ 0 := by
    rw [beep]
    exact (settled.current (start_current started) cycles).trans (nonzero _)
  have running : reached.machine.sound ≠ 0 ↔
      (state.after keypad before).machine.sound.toNat -
        (state.after keypad before).ticks keypad failing ≠ 0 := by
    rw [← sound]
    exact nonzero _
  refine ⟨fun reading => cycle_current, fun reading failed => ?_, fun runs => ?_,
    before, failing, cycles, settled, fails, ?_⟩
  · exact (Attached.next_tone_of_failed failed).1
  · have late := running.mp runs
    exact current.mpr (by omega)
  · have stale : ¬ reached.interpreter.ToneCurrent ↔ ¬ (_ ↔ _) :=
      not_congr (iff_congr current running)
    rw [stale]
    omega

/-- It sets the sound timer to 1 and then jumps to the last cell of memory. -/
def shortTone : List UInt8 := [0x60, 0x01, 0xF0, 0x18, 0x1F, 0xFF]

/-- The cycle that sets the timer ends well, the one that finds the program gone does not. -/
theorem shortTone_is_signalled :
    let state : Attached Unit := ⟨booted shortTone, ()⟩
    let readings : List Reading := [⟨2000000, false⟩, ⟨4000000, false⟩]
    let reached := state.after Keypad.unattached (readings.map .ofReading)
    reached.machine.sound = 1 ∧ reached.interpreter.beepActive = true ∧
      (reached.next Keypad.unattached
        (.ofReading ⟨16666666, false⟩)).interpreter.ToneCurrent := by
  intro state readings reached
  have started : (start { program := shortTone }).2 = .ok state.interpreter :=
    start_booted (by decide)
  obtain ⟨completed, _, running, _⟩ :=
    tone_lags_only_after_failures Keypad.unattached started readings
  exact ⟨by decide +kernel, running (by decide +kernel), completed _ (by decide +kernel)⟩

/-- The tick that ends the tone falls into a cycle that fails, and the signal stays on. -/
theorem shortTone_outlasts_timer :
    let state : Attached Unit := ⟨booted shortTone, ()⟩
    let readings : List Reading :=
      [⟨2000000, false⟩, ⟨4000000, false⟩, ⟨6000000, false⟩, ⟨16666666, false⟩]
    let last := (state.after Keypad.unattached (readings.map .ofReading)).interpreter
    (start { program := shortTone }).2 = .ok state.interpreter ∧
      last.beepActive = true ∧ last.machine.sound = 0 ∧ ¬ last.ToneCurrent := by
  intro state readings last
  exact ⟨start_booted (by decide), by decide +kernel, by decide +kernel, by decide +kernel⟩

end Chip8.Interpreter
