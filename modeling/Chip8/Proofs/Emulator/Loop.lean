import Chip8.Emulator.Session

namespace Chip8.Emulator

/-! The main loop as a relation. At a head of the loop the user may ask to stop; if not, a
turn is made with whatever keys are held and whatever the clock reads. A script says all of
this in advance and is one way through the loop; a run, whose clock is steady, goes by a
script. -/

/-- An emulator in the middle of its run, and all that it has done to the world. -/
structure Moment where
  emulator : Emulator
  effects : List Effect

namespace Moment

def turned (moment : Moment) (keys : KeyboardState) (now : Int) : Moment where
  emulator := (moment.emulator.turn keys now).emulator
  effects := moment.effects ++ (moment.emulator.turn keys now).effects

def closed (moment : Moment) : Moment where
  emulator := moment.emulator.close.1
  effects := moment.effects ++ moment.emulator.close.2

end Moment

/-- The heads of the loop. -/
inductive Heads (first : Moment) : Moment → Prop
  | first : Heads first first
  | next {moment : Moment} {keys : KeyboardState} {now : Int} (head : Heads first moment)
      (going : (moment.emulator.turn keys now).pace = .going) :
      Heads first (moment.turned keys now)

/-- Where the loop is left, and the error with which it is left. -/
inductive Leaves (first : Moment) : Option Error → Moment → Prop
  | asked {moment : Moment} (head : Heads first moment) : Leaves first none moment
  | ended {moment : Moment} {keys : KeyboardState} {now : Int} (head : Heads first moment)
      (ended : (moment.emulator.turn keys now).pace = .ended) :
      Leaves first none (moment.turned keys now)
  | failed {moment : Moment} {keys : KeyboardState} {now : Int} {error : Error}
      (head : Heads first moment)
      (failed : (moment.emulator.turn keys now).pace = .failed error) :
      Leaves first (some error) (moment.turned keys now)

/-- What a turn meets: the pending events, the time, and the keys, of which some are held
and others will be pressed if it waits. -/
structure Reading where
  events : List Event
  now : Int
  keys : KeyboardState

/-- A run whose clock and keys do as they like. When the readings are used up, the user
quits. -/
def play (emulator : Emulator) : List Reading → Run
  | [] => emulator.finish none 0
  | reading :: later =>
      if asksToStop reading.events then
        emulator.finish none later.length
      else
        let turn := emulator.turn reading.keys reading.now
        match turn.pace with
        | .going => (turn.emulator.play later).after turn.effects
        | .ended => (turn.emulator.finish none later.length).after turn.effects
        | .failed error => (turn.emulator.finish (some error) later.length).after turn.effects

/-- The readings of a steady clock. -/
def Steady (now pace : Int) (script : List Reading) : Prop :=
  ∀ (index : Nat) reading, script[index]? = some reading → reading.now = now + index * pace

/-- A run by a steady clock is one of these. -/
theorem exists_play (emulator : Emulator) (keys : KeyboardState) (now pace : Int)
    (polls : List (List Event)) :
    ∃ script, script.map Reading.events = polls ∧ Steady now pace script ∧
      emulator.run keys now pace polls = emulator.play script := by
  induction polls generalizing emulator keys now with
  | nil => exact ⟨[], rfl, nofun, rfl⟩
  | cons events polls ih =>
      obtain ⟨script, polled, steady, same⟩ :=
        ih (emulator.turn keys now).emulator (emulator.turn keys now).keys (now + pace)
      refine ⟨⟨events, now, keys⟩ :: script, by rw [List.map_cons, polled], ?_, ?_⟩
      · intro index reading found
        cases index with
        | zero =>
            cases found
            simp
        | succ index =>
            rw [List.getElem?_cons_succ] at found
            rw [steady index reading found, Int.natCast_succ, Int.add_mul, Int.one_mul]
            omega
      · have left : polls.length = script.length := by rw [← polled, List.length_map]
        rw [run, play, left]
        split
        · rfl
        · dsimp only
          cases (emulator.turn keys now).pace with
          | going => exact congrArg (·.after (emulator.turn keys now).effects) same
          | ended | failed => rfl

theorem play_leaves {first moment : Moment} (head : Heads first moment)
    (script : List Reading) :
    ∃ last, Leaves first (moment.emulator.play script).error last ∧
      last.closed =
        ⟨(moment.emulator.play script).emulator,
          moment.effects ++ (moment.emulator.play script).effects⟩ := by
  induction script generalizing moment with
  | nil => exact ⟨moment, .asked head, rfl⟩
  | cons reading later ih =>
      rw [play]
      split
      · exact ⟨moment, .asked head, rfl⟩
      · dsimp only
        split
        · rename_i going
          obtain ⟨last, leaves, closed⟩ := ih (.next head going)
          refine ⟨last, leaves, closed.trans ?_⟩
          rw [Run.after, ← List.append_assoc]
          rfl
        · rename_i ended
          refine ⟨moment.turned reading.keys reading.now, .ended head ended, ?_⟩
          rw [Run.after, ← List.append_assoc]
          rfl
        · rename_i error failed
          refine ⟨moment.turned reading.keys reading.now, .failed head failed, ?_⟩
          rw [Run.after, ← List.append_assoc]
          rfl

theorem run_leaves {first moment : Moment} (head : Heads first moment) (keys : KeyboardState)
    (now pace : Int) (polls : List (List Event)) :
    ∃ last, Leaves first (moment.emulator.run keys now pace polls).error last ∧
      last.closed =
        ⟨(moment.emulator.run keys now pace polls).emulator,
          moment.effects ++ (moment.emulator.run keys now pace polls).effects⟩ := by
  obtain ⟨script, _, _, same⟩ := moment.emulator.exists_play keys now pace polls
  rw [same]
  exact play_leaves head script

/-- What holds wherever the loop has been left and the devices were given back, holds at the
end of every run. -/
theorem run_closed {first : Moment} {motive : Moment → Prop}
    (closes : ∀ ending last, Leaves first ending last → motive last.closed)
    (keys : KeyboardState) (now pace : Int) (polls : List (List Event)) :
    motive
      ⟨(first.emulator.run keys now pace polls).emulator,
        first.effects ++ (first.emulator.run keys now pace polls).effects⟩ := by
  obtain ⟨last, leaves, closed⟩ := run_leaves (.first : Heads first first) keys now pace polls
  rw [← closed]
  exact closes _ last leaves

/-- The calls among the effects, in order. -/
def callsOf (effects : List Effect) : List Device.Call :=
  effects.filterMap fun
    | .device call => some call
    | .notice _ => none

theorem calls_eq_callsOf (session : Session) : session.calls = callsOf session.effects := rfl

@[simp] theorem callsOf_append (first second : List Effect) :
    callsOf (first ++ second) = callsOf first ++ callsOf second :=
  List.filterMap_append

@[simp] theorem callsOf_devices (calls : List Device.Call) : callsOf (devices calls) = calls := by
  rw [callsOf, devices, List.filterMap_map]
  exact List.filterMap_some

@[simp] theorem callsOf_notices (notes : List Log.Notice) : callsOf (notices notes) = [] := by
  rw [callsOf, notices, List.filterMap_map]
  exact List.filterMap_eq_nil_iff.mpr fun _ _ => rfl

@[simp] theorem callsOf_noteEffects (effects : List Interpreter.Effect) :
    callsOf (noteEffects effects) = [] := by
  induction effects with
  | nil => rfl
  | cons effect effects ih =>
      cases effect with
      | notice note => exact ih
      | heldQuery | keyWait => exact ih

/-- The calls by which a cleared display is shown. -/
def clearing (emulator : Emulator) : List Device.Call :=
  if emulator.interpreter.clearRequested then emulator.window.clear else []

/-- The calls by which a changed display is shown. -/
def drawing (emulator : Emulator) : Except RenderError (List Device.Call) :=
  if emulator.interpreter.displayDirty then
    emulator.window.update emulator.interpreter.machine.display (some emulator.interpreter.machine)
  else
    .ok []

theorem callsOf_cleared (emulator : Emulator) :
    callsOf (if emulator.interpreter.clearRequested then devices emulator.window.clear else []) =
      emulator.clearing := by
  rw [clearing]
  split
  · exact callsOf_devices _
  · rfl

theorem present_of_refused {emulator : Emulator} {error : RenderError}
    (refused : emulator.drawing = .error error) (keys : KeyboardState) (effects : List Effect) :
    (emulator.present keys effects).pace = .failed (.render error) := by
  rw [drawing] at refused
  simp only [present, refused]

/-- A display that cannot be shown may still have been cleared. -/
theorem present_cleared_of_refused {emulator : Emulator} {error : RenderError}
    (refused : emulator.drawing = .error error) (keys : KeyboardState) (effects : List Effect) :
    (emulator.present keys effects).emulator = emulator ∧
      callsOf (emulator.present keys effects).effects = callsOf effects ++ emulator.clearing := by
  rw [drawing] at refused
  simp only [present, refused, callsOf_append, callsOf_cleared, and_self]

theorem present_of_drawn {emulator : Emulator} {calls : List Device.Call}
    (drawn : emulator.drawing = .ok calls) (keys : KeyboardState) (effects : List Effect) :
    (emulator.present keys effects).pace = .going ∧
      (emulator.present keys effects).emulator = emulator.followSound.1 ∧
      callsOf (emulator.present keys effects).effects =
        callsOf effects ++ emulator.clearing ++ (calls ++ emulator.followSound.2) := by
  rw [drawing] at drawn
  simp only [present, drawn, callsOf_append, callsOf_devices, callsOf_cleared, and_self]

/-- The cycle of a turn. -/
def cycled (emulator : Emulator) (keys : KeyboardState) (now : Int) :
    Interpreter.Turn KeyboardState :=
  emulator.interpreter.cycle Keyboard.standard.keypad keys emulator.cancelled now

/-- The emulator after the cycle of a turn, before anything is shown of it. -/
def afterCycle (emulator : Emulator) (keys : KeyboardState) (now : Int) : Emulator :=
  { emulator with
    interpreter := (emulator.cycled keys now).interpreter
    cancelled := (emulator.cycled keys now).cancelled }

theorem turn_of_fault {emulator : Emulator} {keys : KeyboardState} {now : Int}
    {fault : Interpreter.Fault} (faulted : (emulator.cycled keys now).fault = some fault) :
    (emulator.turn keys now).emulator = emulator.afterCycle keys now ∧
      callsOf (emulator.turn keys now).effects = [] := by
  rw [cycled] at faulted
  cases fault with
  | waitCancelled pc =>
      simp only [turn, faulted, callsOf_append, callsOf_noteEffects, callsOf_notices,
        List.nil_append, and_true]
      rfl
  | endOfMemory pc | keyOutOfRange key =>
      simp only [turn, faulted, callsOf_noteEffects, and_true]
      rfl

theorem turn_of_completed {emulator : Emulator} {keys : KeyboardState} {now : Int}
    (completed : (emulator.cycled keys now).fault = none) :
    emulator.turn keys now =
      (emulator.afterCycle keys now).present (emulator.cycled keys now).pad
        (noteEffects (emulator.cycled keys now).effects) := by
  rw [cycled] at completed
  simp only [turn, completed]
  rfl

/-- A turn goes on only after a cycle that did not fail and of which all could be shown. -/
theorem exists_drawn_of_going {emulator : Emulator} {keys : KeyboardState} {now : Int}
    (going : (emulator.turn keys now).pace = .going) :
    (emulator.cycled keys now).fault = none ∧
      ∃ calls, (emulator.afterCycle keys now).drawing = .ok calls := by
  cases ending : (emulator.cycled keys now).fault with
  | some fault =>
      rw [cycled] at ending
      cases fault with
      | waitCancelled pc | endOfMemory pc | keyOutOfRange key =>
          simp only [turn, ending, reduceCtorEq] at going
  | none =>
      refine ⟨rfl, ?_⟩
      cases drawn : (emulator.afterCycle keys now).drawing with
      | error error =>
          rw [turn_of_completed ending, present_of_refused drawn] at going
          contradiction
      | ok calls => exact ⟨calls, rfl⟩

end Chip8.Emulator
