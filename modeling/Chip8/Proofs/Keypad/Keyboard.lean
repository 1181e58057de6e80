import Chip8.Proofs.Keypad.Layout

namespace Chip8.Keyboard

/-! The two ways in which a keyboard serves as a key pad. A wait ends at the first event that
decides it and takes the events up to there. A query for held keys goes from a key back to one
code, while a wait goes from a code to its key; the two agree about a key exactly if it has one
code. -/

variable {keyboard : Keyboard} {event : Event} {answer : KeyAnswer} {code key : Int}

/-- The event is a request to quit, or a press of a code that is reserved or has a key. -/
def Decides (keyboard : Keyboard) : Event → Prop
  | .quit => True
  | .keyDown code => code ∈ keyboard.reserved ∨ ∃ key, (code, key) ∈ keyboard.layout.pairs
  | .other => False

instance : DecidablePred keyboard.Decides
  | .quit => inferInstanceAs (Decidable True)
  | .keyDown code =>
      inferInstanceAs (Decidable (code ∈ keyboard.reserved ∨
        ∃ key, (code, key) ∈ keyboard.layout.pairs))
  | .other => inferInstanceAs (Decidable False)

/-- What a wait answers to the event that ends it. A code that is reserved cancels the wait
also if it has a key. -/
inductive Settles (keyboard : Keyboard) : Event → KeyAnswer → Prop
  | pressed {code key : Int} (free : code ∉ keyboard.reserved)
      (mapped : (code, key) ∈ keyboard.layout.pairs) :
      Settles keyboard (.keyDown code) ⟨some key, false⟩
  | reserved {code : Int} (reserved : code ∈ keyboard.reserved) :
      Settles keyboard (.keyDown code) ⟨none, true⟩
  | quit : Settles keyboard .quit ⟨none, true⟩

theorem Settles.decides (settled : keyboard.Settles event answer) : keyboard.Decides event := by
  cases settled with
  | pressed free mapped => exact .inr ⟨_, mapped⟩
  | reserved reserved => exact .inl reserved
  | quit => trivial

theorem answer?_eq_some_iff :
    keyboard.answer? event = some answer ↔ keyboard.Settles event answer := by
  constructor
  · intro answered
    cases event with
    | quit =>
        cases answered
        exact .quit
    | other => contradiction
    | keyDown code =>
        rw [answer?] at answered
        split at answered
        · rename_i reserved
          cases answered
          exact .reserved (List.contains_iff_mem.mp reserved)
        · rename_i free
          obtain ⟨key, mapped, rfl⟩ := Option.map_eq_some_iff.mp answered
          exact .pressed (fun reserved => free (List.contains_iff_mem.mpr reserved))
            (Layout.mem_pairs_of_key? mapped)
  · intro settled
    cases settled with
    | quit => rfl
    | reserved reserved => rw [answer?, if_pos (List.contains_iff_mem.mpr reserved)]
    | pressed free mapped =>
        rw [answer?, if_neg (fun listed => free (List.contains_iff_mem.mp listed)),
          Layout.key?_of_mem_pairs mapped]
        rfl

theorem Decides.exists_settles (decides : keyboard.Decides event) :
    ∃ answer, keyboard.Settles event answer := by
  cases event with
  | quit => exact ⟨_, .quit⟩
  | other => exact absurd decides id
  | keyDown code =>
      by_cases reserved : code ∈ keyboard.reserved
      · exact ⟨_, .reserved reserved⟩
      · obtain ⟨key, mapped⟩ := decides.resolve_left reserved
        exact ⟨_, .pressed reserved mapped⟩

theorem answer?_of_not_decides (idle : ¬ keyboard.Decides event) :
    keyboard.answer? event = none := by
  cases answered : keyboard.answer? event with
  | none => rfl
  | some answer => exact absurd (answer?_eq_some_iff.mp answered).decides idle

theorem await_of_not_decides (idle : ¬ keyboard.Decides event) (events : List Event) :
    keyboard.await (event :: events) = keyboard.await events := by
  rw [await, answer?_of_not_decides idle]

theorem await_of_settles (settled : keyboard.Settles event answer) (events : List Event) :
    keyboard.await (event :: events) = (answer, events) := by
  rw [await, answer?_eq_some_iff.mpr settled]

/-- Events that decide nothing are passed over. -/
theorem await_append {passed : List Event} (idle : ∀ event ∈ passed, ¬ keyboard.Decides event)
    (events : List Event) : keyboard.await (passed ++ events) = keyboard.await events := by
  induction passed with
  | nil => rfl
  | cons event passed ih =>
      rw [List.cons_append, await_of_not_decides (idle event List.mem_cons_self)]
      exact ih fun later member => idle later (List.mem_cons_of_mem event member)

theorem exists_first {events : List Event} (decided : ∃ event ∈ events, keyboard.Decides event) :
    ∃ passed event left, events = passed ++ event :: left ∧
      (∀ earlier ∈ passed, ¬ keyboard.Decides earlier) ∧ keyboard.Decides event := by
  induction events with
  | nil =>
      obtain ⟨event, member, -⟩ := decided
      contradiction
  | cons first rest ih =>
      by_cases decides : keyboard.Decides first
      · exact ⟨[], first, rest, rfl, fun earlier none => absurd none List.not_mem_nil, decides⟩
      · obtain ⟨event, member, later⟩ := decided
        rcases List.mem_cons.mp member with rfl | behind
        · contradiction
        · obtain ⟨passed, event, left, split, idle, last⟩ := ih ⟨event, behind, later⟩
          exact ⟨first :: passed, event, left, by rw [split, List.cons_append],
            List.forall_mem_cons.mpr ⟨decides, idle⟩, last⟩

/-- A wait sees the events that decide and no others. -/
theorem await_filter (keyboard : Keyboard) (events : List Event) :
    keyboard.await (events.filter (keyboard.Decides ·)) =
      ((keyboard.await events).1, (keyboard.await events).2.filter (keyboard.Decides ·)) := by
  induction events with
  | nil => rfl
  | cons event rest ih =>
      by_cases decides : keyboard.Decides event
      · obtain ⟨answer, settled⟩ := decides.exists_settles
        rw [List.filter_cons, if_pos (decide_eq_true decides), await_of_settles settled,
          await_of_settles settled]
      · rw [List.filter_cons, if_neg (mt of_decide_eq_true decides), await_of_not_decides decides,
          ih]

/-- A wait with a token that is not cancelled ends at the first event that decides it and takes
exactly the events up to there; its answer is what this event settles. With a cancelled token
it takes none. Events that decide nothing can be left out or put in anywhere. -/
theorem wait_ends_at_first_deciding_event (keyboard : Keyboard) :
    (∀ events, (∃ event ∈ events, keyboard.Decides event) →
      ∃ passed event left answer, events = passed ++ event :: left ∧
        (∀ earlier ∈ passed, ¬ keyboard.Decides earlier) ∧ keyboard.Decides event ∧
        keyboard.Settles event answer ∧
        keyboard.awaitUnless false events = (answer, left)) ∧
    (∀ events, keyboard.awaitUnless true events = (⟨none, true⟩, events)) ∧
    ∀ cancelled events,
      keyboard.awaitUnless cancelled (events.filter (keyboard.Decides ·)) =
        ((keyboard.awaitUnless cancelled events).1,
          (keyboard.awaitUnless cancelled events).2.filter (keyboard.Decides ·)) := by
  refine ⟨fun events decided => ?_, fun events => rfl, fun cancelled events => ?_⟩
  · obtain ⟨passed, event, left, rfl, idle, decides⟩ := exists_first decided
    obtain ⟨answer, settled⟩ := decides.exists_settles
    refine ⟨passed, event, left, answer, rfl, idle, decides, settled, ?_⟩
    exact (await_append idle (event :: left)).trans (await_of_settles settled left)
  · cases cancelled with
    | true => rfl
    | false => exact keyboard.await_filter events

/-- A code that is reserved and has a key ends the wait without a key. -/
example :
    (⟨.ofPairs [(27, 1)], [27]⟩ : Keyboard).awaitUnless false
        [.other, .keyDown 5, .keyDown 27, .quit] =
      (⟨none, true⟩, [.quit]) := by
  decide

/-- A press of the code is taken for the key by a wait. -/
def Accepts (keyboard : Keyboard) (code key : Int) : Prop :=
  (keyboard.await [.keyDown code]).1.key = some key

theorem accepts_iff :
    keyboard.Accepts code key ↔
      code ∉ keyboard.reserved ∧ keyboard.layout.key? code = some key := by
  constructor
  · intro accepted
    by_cases decides : keyboard.Decides (.keyDown code)
    · obtain ⟨answer, settled⟩ := decides.exists_settles
      rw [Accepts, await_of_settles settled] at accepted
      cases settled with
      | pressed free mapped =>
          cases accepted
          exact ⟨free, Layout.key?_of_mem_pairs mapped⟩
      | reserved reserved => contradiction
    · rw [Accepts, await_of_not_decides decides] at accepted
      contradiction
  · rintro ⟨free, mapped⟩
    rw [Accepts, await_of_settles (.pressed free (Layout.mem_pairs_of_key? mapped))]

theorem isPressed_eq_true_iff {held : List Int} :
    keyboard.isPressed held key = true ↔
      ∃ code ∈ held, keyboard.layout.code? key = some code := by
  rw [isPressed]
  cases back : keyboard.layout.code? key with
  | none => simp
  | some code => simp

theorem get_held (state : KeyboardState) (key : Key) :
    (keyboard.keypad.held state).1.get key = keyboard.isPressed state.held key.val :=
  Vector.getElem_ofFn key.isLt

theorem exists_held_of_isPressed {held : List Int}
    (pressed : keyboard.isPressed held key = true) :
    ∃ code ∈ held, keyboard.layout.key? code = some key := by
  obtain ⟨code, down, back⟩ := isPressed_eq_true_iff.mp pressed
  exact ⟨code, down, Layout.key?_of_code? back⟩

/-- To hold one code at a time tells whether the way back leads to every code of the key. -/
theorem agrees_iff_hasOneCode (key : Int) :
    (∀ held, keyboard.isPressed held key = true ↔
        ∃ code ∈ held, keyboard.layout.key? code = some key) ↔
      keyboard.layout.HasOneCode key := by
  rw [Layout.hasOneCode_iff]
  constructor
  · intro agrees code mapped
    obtain ⟨last, down, back⟩ :=
      isPressed_eq_true_iff.mp ((agrees [code]).mpr ⟨code, List.mem_singleton_self code, mapped⟩)
    rw [back, List.mem_singleton.mp down]
  · intro back held
    refine ⟨exists_held_of_isPressed, ?_⟩
    rintro ⟨code, down, mapped⟩
    exact isPressed_eq_true_iff.mpr ⟨code, down, back code mapped⟩

/-- A key is seen as held through the last of its codes alone. So it is seen only if one of its
codes is held; and it is seen whenever one of them is held exactly if it has no other code. For
such a key the query for held keys sees every code that a wait takes for it. -/
theorem held_keys_agree_with_waits_iff (pairs : List (Int × Int)) (reserved : List Int) :
    let keyboard : Keyboard := ⟨.ofPairs pairs, reserved⟩
    let layout := keyboard.layout
    (∀ held key, keyboard.isPressed held key = true ↔
      ∃ earlier code later, layout.pairs = earlier ++ (code, key) :: later ∧
        (∀ pair ∈ later, pair.2 ≠ key) ∧ code ∈ held) ∧
    (∀ held key, keyboard.isPressed held key = true →
      ∃ code ∈ held, layout.key? code = some key) ∧
    (∀ key, (∀ held, keyboard.isPressed held key = true ↔
        ∃ code ∈ held, layout.key? code = some key) ↔ layout.HasOneCode key) ∧
    ∀ (key : Key) code state, layout.HasOneCode key → keyboard.Accepts code key →
      code ∈ state.held → (keyboard.keypad.held state).1.get key = true := by
  intro keyboard layout
  refine ⟨fun held key => ?_, fun held key => exists_held_of_isPressed,
    agrees_iff_hasOneCode, fun key code state single accepted down => ?_⟩
  · rw [isPressed_eq_true_iff]
    constructor
    · rintro ⟨code, down, back⟩
      obtain ⟨earlier, later, split, last⟩ := Layout.code?_eq_some_iff.mp back
      exact ⟨earlier, code, later, split, last, down⟩
    · rintro ⟨earlier, code, later, split, last, down⟩
      exact ⟨code, down, Layout.code?_eq_some_iff.mpr ⟨earlier, later, split, last⟩⟩
  · rw [get_held]
    exact ((agrees_iff_hasOneCode key).mpr single state.held).mpr
      ⟨code, down, (accepts_iff.mp accepted).2⟩

/-- Of two codes for one key, the first is held: a wait would take it for the key, and yet the
key is not seen as held. -/
theorem sharedKey_is_missed :
    let keyboard : Keyboard := ⟨.ofPairs [(97, 1), (98, 1)], []⟩
    keyboard.Accepts 97 1 ∧
      ¬ (keyboard.isPressed [97] 1 = true ↔
        ∃ code ∈ [97], keyboard.layout.key? code = some 1) := by
  refine ⟨rfl, ?_⟩
  decide

/-- No two codes of the standard layout have the same key. -/
theorem hasOneCode_standard (key : Int) : Layout.standard.HasOneCode key := by
  have apart : ∀ pair ∈ Layout.standard.pairs, ∀ other ∈ Layout.standard.pairs,
      pair.2 = other.2 → pair.1 = other.1 := by decide
  intro code other mapped again
  exact apart _ (Layout.mem_pairs_of_key? mapped) _ (Layout.mem_pairs_of_key? again) rfl

theorem isPressed_standard_iff (held : List Int) (key : Int) :
    standard.isPressed held key = true ↔
      ∃ code ∈ held, Layout.standard.key? code = some key :=
  (agrees_iff_hasOneCode key).mpr (hasOneCode_standard key) held

end Chip8.Keyboard
