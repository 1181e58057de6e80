import Chip8.Keypad.Basic

namespace Chip8

/-! A keyboard as a key pad. A layout sends key codes to pad keys; the way back
from a pad key is the last code that the layout sends there. Reserved codes end a
wait. -/

inductive Event where
  | quit
  | keyDown (code : Int)
  | other
deriving DecidableEq, Repr

/-- Pairs of a code and a key, at most one for each code. -/
structure Layout where
  pairs : List (Int × Int)
  distinct : (pairs.map Prod.fst).Nodup
deriving DecidableEq, Repr

namespace Layout

/-- A code that is there already keeps its place and gets the new key. -/
def insertPair (pairs : List (Int × Int)) (code key : Int) : List (Int × Int) :=
  match pairs with
  | [] => [(code, key)]
  | (other, old) :: rest =>
      if other = code then (code, key) :: rest
      else (other, old) :: insertPair rest code key

theorem mem_insertPair {pairs : List (Int × Int)} {code key : Int} {pair : Int × Int}
    (among : pair ∈ insertPair pairs code key) : pair = (code, key) ∨ pair ∈ pairs := by
  induction pairs with
  | nil => exact .inl (List.mem_singleton.mp among)
  | cons first rest ih =>
      rw [insertPair] at among
      split at among
      · rcases List.mem_cons.mp among with same | behind
        · exact .inl same
        · exact .inr (List.mem_cons_of_mem first behind)
      · rcases List.mem_cons.mp among with same | behind
        · exact .inr (List.mem_cons.mpr (.inl same))
        · exact (ih behind).imp_right (List.mem_cons_of_mem first)

theorem nodup_insertPair {pairs : List (Int × Int)} (distinct : (pairs.map Prod.fst).Nodup)
    (code key : Int) : ((insertPair pairs code key).map Prod.fst).Nodup := by
  induction pairs with
  | nil => exact List.nodup_cons.mpr ⟨List.not_mem_nil, List.nodup_nil⟩
  | cons first rest ih =>
      rw [List.map_cons, List.nodup_cons] at distinct
      obtain ⟨fresh, distinct⟩ := distinct
      rw [insertPair]
      split
      · rename_i same
        rw [List.map_cons, List.nodup_cons, ← same]
        exact ⟨fresh, distinct⟩
      · rename_i differs
        rw [List.map_cons, List.nodup_cons]
        refine ⟨fun again => ?_, ih distinct⟩
        obtain ⟨pair, among, same⟩ := List.mem_map.mp again
        rcases mem_insertPair among with rfl | behind
        · exact differs same.symm
        · exact fresh (List.mem_map.mpr ⟨pair, behind, same⟩)

def empty : Layout := ⟨[], List.nodup_nil⟩

def insert (layout : Layout) (code key : Int) : Layout :=
  ⟨insertPair layout.pairs code key, nodup_insertPair layout.distinct code key⟩

def ofPairs (pairs : List (Int × Int)) : Layout :=
  pairs.foldl (fun layout pair => layout.insert pair.1 pair.2) empty

def key? (layout : Layout) (code : Int) : Option Int :=
  (layout.pairs.find? fun pair => pair.1 == code).map (·.2)

def code? (layout : Layout) (key : Int) : Option Int :=
  (layout.pairs.reverse.find? fun pair => pair.2 == key).map (·.1)

def codeOf (c : Char) : Int := c.toNat

/-- The pad lies on the left of the keyboard, one row on each of its rows:
`1 2 3 C` on the digits, `4 5 6 D`, `7 8 9 E` and `A 0 B F` below. -/
def standard : Layout :=
  ofPairs
    [(codeOf '1', 0x1), (codeOf '2', 0x2), (codeOf '3', 0x3), (codeOf '4', 0xC),
     (codeOf 'q', 0x4), (codeOf 'w', 0x5), (codeOf 'e', 0x6), (codeOf 'r', 0xD),
     (codeOf 'a', 0x7), (codeOf 's', 0x8), (codeOf 'd', 0x9), (codeOf 'f', 0xE),
     (codeOf 'z', 0xA), (codeOf 'x', 0x0), (codeOf 'c', 0xB), (codeOf 'v', 0xF)]

end Layout

structure Keyboard where
  layout : Layout
  reserved : List Int
deriving DecidableEq, Repr

/-- Which codes are held, and the events that a wait will meet. When the events
are used up, the next one is a request to quit. -/
structure KeyboardState where
  held : List Int
  events : List Event
deriving DecidableEq, Repr

namespace Keyboard

def escape : Int := 27

def capsLock : Int := 1073741881

def standard : Keyboard := ⟨Layout.standard, [escape, capsLock]⟩

def isPressed (keyboard : Keyboard) (held : List Int) (key : Int) : Bool :=
  match keyboard.layout.code? key with
  | some code => held.contains code
  | none => false

/-- What an event does to a wait: nothing, or it ends it. -/
def answer? (keyboard : Keyboard) : Event → Option KeyAnswer
  | .quit => some ⟨none, true⟩
  | .keyDown code =>
      if keyboard.reserved.contains code then some ⟨none, true⟩
      else (keyboard.layout.key? code).map fun key => ⟨some key, false⟩
  | .other => none

/-- The answer of the first event that ends the wait, and the events after it. -/
def await (keyboard : Keyboard) : List Event → KeyAnswer × List Event
  | [] => (⟨none, true⟩, [])
  | event :: rest =>
      match keyboard.answer? event with
      | some answer => (answer, rest)
      | none => await keyboard rest

/-- A wait that was cancelled before it began looks at no event. -/
def awaitUnless (keyboard : Keyboard) (cancelled : Bool) (events : List Event) :
    KeyAnswer × List Event :=
  if cancelled then (⟨none, true⟩, events) else keyboard.await events

def keypad (keyboard : Keyboard) : Keypad KeyboardState where
  held := fun state =>
    (Vector.ofFn fun key : Key => keyboard.isPressed state.held key.val, state)
  await := fun state =>
    let (answer, rest) := keyboard.await state.events
    (answer, { state with events := rest })

end Keyboard

end Chip8
