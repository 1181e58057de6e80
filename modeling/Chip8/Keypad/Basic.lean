import Chip8.Machine.Basic

namespace Chip8

/-! A source of keys as the interpreter sees it. What the keys do over time is a
state of any type; the interpreter asks which keys are held, or waits for the next
press. A wait also tells whether it was cancelled while it lasted. -/

/-- How a wait ended: the key if there was one, and whether it was cancelled. -/
structure KeyAnswer where
  key : Option Int
  cancelled : Bool
deriving DecidableEq, Repr

structure Keypad (σ : Type) where
  held : σ → Keys × σ
  await : σ → KeyAnswer × σ

/-- No key is ever held and every wait is cancelled at once. -/
def Keypad.unattached : Keypad Unit where
  held := fun state => (Keys.empty, state)
  await := fun state => (⟨none, true⟩, state)

end Chip8
