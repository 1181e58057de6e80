namespace Chip8

/-! How large a picture or a tone can be. Counts are signed 64-bit numbers, sizes in
bytes stay below 2^63, and what is smaller may still be more than there is room for. -/

inductive CapacityError where
  | count
  | size
  | memory
deriving DecidableEq, Repr

namespace Capacity

abbrev countLimit : Nat := 0x8000000000000000

def isCount (value : Int) : Bool :=
  decide (-(countLimit : Int) ≤ value ∧ value < countLimit)

def checkCount (value : Int) : Except CapacityError Unit :=
  if isCount value then .ok () else .error .count

/-- Make an array of so many bytes where there is room for `room` of them. -/
def checkBytes (room bytes : Nat) : Except CapacityError Unit :=
  if countLimit ≤ bytes then .error .size
  else if room < bytes then .error .memory
  else .ok ()

/-- An array of so many bytes can be made where there is room for `room` of them. -/
def Fits (room bytes : Nat) : Prop := bytes < countLimit ∧ bytes ≤ room

instance (room bytes : Nat) : Decidable (Fits room bytes) := inferInstanceAs (Decidable (_ ∧ _))

variable {room bytes : Nat}

theorem Fits.of_le {fewer : Nat} (fits : Fits room bytes) (le : fewer ≤ bytes) :
    Fits room fewer :=
  ⟨Nat.lt_of_le_of_lt le fits.1, Nat.le_trans le fits.2⟩

theorem checkBytes_of_fits (fits : Fits room bytes) : checkBytes room bytes = .ok () := by
  rw [checkBytes, if_neg (Nat.not_le_of_lt fits.1), if_neg (Nat.not_lt_of_le fits.2)]

theorem checkBytes_of_not_fits (exceeds : ¬ Fits room bytes) :
    ∃ cause, checkBytes room bytes = .error cause := by
  rw [checkBytes]
  split
  · exact ⟨_, rfl⟩
  · rename_i countable
    have larger : room < bytes := Nat.lt_of_not_le fun inside =>
      exceeds ⟨Nat.lt_of_not_le countable, inside⟩
    exact ⟨_, if_pos larger⟩

end Capacity

end Chip8
