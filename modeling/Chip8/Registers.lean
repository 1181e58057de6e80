namespace Chip8

/-! The sixteen byte registers. -/

abbrev Register := Fin 16

abbrev Registers := Vector UInt8 16

/-- The register that carries flags. -/
def flagRegister : Register := ⟨15, by decide⟩

/-- The register that is added to the target of an offset jump. -/
def offsetRegister : Register := ⟨0, by decide⟩

namespace Registers

def put (registers : Registers) (x : Register) (value : UInt8) : Registers :=
  registers.set x value

/-- From two banks of registers, those of the first that are marked and else those of
the second. -/
def choose (marked : Vector Bool 16) (first second : Registers) : Registers :=
  Vector.ofFn fun register =>
    if marked.get register then first.get register else second.get register

@[simp] theorem get_put (registers : Registers) (x y : Register) (value : UInt8) :
    (registers.put x value).get y = if x = y then value else registers.get y := by
  change (registers.set x value)[y.val] = if x = y then value else registers[y.val]
  simp only [Vector.getElem_set, Fin.ext_iff]

/-- The values of the registers up to `x`. -/
theorem length_take (registers : Registers) (x : Register) :
    (registers.toList.take (x.val + 1)).length = x.val + 1 := by
  rw [List.length_take, Vector.length_toList]
  exact Nat.min_eq_left x.isLt

end Registers

end Chip8
