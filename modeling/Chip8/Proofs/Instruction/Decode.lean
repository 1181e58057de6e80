import Chip8.Proofs.Instruction.Meaning

namespace Chip8.Instruction

/-! Words put together from their nibbles decode to the instruction of those nibbles. The
instructions that look at the keys are decoded from two families of words only. -/

/-- The word of four nibbles, the first of which names its family. -/
def word (family x y n : Fin 16) : UInt16 :=
  UInt16.ofNat (0x1000 * family.val + 0x100 * x.val + 0x10 * y.val + n.val)

theorem toNat_word (family x y n : Fin 16) :
    (word family x y n).toNat =
      0x1000 * family.val + 0x100 * x.val + 0x10 * y.val + n.val :=
  UInt16.toNat_ofNat_of_lt' (show _ < 65536 by omega)

theorem toNat_word_div (family x y n : Fin 16) :
    (word family x y n).toNat / 0x1000 = family.val := by
  rw [toNat_word]
  omega

theorem fields_word (family x y n : Fin 16) :
    Fields.ofInt (word family x y n).toNat =
      { raw := (word family x y n).toNat
        family := family
        x := x
        y := y
        n := n
        nn := UInt8.ofNat (0x10 * y.val + n.val)
        nnn := Fin.ofNat 4096 (0x100 * x.val + 0x10 * y.val + n.val) } := by
  have whole : (((word family x y n).toNat : Int) % 65536).toNat =
      0x1000 * family.val + 0x100 * x.val + 0x10 * y.val + n.val := by
    rw [toNat_word]
    omega
  simp only [Fields.ofInt, whole, Fields.mk.injEq, true_and, Fin.ext_iff, Fin.ofNat,
    ← UInt8.toNat_inj, UInt8.toNat_ofNat']
  omega

theorem toNat_family (word : UInt16) :
    (Fields.ofInt word.toNat).family.val = word.toNat / 0x1000 := by
  have bound : word.toNat < 65536 := word.toNat_lt
  change ((word.toNat : Int) % 65536).toNat / 4096 % 16 = _
  omega

theorem toNat_nn (word : UInt16) :
    (Fields.ofInt word.toNat).nn.toNat = word.toNat % 0x100 := by
  have bound : word.toNat < 65536 := word.toNat_lt
  change ((word.toNat : Int) % 65536).toNat % 256 = _
  omega

/-- A word means what its nibbles mean. -/
theorem ofWord_word (family x y n : Fin 16) :
    ofWord (word family x y n) =
      ofFields
        { raw := (word family x y n).toNat
          family := family
          x := x
          y := y
          n := n
          nn := UInt8.ofNat (0x10 * y.val + n.val)
          nnn := Fin.ofNat 4096 (0x100 * x.val + 0x10 * y.val + n.val) } :=
  congrArg ofFields (fields_word family x y n)

theorem ofWord_arithmetic {operation : Arithmetic} (x y n : Fin 16)
    (selected : Arithmetic.ofSelector? n.val = some operation) :
    ofWord (word ⟨0x8, by decide⟩ x y n) = .arithmetic operation x y := by
  simp only [ofWord_word, ofFields, selected]

theorem ofWord_random (x y n : Fin 16) :
    ofWord (word ⟨0xC, by decide⟩ x y n) = .random x (UInt8.ofNat (0x10 * y.val + n.val)) :=
  ofWord_word _ x y n

theorem ofWord_draw (x y n : Fin 16) : ofWord (word ⟨0xD, by decide⟩ x y n) = .draw x y n :=
  ofWord_word _ x y n

theorem ofWord_skipIfHeld (x : Fin 16) :
    ofWord (word ⟨0xE, by decide⟩ x ⟨0x9, by decide⟩ ⟨0xE, by decide⟩) = .skipIfHeld x :=
  ofWord_word _ x _ _

theorem ofWord_skipUnlessHeld (x : Fin 16) :
    ofWord (word ⟨0xE, by decide⟩ x ⟨0xA, by decide⟩ ⟨0x1, by decide⟩) = .skipUnlessHeld x :=
  ofWord_word _ x _ _

theorem ofWord_awaitKey (x : Fin 16) :
    ofWord (word ⟨0xF, by decide⟩ x ⟨0x0, by decide⟩ ⟨0xA, by decide⟩) = .awaitKey x :=
  ofWord_word _ x _ _

theorem ofWord_decimal (x : Fin 16) :
    ofWord (word ⟨0xF, by decide⟩ x ⟨0x3, by decide⟩ ⟨0x3, by decide⟩) = .decimal x :=
  ofWord_word _ x _ _

theorem ofWord_store (x : Fin 16) :
    ofWord (word ⟨0xF, by decide⟩ x ⟨0x5, by decide⟩ ⟨0x5, by decide⟩) = .store x :=
  ofWord_word _ x _ _

theorem ofWord_fill (x : Fin 16) :
    ofWord (word ⟨0xF, by decide⟩ x ⟨0x6, by decide⟩ ⟨0x5, by decide⟩) = .fill x :=
  ofWord_word _ x _ _

/-- What the instruction does depends on the keys that are held. -/
def readsKeys : Instruction → Bool
  | skipIfHeld _ | skipUnlessHeld _ | awaitKey _ => true
  | _ => false

theorem family_of_readsKeys {fields : Fields} (reads : (ofFields fields).readsKeys = true) :
    fields.family.val = 0xE ∨ fields.family.val = 0xF ∧ fields.nn = 0x0A := by
  obtain ⟨raw, family, x, y, n, nn, nnn⟩ := fields
  have bound : family.val < 16 := family.isLt
  change family.val = 0xE ∨ family.val = 0xF ∧ nn = 0x0A
  simp only [ofFields] at reads
  split at reads
  case h_15 skips => exact .inl skips
  case h_16 =>
    have last : family.val = 0xF := by grind
    refine .inr ⟨last, ?_⟩
    unfold ofLastByte at reads
    split at reads
    case h_2 awaits => exact UInt8.toNat_inj.mp awaits
    all_goals contradiction
  case h_1 =>
    split at reads
    · contradiction
    · split at reads <;> contradiction
  case h_6 | h_9 | h_10 => split at reads <;> contradiction
  all_goals contradiction

end Chip8.Instruction
