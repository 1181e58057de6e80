import Chip8.Text.Numeral

namespace Chip8

/-! Failures that end a program run and are reported to the user. Their kinds form
a tree, a kind below another being a case of it. -/

inductive Failure.Kind where
  | general
  | unreadableProgram
  | oversizedProgram
  | counterOverflow
  | waitCancelled
deriving DecidableEq, Repr

/-- The kind and those it is a case of, the most special first. -/
def Failure.Kind.lineage : Failure.Kind → List Failure.Kind
  | general => [general]
  | unreadableProgram => [unreadableProgram, general]
  | oversizedProgram => [oversizedProgram, unreadableProgram, general]
  | counterOverflow => [counterOverflow, general]
  | waitCancelled => [waitCancelled, general]

structure Failure where
  kind : Failure.Kind
  message : String
  pc : Option Int
deriving DecidableEq, Repr

/-- The message, and where the program was if that is known. -/
def Failure.text (failure : Failure) : String :=
  match failure.pc with
  | some pc => failure.message ++ " (pc=0x" ++ Numeral.hex 4 pc ++ ")"
  | none => failure.message

end Chip8
