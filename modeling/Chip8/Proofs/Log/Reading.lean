import Chip8.Log.Notice
import Chip8.Proofs.Instruction.Meaning
import Chip8.Proofs.Text.Numeral
import Mathlib.Data.List.Basic

namespace Chip8.Log

open Numeral (value value_hexNat isDigit_of_mem_hexNat isDigit_of_mem_digits mem_padLeft)

/-! A log is read back. Behind its stamp, which ends with the first closing bracket, a line begins
with the head that the logger puts on all lines of the level. A trace that is read on from there
yields the address and the word that it was written for, and no line of another level reads as
a trace. -/

variable {logger : Logger} {now : Float} {line : Line} {notice : Notice} {mark : Char}
  {field rest : List Char}

/-- The lines that a logger writes of notices, each told at its own time. -/
def Logger.lines (logger : Logger) (told : List (Float × Notice)) : List Line :=
  told.filterMap fun (now, notice) => logger.notice? now notice

/-- A word that was fetched, and where from. -/
structure Fetch where
  pc : UInt16
  word : UInt16
deriving DecidableEq, Repr

def Notice.fetch? : Notice → Option Fetch
  | fetched pc word => some ⟨pc, word⟩
  | _ => none

/-- The notice is no other than a trace if it is told at the level of traces. -/
def Notice.Legible (notice : Notice) : Prop := notice.level = .debug → notice.fetch? ≠ none

/-- What stands before the first mark, and what stands behind it. -/
def cutAt (mark : Char) (text : List Char) : List Char × List Char :=
  (text.takeWhile (· ≠ mark), (text.dropWhile (· ≠ mark)).tail)

theorem cutAt_append (outside : mark ∉ field) :
    cutAt mark (field ++ mark :: rest) = (field, rest) := by
  have inside : ∀ c ∈ field, decide (c ≠ mark) = true := fun c member =>
    decide_eq_true fun same => outside (same ▸ member)
  rw [cutAt, List.takeWhile_append_of_pos inside, List.dropWhile_append_of_pos inside]
  simp

namespace Logger

/-- What stands between the stamp of a line and its message. -/
def head (logger : Logger) (level : Level) : String :=
  logger.levelText level.name ++ "[" ++ logger.name ++ "] "

def unstamped (logger : Logger) (line : Line) : List Char :=
  if logger.stamped then (cutAt ']' line.text.toList).2 else line.text.toList

/-- The fetch that a line tells of, if it is a trace. -/
def fetch? (logger : Logger) (line : Line) : Option Fetch :=
  ((logger.unstamped line).dropPrefix? (logger.head .debug ++ "0x").toList).map fun message =>
    let (pc, instruction) := cutAt ':' message
    let (word, _) := cutAt ' ' instruction.tail
    ⟨UInt16.ofNat (value 16 pc), UInt16.ofNat (value 16 word)⟩

end Logger

theorem not_mem_fixed (places : Nat) (value : Float) : ']' ∉ (Text.fixed places value).toList := by
  have numeral : ∀ n, ']' ∉ Numeral.digits 10 n := fun n member =>
    (isDigit_of_mem_digits (by decide) (by decide) member).ne (by decide) rfl
  have sign : ∀ negative, ']' ∉ (Text.signText negative).toList := by decide
  rw [Text.fixed]
  cases Text.Binary.ofFloat value with
  | finite negative mantissa exponent =>
      simp only [String.toList_append, List.mem_append, Numeral.decimalNat, String.toList_ofList,
        not_or]
      refine ⟨⟨⟨sign negative, numeral _⟩, by decide⟩, fun member => ?_⟩
      exact (mem_padLeft member).elim (by decide) (numeral _)
  | infinite negative =>
      rw [String.toList_append, List.mem_append, not_or]
      exact ⟨sign negative, by decide⟩
  | undefined => exact (by decide : ']' ∉ "nan".toList)

theorem exists_stampText (stamped : logger.stamped = true) (now : Float) :
    ∃ inner, ']' ∉ inner ∧ (logger.stampText now).toList = inner ++ [']'] := by
  generalize stamp : Text.alignRight 8 (Text.fixed 2 (now - logger.start)) = seconds
  have outside : ']' ∉ seconds.toList := by
    rw [← stamp, Text.alignRight, String.toList_append, List.mem_append, not_or,
      String.toList_ofList]
    exact ⟨fun blank => absurd (List.eq_of_mem_replicate blank) (by decide), not_mem_fixed _ _⟩
  refine ⟨('[' :: seconds.toList) ++ ['s'], by simp [outside], ?_⟩
  rw [Logger.stampText, if_pos stamped, stamp]
  simp

theorem unstamped_line (written : logger.notice? now notice = some line) :
    logger.unstamped line =
      (logger.head notice.level).toList ++ (notice.text.toList ++ ['\n']) := by
  have text : line.text.toList = (logger.stampText now).toList ++
      ((logger.head notice.level).toList ++ (notice.text.toList ++ ['\n'])) := by
    rw [Logger.notice?, Logger.line?] at written
    split at written
    · cases written
      simp [Logger.format, Logger.head]
    · contradiction
  rw [Logger.unstamped, text]
  split
  next stamped =>
    obtain ⟨inner, outside, stamp⟩ := exists_stampText stamped now
    rw [stamp, List.append_assoc, List.singleton_append, cutAt_append outside]
  next bare =>
    rw [Logger.stampText, if_neg bare]
    rfl

theorem fetch?_fetched {pc word : UInt16}
    (written : logger.notice? now (.fetched pc word) = some line) :
    logger.fetch? line = some ⟨pc, word⟩ := by
  have noColon : ':' ∉ (Numeral.hexNat 3 pc.toNat).toList := fun member =>
    (isDigit_of_mem_hexNat member).ne (by decide) rfl
  have noBlank : ' ' ∉ (Numeral.hexNat 4 word.toNat).toList := fun member =>
    (isDigit_of_mem_hexNat member).ne (by decide) rfl
  have text : logger.unstamped line = (logger.head .debug ++ "0x").toList ++
      ((Numeral.hexNat 3 pc.toNat).toList ++ ':' :: ' ' ::
        ((Numeral.hexNat 4 word.toNat).toList ++ ' ' :: ' ' ::
          ((Instruction.ofWord word).text.toList ++ ['\n']))) := by
    have message : (Notice.fetched pc word).text =
        "0x" ++ Numeral.hexNat 3 pc.toNat ++ ": " ++ Numeral.hexNat 4 word.toNat ++ "  " ++
          (Instruction.ofWord word).text := by
      rw [Instruction.ofWord, ← Instruction.disassemble_eq_text]
      rfl
    have colon : ": ".toList = [':', ' '] := rfl
    have blanks : "  ".toList = [' ', ' '] := rfl
    rw [unstamped_line written, message]
    simp only [Notice.level, String.toList_append, colon, blanks, List.append_assoc,
      List.cons_append, List.nil_append]
  rw [Logger.fetch?, text, List.dropPrefix?_append_of_beq _ BEq.rfl]
  simp only [Option.map_some, cutAt_append noColon, List.tail_cons, cutAt_append noBlank,
    value_hexNat, UInt16.ofNat_toNat]

theorem length_levelText (logger : Logger) (level : Level) :
    (logger.levelText level.name).toList.length = if logger.colored then 19 else 10 := by
  rw [Logger.levelText]
  cases logger.colored <;> cases level <;> decide +kernel

theorem levelText_ne {level : Level} (other : level ≠ .debug) :
    (logger.levelText level.name).toList ≠ (logger.levelText Level.debug.name).toList := by
  rw [Logger.levelText, Logger.levelText]
  cases level with
  | debug => contradiction
  | _ => cases logger.colored <;> decide +kernel

theorem fetch?_of_level_ne (other : notice.level ≠ .debug)
    (written : logger.notice? now notice = some line) : logger.fetch? line = none := by
  rw [Logger.fetch?, Option.map_eq_none_iff, Option.eq_none_iff_forall_ne_some]
  intro message found
  obtain ⟨start, text, same⟩ := List.dropPrefix?_eq_some_iff.mp found
  rw [eq_of_beq same, unstamped_line written, Logger.head, Logger.head] at text
  simp only [String.toList_append, List.append_assoc] at text
  -- The two lines show their levels at the same place and in the same width.
  have lengths := (length_levelText logger notice.level).trans (length_levelText logger .debug).symm
  exact levelText_ne other (List.append_inj_left text lengths)

/-- A line reads as the trace that was told, or as none if none was. -/
theorem fetch?_line (legible : notice.Legible)
    (written : logger.notice? now notice = some line) : logger.fetch? line = notice.fetch? := by
  by_cases level : notice.level = .debug
  · cases notice with
    | fetched pc word => exact fetch?_fetched written
    | fontLoaded => exact absurd rfl (legible level)
    | _ => contradiction
  · rw [fetch?_of_level_ne level written]
    cases notice with
    | fetched pc word => exact absurd rfl level
    | _ => rfl

section Lines

variable {told : List (Float × Notice)}

theorem exists_line (enabled : logger.threshold = .debug) (now : Float) (notice : Notice) :
    ∃ line, logger.notice? now notice = some line := by
  have passes : logger.enabled notice.level.name = true := by
    rw [Logger.enabled, enabled]
    exact decide_eq_true (Nat.zero_le _)
  exact ⟨_, if_pos passes⟩

/-- The traces in a log, read back, are those that were told. -/
theorem filterMap_fetch?_lines (enabled : logger.threshold = .debug)
    (legible : ∀ notice ∈ told.map Prod.snd, notice.Legible) :
    (logger.lines told).filterMap logger.fetch? =
      (told.map Prod.snd).filterMap Notice.fetch? := by
  rw [Logger.lines, List.filterMap_filterMap, List.filterMap_map]
  refine List.filterMap_congr fun (now, notice) member => ?_
  obtain ⟨line, written⟩ := exists_line enabled now notice
  change (logger.notice? now notice).bind logger.fetch? = notice.fetch?
  rw [written]
  exact fetch?_line (legible notice (List.mem_map_of_mem member)) written

/-- A log without its traces is the log of what else was told. -/
theorem filter_lines
    (legible : ∀ notice ∈ told.map Prod.snd, notice.Legible) :
    (logger.lines told).filter (fun line => (logger.fetch? line).isNone) =
      logger.lines (told.filter fun (_, notice) => notice.fetch?.isNone) := by
  rw [Logger.lines, Logger.lines, List.filter_filterMap, List.filterMap_filter]
  refine List.filterMap_congr fun (now, notice) member => ?_
  change (logger.notice? now notice).filter _ =
    if notice.fetch?.isNone then logger.notice? now notice else none
  cases written : logger.notice? now notice with
  | none => rw [Option.filter_none, ite_self]
  | some line =>
      rw [Option.filter_some, fetch?_line (legible notice (List.mem_map_of_mem member)) written]

end Lines

end Chip8.Log
