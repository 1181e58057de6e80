import Chip8.Display.Color
import Chip8.Emulator.Basic
import Chip8.Text.Integer
import Chip8.Text.Quoted

namespace Chip8.CommandLine

/-! The options of the command, the ways in which a command line can be wrong, and
the values that options take. -/

/-- Options that take no value. -/
inductive Switch where
  | help
  | debug
deriving DecidableEq, Repr

/-- Options that take one value. -/
inductive Setting where
  | scale
  | rate
  | scheme
  | seed
deriving DecidableEq, Repr

inductive Flag where
  | switch (switch : Switch)
  | setting (setting : Setting)
deriving DecidableEq, Repr

namespace Flag

/-- How an error names the option. -/
def title : Flag → String
  | switch .help => "-h/--help"
  | setting .scale => "-s/--scale"
  | setting .rate => "-i/--emulation-ips"
  | switch .debug => "-d/--debug"
  | setting .scheme => "--color-scheme"
  | setting .seed => "--seed"

/-- All spellings, in the order in which matches are listed. -/
def spellings : List (String × Flag) :=
  [("-h", switch .help), ("--help", switch .help),
   ("-s", setting .scale), ("--scale", setting .scale),
   ("-i", setting .rate), ("--emulation-ips", setting .rate),
   ("-d", switch .debug), ("--debug", switch .debug),
   ("--color-scheme", setting .scheme), ("--seed", setting .seed)]

def ofSpelling? (text : List Char) : Option Flag :=
  (spellings.find? fun spelling => spelling.1.toList == text).map (·.2)

end Flag

/-- The options of a run. A setting to which two dashes are attached instead of a
value is left blank. -/
structure Options where
  path : String
  scale : Option Int := some Emulator.defaultScale
  rate : Option Int := some defaultRate
  debug : Bool := false
  scheme : Option String := some "classic"
  seed : Option Int := some 0
deriving DecidableEq, Repr

/-- A text that is not a positive integer. -/
inductive NotPositive where
  | malformed (text : String)
  | tooSmall (value : Int)
deriving DecidableEq, Repr

def NotPositive.message : NotPositive → String
  | malformed text => "invalid integer: " ++ Text.quoted text
  | tooSmall value => "must be a positive integer, got " ++ Numeral.decimal value

def positive (text : String) : Except NotPositive Int :=
  match Text.integer? text with
  | none => .error (.malformed text)
  | some value => if value ≤ 0 then .error (.tooSmall value) else .ok value

inductive Problem where
  | ambiguous (word : String) (candidates : List String)
  | unwantedValue (switch : Switch) (value : String)
  | missingValue (setting : Setting)
  | notPositive (setting : Setting) (error : NotPositive)
  | badSeed (text : String)
  | badScheme (text : String)
  | missingPath
  | unrecognized (words : List String)
deriving DecidableEq, Repr

/-- The schemes on offer, in alphabetical order. -/
def schemeChoices : List String := ["amber", "blue", "classic", "green", "retro"]

namespace Problem

def argument (flag : Flag) (text : String) : String :=
  "argument " ++ flag.title ++ ": " ++ text

def message : Problem → String
  | ambiguous word candidates =>
      "ambiguous option: " ++ word ++ " could match " ++ ", ".intercalate candidates
  | unwantedValue switch value =>
      argument (.switch switch) ("ignored explicit argument " ++ Text.quoted value)
  | missingValue setting => argument (.setting setting) "expected one argument"
  | notPositive setting error => argument (.setting setting) error.message
  | badSeed text => argument (.setting .seed) ("invalid int value: " ++ Text.quoted text)
  | badScheme text =>
      argument (.setting .scheme)
        ("invalid choice: " ++ Text.quoted text ++ " (choose from " ++
          ", ".intercalate (schemeChoices.map Text.quoted) ++ ")")
  | missingPath => "the following arguments are required: rom_path"
  | unrecognized words => "unrecognized arguments: " ++ " ".intercalate words

end Problem

/-- Why no program is run. -/
inductive Stop where
  | help
  | problem (problem : Problem)
deriving DecidableEq, Repr

/-- What is known while the command line is being read. -/
structure Draft where
  path : Option String := none
  scale : Option Int := some Emulator.defaultScale
  rate : Option Int := some defaultRate
  debug : Bool := false
  scheme : Option String := some "classic"
  seed : Option Int := some 0
  unrecognized : List String := []

namespace Draft

def positiveFor (setting : Setting) (text : String) : Except Stop Int :=
  match positive text with
  | .ok value => .ok value
  | .error error => .error (.problem (.notPositive setting error))

def blank (draft : Draft) : Setting → Draft
  | .scale => { draft with scale := none }
  | .rate => { draft with rate := none }
  | .scheme => { draft with scheme := none }
  | .seed => { draft with seed := none }

def assign (draft : Draft) (setting : Setting) (text : String) : Except Stop Draft :=
  match setting with
  | .scale => (positiveFor .scale text).map fun value => { draft with scale := some value }
  | .rate => (positiveFor .rate text).map fun value => { draft with rate := some value }
  | .scheme =>
      if schemeChoices.contains text then .ok { draft with scheme := some text }
      else .error (.problem (.badScheme text))
  | .seed =>
      match Text.integer? text with
      | some value => .ok { draft with seed := some value }
      | none => .error (.problem (.badSeed text))

/-- A setting with its value, or with two dashes instead; the last one given wins. -/
def set (draft : Draft) (setting : Setting) (text : String) : Except Stop Draft :=
  if text = "--" then .ok (draft.blank setting) else draft.assign setting text

/-- A request for help ends the reading there and then. -/
def turnOn (draft : Draft) : Switch → Except Stop Draft
  | .help => .error .help
  | .debug => .ok { draft with debug := true }

/-- Words that have no place are kept to be complained about at the end. -/
def setAside (draft : Draft) (text : String) : Draft :=
  { draft with unrecognized := draft.unrecognized ++ [text] }

def finish (draft : Draft) : Except Stop Options :=
  match draft.path with
  | none => .error (.problem .missingPath)
  | some path =>
      if draft.unrecognized.isEmpty then
        .ok { path := path
              scale := draft.scale
              rate := draft.rate
              debug := draft.debug
              scheme := draft.scheme
              seed := draft.seed }
      else
        .error (.problem (.unrecognized draft.unrecognized))

end Draft

end Chip8.CommandLine
