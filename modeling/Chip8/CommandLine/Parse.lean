import Chip8.CommandLine.Options

namespace Chip8.CommandLine

/-! Reading a command line. First every word is classified on its own, which also
finds the options that are spelled ambiguously; then the words are taken from left
to right. Long options may be shortened as long as they stay unique, short ones
may share a dash, and a value may be attached or be the next word. -/

inductive Word where
  | argument (text : String)
  | terminator
  | option (flag : Flag) (short : Bool) (attached : Option (List Char))
  | unknown (text : String)
deriving DecidableEq, Repr

/-- `-5` and `-.5` are numbers, not options; a line end may follow. -/
def isNegativeNumber (text : List Char) : Bool :=
  match text with
  | '-' :: rest =>
      let rest := if rest.getLast? = some '\n' then rest.dropLast else rest
      let whole := rest.takeWhile Text.isDigit
      match rest.dropWhile Text.isDigit with
      | [] => !whole.isEmpty
      | '.' :: places => !places.isEmpty && places.all Text.isDigit
      | _ => false
  | _ => false

/-- The part before the first equals sign, and the part after it if there is one. -/
def splitValue (text : List Char) : List Char × Option (List Char) :=
  match text.dropWhile (· ≠ '=') with
  | [] => (text, none)
  | _ :: value => (text.takeWhile (· ≠ '='), some value)

/-- All readings of a word as the beginning of a long option or as a short option
with something attached. -/
def candidates (text : List Char) : List (String × Word) :=
  match text with
  | '-' :: '-' :: _ =>
      let (start, value) := splitValue text
      (Flag.spellings.filter fun spelling => start.isPrefixOf spelling.1.toList).map
        fun spelling => (spelling.1, .option spelling.2 false value)
  | '-' :: letter :: rest =>
      (Flag.spellings.filter fun spelling => spelling.1.toList == ['-', letter]).map
        fun spelling => (spelling.1, .option spelling.2 true (some rest))
  | _ => []

def isShort (text : List Char) : Bool :=
  match text with
  | '-' :: '-' :: _ => false
  | _ => true

/-- A word that is spelled out, alone or before an equals sign. -/
def spelledOut? (text : List Char) : Option Word :=
  match Flag.ofSpelling? text with
  | some flag => some (.option flag (isShort text) none)
  | none =>
      match splitValue text with
      | (start, some value) =>
          (Flag.ofSpelling? start).map fun flag => .option flag (isShort start) (some value)
      | (_, none) => none

def classify (text : String) : Except Stop Word :=
  match text.toList with
  | '-' :: letter :: rest =>
      let word := '-' :: letter :: rest
      match spelledOut? word with
      | some option => .ok option
      | none =>
          match candidates word with
          | [] =>
              if isNegativeNumber word || word.contains ' ' then .ok (.argument text)
              else .ok (.unknown text)
          | [(_, option)] => .ok option
          | many => .error (.problem (.ambiguous text (many.map (·.1))))
  | _ => .ok (.argument text)

/-- After two dashes everything is an argument. -/
def classifyAll : List String → Except Stop (List Word)
  | [] => .ok []
  | "--" :: rest => .ok (.terminator :: rest.map .argument)
  | text :: rest => do
      let word ← classify text
      let words ← classifyAll rest
      return word :: words

/-- What one option word asks for: switches, and at the end perhaps a setting, with
its value or still without it. -/
structure Request where
  switches : List Switch
  setting : Option (Setting × Option String)
deriving DecidableEq, Repr

namespace Request

def ofFlag : Flag → Request
  | .switch switch => ⟨[switch], none⟩
  | .setting setting => ⟨[], some (setting, none)⟩

/-- Letters that share a dash with a switch: more switches, or a setting with the
rest as its value. -/
def cluster (switch : Switch) : List Char → Except Stop Request
  | [] => .ok ⟨[switch], none⟩
  | letter :: rest =>
      match Flag.ofSpelling? ['-', letter] with
      | none => .error (.problem (.unwantedValue switch (String.ofList (letter :: rest))))
      | some (.setting setting) =>
          .ok ⟨[switch],
            some (setting, if rest.isEmpty then none else some (String.ofList rest))⟩
      | some (.switch next) =>
          (cluster next rest).map fun request =>
            { request with switches := switch :: request.switches }

def ofOption (flag : Flag) (short : Bool) (attached : Option (List Char)) :
    Except Stop Request :=
  match attached, flag with
  | none, _ => .ok (ofFlag flag)
  | some value, .setting setting => .ok ⟨[], some (setting, some (String.ofList value))⟩
  | some value, .switch switch =>
      if short && !value.isEmpty then cluster switch value
      else .error (.problem (.unwantedValue switch (String.ofList value)))

/-- The next word is needed as a value. -/
def wanting (request : Request) : Bool :=
  match request.setting with
  | some (_, none) => true
  | _ => false

end Request

namespace Draft

def turnAllOn (draft : Draft) : List Switch → Except Stop Draft
  | [] => .ok draft
  | switch :: rest => do turnAllOn (← draft.turnOn switch) rest

/-- Do what a request asks for, `next` being the word that it may take as a value.
A missing value is found before anything is done. -/
def fulfil (draft : Draft) (request : Request) (next : Option String) :
    Except Stop Draft :=
  match request.setting with
  | none => draft.turnAllOn request.switches
  | some (setting, attached) =>
      match attached <|> next with
      | none => .error (.problem (.missingValue setting))
      | some value => do (← draft.turnAllOn request.switches).set setting value

/-- The first argument is the path, with the two dashes next to it; a setting that
wants a value takes the next word if that is an argument. -/
def read (draft : Draft) : List Word → Except Stop Draft
  | [] => .ok draft
  | .unknown text :: rest => read (draft.setAside text) rest
  | .argument text :: .terminator :: rest =>
      if draft.path.isNone then read { draft with path := some text } rest
      else read ((draft.setAside text).setAside "--") rest
  | .argument text :: rest =>
      if draft.path.isNone then read { draft with path := some text } rest
      else read (draft.setAside text) rest
  | .terminator :: .argument text :: rest =>
      if draft.path.isNone then read { draft with path := some text } rest
      else read ((draft.setAside "--").setAside text) rest
  | .terminator :: rest => read (draft.setAside "--") rest
  | .option flag short attached :: .argument text :: rest => do
      let request ← Request.ofOption flag short attached
      if request.wanting then
        read (← draft.fulfil request (some text)) rest
      else
        read (← draft.fulfil request none) (.argument text :: rest)
  | .option flag short attached :: rest => do
      let request ← Request.ofOption flag short attached
      read (← draft.fulfil request none) rest
termination_by words => words.length

end Draft

def parse (arguments : List String) : Except Stop Options := do
  let words ← classifyAll arguments
  let draft ← Draft.read {} words
  draft.finish

end Chip8.CommandLine
