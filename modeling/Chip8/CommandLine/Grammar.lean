import Chip8.Text.Digit
import Chip8.Text.Quoted

/-!
# Grammar of command lines

A command line is a list of words. Words that start with a hyphen name options, whose values follow
in the same word after an equals sign or in the next word; the others are operands. A long option may
be cut short as long as one option is meant. After two hyphens alone every word is an operand. What
becomes of a few odd words differs from one release of such a reader to another; this is a `Dialect`.

Reading goes in two steps. `tokens` says of every word what it is, without looking at values. `walk`
then goes through the tokens from left to right, applies the options in turn and keeps the one operand
that is asked for; what is left over is collected.
-/

namespace Chip8.CommandLine

/-- What differs from one release of a reader to another. -/
structure Dialect where
  /-- Two hyphens alone after an equals sign are taken away, as between words, and the option is given
  nothing. -/
  dropsMark : Bool
  /-- Letters after a one-letter option that are no options are left over, and none follow an equals sign.
  Otherwise they are a needless value of the option before them. -/
  leavesLetters : Bool
  deriving DecidableEq

namespace Dialect

def early : Dialect := ⟨true, false⟩

def recent : Dialect := ⟨false, true⟩

end Dialect

/-- An option as it may be spelled. -/
structure Spelling (Name : Type) where
  word : String
  name : Name
  hasValue : Bool

/-- What a word of a command line is. -/
inductive Token (Name : Type) where
  | operand (word : String)
  | separator
  /-- A word that looks like an option and is none. -/
  | unknown (word : String)
  | option (name : Name) (hasValue : Bool)
  | assigned (name : Name) (value : String)
  /-- An option that has no value, with a value in the same word. -/
  | misused (name : Name) (value : String)
  deriving DecidableEq

/-- Why a command line is refused. `Reason` says why a value is. -/
inductive UsageFault (Name Reason : Type) where
  | ambiguous (word : String) (meanings : List String)
  /-- An option ends the line or is followed by another option. -/
  | missingValue (name : Name)
  | needlessValue (name : Name) (value : String)
  | refusedValue (name : Name) (reason : Reason)
  | missingOperand (operand : String)
  | leftOver (words : List String)

/-- Splits a text at its first equals sign. -/
def splitAssignment (text : String) : String × Option String :=
  let letters := text.toList
  let before := letters.takeWhile (· ≠ '=')
  match letters.drop before.length with
  | [] => (text, none)
  | _ :: after => (String.ofList before, some (String.ofList after))

/-- Whether a word is a negative number: a hyphen before digits with at most one point among them, and
digits after the point. One line feed may follow. -/
def isNegativeNumber (word : String) : Bool :=
  let isDigit (character : Char) : Bool := (Text.digitValue? character).isSome
  match word.toList with
  | '-' :: letters =>
    let letters := if letters.getLast? = some '\n' then letters.dropLast else letters
    match letters.dropWhile isDigit with
    | [] => !letters.isEmpty
    | '.' :: part => !part.isEmpty && part.all isDigit
    | _ => false
  | _ => false

section Tokens

variable {Name Reason : Type} (dialect : Dialect) (spellings : List (Spelling Name))

/-- The option with exactly this spelling. -/
def spelled? (word : String) : Option (Spelling Name) :=
  spellings.find? fun spelling => spelling.word = word

/-- The tokens of a group of one-letter options in one word: all but the last have no value, and what
follows one that has a value is its value. `name` is the option before `letters`. -/
def grouped (name : Name) : List Char → List (Token Name)
  | [] => []
  | letter :: rest =>
    match spelled? spellings (String.ofList ['-', letter]) with
    | none =>
      if !dialect.leavesLetters || letter = '-' then [.misused name (String.ofList (letter :: rest))]
      else if letter = '=' then [.misused name (String.ofList rest)]
      else [.unknown (String.ofList ('-' :: letter :: rest))]
    | some spelling =>
      if spelling.hasValue then
        if rest.isEmpty then [.option spelling.name true]
        else [.assigned spelling.name (String.ofList rest)]
      else
        match grouped spelling.name rest with
        | [.misused culprit value] => [.misused culprit value]
        | tokens => .option spelling.name false :: tokens

/-- The tokens of an option that has a value in the same word, joined to it or after an equals sign. -/
def withValue (spelling : Spelling Name) (joined : Bool) (value : String) : List (Token Name) :=
  if spelling.hasValue then [.assigned spelling.name value]
  else if spelling.word.length = 2 ∧ value ≠ "" ∧ (joined ∨ !dialect.leavesLetters) then
    match grouped dialect spellings spelling.name value.toList with
    | [.misused culprit value] => [.misused culprit value]
    | tokens => .option spelling.name false :: tokens
  else [.misused spelling.name value]

/-- The tokens of an option with or without a value in the same word. -/
def optionTokens (spelling : Spelling Name) (joined : Bool) : Option String → List (Token Name)
  | none => [.option spelling.name spelling.hasValue]
  | some value => withValue dialect spellings spelling joined value

/-- The options that a word may mean that is no spelling: those it is the start of, up to an equals
sign, or the one-letter option at its own start. -/
def candidates (word : String) : List (Spelling Name × Option String) :=
  if word.startsWith "--" then
    let (start, value?) := splitAssignment word
    (spellings.filter fun spelling => spelling.word.startsWith start).map fun spelling =>
      (spelling, value?)
  else
    let letters := word.toList
    spellings.filterMap fun spelling =>
      if spelling.word = String.ofList (letters.take 2) then
        some (spelling, some (String.ofList (letters.drop 2)))
      else if spelling.word.startsWith word then some (spelling, none)
      else none

/-- The tokens of a word that starts with a hyphen and is longer and no spelling. -/
def abbreviated (word : String) : Except (UsageFault Name Reason) (List (Token Name)) :=
  match candidates spellings word with
  | [(spelling, value?)] => .ok (optionTokens dialect spellings spelling true value?)
  | [] =>
    if isNegativeNumber word || word.contains ' ' then .ok [.operand word] else .ok [.unknown word]
  | several => .error (.ambiguous word (several.map fun (spelling, _) => spelling.word))

/-- The tokens of a word before the separator. -/
def wordTokens (word : String) : Except (UsageFault Name Reason) (List (Token Name)) :=
  if !word.startsWith "-" then .ok [.operand word]
  else match spelled? spellings word with
    | some spelling => .ok (optionTokens dialect spellings spelling false none)
    | none =>
      if word = "-" then .ok [.operand word]
      else match splitAssignment word with
        | (start, some value) =>
          match spelled? spellings start with
          | some spelling => .ok (optionTokens dialect spellings spelling false (some value))
          | none => abbreviated dialect spellings word
        | (_, none) => abbreviated dialect spellings word

def tokens : List String → Except (UsageFault Name Reason) (List (Token Name))
  | [] => .ok []
  | word :: rest =>
    if word = "--" then .ok (.separator :: rest.map .operand)
    else do
      let first ← wordTokens dialect spellings word
      let others ← tokens rest
      .ok (first ++ others)

end Tokens

/-- What a walk through tokens has found so far. -/
structure Walk (Settings : Type) where
  settings : Settings
  operand : Option String := none
  leftOver : List String := []

/-- How options are applied: each changes the settings, with or without a value, or ends the walk. -/
structure Meaning (Name Settings Stop : Type) where
  flag : Name → Settings → Except Stop Settings
  value : Name → String → Settings → Except Stop Settings
  /-- Applies an option that is given nothing in place of a value. -/
  nothing : Name → Settings → Settings
  missingValue : Name → Stop
  needlessValue : Name → String → Stop

section Walks

variable {Name Settings Stop : Type}

/-- Goes through tokens from left to right. The first operand is kept, and a separator right before or
after it is dropped with it; other operands and separators are left over. -/
def walk (dialect : Dialect) (meaning : Meaning Name Settings Stop) (state : Walk Settings) :
    List (Token Name) → Except Stop (Walk Settings)
  | [] => .ok state
  | .operand word :: rest =>
    match state.operand with
    | some _ => walk dialect meaning { state with leftOver := state.leftOver ++ [word] } rest
    | none =>
      let state := { state with operand := some word }
      match rest with
      | .separator :: rest => walk dialect meaning state rest
      | rest => walk dialect meaning state rest
  | .separator :: rest =>
    match state.operand, rest with
    | none, .operand word :: rest => walk dialect meaning { state with operand := some word } rest
    | _, rest => walk dialect meaning { state with leftOver := state.leftOver ++ ["--"] } rest
  | .unknown word :: rest => walk dialect meaning { state with leftOver := state.leftOver ++ [word] } rest
  | .option name false :: rest => do
    let settings ← meaning.flag name state.settings
    walk dialect meaning { state with settings } rest
  | .option name true :: .operand value :: rest => do
    let settings ← meaning.value name value state.settings
    walk dialect meaning { state with settings } rest
  | .option name true :: _ => .error (meaning.missingValue name)
  | .assigned name value :: rest => do
    let settings ← if dialect.dropsMark && value = "--" then .ok (meaning.nothing name state.settings)
      else meaning.value name value state.settings
    walk dialect meaning { state with settings } rest
  | .misused name value :: _ => .error (meaning.needlessValue name value)

end Walks

end Chip8.CommandLine
