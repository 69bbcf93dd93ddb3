import Chip8.CommandLine.Given
import Chip8.CommandLine.Grammar
import Chip8.Emulator
import Chip8.Number.Reader
import Chip8.Picture.Color

/-!
# Options of the program

The options that the program knows, their values and their defaults. The colours of the screen are
those of the scheme unless they are given themselves, wherever the scheme stands on the line.
-/

namespace Chip8

/-- The options of the program. -/
inductive OptionName where
  | help
  | background
  | foreground
  | scheme
  | frameRate
  | frequency
  | scale
  | seed
  | cap
  | headless
  | frames
  | record
  | screenshot
  | logLevel
  deriving DecidableEq

/-- Why a value of an option is refused. -/
inductive ValueFault where
  /-- A seed is `0x` and a number of at most sixteen bits in base sixteen. -/
  | malformedSeed (text : String)
  /-- A colour is `#` and three bytes in base sixteen. -/
  | malformedColor (text : String)
  | notPositiveInt (text : String)
  | notPositiveNumber (text : String)
  | unreadable (fault : Number.ReadFault)
  deriving DecidableEq

/-- Why the value of an option ends the reading of a command line. -/
inductive Refusal where
  | value (fault : ValueFault)
  | notOfType (type text : String)
  | notAmong (shown : String) (choices : List String)
  deriving DecidableEq

/-- Why no options come of a command line. -/
inductive Stop where
  | help
  | usage (fault : CommandLine.UsageFault OptionName Refusal)
  | lack (lack : Lack)

/-- Why no emulator can be made for options. -/
inductive StartFault where
  | schedule (fault : ScheduleFault Float)
  | lack (lack : Lack)

/-- What a command line asks for. -/
structure Options where
  rom : Path
  palette : Palette
  scheme : Scheme
  /-- Host frames per second. -/
  frameRate : Given Int
  /-- Processor cycles per second. -/
  frequency : Option (Given Float)
  /-- Side of the block that a pixel is shown as. -/
  scale : Given Int
  seed : Option (Given Int)
  /-- Most processor cycles of one host frame. -/
  cap : Option (Given Int)
  headless : Bool
  frames : Given Int
  record : Option Path
  screenshot : Option Path
  logLevel : Given Level

namespace ValueFault

def message : ValueFault → String
  | malformedSeed text => s!"invalid seed '{text}', expected format is 0xXXXX"
  | malformedColor text => s!"invalid color '{text}', expected format is #RRGGBB"
  | notPositiveInt text => s!"expected a positive integer, got {text}"
  | notPositiveNumber text => s!"expected a positive number, got {text}"
  | unreadable fault => fault.message

end ValueFault

namespace OptionValue

/-- A seed of sixteen bits, as `0x` and a number in base sixteen. -/
def seed (text : String) : Except ValueFault Int :=
  match text.toList with
  | '0' :: 'x' :: digits =>
    match Number.readInt 16 (String.ofList digits) with
    | .ok value => if 0 ≤ value ∧ value ≤ 0xFFFF then .ok value else .error (.malformedSeed text)
    | .error _ => .error (.malformedSeed text)
  | _ => .error (.malformedSeed text)

/-- A colour, as `#` and a number in base sixteen, seven characters in all. The low three bytes of
the number are the amounts. -/
def color (text : String) : Except ValueFault Color :=
  match text.toList with
  | '#' :: digits =>
    if digits.length = 6 then
      match Number.readInt 16 (String.ofList digits) with
      | .ok value => .ok (.ofAmounts (value / 0x10000 % 0x100) (value / 0x100 % 0x100) (value % 0x100))
      | .error _ => .error (.malformedColor text)
    else .error (.malformedColor text)
  | _ => .error (.malformedColor text)

/-- A whole number above zero. -/
def positiveInt (text : String) : Except ValueFault Int :=
  match Number.readInt 10 text with
  | .error fault => .error (.unreadable fault)
  | .ok value => if value ≤ 0 then .error (.notPositiveInt text) else .ok value

/-- A double that is not zero or below. -/
def positiveFloat (text : String) : Except ValueFault Float :=
  match Number.readFloat text with
  | .error fault => .error (.unreadable fault)
  | .ok value => if value ≤ 0.0 then .error (.notPositiveNumber text) else .ok value

/-- The outcome of reading a value of a type, for a command line. -/
def ofType {Value : Type} (type text : String) : Except ValueFault Value → Except Refusal Value
  | .ok value => .ok value
  | .error (.unreadable _) => .error (.notOfType type text)
  | .error fault => .error (.value fault)

/-- One of the choices, by name. -/
def choice {Value : Type} (nameOf : Value → String) (choices : List Value) (text : String) :
    Except Refusal Value :=
  match choices.find? fun value => nameOf value = text with
  | some value => .ok value
  | none => .error (.notAmong (Text.quoted text) (choices.map fun value => Text.quoted (nameOf value)))

/-- The sides of a block that can be chosen. -/
def scales : List Int := [1, 2, 4, 8, 16]

def scale (text : String) : Except Refusal Int :=
  match Number.readInt 10 text with
  | .error _ => .error (.notOfType "int" text)
  | .ok value =>
    if value ∈ scales then .ok value
    else .error (.notAmong (toString value) (scales.map fun side => toString side))

end OptionValue

/-- What the options of a command line have set so far. -/
structure Settings where
  background : Option Color := none
  foreground : Option Color := none
  scheme : Given Scheme := .value .default
  frameRate : Given Int := .value 30
  frequency : Option (Given Float) := none
  scale : Given Int := .value 8
  seed : Option (Given Int) := none
  cap : Option (Given Int) := none
  headless : Bool := false
  frames : Given Int := .value 600
  record : Option Path := none
  screenshot : Option Path := none
  logLevel : Given Level := .value .info

namespace OptionName

open CommandLine

/-- The words for the options, in the order in which they are listed. -/
def spellings : List (Spelling OptionName) :=
  [⟨"-h", help, false⟩, ⟨"--help", help, false⟩, ⟨"--bg", background, true⟩,
   ⟨"--fg", foreground, true⟩, ⟨"--scheme", scheme, true⟩, ⟨"--fps", frameRate, true⟩,
   ⟨"--freq", frequency, true⟩, ⟨"--scale", scale, true⟩, ⟨"--seed", seed, true⟩,
   ⟨"--max-catch-up", cap, true⟩, ⟨"--headless", headless, false⟩, ⟨"--frames", frames, true⟩,
   ⟨"--record", record, true⟩, ⟨"--screenshot", screenshot, true⟩, ⟨"--log-level", logLevel, true⟩]

/-- The name of an option in messages: all its words. -/
def shown (name : OptionName) : String :=
  String.intercalate "/" ((spellings.filter fun spelling => spelling.name = name).map (·.word))

/-- Sets what an option with a value stands for. -/
def assign (name : OptionName) (text : String) (settings : Settings) : Except Refusal Settings :=
  match name with
  | background => do
    let color ← OptionValue.ofType "parse_color" text (OptionValue.color text)
    .ok { settings with background := some color }
  | foreground => do
    let color ← OptionValue.ofType "parse_color" text (OptionValue.color text)
    .ok { settings with foreground := some color }
  | scheme => do
    let scheme ← OptionValue.choice Scheme.name Scheme.all text
    .ok { settings with scheme := .value scheme }
  | frameRate => do
    let frameRate ← OptionValue.ofType "_positive_int" text (OptionValue.positiveInt text)
    .ok { settings with frameRate := .value frameRate }
  | frequency => do
    let frequency ← OptionValue.ofType "_positive_float" text (OptionValue.positiveFloat text)
    .ok { settings with frequency := some (.value frequency) }
  | scale => do
    let scale ← OptionValue.scale text
    .ok { settings with scale := .value scale }
  | seed => do
    let seed ← OptionValue.ofType "parse_seed" text (OptionValue.seed text)
    .ok { settings with seed := some (.value seed) }
  | cap => do
    let cap ← OptionValue.ofType "_positive_int" text (OptionValue.positiveInt text)
    .ok { settings with cap := some (.value cap) }
  | frames => do
    let frames ← OptionValue.ofType "_positive_int" text (OptionValue.positiveInt text)
    .ok { settings with frames := .value frames }
  | record => .ok { settings with record := some (Path.ofText text) }
  | screenshot => .ok { settings with screenshot := some (Path.ofText text) }
  | logLevel => do
    let logLevel ← OptionValue.choice Level.name Level.all text
    .ok { settings with logLevel := .value logLevel }
  | help | headless => .ok settings

/-- The text of nothing, as a path has it. -/
def nothingText : String := "[]"

/-- Sets an option that is given nothing. A colour then has no amounts. -/
def assignNothing (name : OptionName) (settings : Settings) : Settings :=
  match name with
  | background => { settings with background := some ⟨[]⟩ }
  | foreground => { settings with foreground := some ⟨[]⟩ }
  | scheme => { settings with scheme := .nothing }
  | frameRate => { settings with frameRate := .nothing }
  | frequency => { settings with frequency := some .nothing }
  | scale => { settings with scale := .nothing }
  | seed => { settings with seed := some .nothing }
  | cap => { settings with cap := some .nothing }
  | frames => { settings with frames := .nothing }
  | record => { settings with record := some (Path.ofText nothingText) }
  | screenshot => { settings with screenshot := some (Path.ofText nothingText) }
  | logLevel => { settings with logLevel := .nothing }
  | help | headless => settings

/-- What the options of the program mean. -/
def meaning : Meaning OptionName Settings Stop where
  flag name settings :=
    match name with
    | help => .error .help
    | headless => .ok { settings with headless := true }
    | _ => .ok settings
  value name text settings :=
    match name.assign text settings with
    | .ok settings => .ok settings
    | .error reason => .error (.usage (.refusedValue name reason))
  nothing := assignNothing
  missingValue name := .usage (.missingValue name)
  needlessValue name text := .usage (.needlessValue name text)

end OptionName

namespace Settings

/-- The colours given, and those of a scheme where none is given. -/
def palette (settings : Settings) (scheme : Scheme) : Palette where
  lit := settings.foreground.getD scheme.palette.lit
  unlit := settings.background.getD scheme.palette.unlit

/-- The options that settings stand for, with a program to run. -/
def options (settings : Settings) (rom : Path) : Except Lack Options :=
  match settings.scheme with
  | .nothing => .error .scheme
  | .value scheme => .ok { settings with rom, scheme, palette := settings.palette scheme }

end Settings

namespace Options

open CommandLine

def parse (dialect : Dialect) (words : List String) : Except Stop Options := do
  let tokens ← match tokens dialect OptionName.spellings words with
    | .ok tokens => .ok tokens
    | .error fault => .error (.usage fault)
  let found ← walk dialect OptionName.meaning { settings := {} } tokens
  match found.operand, found.leftOver with
  | none, _ => .error (.usage (.missingOperand "rom"))
  | some rom, [] => (found.settings.options (Path.ofText rom)).mapError .lack
  | some _, words => .error (.usage (.leftOver words))

/-- The cap that options ask for. Without one, that which covers two host frames is taken. -/
def wantedCap (options : Options) : Except StartFault (Given Int) :=
  match options.cap, options.frequency.getD (.value Emulator.defaultFrequency), options.frameRate with
  | some cap, _, _ => .ok cap
  | none, .nothing, .value _ => .error (.lack (.dividedFrequency false))
  | none, .nothing, .nothing => .error (.lack (.dividedFrequency true))
  | none, .value _, .nothing => .error (.lack .frequencyDivisor)
  | none, .value frequency, .value rate =>
    match Binary64.ofInt rate >>= Emulator.defaultCap frequency with
    | .ok cap => .ok (.value cap)
    | .error fault => .error (.schedule (.number fault))

/-- The emulator that options ask for. The frequency is looked at before the cap. -/
def emulator (options : Options) (log : Log) : Except StartFault (Emulator Float) := do
  match ← options.wantedCap, options.frequency.getD (.value Emulator.defaultFrequency) with
  | _, .nothing => .error (.lack .frequency)
  | .value cap, .value frequency => (Emulator.create frequency (some cap) log).mapError .schedule
  | .nothing, .value frequency =>
    match Scheduler.ofFrequency frequency none with
    | .error fault => .error (.schedule fault)
    | .ok _ => .error (.lack .cap)

end Options

def Refusal.message : Refusal → String
  | value fault => fault.message
  | notOfType type text => s!"invalid {type} value: {Text.quoted text}"
  | notAmong shown choices =>
    "invalid choice: " ++ shown ++ " (choose from " ++ String.intercalate ", " choices ++ ")"

def CommandLine.UsageFault.message : CommandLine.UsageFault OptionName Refusal → String
  | ambiguous word meanings =>
    "ambiguous option: " ++ word ++ " could match " ++ String.intercalate ", " meanings
  | missingValue name => s!"argument {name.shown}: expected one argument"
  | needlessValue name value =>
    s!"argument {name.shown}: ignored explicit argument {Text.quoted value}"
  | refusedValue name reason => s!"argument {name.shown}: {reason.message}"
  | missingOperand operand => s!"the following arguments are required: {operand}"
  | leftOver words => "unrecognized arguments: " ++ String.intercalate " " words

end Chip8
