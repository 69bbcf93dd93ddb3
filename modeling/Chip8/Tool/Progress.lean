import Chip8.Tool.Progress.Guard
import Chip8.Tool.Progress.Line

/-!
# Progress

A bar that counts emulated frames. Its total and its unit are fixed. Other settings may be given by
name. They do not change what the bar says of itself, but it draws its first line when it is made, and
that fails where the settings do not fit together. A bar that is not shown says nothing.
-/

namespace Chip8

/-- A bar that counts up to a total. -/
structure Progress where
  total : Int
  description : String
  unit : String

/-- Why a bar says nothing. -/
inductive ProgressFault where
  /-- What is said by itself is given as a setting as well. -/
  | twice (name : String)
  | untold
  | hidden
  /-- A bar within another has to be placed by its position. -/
  | nested
  | unknown (settings : List (String × Datum))
  | undrawn (cause : Misuse)

def ProgressFault.name : ProgressFault → String
  | twice _ => "TypeError"
  | untold => "ValueError"
  | hidden => "AttributeError"
  | nested => "TqdmDeprecationWarning"
  | unknown _ => "TqdmKeyError"
  | undrawn cause => cause.kind.name

def ProgressFault.message : ProgressFault → String
  | twice name => s!"build_progress_bar() got multiple values for argument '{name}'"
  | untold => Number.untold
  | hidden => "'tqdm' object has no attribute 'desc'"
  | nested =>
    "`nested` is deprecated and automated.\nUse `position` instead for manual control.\n"
  | unknown settings => "Unknown argument(s): " ++ (Datum.table settings).shown
  | undrawn cause => cause.message

/-- Where a bar is written. -/
structure ProgressSink where
  /-- What is given to write to; nothing for the usual place, which takes text only. -/
  target : Datum
  asBytes : Bool

namespace ProgressSink

/-- Writes text, which may fail to be made. Nothing that can be given can be written to; this is seen at
once, or only when the bytes of the text are there. -/
def write (sink : ProgressSink) (text : Except Misuse String) : Except Misuse Unit :=
  match sink.target with
  | .absent => do
    let _ ← text
    if sink.asBytes then .error .bytesForText else .ok ()
  | target => do
    if sink.asBytes then
      let _ ← text
    .error (.noMember target.typeName "write")

end ProgressSink

/-- The settings of a bar by name. Of one that is not given the usual value is taken. -/
abbrev ProgressSettings := List (String × Datum)

namespace ProgressSettings

def value (settings : ProgressSettings) (name : String) (usual : Datum) : Datum :=
  (settings.lookup name).getD usual

def holds (settings : ProgressSettings) (name : String) : Bool := (settings.value name .absent).holds

/-- Where the bar is written. -/
def sink (settings : ProgressSettings) : ProgressSink :=
  { target := settings.value "file" .absent, asBytes := settings.holds "write_bytes" }

/-- Whether the bar is hidden. One that is told nothing is hidden where no one looks at it. -/
def isHidden (settings : ProgressSettings) : Bool :=
  match settings.lookup "disable", settings.value "file" .absent with
  | some .absent, .absent => true
  | some value, _ => value.holds
  | none, _ => false

/-- What the gauge is drawn from. If it is not given, symbols of ASCII are for a place that does not say
that it takes others. -/
def symbols (settings : ProgressSettings) : Datum :=
  match settings.value "ascii" .absent with
  | .absent => .flag (!settings.sink.asBytes)
  | symbols => symbols

/-- Whether symbols are certain to be text of one byte a character. -/
def areNarrow : Datum → Bool
  | .flag true => true
  | .text words => words.toList.all fun character => character.toNat < 0x100
  | _ => false

/-- What is said, and in which order. -/
def template (settings : ProgressSettings) : Datum :=
  let template := settings.value "bar_format" .absent
  if template.holds && !areNarrow settings.symbols then .text template.plain else template

/-- The width and the number of lines, unless they are to be found out, which they cannot be. -/
def sides (settings : ProgressSettings) : Datum × Datum :=
  if settings.holds "dynamic_ncols" then (.absent, .absent)
  else (settings.value "ncols" .absent, settings.value "nrows" .absent)

/-- The rows of what stands for a table: a table or pairs. Nothing if it does not stand for one. -/
def rowsOf? : Datum → Except Misuse (Option (List (Option String × Datum)))
  | .absent => .ok (some [])
  | .table rows => .ok (some (rows.map fun (name, value) => (some name, value)))
  | .text words =>
    match words.length with
    | 0 => .ok (some [])
    | _ => .error (.noPair 1)
  | .list items => pairsOf? items
  | _ => .ok none
where
  /-- The row that is made of two values. A list or a table names nothing. -/
  rowOf? (name value : Datum) : Option (Option String × Datum) :=
    match name with
    | .text name => some (some name, value)
    | .list _ | .table _ => none
    | _ => some (none, value)
  /-- The rows that are made of pairs. -/
  pairsOf? : List Datum → Except Misuse (Option (List (Option String × Datum)))
    | [] => .ok (some [])
    | item :: rest => do
      match Guard.questions item with
      | .error _ => return none
      | .ok [name, value] =>
        match rowOf? name value with
        | none => return none
        | some row => return (← pairsOf? rest).map (row :: ·)
      | .ok items => .error (.noPair items.length)

/-- Puts a row in the place of the one of the same name, or at the end. -/
def put (rows : List (Option String × Datum)) (row : Option String × Datum) :
    List (Option String × Datum) :=
  if row.1.isSome && rows.any fun (name, _) => name = row.1 then
    rows.map fun (name, value) => (name, if name = row.1 then row.2 else value)
  else rows ++ [row]

/-- What is said at the end: of a table its rows in order of their names. A table that has names which
mean something else, or that cannot be told, is kept as it is. -/
def remark (settings : ProgressSettings) : Except Misuse Datum := do
  match settings.value "postfix" .absent with
  | .table rows =>
    let kept := Datum.table rows
    if rows.any fun (name, _) => name = "refresh" || name = "self" then return kept
    else
      match ← rowsOf? ((rows.lookup "ordered_dict").getD .absent) with
      | none => return kept
      | some first =>
        let named := (rows.filter fun (name, _) => name ≠ "ordered_dict").mergeSort
          fun (name, _) (other, _) => name ≤ other
        let rest : List (Option String × Datum) := named.map fun (name, value) => (some name, value)
        let merged := (first ++ rest).foldl put []
        let told ← merged.mapM fun row => Count.text row.2
        if merged.any fun (name, _) => name.isNone then return kept
        else
          let pairs := (merged.zip told).map fun (row, value) =>
            row.1.getD "" ++ "=" ++ String.ofList (Text.trimBlanks value.toList)
          return .text (String.intercalate ", " pairs)
  | value => return value

/-- Draws the first line at a place, which is a number of lines further down, if there is room for so
many lines. Only a note is written on the last one. -/
def drawAt (settings : ProgressSettings) (place : Amount) (line : ProgressLine) :
    Except Misuse Unit := do
  let rows := if line.rows.holds then line.rows else .whole 20
  let last ← rows.minus (.whole 1)
  let sink := settings.sink
  let atLeast (bound : Datum) : Except Misuse Bool := place.toDatum.atLeast bound
  if ← atLeast rows then return
  else
    if !place.isZero then
      sink.write do
        let _ ← (Datum.text "\n").times place.toDatum
        return ""
    if ← atLeast last then sink.write (.ok " ... (more hidden) ...")
    else
      let _ ← (Datum.whole 1).minus (match settings.value "smoothing" (.real 0.3) with
        | .absent => .whole 0
        | smoothing => smoothing)
      let text ← line.written
      sink.write (.ok text)

def draw (settings : ProgressSettings) (bar : Progress) : Except Misuse Unit := do
  let remark ← settings.remark
  let place ← match settings.value "position" .absent with
    | .absent => pure (.whole 0)
    | position => position.negated
  if settings.holds "gui" then return
  else if ← (settings.value "delay" (.real 0.0)).atMost (.whole 0) then
    let question := settings.value "lock_args" .absent
    if question.holds then Guard.ask question
    else
      let (columns, rows) := settings.sides
      settings.drawAt (← place.magnitude)
        { count := settings.value "initial" (.whole 0), total := .whole bar.total
          description := bar.description, unit := bar.unit, columns, rows
          symbols := settings.symbols, scale := settings.value "unit_scale" (.flag false)
          divisor := settings.value "unit_divisor" (.whole 1000), template := settings.template
          remark, colour := settings.value "colour" .absent }
  else return

end ProgressSettings

namespace Progress

/-- The settings that a bar knows. -/
def knownSettings : List String :=
  ["iterable", "total", "leave", "file", "ncols", "mininterval", "maxinterval", "miniters", "ascii",
    "disable", "unit", "unit_scale", "dynamic_ncols", "smoothing", "bar_format", "initial",
    "position", "postfix", "unit_divisor", "write_bytes", "lock_args", "nrows", "colour", "delay",
    "gui"]

/-- Whether the settings of a bar are free to be given. -/
def checkFree (settings : ProgressSettings) : Except ProgressFault Unit :=
  match settings.find? fun (name, _) => name = "desc" || name = "n" with
  | some (name, _) => .error (.twice name)
  | none => .ok ()

/-- Looks at the settings of a bar: first whether it is shown, then whether they are known. -/
def check (settings : ProgressSettings) : Except ProgressFault Unit :=
  let given (name : String) : Bool := settings.any fun (other, _) => other = name
  let unknown := settings.filter fun (name, _) => !knownSettings.contains name
  if settings.isHidden then .error .hidden
  else if given "nested" then
    let told := if settings.sink.asBytes then settings.sink.write (.ok "") else .ok ()
    match told with
    | .ok () => .error .nested
    | .error cause => .error (.undrawn cause)
  else if !unknown.isEmpty then .error (.unknown unknown)
  else .ok ()

/-- The bar for so many frames. Without a description, or with an empty one, it says how many. -/
def ofFrames (total : Int) (description : Option String) (settings : ProgressSettings) :
    Except ProgressFault Progress := do
  checkFree settings
  let given := description.getD ""
  let description? := if given.isEmpty then ProgressBar.text? total else some given
  match description? with
  | none => .error .untold
  | some description =>
    check settings
    let bar : Progress := { total, description, unit := "frame" }
    (settings.draw bar).mapError .undrawn
    return bar

/-- The bar of a run. It is drawn when it is made, unless it is hidden, and from then on it can be drawn
again. -/
def barOf (total : Int) (description : String) (hidden : Bool) : Except ToolFault ProgressBar := do
  unless hidden do
    (ProgressSettings.draw [] { total, description, unit := "frame" }).mapError Misuse.fault
  .ok .calm

end Progress

end Chip8
