import Chip8.Tool.Text.Layout

/-!
# Templates

Text with fields in braces. A field names a value, perhaps the way from it to a part of it, by names
after points and by items in brackets; it may ask for another form of the value after an exclamation
mark, and for a layout after a colon, in which there may be fields again. Braces that stand for
themselves are doubled.

A template is filled in from left to right, and the first thing that goes wrong ends it. The text that
comes of it holds every value as it is shown without a layout; layouts are only looked at.
-/

namespace Chip8

/-- What the name of a field stands for. -/
inductive Filling where
  | value (datum : Datum)
  | moment
  /-- A figure that is drawn in its own way, and the names of its parts that are there to be seen. -/
  | figure (type : String) (members : List (String × Datum))
  /-- A part that is something to be done rather than a value. -/
  | deed

namespace Filling

/-- The name of the type of what fills a field. -/
def typeName : Filling → String
  | value datum => datum.typeName
  | moment => "datetime.datetime"
  | figure type _ => type
  | deed => "builtin_function_or_method"

/-- The parts that everything has. -/
def commonMembers : List String :=
  ["__class__", "__delattr__", "__dir__", "__doc__", "__eq__", "__format__", "__ge__",
    "__getattribute__", "__getstate__", "__gt__", "__hash__", "__init__", "__init_subclass__", "__le__",
    "__lt__", "__ne__", "__new__", "__reduce__", "__reduce_ex__", "__repr__", "__setattr__",
    "__sizeof__", "__str__", "__subclasshook__"]

/-- What can be done with a value of a type. -/
def deeds : Datum → List String
  | .absent => []
  | .text _ =>
    ["capitalize", "casefold", "center", "count", "encode", "endswith", "expandtabs", "find", "format",
      "format_map", "index", "isalnum", "isalpha", "isascii", "isdecimal", "isdigit", "isidentifier",
      "islower", "isnumeric", "isprintable", "isspace", "istitle", "isupper", "join", "ljust", "lower",
      "lstrip", "maketrans", "partition", "removeprefix", "removesuffix", "replace", "rfind", "rindex",
      "rjust", "rpartition", "rsplit", "rstrip", "split", "splitlines", "startswith", "strip",
      "swapcase", "title", "translate", "upper", "zfill", "__len__", "__add__", "__mul__", "__mod__",
      "__contains__", "__getitem__", "__iter__"]
  | .flag _ | .whole _ =>
    ["as_integer_ratio", "bit_count", "bit_length", "conjugate", "from_bytes", "to_bytes", "__abs__",
      "__add__", "__and__", "__bool__", "__divmod__", "__float__", "__floordiv__", "__index__",
      "__int__", "__mod__", "__mul__", "__neg__", "__pow__", "__sub__", "__truediv__"]
  | .real _ =>
    ["as_integer_ratio", "conjugate", "fromhex", "hex", "is_integer", "__abs__", "__add__", "__bool__",
      "__divmod__", "__float__", "__floordiv__", "__int__", "__mod__", "__mul__", "__neg__", "__pow__",
      "__sub__", "__truediv__"]
  | .list _ | .group _ =>
    ["append", "clear", "copy", "count", "extend", "index", "insert", "pop", "remove", "reverse",
      "sort", "__len__", "__add__", "__mul__", "__contains__", "__getitem__", "__iter__"]
  | .table _ =>
    ["clear", "copy", "fromkeys", "get", "items", "keys", "pop", "popitem", "setdefault", "update",
      "values", "__len__", "__contains__", "__getitem__", "__iter__"]

/-- The parts of a number that are numbers. -/
def numberMembers : Datum → List (String × Datum)
  | .flag flag => numberMembers.ofWhole flag.toInt
  | .whole number => numberMembers.ofWhole number
  | .real number => [("real", .real number), ("imag", .real 0.0)]
  | _ => []
where
  /-- The parts of a whole number. -/
  ofWhole (number : Int) : List (String × Datum) :=
    [("real", .whole number), ("imag", .whole 0), ("numerator", .whole number),
      ("denominator", .whole 1)]

/-- The parts of the first moment that are numbers. -/
def momentMembers : List (String × Datum) :=
  [("year", .whole 1970), ("month", .whole 1), ("day", .whole 1), ("hour", .whole 0),
    ("minute", .whole 0), ("second", .whole 0), ("microsecond", .whole 0), ("fold", .whole 0)]

/-- What can be done with a moment. -/
def momentDeeds : List String :=
  ["astimezone", "combine", "ctime", "date", "dst", "fromisocalendar", "fromisoformat", "fromordinal",
    "fromtimestamp", "isocalendar", "isoformat", "isoweekday", "max", "min", "now", "replace",
    "resolution", "strftime", "strptime", "time", "timestamp", "timetuple", "timetz", "today",
    "toordinal", "tzinfo", "tzname", "utcfromtimestamp", "utcnow", "utcoffset", "utctimetuple",
    "weekday"]

def member (filling : Filling) (name : String) : Except Misuse Filling :=
  let found : List (String × Datum) × List String :=
    match filling with
    | value datum => (numberMembers datum, deeds datum)
    | moment => (momentMembers, momentDeeds)
    | figure _ members => (members, [])
    | deed => ([], ["__name__", "__qualname__", "__module__", "__self__", "__call__"])
  match found.1.lookup name with
  | some part => .ok (value part)
  | none =>
    if found.2.contains name || commonMembers.contains name then .ok deed
    else .error (.noMember filling.typeName name)

def itemUnder (filling : Filling) (key : String) : Except Misuse Filling :=
  match filling with
  | value (.table rows) =>
    match rows.lookup key with
    | some item => .ok (value item)
    | none => .error (.noKey key)
  | value (.text _) => .error (.textPlace true)
  | value (.list _) | value (.group _) => .error (.textPlace false)
  | _ => .error (.noItems filling.typeName)

def itemAt (filling : Filling) (place : Nat) : Except Misuse Filling :=
  match filling with
  | value (.text words) =>
    match words.toList[place]? with
    | some character => .ok (value (.text (String.singleton character)))
    | none => .error (.pastEnd "string")
  | value (.list items) | value (.group items) =>
    match items[place]? with
    | some item => .ok (value item)
    | none => .error (.pastEnd "list")
  | value (.table _) => .error (.noKey (toString place))
  | _ => .error (.noItems filling.typeName)

/-- How it is shown. A moment is the first of all; a figure and a deed show nothing. -/
def shown : Filling → String
  | value datum => datum.plain
  | moment => "1970-01-01 00:00:00+00:00"
  | figure .. | deed => ""

end Filling

namespace Template

structure Field where
  name : List Char
  conversion : Option Char := none
  layout : List Char := []
  nested : Bool := false

/-- What comes of a template: text, and how many figures were drawn in it. -/
structure Filled where
  text : String := ""
  figures : Nat := 0

/-- Takes a layout off the front, up to the brace that closes its field. Gives it with the rest, and
whether there are fields in it. -/
def takeLayout (opened : Nat) : List Char → Except Malformed ((List Char × Bool) × List Char)
  | [] => .error .openLayout
  | '\x7b' :: rest => do
    let ((layout, _), left) ← takeLayout (opened + 1) rest
    .ok (('\x7b' :: layout, true), left)
  | '\x7d' :: rest =>
    match opened with
    | 0 => .ok (([], false), rest)
    | opened + 1 => do
      let ((layout, nested), left) ← takeLayout opened rest
      .ok (('\x7d' :: layout, nested), left)
  | first :: rest => do
    let ((layout, nested), left) ← takeLayout opened rest
    .ok ((first :: layout, nested), left)

/-- Takes the name of a field off the front. Gives it with the character that ends it and the rest. In
brackets everything but the closing one belongs to the name. -/
def takeName (inBrackets : Bool) : List Char → Except Malformed ((List Char × Char) × List Char)
  | [] => .error .openField
  | first :: rest => do
    let go (inBrackets : Bool) : Except Malformed ((List Char × Char) × List Char) := do
      let ((name, mark), left) ← takeName inBrackets rest
      .ok ((first :: name, mark), left)
    if inBrackets then go (first ≠ ']')
    else if first = '\x7b' then .error .braceInName
    else if first = '[' then go true
    else if first = '\x7d' ∨ first = ':' ∨ first = '!' then .ok (([], first), rest)
    else go false

/-- Takes a field off the front, after its opening brace. -/
def takeField (text : List Char) : Except Malformed (Field × List Char) := do
  let ((name, mark), rest) ← takeName false text
  let withLayout (conversion : Option Char) (rest : List Char) :
      Except Malformed (Field × List Char) := do
    let ((layout, nested), rest) ← takeLayout 0 rest
    .ok ({ name, conversion, layout, nested }, rest)
  if mark = '\x7d' then .ok ({ name }, rest)
  else if mark = ':' then withLayout none rest
  else match rest with
  | [] => .error .noConversion
  | letter :: rest =>
    match rest with
    | '\x7d' :: rest => .ok ({ name, conversion := some letter }, rest)
    | ':' :: rest => withLayout (some letter) rest
    | [] => .error .openLayout
    | _ => .error .noColon

/-- The number that a name is, if it has digits only. -/
def place? (name : List Char) : Except Malformed (Option Nat) :=
  if !name.isEmpty && name.all Layout.isDigit then some <$> Layout.numberOf name else .ok none

/-- Follows the way to a part. The number bounds its length. -/
def follow : Nat → Filling → List Char → Except Misuse Filling
  | 0, filling, _ | _, filling, [] => .ok filling
  | bound + 1, filling, first :: rest =>
    if first = '.' then do
      let (name, left) := rest.span fun character => character ≠ '.' && character ≠ '['
      if name.isEmpty then .error (.malformed .emptyName)
      else follow bound (← filling.member (String.ofList name)) left
    else if first = '[' then
      match rest.span (· ≠ ']') with
      | (_, []) => .error (.malformed .openBracket)
      | (name, _ :: left) => do
        match ← (place? name).mapError .malformed with
        | some place => follow bound (← filling.itemAt place) left
        | none =>
          if name.isEmpty then .error (.malformed .emptyName)
          else follow bound (← filling.itemUnder (String.ofList name)) left
    else .error (.malformed .afterBracket)

/-- What a name and the way to a part stand for. Nothing is given by its place. -/
def lookUp (look : String → Option Filling) (name : List Char) : Except Misuse Filling := do
  let (first, way) := name.span fun character => character ≠ '.' && character ≠ '['
  match ← (place? first).mapError .malformed with
  | some place => .error (.noPosition place)
  | none =>
    if first.isEmpty then .error (.noPosition 0)
    else match look (String.ofList first) with
    | none => .error (.noKey (String.ofList first))
    | some filling => follow way.length filling way

/-- What fills a field in the form that is asked for. -/
def convert (filling : Filling) (letter : Char) : Except Misuse Filling :=
  match letter with
  | 's' => .ok (.value (.text filling.shown))
  | 'r' | 'a' =>
    .ok (.value (.text (match filling with | .value value => value.shown | _ => filling.shown)))
  | _ => .error (.malformed (.unknownConversion letter))

/-- Draws what fills a field, in a layout. -/
def draw (drawFigure : String → Except Misuse String) (filling : Filling) (layout : String) :
    Except Misuse Filled :=
  match filling with
  | .figure .. => do return { text := ← drawFigure layout, figures := 1 }
  | .value value => do
    Layout.check value layout
    return { text := value.plain }
  | .moment => return { text := filling.shown }
  | .deed => if layout.isEmpty then return {} else .error (.noLayout filling.typeName)

/-- Fills in the rest of a template. The first number tells how deep fields may stand in layouts, the
second one bounds the length of the rest. -/
def fillFrom (look : String → Option Filling) (drawFigure : String → Except Misuse String)
    (depth bound : Nat) (filled : Filled) (text : List Char) : Except Misuse Filled :=
  match depth, bound, text with
  | 0, _, _ => .error (.malformed .tooDeep)
  | _, 0, _ | _, _, [] => .ok filled
  | depth + 1, bound + 1, first :: rest =>
    if first = '\x7b' ∨ first = '\x7d' then
      match rest with
      | [] => .error (.malformed (.loneBrace first))
      | second :: left =>
        if second = first then
          fillFrom look drawFigure (depth + 1) bound { filled with text := filled.text.push first } left
        else if first = '\x7d' then .error (.malformed (.loneBrace first))
        else do
          let (field, left) ← (takeField rest).mapError .malformed
          let filling ← lookUp look field.name
          let filling ← match field.conversion with
            | some letter => convert filling letter
            | none => .ok filling
          let layout ←
            if field.nested then do
              let inner ← fillFrom look drawFigure depth field.layout.length {} field.layout
              pure (inner.text, inner.figures)
            else pure (String.ofList field.layout, 0)
          let drawn ← draw drawFigure filling layout.1
          fillFrom look drawFigure (depth + 1) bound
            { text := filled.text ++ drawn.text
              figures := filled.figures + layout.2 + drawn.figures } left
    else
      fillFrom look drawFigure (depth + 1) bound { filled with text := filled.text.push first } rest
  termination_by (depth, bound)

/-- Fills in a template with what its names stand for. A figure is drawn from the text of its layout. -/
def fill (look : String → Option Filling) (drawFigure : String → Except Misuse String)
    (template : String) : Except Misuse Filled :=
  fillFrom look drawFigure 2 (template.length + 1) {} template.toList

end Template

end Chip8
