import Chip8.Text.Capital
import Chip8.Tool.Text.Template

/-!
# Gauges

The part of a bar that fills up. It is drawn from symbols, the first of which stands for a place that
is empty, the last one for a place that is full, and those between for the place that is filling. Its
layout may tell other symbols by a letter and another width by a number; a negative one is taken off the
usual width. The symbols may be the items of a list, and then what is drawn is not always text.
-/

namespace Chip8

/-- The part of a bar that fills up. -/
structure Gauge where
  /-- How much of it is full, from zero to one. -/
  share : Amount
  width : Amount
  symbols : Datum
  paint : Option String

namespace Gauge

def plainSymbols : String := " 123456789#"

/-- Blocks that fill a place from the left in eight steps. -/
def blocks : String := " ▏▎▍▌▋▊▉█"

/-- Symbols that leave every place empty. -/
def blanks : String := "  "

/-- The colours that have names, in the order of their codes. -/
def colourNames : List String :=
  ["BLACK", "RED", "GREEN", "YELLOW", "BLUE", "MAGENTA", "CYAN", "WHITE"]

def paintEnd : String := "\x1b[0m"

/-- What sets a colour, which has a name or is a mark and six hexadecimal digits. Any other colour sets
nothing. -/
def paintOf (colour : Datum) : Except Misuse (Option String) := do
  match colour with
  | .text name =>
    match colourNames.idxOf? (name.map Text.capital), name.toList with
    | some code, _ => return some s!"\x1b[{30 + code}m"
    | none, ['#', a, b, c, d, e, f] =>
      let part (high low : Char) : Except Misuse Int :=
        (Number.readInt 16 (String.ofList [high, low])).mapError .unreadable
      let red ← part a b
      let green ← part c d
      let blue ← part e f
      return some s!"\x1b[38;2;{red};{green};{blue}m"
    | none, _ => return none
  | _ => return none

/-- A share within its bounds. -/
def bounded (share : Amount) : Amount :=
  if (Amount.whole 1).lessThan share then .whole 1
  else if share.lessThan (.whole 0) then .whole 0
  else share

/-- The symbols that a letter stands for. -/
def symbolsOf? (letter : Char) : Option String :=
  match letter.toLower with
  | 'a' => some plainSymbols
  | 'u' => some blocks
  | 'b' => some blanks
  | _ => none

/-- The symbols and the width that a layout asks for. -/
def measures (gauge : Gauge) (layout : String) : Except Misuse (Datum × Amount) := do
  let characters := layout.toList
  let named? := characters.getLast?.bind symbolsOf?
  let digits := String.ofList (if named?.isSome then characters.dropLast else characters)
  let width ←
    if digits.isEmpty then pure gauge.width
    else
      let number ← (Number.readInt 10 digits).mapError .unreadable
      if number < 0 then (Amount.plus (.whole number) gauge.width).mapError .number
      else pure (.whole number)
  return ((named?.map Datum.text).getD gauge.symbols, width)

/-- The symbol at a place; less than zero is the last one. -/
def symbolAt (symbols : Datum) (place : Int) : Except Misuse Datum :=
  match symbols with
  | .text words =>
    let characters := words.toList
    let found := if place < 0 then characters.getLast? else characters[place.toNat]?
    match found with
    | some symbol => .ok (.text (String.singleton symbol))
    | none => .error (.pastEnd "string")
  | .list items =>
    match if place < 0 then items.getLast? else items[place.toNat]? with
    | some symbol => .ok symbol
    | none => .error (.pastEnd "list")
  | _ => .error (.noKey (toString place))

/-- The steps that are filled in so many places, each of which has the same number of steps. -/
def filledSteps (gauge : Gauge) (width : Amount) (steps : Int) : Except NumberFault Int := do
  match ← (← gauge.share.times width).times (.whole steps) with
  | .whole number => return number
  | .real number => Binary64.toInt number

/-- What is drawn in a layout, before it has a colour. -/
def places (gauge : Gauge) (layout : String) : Except Misuse Datum := do
  let (symbols, width) ← gauge.measures layout
  let steps : Int := (← symbols.length) - 1
  let filled ← (gauge.filledSteps width steps).mapError .number
  if steps = 0 then .error .remainderByZero
  else
    let full := filled.fdiv steps
    let front ← (← symbolAt symbols (-1)).times (.whole full)
    if (Amount.whole full).lessThan width then
      let upToNext ← front.plus (← symbolAt symbols (filled.fmod steps))
      let empty ← (← width.toDatum.minus (.whole full)).minus (.whole 1)
      upToNext.plus (← (← symbolAt symbols 0).times empty)
    else return front

/-- Draws the gauge in a layout. Only text can be drawn. -/
def draw (gauge : Gauge) (layout : String) : Except Misuse String := do
  let drawn ← gauge.places layout
  let coloured ← match gauge.paint with
    | some paint => do (← (Datum.text paint).plus drawn).plus (.text paintEnd)
    | none => pure drawn
  match coloured with
  | .text words => return words
  | other => .error (.notDrawn other.typeName)

/-- What there is to be seen of a gauge. -/
def members (gauge : Gauge) : List (String × Datum) :=
  let paint := match gauge.paint with
    | some paint => .text paint
    | none => .absent
  [("frac", gauge.share.toDatum), ("default_len", gauge.width.toDatum), ("charset", gauge.symbols),
    ("colour", paint), ("_colour", paint), ("ASCII", .text plainSymbols), ("UTF", .text blocks),
    ("BLANK", .text blanks), ("COLOUR_RESET", .text paintEnd),
    ("COLOUR_RGB", .text "\x1b[38;2;%d;%d;%dm"),
    ("COLOURS", .table (colourNames.mapIdx fun code name => (name, .text s!"\x1b[{30 + code}m")))]

end Gauge

end Chip8
