import Chip8.Tool.Progress.Count
import Chip8.Tool.Progress.Gauge
import Chip8.Tool.Text.Column

/-!
# Lines of progress

What a bar says in one line before anything is done: its description, how much of the total is reached,
the gauge, and the counts, without a rate as no time has passed. What is said and in which order may be
told by a template.
-/

namespace Chip8

/-- What goes into a line. -/
structure ProgressLine where
  count : Datum
  /-- The count at which the bar is full; nothing if it is not known. -/
  total : Datum
  description : String
  unit : String
  columns : Datum
  rows : Datum
  /-- What the gauge is drawn from: yes for plain symbols. -/
  symbols : Datum
  /-- The size of a unit, or yes if sizes are told with letters. -/
  scale : Datum
  /-- What a letter stands for a power of. -/
  divisor : Datum
  template : Datum
  remark : Datum
  colour : Datum

namespace ProgressLine

/-- The line without a total that is passed. -/
def withinTotal (line : ProgressLine) : Except Misuse ProgressLine := do
  if line.total.holds then
    let bound ← line.total.plus (.real 0.5)
    return if ← line.count.atLeast bound then { line with total := .absent } else line
  else return line

/-- Whether sizes are told with letters. -/
def lettered (line : ProgressLine) : Bool := line.scale.equalWhole? = some 1

/-- The line with its counts in units of the size that is given. -/
def scaled (line : ProgressLine) : Except Misuse ProgressLine := do
  if line.scale.holds && !line.lettered then
    let total ← if line.total.holds then line.total.times line.scale "*=" else pure line.total
    return { line with total, count := ← line.count.times line.scale "*=", scale := .flag false }
  else return line

def countText (line : ProgressLine) (count : Datum) : Except Misuse String :=
  if line.lettered then Count.sized line.divisor count else .ok count.plain

/-- What is said at the end, with a comma before it. -/
def ending (line : ProgressLine) : Datum :=
  match line.remark with
  | .text words => .text (if words.isEmpty then "" else ", " ++ words)
  | value => if value.holds then value else .text ""

def front (line : ProgressLine) : String :=
  if line.description.isEmpty || line.description.endsWith ": " then line.description
  else line.description ++ ": "

/-- How the rate of units in a time is told that is not known. -/
def rateText (line : ProgressLine) : String := "?" ++ line.unit ++ "/s"

/-- The end of the line, from the counts as they are told. -/
def back (line : ProgressLine) (count total : String) : String :=
  s!"| {count}/{total} [00:00<?, " ++ line.rateText ++ line.ending.plain ++ "]"

/-- What the names of the fields of a template stand for, apart from the gauge. -/
def fields (line : ProgressLine) (count total front back : String) (percentage : Datum) :
    List (String × Filling) :=
  let described (names : List (String × Datum)) : List (String × Filling) :=
    names.map fun (name, value) => (name, .value value)
  ("eta", .moment) :: described
    [("n", line.count), ("n_fmt", .text count), ("total", line.total), ("total_fmt", .text total),
      ("elapsed", .text "00:00"), ("elapsed_s", .whole 0), ("ncols", line.columns),
      ("desc", .text line.description), ("unit", .text line.unit), ("rate", .absent),
      ("rate_fmt", .text line.rateText), ("rate_noinv", .absent),
      ("rate_noinv_fmt", .text line.rateText), ("rate_inv", .absent),
      ("rate_inv_fmt", .text ("?s/" ++ line.unit)), ("postfix", line.ending),
      ("unit_divisor", line.divisor), ("colour", line.colour), ("remaining", .text "?"),
      ("remaining_s", .whole 0), ("l_bar", .text front), ("r_bar", .text back),
      ("nrows", line.rows), ("percentage", percentage)]

/-- The width that is left for the gauge. -/
def gaugeWidth (line : ProgressLine) (rest : String) : Except Misuse Amount := do
  if line.columns.holds then
    let left ← line.columns.minus (.whole (Text.columns rest))
    return match left.amount? with
      | some width => if (Amount.whole 1).lessThan width then width else .whole 1
      | none => .whole 1
  else return .whole 10

/-- Cuts a line to its width, if it has one, from which a negative width takes that much off the end. A
line in which characters and columns are not the same is left as it is. -/
def cut (line : ProgressLine) (text : String) : Except Misuse String :=
  if !line.columns.holds || Text.columns text ≠ text.length then .ok text
  else match line.columns.whole? with
  | some width =>
    let kept := if width < 0 then text.length - width.natAbs else width.toNat
    .ok (String.ofList (text.toList.take kept))
  | none => .error .brokenPlace

/-- Fills in the template, first without the gauge to see how wide the rest is. The gauge has a share
that is full, and is drawn from symbols. -/
def fillIn (line : ProgressLine) (fields : List (String × Filling)) (template : Datum) (share : Amount)
    (symbols : Datum) : Except Misuse String := do
  match template with
  | .text template =>
    let look (gauge : Filling) (name : String) : Option Filling :=
      if name = "bar" then some gauge else fields.lookup name
    let blank : Filling := .figure "FormatReplace" [("replace", .text ""), ("format_called", .whole 0)]
    let rest ← Template.fill (look blank) (fun _ => .ok "") template
    if rest.figures = 0 then return rest.text
    else
      let width ← line.gaugeWidth rest.text
      let paint ← Gauge.paintOf line.colour
      let gauge : Gauge := { share, width, symbols, paint }
      let filled ← Template.fill (look (.figure "Bar" gauge.members)) gauge.draw template
      line.cut filled.text
  | other => .error (.noMember other.typeName "format")

/-- What is said if nothing else is asked for: front, gauge and end. -/
def usualTemplate : String := "\x7bl_bar\x7d\x7bbar\x7d\x7br_bar\x7d"

/-- The line, from its counts as they are told. -/
def ofCounts (line : ProgressLine) (count total : String) : Except Misuse String := do
  let front := line.front
  let back := line.back count total
  if line.total.holds then
    let share ← line.count.dividedBy line.total
    match share.amount? with
    | none => return front ++ back
    | some amount =>
      let percentage ← (amount.times (.whole 100)).mapError .number
      let percent := Decimal.fixed 0 (← percentage.toFloat.mapError .number)
      let front := front ++ Decimal.alignRight 3 percent ++ "%|"
      if line.columns.equalWhole? = some 0 then
        return String.ofList (front.toList.dropLast ++ back.toList.drop 1)
      else
        let template := if line.template.holds then line.template else .text usualTemplate
        let symbols := match line.symbols with
          | .flag true => .text Gauge.plainSymbols
          | symbols => if symbols.holds then symbols else .text Gauge.blocks
        line.fillIn (line.fields count total front back percentage.toDatum) template
          (Gauge.bounded amount) symbols
  else if line.template.holds then
    line.fillIn (line.fields count total (front ++ "|") back (.whole 0)) line.template (.whole 0)
      (.text Gauge.blanks)
  else
    let front := if line.description.isEmpty then "" else line.description ++ ": "
    return front ++ count ++ line.unit ++ " [00:00, " ++ line.rateText ++ line.ending.plain ++ "]"

def written (line : ProgressLine) : Except Misuse String := do
  let line ← (← line.withinTotal).scaled
  let count ← line.countText line.count
  let total ← match line.total with
    | .absent => pure "?"
    | total => line.countText total
  line.ofCounts count total

end ProgressLine

end Chip8
