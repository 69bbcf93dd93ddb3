import Chip8.Clock.Readings
import Chip8.Log.Notice

/-!
# Lines on a console

A line shows the seconds since the console was opened, the level and the name of the console before
the text. Colours mark the level and are used on a terminal only.

The clock is read once when the console is opened and once for every line that shows a time. Its
readings are given in advance; the last one stays.
-/

namespace Chip8

/-- Where lines are shown. -/
structure Console where
  name : String := "chip8"
  threshold : Level := .info
  colored : Bool := false
  stamped : Bool := true
  /-- The reading of the clock when the console was opened. -/
  start : Float := 0.0

namespace Console

def colorOf : Level → Nat
  | .debug => 36
  | .info => 32
  | .warning => 33
  | .error => 31
  | .critical => 35

/-- Opens a console whose threshold is given by name. Colours are used if they are wanted and the
console is a terminal. -/
def openNamed (name threshold : String) (colors terminal stamped : Bool) (readings : Readings Float) :
    Except LevelFault (Console × Readings Float) := do
  let threshold ← Level.threshold threshold
  let (start, readings) := readings.next 0.0
  .ok ({ name, threshold, colored := colors && terminal, stamped, start }, readings)

/-- The level in brackets. -/
def tag (console : Console) (level : Level) : String :=
  let plain := "[" ++ Decimal.alignRight 8 level.name ++ "]"
  if console.colored then s!"\x1b[{colorOf level}m{plain}\x1b[0m" else plain

/-- A line for a text that is shown at a reading of the clock. -/
def line (console : Console) (now : Float) (level : Level) (text : String) : String :=
  let stamp :=
    if console.stamped then "[" ++ Decimal.alignRight 8 (Decimal.fixed 2 (now - console.start)) ++ "s]"
    else ""
  s!"{stamp}{console.tag level}[{console.name}] {text}"

/-- The line for a text, if its level passes, and the readings left after it. -/
def show? (console : Console) (readings : Readings Float) (level : Level) (text : String) :
    Option String × Readings Float :=
  if level.passes console.threshold then
    if console.stamped then
      let (now, readings) := readings.next 0.0
      (some (console.line now level text), readings)
    else (some (console.line console.start level text), readings)
  else (none, readings)

/-- The lines for notices, and the readings left after them. -/
def showAll (console : Console) (readings : Readings Float) : List Notice → List String × Readings Float
  | [] => ([], readings)
  | notice :: rest =>
    let (line?, readings) := console.show? readings notice.level notice.text
    let (lines, readings) := showAll console readings rest
    (line?.toList ++ lines, readings)

/-- The lines of a log on a console that shows no times, without the notices already shown. -/
def plainLines (log : Log) (shown : Nat) : List String :=
  let console : Console := { threshold := log.threshold, stamped := false }
  (console.showAll ⟨[]⟩ (log.notices.toList.drop shown)).1

/-- The lines of a log on a console that is opened at the first reading of the clock. -/
def timedLines (log : Log) (readings : Readings Float) : List String :=
  let (start, readings) := readings.next 0.0
  let console : Console := { threshold := log.threshold, start }
  (console.showAll readings log.notices.toList).1

end Console

end Chip8
