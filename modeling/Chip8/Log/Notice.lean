import Chip8.Fault
import Chip8.Log.Level
import Chip8.Number.Decimal
import Chip8.Path

/-!
# Notices

What the program has to say while it runs. A notice keeps the numbers it is about, so that a log can
be read as data; `Notice.text` is its wording and `Notice.level` its importance.
-/

namespace Chip8

inductive Setting where
  | text (words : String)
  | flag (value : Bool)
  | absent
  | whole (number : Int)
  /-- A double, shown with four places. -/
  | real (number : Float)

namespace Setting

def shown : Setting → String
  | text words => words
  | flag true => "True"
  | flag false => "False"
  | absent => "None"
  | whole number => toString number
  | real number => Decimal.fixed 4 number

/-- Adds a named setting at the end, or replaces the value of the name where it stands. -/
def put (settings : List (String × Setting)) (name : String) (value : Setting) :
    List (String × Setting) :=
  match settings with
  | [] => [(name, value)]
  | (other, old) :: rest =>
    if other = name then (name, value) :: rest else (other, old) :: put rest name value

/-- Settings with one value for each name, in the order in which the names first occur. -/
def ofPairs (pairs : List (String × Setting)) : List (String × Setting) :=
  pairs.foldl (fun settings (name, value) => put settings name value) []

end Setting

inductive Notice where
  /-- The random register is seeded from the checksum of the program. -/
  | derivedSeed (seed : Int) (checksum : Nat)
  | loaded (size : Nat) (seed : Int)
  | stalled (skipped : Int)
  | rule
  | heading (title : String)
  | setting (name : String) (value : Setting)
  | emulated (frames rate : Int)
  | savedVideo (file : String)
  | savedScreenshot (file : String)
  | paused
  | resumed
  | audioDisabled (reason : String)
  | unreadable (path : String) (fault : FileFault)
  | failed (fault : Fault)

namespace Notice

def level : Notice → Level
  | derivedSeed .. => .debug
  | stalled _ | audioDisabled _ => .warning
  | unreadable .. | failed _ => .error
  | _ => .info

/-- The time that frames stand for, in seconds with two places. -/
def seconds (frames rate : Int) : String :=
  match Binary64.ofQuotient frames rate with
  | .ok span => Decimal.fixed 2 span
  | .error fault => fault.message

def text : Notice → String
  | derivedSeed seed checksum =>
    s!"Derived seed 0x{Text.hex 4 true seed} from ROM checksum 0x{Text.hex 4 true checksum}"
  | loaded size seed => s!"Loaded {size}-byte ROM at 0x200 (seed 0x{Text.hex 4 true seed})"
  | stalled skipped => s!"Host stalled: skipped {skipped} scheduled ticks"
  | rule => String.ofList (List.replicate 60 '=')
  | heading title => title
  | setting name value => s!"  {name}: {value.shown}"
  | emulated frames rate => s!"Emulated {frames} frames ({seconds frames rate}s of machine time)"
  | savedVideo file => s!"Saved video to {file}"
  | savedScreenshot file => s!"Saved screenshot to {file}"
  | paused => "Paused"
  | resumed => "Resumed"
  | audioDisabled reason => s!"Audio disabled: {reason}"
  | unreadable path fault => s!"Cannot read ROM {path}: {fault.message}"
  | failed fault => s!"Error: {fault.message}"

/-- A title and settings below it, framed by rules. -/
def configuration (title : String) (settings : List (String × Setting)) : List Notice :=
  [rule, heading title] ++ settings.map (fun (name, value) => setting name value) ++ [rule]

end Notice

/-- Notices written so far, of those that pass a threshold. -/
structure Log where
  threshold : Level := .warning
  /-- What was written, oldest first. -/
  notices : Array Notice := #[]

namespace Log

def write (log : Log) (notice : Notice) : Log :=
  if notice.level.passes log.threshold then { log with notices := log.notices.push notice } else log

def writeAll (log : Log) (notices : List Notice) : Log := notices.foldl write log

end Log

end Chip8
