import Chip8.Text.Capital
import Chip8.Text.Quoted

/-!
# Levels of importance

Messages have one of five levels, and a log writes those from its threshold on. Names of levels may
be given in either case.
-/

namespace Chip8

/-- How important a message is, least first. -/
inductive Level where
  | debug
  | info
  | warning
  | error
  | critical
  deriving DecidableEq

/-- Why a name of a level is not accepted. -/
inductive LevelFault where
  | unknownThreshold (name : String)
  | unknownLevel
  deriving DecidableEq

namespace Level

def all : List Level := [debug, info, warning, error, critical]

def rank : Level → Nat
  | debug => 0
  | info => 1
  | warning => 2
  | error => 3
  | critical => 4

def name : Level → String
  | debug => "DEBUG"
  | info => "INFO"
  | warning => "WARNING"
  | error => "ERROR"
  | critical => "CRITICAL"

def passes (level threshold : Level) : Bool := threshold.rank ≤ level.rank

/-- The level with a name of either case. -/
def ofName? (text : String) : Option Level := all.find? fun level => level.name = text.map Text.capital

def threshold (text : String) : Except LevelFault Level :=
  match ofName? text with
  | some level => .ok level
  | none => .error (.unknownThreshold text)

def ofName (text : String) : Except LevelFault Level :=
  match ofName? text with
  | some level => .ok level
  | none => .error .unknownLevel

end Level

def LevelFault.message : LevelFault → String
  | unknownThreshold name =>
    s!"Unknown log level '{name}'. Available: {Text.quotedList (Level.all.map Level.name)}"
  | unknownLevel => "tuple.index(x): x not in tuple"

end Chip8
