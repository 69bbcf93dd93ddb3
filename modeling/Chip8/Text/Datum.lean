import Chip8.Number.Decimal
import Chip8.Text.Quoted

/-!
# Data as text

Values that a host hands in without saying what they are for, and how they are shown: text between
quotes, numbers with all their digits, lists in brackets and fixed groups in parentheses, tables of
named values in braces. A fixed group of one has a comma behind it.
-/

namespace Chip8

/-- A value of any kind. -/
inductive Datum where
  | absent
  | flag (value : Bool)
  | whole (number : Int)
  | real (number : Float)
  | text (words : String)
  | list (items : List Datum)
  /-- Values in order, of which there are always as many. -/
  | group (items : List Datum)
  | table (rows : List (String × Datum))
  deriving Inhabited

namespace Datum

mutual

def shown : Datum → String
  | absent => "None"
  | flag true => "True"
  | flag false => "False"
  | whole number => toString number
  | real number => Decimal.shortest number
  | text words => Text.quoted words
  | list items => "[" ++ String.intercalate ", " (shownItems items) ++ "]"
  | group [item] => "(" ++ item.shown ++ ",)"
  | group items => "(" ++ String.intercalate ", " (shownItems items) ++ ")"
  | table rows => "\x7b" ++ String.intercalate ", " (shownRows rows) ++ "\x7d"

def shownItems : List Datum → List String
  | [] => []
  | item :: rest => item.shown :: shownItems rest

def shownRows : List (String × Datum) → List String
  | [] => []
  | (name, value) :: rest => (Text.quoted name ++ ": " ++ value.shown) :: shownRows rest

end

/-- How a value is shown where it stands alone: text is not quoted. -/
def plain : Datum → String
  | text words => words
  | value => value.shown

/-- Whether a value counts as yes: neither absent nor zero nor empty. -/
def holds : Datum → Bool
  | absent => false
  | flag value => value
  | whole number => number ≠ 0
  | real number => number != 0.0
  | text words => words ≠ ""
  | list items | group items => !items.isEmpty
  | table rows => !rows.isEmpty

/-- The rows of a table; any other value has none. -/
def rows : Datum → List (String × Datum)
  | table rows => rows
  | _ => []

/-- A list as a fixed group; any other value as it is. -/
def grouped : Datum → Datum
  | list items => group items
  | value => value

def typeName : Datum → String
  | absent => "NoneType"
  | flag _ => "bool"
  | whole _ => "int"
  | real _ => "float"
  | text _ => "str"
  | list _ => "list"
  | group _ => "tuple"
  | table _ => "dict"

end Datum

end Chip8
