import Chip8.Number.Integer64
import Chip8.Text.Datum
import Chip8.Tool.Text.Misuse

/-!
# Reckoning with values

Arithmetic on values of any kind. Yes and no count as one and zero. Whole numbers are reckoned with
exactly; where a double takes part, a whole number becomes one first, which may have no room for it.
Text and lists can be put one after the other and repeated.
-/

namespace Chip8

/-- A number, whole or a double. -/
inductive Amount where
  | whole (number : Int)
  | real (number : Float)

namespace Amount

def toFloat : Amount → Except NumberFault Float
  | whole number => Binary64.ofInt number
  | real number => .ok number

def isZero : Amount → Bool
  | whole number => number = 0
  | real number => number == 0.0

/-- Applies an operation to whole numbers, or to doubles. -/
def combine (ofWhole : Int → Int → Int) (ofReal : Float → Float → Float) :
    Amount → Amount → Except NumberFault Amount
  | whole left, whole right => .ok (whole (ofWhole left right))
  | left, right => do return real (ofReal (← left.toFloat) (← right.toFloat))

def plus : Amount → Amount → Except NumberFault Amount := combine (· + ·) (· + ·)

def minus : Amount → Amount → Except NumberFault Amount := combine (· - ·) (· - ·)

def times : Amount → Amount → Except NumberFault Amount := combine (· * ·) (· * ·)

def dividedBy : Amount → Amount → Except NumberFault Amount
  | whole left, whole right => do return real (← Binary64.ofQuotient left right)
  | left, right => do return real (← Binary64.div (← left.toFloat) (← right.toFloat))

def magnitude : Amount → Amount
  | whole number => whole number.natAbs
  | real number => real number.abs

def negated : Amount → Amount
  | whole number => whole (-number)
  | real number => real (-number)

/-- Whether a whole number is at most a double, without rounding. -/
def wholeAtMost (number : Int) (bound : Float) : Bool :=
  match Binary64.ofFloat bound with
  | .nan => false
  | .infinite negative => !negative
  | .finite negative significand exponent => number ≤ Binary64.floor negative significand exponent

def atMost : Amount → Amount → Bool
  | whole left, whole right => left ≤ right
  | whole left, real right => wholeAtMost left right
  | real left, whole right => wholeAtMost (-right) (-left)
  | real left, real right => left ≤ right

/-- Whether a number is less than another one, where both are numbers. -/
def lessThan (left right : Amount) : Bool := left.atMost right && !right.atMost left

def toDatum : Amount → Datum
  | whole number => .whole number
  | real number => .real number

end Amount

namespace Datum

def amount? : Datum → Option Amount
  | flag value => some (.whole value.toInt)
  | whole number => some (.whole number)
  | real number => some (.real number)
  | _ => none

def whole? : Datum → Option Int
  | flag value => some value.toInt
  | whole number => some number
  | _ => none

/-- The whole number that a value equals. -/
def equalWhole? : Datum → Option Int
  | real number =>
    match Binary64.toInt number with
    | .ok nearest =>
      let same := (Amount.whole nearest).atMost (.real number) &&
        (Amount.real number).atMost (.whole nearest)
      if same then some nearest else none
    | .error _ => none
  | value => value.whole?

/-- Applies an operation on numbers. -/
def reckon (operation : String) (combine : Amount → Amount → Except NumberFault Amount)
    (left right : Datum) : Except Misuse Datum :=
  match left.amount?, right.amount? with
  | some amount, some other =>
    match combine amount other with
    | .ok result => .ok result.toDatum
    | .error fault => .error (.number fault)
  | _, _ => .error (.operands operation left.typeName right.typeName)

def minus (left right : Datum) : Except Misuse Datum := reckon "-" Amount.minus left right

/-- The quotient of two values; the operation may go by another name. -/
def dividedBy (left right : Datum) (operation : String := "/") : Except Misuse Datum :=
  reckon operation Amount.dividedBy left right

/-- Whether two values have an order, and are in it. -/
def inOrder (relation : String) (holds : Amount → Amount → Bool) (left right : Datum) :
    Except Misuse Bool :=
  match left.amount?, right.amount? with
  | some amount, some other => .ok (holds amount other)
  | _, _ => .error (.order relation left.typeName right.typeName)

def atMost (left right : Datum) : Except Misuse Bool := inOrder "<=" Amount.atMost left right

def atLeast (left right : Datum) : Except Misuse Bool :=
  inOrder ">=" (fun amount other => other.atMost amount) left right

/-- The most characters or items that are put into one text or list. -/
def longest : Nat := 0x100000000

def copies (words : String) (count : Nat) : String :=
  if count = 0 then ""
  else
    let half := copies words (count / 2)
    if count % 2 = 0 then half ++ half else half ++ half ++ words

/-- How often something of a length is to be repeated; less than no times is no times. -/
def repetitions (length : Nat) (count : Int) : Except Misuse Nat :=
  if !Integer64.holds count then .error .manyTimes
  else if longest < length * count.toNat then .error .noRoom
  else .ok count.toNat

def repeated (whole : Datum) (count : Int) : Except Misuse Datum := do
  match whole with
  | text words =>
    let times ← repetitions words.length count
    return text (copies words (if words.isEmpty then 0 else times))
  | list items =>
    let times ← repetitions items.length count
    return list (List.replicate (if items.isEmpty then 0 else times) items).flatten
  | _ => return whole

/-- Whether a value can be repeated. -/
def isSequence : Datum → Bool
  | text _ | list _ => true
  | _ => false

/-- The product of two values, of which one may be text or a list; the operation may go by another
name. -/
def times (left right : Datum) (operation : String := "*") : Except Misuse Datum :=
  let repeatedBy (whole factor : Datum) : Except Misuse Datum :=
    match factor.whole? with
    | some count => whole.repeated count
    | none => .error (.factor factor.typeName)
  if left.isSequence then repeatedBy left right
  else if right.isSequence then repeatedBy right left
  else reckon operation Amount.times left right

/-- The sum of two values, or one text or list after the other. -/
def plus (left right : Datum) : Except Misuse Datum :=
  match left, right with
  | text words, text more => .ok (text (words ++ more))
  | list items, list more => .ok (list (items ++ more))
  | text _, _ | list _, _ => .error (.join left.typeName right.typeName)
  | _, _ => reckon "+" Amount.plus left right

def negated (value : Datum) : Except Misuse Datum :=
  match value.amount? with
  | some amount => .ok amount.negated.toDatum
  | none => .error (.operand "unary -" value.typeName)

def magnitude (value : Datum) : Except Misuse Amount :=
  match value.amount? with
  | some amount => .ok amount.magnitude
  | none => .error (.operand "abs()" value.typeName)

def length (value : Datum) : Except Misuse Nat :=
  match value with
  | text words => .ok words.length
  | list items | group items => .ok items.length
  | table rows => .ok rows.length
  | _ => .error (.noLength value.typeName)

end Datum

end Chip8
