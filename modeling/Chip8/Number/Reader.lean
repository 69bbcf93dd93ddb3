import Chip8.Number.Binary64
import Chip8.Text.Blank
import Chip8.Text.Digit
import Chip8.Text.Quoted

/-!
# Reading numbers

Whole numbers in base ten or sixteen and doubles in decimal. Blanks may stand at both ends and one
sign in front. Single underscores may stand between digits. In base ten the digits may be of any
script; so may they in base sixteen, beside the letters a to f of either case, and `0x` may stand
before them.

Reading a long number in base ten takes time that grows with the square of its length, so a number of
more than 4300 digits is refused. Nor is it told in base ten, which takes as long.
-/

namespace Chip8.Number

/-- Why a text is no number. -/
inductive ReadFault where
  | notWhole (base : Nat) (text : String)
  | tooManyDigits (count : Nat)
  | notDecimal (text : String)
  deriving DecidableEq

namespace ReadFault

def message : ReadFault → String
  | notWhole base text =>
    s!"invalid literal for int() with base {base}: {String.ofList ((Text.quoted text).toList.take 200)}"
  | tooManyDigits count =>
    s!"Exceeds the limit (4300 digits) for integer string conversion: value has {count} digits; " ++
      "use sys.set_int_max_str_digits() to increase the limit"
  | notDecimal text => s!"could not convert string to float: {Text.quoted text}"

end ReadFault

/-- A character of a number: a digit of any script becomes the digit of ASCII. -/
def plainChar (character : Char) : Char :=
  match Text.digitValue? character with
  | some value => Char.ofNat (0x30 + value)
  | none => character

/-- Takes one sign off the front; true means minus. -/
def takeSign : List Char → Bool × List Char
  | '-' :: rest => (true, rest)
  | '+' :: rest => (false, rest)
  | text => (false, text)

/-- The value of a digit of ASCII in a base up to sixteen. -/
def digitIn? (base : Nat) (character : Char) : Option Nat :=
  let code := character.toNat
  let value? :=
    if 0x30 ≤ code && code ≤ 0x39 then some (code - 0x30)
    else if 0x61 ≤ code && code ≤ 0x66 then some (code - 0x57)
    else if 0x41 ≤ code && code ≤ 0x46 then some (code - 0x37)
    else none
  value?.filter fun value => value < base

/-- Takes digits off the front as long as they last, with single underscores between them. Gives the
digits and the rest, or nothing if an underscore does not stand between two digits. The flag tells
whether a digit stands right before. -/
def takeDigits (base : Nat) (afterDigit : Bool) : List Char → Option (List Nat × List Char)
  | [] => some ([], [])
  | character :: rest =>
    if character = '_' then
      if afterDigit && (rest.head?.bind (digitIn? base)).isSome then takeDigits base false rest
      else none
    else match digitIn? base character with
      | some digit => (takeDigits base true rest).map fun (digits, left) => (digit :: digits, left)
      | none => some ([], character :: rest)

/-- Takes `0x`, and one underscore after it, off the front of a number in base sixteen. -/
def takeBaseMark (base : Nat) (text : List Char) : List Char :=
  match base, text with
  | 16, '0' :: 'x' :: '_' :: rest => rest
  | 16, '0' :: 'X' :: '_' :: rest => rest
  | 16, '0' :: 'x' :: rest => rest
  | 16, '0' :: 'X' :: rest => rest
  | _, text => text

def ofDigits (base : Nat) (digits : List Nat) : Nat :=
  digits.foldl (fun number digit => number * base + digit) 0

/-- The most digits of a number in base ten. -/
def digitLimit : Nat := 4300

/-- What is said instead of a number that has more digits. -/
def untold : String :=
  s!"Exceeds the limit ({digitLimit} digits) for integer string conversion; " ++
    "use sys.set_int_max_str_digits() to increase the limit"

/-- Reads a whole number in base ten or sixteen. -/
def readInt (base : Nat) (text : String) : Except ReadFault Int :=
  let (negative, unsigned) := takeSign ((text.toList.dropWhile Text.isBlank).map plainChar)
  match takeDigits base false (takeBaseMark base unsigned) with
  | none => .error (.notWhole base text)
  | some (digits, rest) =>
    if base = 10 ∧ digitLimit < digits.length then .error (.tooManyDigits digits.length)
    else if digits.isEmpty || !rest.all Text.isBlank then .error (.notWhole base text)
    else
      let magnitude : Int := ofDigits base digits
      .ok (if negative then -magnitude else magnitude)

def underscoresBetweenDigits : List Char → Bool
  | [] => true
  | '_' :: _ => false
  | character :: '_' :: next :: rest =>
    character.isDigit && next.isDigit && underscoresBetweenDigits (next :: rest)
  | _ :: '_' :: [] => false
  | _ :: rest => underscoresBetweenDigits rest

/-- A decimal number as its digits and the power of ten they are multiplied by. -/
structure Scaled where
  digits : Nat
  exponent : Int

/-- The values of the digits at the front, and the rest. -/
def spanDigits (text : List Char) : List Nat × List Char :=
  ((text.takeWhile Char.isDigit).map fun digit => digit.toNat - 0x30, text.dropWhile Char.isDigit)

/-- Reads what follows the digits: nothing, or a letter e with a sign and digits. -/
def readExponent? : List Char → Option Int
  | [] => some 0
  | mark :: rest =>
    if mark = 'e' || mark = 'E' then
      let (negative, unsigned) := takeSign rest
      let (digits, left) := spanDigits unsigned
      if digits.isEmpty || !left.isEmpty then none
      else
        let magnitude : Int := ofDigits 10 digits
        some (if negative then -magnitude else magnitude)
    else none

/-- Reads digits with at most one point, and an exponent. -/
def readScaled? (text : List Char) : Option Scaled :=
  let (whole, rest) := spanDigits text
  let (part, rest) := match rest with
    | '.' :: rest => spanDigits rest
    | rest => ([], rest)
  if whole.isEmpty && part.isEmpty then none
  else (readExponent? rest).map fun exponent =>
    ⟨ofDigits 10 (whole ++ part), exponent - part.length⟩

/-- The double nearest to a decimal number. Far beyond the range on either side the power of ten is
not worked out. -/
def Scaled.toFloat (negative : Bool) (scaled : Scaled) : Float :=
  let length : Int := (toString scaled.digits).length
  if scaled.digits = 0 ∨ scaled.exponent + length < -400 then Binary64.ofRatio negative 0 1
  else if 400 < scaled.exponent then Binary64.ofRatio negative Binary64.beyondRange 1
  else Binary64.ofRatio negative (scaled.digits * Nat.pow 10 scaled.exponent.toNat)
    (Nat.pow 10 (-scaled.exponent).toNat)

/-- Reads a decimal number, an infinity or a value that is no number. -/
def readFloat (text : String) : Except ReadFault Float :=
  let plain := (Text.trimBlanks text.toList).map plainChar
  if !underscoresBetweenDigits plain then .error (.notDecimal text)
  else
    let (negative, unsigned) := takeSign (plain.filter (· ≠ '_'))
    let name := String.ofList (unsigned.map Char.toLower)
    if name = "inf" ∨ name = "infinity" then .ok (Binary64.ofRatio negative Binary64.beyondRange 1)
    else if name = "nan" then .ok (0.0 / 0.0)
    else match readScaled? unsigned with
      | some scaled => .ok (scaled.toFloat negative)
      | none => .error (.notDecimal text)

end Chip8.Number
