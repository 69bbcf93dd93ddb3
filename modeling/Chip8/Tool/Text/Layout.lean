import Chip8.Tool.Text.Reckoning

/-!
# Layouts

How a value is to be laid out in a field of text: to which side it is moved and what fills the rest,
signs, an alternate form, a width, separators, a precision and a code for the type. Which of these a
value can have depends on its type. A layout is only looked at here: the first thing in it that makes no
sense is told.
-/

namespace Chip8

/-- The parts of a layout. -/
structure Layout where
  side : Option Char := none
  sign : Option Char := none
  /-- Whether a zero loses its sign. -/
  plainZero : Bool := false
  alternate : Bool := false
  width : Nat := 0
  separator : Option Char := none
  precision : Option Nat := none
  code : Option Char := none

namespace Layout

/-- Whether a character tells a side. -/
def isSide (character : Char) : Bool := "<>=^".contains character

/-- Takes one of some characters off the front. -/
def takeOne (choices : String) : List Char → Option Char × List Char
  | [] => (none, [])
  | first :: rest => if choices.contains first then (some first, rest) else (none, first :: rest)

/-- The number that digits of any script make, unless it does not fit into sixty-four bits. -/
def numberOf (digits : List Char) : Except Malformed Nat :=
  let number := Number.ofDigits 10 (digits.filterMap Text.digitValue?)
  if Integer64.holds number then .ok number else .error .tooManyDigits

def isDigit (character : Char) : Bool := (Text.digitValue? character).isSome

/-- Takes a number off the front, if there is one. -/
def takeNumber (text : List Char) : Except Malformed (Option Nat × List Char) :=
  match text.span isDigit with
  | ([], rest) => .ok (none, rest)
  | (digits, rest) => do return (some (← numberOf digits), rest)

/-- Takes the filling and the side off the front. The flag tells whether a filling is given. -/
def takeSide : List Char → (Option Char × Bool) × List Char
  | [] => ((none, false), [])
  | first :: rest =>
    match rest with
    | second :: rest' =>
      if isSide second then ((some second, true), rest')
      else if isSide first then ((some first, false), rest)
      else ((none, false), first :: rest)
    | [] => if isSide first then ((some first, false), []) else ((none, false), [first])

/-- Takes separators off the front, of which there is at most one. -/
def takeSeparator (text : List Char) : Except Malformed (Option Char × List Char) :=
  match takeOne ",_" text with
  | (none, rest) => .ok (none, rest)
  | (some separator, rest) =>
    match separator, rest with
    | ',', '_' :: _ | '_', ',' :: _ => .error .twoSeparators
    | _, _ => .ok (some separator, rest)

/-- Takes a point and a precision off the front. -/
def takePrecision : List Char → Except Malformed (Option Nat × List Char)
  | '.' :: rest => do
    match ← takeNumber rest with
    | (none, _) => .error .noPrecision
    | found => .ok found
  | text => .ok (none, text)

/-- Whether digits under a code can be separated so. -/
def separates (separator : Char) : Option Char → Bool
  | none => true
  | some code => "defgEG%F".contains code || (separator = '_' && "boxX".contains code)

/-- Reads a layout for a value of a type whose usual code is given. -/
def read (type : String) (usual : Option Char) (layout : String) : Except Malformed Layout := do
  let ((side, filled), text) := takeSide layout.toList
  let (sign, text) := takeOne " +-" text
  let (zero, text) := takeOne "z" text
  let (form, text) := takeOne "#" text
  let (_, text) := if filled then (none, text) else takeOne "0" text
  let (width, text) ← takeNumber text
  let (separator, text) ← takeSeparator text
  let (precision, text) ← takePrecision text
  let code ← match text with
    | [] => .ok usual
    | [code] => .ok (some code)
    | _ => .error (.extraLayout layout type)
  match separator with
  | some mark => if !separates mark code then .error (.noSeparator mark (code.getD 's'))
  | none => pure ()
  .ok
    { side, sign, plainZero := zero.isSome, alternate := form.isSome, width := width.getD 0,
      separator, precision, code }

def checkWidth (layout : Layout) : Except Misuse Unit :=
  if Datum.longest < layout.width then .error .noRoom else .ok ()

def checkText (layout : Layout) : Except Malformed Unit :=
  if layout.code ≠ some 's' then .error (.unknownCode (layout.code.getD 's') "str")
  else match layout.sign with
  | some sign => .error (.signOfText (sign = ' '))
  | none =>
  if layout.plainZero then .error (.zeroSign true)
  else if layout.alternate then .error .formOfText
  else if layout.side = some '=' then .error .gapInText
  else .ok ()

/-- The codes of numbers that are no whole numbers. -/
def realCodes : String := "eEfFgG%"

def checkReal (layout : Layout) (type : String) : Except Malformed Unit :=
  match layout.code with
  | some code =>
    if !realCodes.contains code && code ≠ 'n' then .error (.unknownCode code type)
    else if 0x7FFFFFFF < layout.precision.getD 0 then .error .largePrecision
    else .ok ()
  | none => if 0x7FFFFFFF < layout.precision.getD 0 then .error .largePrecision else .ok ()

/-- Looks at a layout for a whole number that stands for a character. -/
def checkCharacter (layout : Layout) (number : Int) : Except Misuse Unit :=
  if layout.sign.isSome then .error (.malformed .signOfCharacter)
  else if layout.alternate then .error (.malformed .formOfCharacter)
  else if !Integer64.holds number then .error .widePlace
  else if number < 0 ∨ 0x110000 ≤ number then .error .noCharacter
  else .ok ()

def checkWhole (layout : Layout) (type : String) (number : Int) : Except Misuse Unit :=
  let code := layout.code.getD 'd'
  if realCodes.contains code then
    match Binary64.ofInt number with
    | .error fault => .error (.number fault)
    | .ok _ => (layout.checkReal type).mapError .malformed
  else if !"bcdoxXn".contains code then .error (.malformed (.unknownCode code type))
  else if layout.precision.isSome then .error (.malformed .precisionOfWhole)
  else if layout.plainZero then .error (.malformed (.zeroSign false))
  else if code = 'c' then layout.checkCharacter number
  else .ok ()

/-- Looks at the text of a layout for a value. An empty one is fine for all values, and the only one for
values that are neither text nor numbers. -/
def check (value : Datum) (layout : String) : Except Misuse Unit :=
  let type := value.typeName
  if layout.isEmpty then .ok ()
  else match value with
  | .text _ => do
    let parts ← (read type (some 's') layout).mapError .malformed
    parts.checkText.mapError .malformed
    parts.checkWidth
  | .real _ => do
    let parts ← (read type none layout).mapError .malformed
    (parts.checkReal type).mapError .malformed
    parts.checkWidth
  | .whole number => do
    let parts ← (read type (some 'd') layout).mapError .malformed
    parts.checkWhole type number
    parts.checkWidth
  | .flag flag => do
    let parts ← (read type (some 'd') layout).mapError .malformed
    parts.checkWhole type flag.toInt
    parts.checkWidth
  | _ => .error (.noLayout type)

end Layout

end Chip8
