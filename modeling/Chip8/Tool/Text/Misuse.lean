import Chip8.Number.Reader
import Chip8.Tool

/-!
# Misuse of values

What goes wrong where values of any kind are taken for something that they are not: for numbers, for
text, for a template, for the layout of a field. The causes tell the types of the values by name.
-/

namespace Chip8

/-- What is wrong with a template or with a layout in it. -/
inductive Malformed where
  | loneBrace (brace : Char)
  | braceInName
  | openField
  | openLayout
  | noConversion
  /-- Something stands between a conversion and a layout. -/
  | noColon
  | unknownConversion (letter : Char)
  /-- Something stands after an item in brackets that is no way to a part of it. -/
  | afterBracket
  | emptyName
  | openBracket
  | tooManyDigits
  /-- There are fields in the layout of a field in the layout of a field. -/
  | tooDeep
  | extraLayout (layout type : String)
  | unknownCode (code : Char) (type : String)
  | twoSeparators
  | noSeparator (separator code : Char)
  | noPrecision
  | largePrecision
  | precisionOfWhole
  | signOfText (blank : Bool)
  | zeroSign (isText : Bool)
  | formOfText
  /-- Text has no place between a sign and digits that could be filled up. -/
  | gapInText
  | signOfCharacter
  | formOfCharacter
  deriving DecidableEq

namespace Malformed

/-- A code or a conversion that is shown as it is if it is a visible character of ASCII. -/
def letterText (letter : Char) (quote : String) : String :=
  let code := letter.toNat
  if 32 < code ∧ code < 127 then quote ++ String.singleton letter ++ quote
  else quote ++ "\\x" ++ Text.hex 1 false code ++ quote

def message : Malformed → String
  | loneBrace brace => s!"Single '{brace}' encountered in format string"
  | braceInName => "unexpected '\x7b' in field name"
  | openField => "expected '\x7d' before end of string"
  | openLayout => "unmatched '\x7b' in format spec"
  | noConversion => "end of string while looking for conversion specifier"
  | noColon => "expected ':' after conversion specifier"
  | unknownConversion letter => "Unknown conversion specifier " ++ letterText letter ""
  | afterBracket => "Only '.' or '[' may follow ']' in format field specifier"
  | emptyName => "Empty attribute in format string"
  | openBracket => "Missing ']' in format string"
  | tooManyDigits => "Too many decimal digits in format string"
  | tooDeep => "Max string recursion exceeded"
  | extraLayout layout type => s!"Invalid format specifier '{layout}' for object of type '{type}'"
  | unknownCode code type =>
    "Unknown format code " ++ letterText code "'" ++ s!" for object of type '{type}'"
  | twoSeparators => "Cannot specify both ',' and '_'."
  | noSeparator separator code => s!"Cannot specify '{separator}' with " ++ letterText code "'" ++ "."
  | noPrecision => "Format specifier missing precision"
  | largePrecision => "precision too big"
  | precisionOfWhole => "Precision not allowed in integer format specifier"
  | signOfText blank =>
    (if blank then "Space" else "Sign") ++ " not allowed in string format specifier"
  | zeroSign isText =>
    let sort := if isText then "string" else "integer"
    s!"Negative zero coercion (z) not allowed in {sort} format specifier"
  | formOfText => "Alternate form (#) not allowed in string format specifier"
  | gapInText => "'=' alignment not allowed in string format specifier"
  | signOfCharacter => "Sign not allowed with integer format specifier 'c'"
  | formOfCharacter => "Alternate form (#) not allowed with integer format specifier 'c'"

end Malformed

/-- Why something cannot be done with values. -/
inductive Misuse where
  | operands (operation left right : String)
  | operand (operation type : String)
  | order (relation left right : String)
  | factor (type : String)
  | join (whole part : String)
  | noLength (type : String)
  | noMember (type name : String)
  | noItems (type : String)
  | noKey (key : String)
  | pastEnd (whole : String)
  | textPlace (isText : Bool)
  | noPosition (place : Nat)
  /-- A text is cut at a place that is no whole number. -/
  | brokenPlace
  | noLayout (type : String)
  /-- What is drawn is no text. -/
  | notDrawn (type : String)
  /-- What a guard is asked is no list. -/
  | noQuestion (type : String)
  /-- A guard is asked more than it takes. -/
  | longQuestion (count : Nat)
  | notWhole (type : String)
  | notReal (type : String)
  | timeWithoutWait
  | negativeTime
  /-- A guard is to be waited for too long; the time is a whole number or not. -/
  | longTime (whole : Bool)
  | wideWhole
  /-- A whole number is no position. -/
  | widePlace
  | noCharacter
  /-- A whole number of this size is repeated, or repeats something, too often to be counted. -/
  | manyTimes
  | noRoom
  | bytesForText
  | remainderByZero
  | number (fault : NumberFault)
  | unreadable (fault : Number.ReadFault)
  | noPair (count : Nat)
  | malformed (fault : Malformed)

namespace Misuse

def message : Misuse → String
  | operands operation left right =>
    s!"unsupported operand type(s) for {operation}: '{left}' and '{right}'"
  | operand operation type => s!"bad operand type for {operation}: '{type}'"
  | order relation left right =>
    s!"'{relation}' not supported between instances of '{left}' and '{right}'"
  | factor type => s!"can't multiply sequence by non-int of type '{type}'"
  | join whole part => s!"can only concatenate {whole} (not \"{part}\") to {whole}"
  | noLength type => s!"object of type '{type}' has no len()"
  | noMember type name => s!"'{type}' object has no attribute '{name}'"
  | noItems type => s!"'{type}' object is not subscriptable"
  | noKey key => key
  | pastEnd whole => s!"{whole} index out of range"
  | textPlace true => "string indices must be integers, not 'str'"
  | textPlace false => "list indices must be integers or slices, not str"
  | noPosition place => s!"Replacement index {place} out of range for positional args tuple"
  | brokenPlace => "slice indices must be integers or None or have an __index__ method"
  | noLayout type => s!"unsupported format string passed to {type}.__format__"
  | notDrawn type => s!"__format__ must return a str, not {type}"
  | noQuestion type =>
    s!"tqdm.std.TqdmDefaultWriteLock.acquire() argument after * must be an iterable, not {type}"
  | longQuestion count => s!"acquire() takes at most 2 arguments ({count} given)"
  | notWhole type => s!"'{type}' object cannot be interpreted as an integer"
  | notReal type => s!"must be real number, not {type}"
  | timeWithoutWait => "can't specify a timeout for a non-blocking call"
  | negativeTime => "timeout value must be positive"
  | longTime true => "timestamp too large to convert to C _PyTime_t"
  | longTime false => "timestamp out of range for platform time_t"
  | wideWhole => "Python int too large to convert to C int"
  | widePlace => "Python int too large to convert to C long"
  | noCharacter => "%c arg not in range(0x110000)"
  | manyTimes => "cannot fit 'int' into an index-sized integer"
  | noRoom => ""
  | bytesForText => "string argument expected, got 'bytes'"
  | remainderByZero => "integer division or modulo by zero"
  | number fault => fault.message
  | unreadable fault => fault.message
  | noPair count =>
    if count = 0 then "need more than 0 values to unpack"
    else if count = 1 then "need more than 1 value to unpack"
    else "too many values to unpack (expected 2)"
  | malformed fault => fault.message

end Misuse

/-- What sort of thing was misused. -/
inductive MisuseKind where
  | type
  | value
  | key
  | place
  | member
  | divisor
  | size
  | room
  deriving DecidableEq

def MisuseKind.name : MisuseKind → String
  | type => "TypeError"
  | value => "ValueError"
  | key => "KeyError"
  | place => "IndexError"
  | member => "AttributeError"
  | divisor => "ZeroDivisionError"
  | size => "OverflowError"
  | room => "MemoryError"

def Misuse.kind : Misuse → MisuseKind
  | noMember .. => .member
  | noKey _ => .key
  | pastEnd _ | noPosition _ => .place
  | remainderByZero | number .divisionByZero | number .floorDivisionByZero | number .ratioByZero =>
    .divisor
  | longTime _ | wideWhole | widePlace | noCharacter | manyTimes | number .infinityToInteger
  | number .integerTooLarge | number .ratioTooLarge => .size
  | noRoom => .room
  | timeWithoutWait | negativeTime | number .nanToInteger | unreadable _ | noPair .. | malformed _ =>
    .value
  | _ => .type

/-- A misuse as the fault of a tool. -/
def Misuse.fault (misuse : Misuse) : ToolFault := ⟨misuse.kind.name, misuse.message⟩

end Chip8
