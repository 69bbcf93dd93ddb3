import Chip8.Fault
import Chip8.Text.Datum

/-!
# Reports of faults

The faults that the machine reports come in kinds with names, and a kind may belong to families: misuse
of the call stack, a bad index, a bad value. A report names the kind of a fault and what it is about.
Reports come from outside as well, about anything at all, so the values are looked at before they are
put into words: there must be as many as the kind asks for, and what is written in hexadecimal must be
a whole number.

Main statement: the report of a fault reads like the fault itself (`FaultKind.tell_valuesOf`).
-/

namespace Chip8

/-- Kinds of reported faults, with a kind for those that are told in words. -/
inductive FaultKind where
  /-- A fault told in words. -/
  | told
  /-- A misuse of the call stack told in words. -/
  | toldOfStack
  | addressOutOfRange
  | unknownOpcode
  | keyIndexOutOfRange
  | stackOverflow
  | stackUnderflow
  | zeroSeed
  | invalidDisplayDimensions
  | invalidKeyVectorLength
  deriving DecidableEq

/-- Why no report can be made. -/
inductive ReportFault where
  | tooMany (kind : FaultKind) (given : Nat)
  | missing (kind : FaultKind) (names : List String)
  /-- A value that is no whole number is to be written in hexadecimal with such digits. -/
  | noHexadecimal (uppercase : Bool) (value : Datum)

namespace FaultKind

def all : List FaultKind :=
  [told, toldOfStack, addressOutOfRange, unknownOpcode, keyIndexOutOfRange, stackOverflow,
    stackUnderflow, zeroSeed, invalidDisplayDimensions, invalidKeyVectorLength]

def name : FaultKind → String
  | told => "Chip8Error"
  | toldOfStack => "StackError"
  | addressOutOfRange => "AddressOutOfRange"
  | unknownOpcode => "UnknownOpcode"
  | keyIndexOutOfRange => "KeyIndexOutOfRange"
  | stackOverflow => "StackOverflow"
  | stackUnderflow => "StackUnderflow"
  | zeroSeed => "ZeroSeed"
  | invalidDisplayDimensions => "InvalidDisplayDimensions"
  | invalidKeyVectorLength => "InvalidKeyVectorLength"

def ofName? (text : String) : Option FaultKind := all.find? fun kind => kind.name = text

/-- The families that a kind belongs to, that of all reported faults first. -/
def families : FaultKind → List String
  | told | unknownOpcode => ["Chip8Error"]
  | toldOfStack | stackOverflow | stackUnderflow => ["Chip8Error", "StackError"]
  | addressOutOfRange | keyIndexOutOfRange => ["Chip8Error", "IndexError"]
  | zeroSeed | invalidDisplayDimensions | invalidKeyVectorLength => ["Chip8Error", "ValueError"]

/-- The names of the values that a kind asks for; a fault told in words takes any. -/
def parameters : FaultKind → Option (List String)
  | told | toldOfStack => none
  | addressOutOfRange | stackOverflow => some ["address"]
  | unknownOpcode => some ["opcode"]
  | keyIndexOutOfRange => some ["value"]
  | stackUnderflow | zeroSeed => some []
  | invalidDisplayDimensions | invalidKeyVectorLength => some ["expected", "actual"]

/-- The kind of a fault that the machine reports. -/
def ofFault? : Fault → Option FaultKind
  | .addressOutOfRange _ => some addressOutOfRange
  | .unknownOpcode _ => some unknownOpcode
  | .keyIndexOutOfRange _ => some keyIndexOutOfRange
  | .stackOverflow _ => some stackOverflow
  | .stackUnderflow => some stackUnderflow
  | .zeroSeed => some zeroSeed
  | .invalidDisplayDimensions .. => some invalidDisplayDimensions
  | .invalidKeyVectorLength .. => some invalidKeyVectorLength
  | _ => none

/-- A whole number, as which yes and no count too. -/
def wholeOf (uppercase : Bool) : Datum → Except ReportFault Int
  | .whole number => .ok number
  | .flag value => .ok (if value then 1 else 0)
  | value => .error (.noHexadecimal uppercase value)

/-- What a fault told in words says: nothing, a value as it is, or several as a group. -/
def words : List Datum → String
  | [] => ""
  | [value] => value.plain
  | values => (Datum.group values).shown

/-- Whether a kind is given as many values as it asks for. -/
def checkCount (kind : FaultKind) (values : List Datum) : Except ReportFault Unit :=
  match kind.parameters with
  | none => .ok ()
  | some names =>
    if names.length < values.length then .error (.tooMany kind values.length)
    else if values.length < names.length then .error (.missing kind (names.drop values.length))
    else .ok ()

/-- The report of a fault of a kind that is about values. -/
def tell (kind : FaultKind) (values : List Datum) : Except ReportFault String := do
  kind.checkCount values
  let first := values.getD 0 .absent
  let second := values.getD 1 .absent
  match kind with
  | told | toldOfStack => .ok (words values)
  | addressOutOfRange => .ok (Fault.addressOutOfRange (← wholeOf false first)).message
  | unknownOpcode => .ok (Fault.unknownOpcode (← wholeOf true first)).message
  | keyIndexOutOfRange => .ok (Fault.keyIndexOutOfRange (← wholeOf false first)).message
  | stackOverflow => .ok (Fault.stackOverflow (← wholeOf false first)).message
  | stackUnderflow => .ok Fault.stackUnderflow.message
  | zeroSeed => .ok Fault.zeroSeed.message
  | invalidDisplayDimensions => .ok (Fault.sizeText "Screen" first.plain second.plain)
  | invalidKeyVectorLength => .ok (Fault.sizeText "Pad" first.plain second.plain)

/-- What a fault that the machine reports is about. -/
def valuesOf : Fault → List Datum
  | .addressOutOfRange number | .unknownOpcode number | .keyIndexOutOfRange number
  | .stackOverflow number => [.whole number]
  | .invalidDisplayDimensions expected actual =>
    [.group [.whole expected.1, .whole expected.2], .group [.whole actual.1, .whole actual.2]]
  | .invalidKeyVectorLength expected actual => [.whole expected, .whole actual]
  | _ => []

/-- The nibbles of what a report of an unknown instruction is about. -/
def nibbles? (kind : FaultKind) (values : List Datum) : Option (List Int) :=
  match kind, values with
  | unknownOpcode, [value] => (wholeOf true value).toOption.map Fault.opcodeNibbles
  | _, _ => none

/-- A count of values with the word for them. -/
def counted (count : Nat) : String :=
  s!"{count} positional argument" ++ if count = 1 then "" else "s"

end FaultKind

namespace ReportFault

/-- Whether the fault is about a value of the wrong kind and not about their number. -/
def isBadValue : ReportFault → Bool
  | noHexadecimal _ (.real _) | noHexadecimal _ (.text _) => true
  | _ => false

def message : ReportFault → String
  | tooMany kind given =>
    let asked := (kind.parameters.getD []).length + 1
    s!"{kind.name}.__init__() takes {FaultKind.counted asked} but {given + 1} were given"
  | missing kind names =>
    s!"{kind.name}.__init__() missing {names.length} required positional argument" ++
      (if names.length = 1 then "" else "s") ++
      ": " ++ String.intercalate " and " (names.map Text.quoted)
  | noHexadecimal uppercase value =>
    match value with
    | .real _ | .text _ =>
      let code := if uppercase then "X" else "x"
      s!"Unknown format code '{code}' for object of type '{value.typeName}'"
    | _ => s!"unsupported format string passed to {value.typeName}.__format__"

end ReportFault

/-- A reported fault is told as its kind tells what it is about. -/
theorem FaultKind.tell_valuesOf {fault : Fault} {kind : FaultKind}
    (reported : ofFault? fault = some kind) : kind.tell (valuesOf fault) = .ok fault.message := by
  cases fault <;> cases reported <;> rfl

end Chip8
