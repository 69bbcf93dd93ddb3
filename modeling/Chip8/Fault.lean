import Chip8.Number.Integer64
import Chip8.Text.Number

/-!
# Faults of the machine

Everything that can go wrong while the machine reads, draws, calls or executes. A fault carries the
value that caused it, and `Fault.message` is the one place where its wording is written.
-/

namespace Chip8

/-- The causes for which the machine refuses an operation. -/
inductive Fault where
  | addressOutOfRange (address : Int)
  | unknownOpcode (opcode : Int)
  | keyIndexOutOfRange (value : Int)
  /-- A call would push this return address onto a full stack. -/
  | stackOverflow (address : Int)
  | stackUnderflow
  /-- Zero is the fixed point of the random register. -/
  | zeroSeed
  | invalidDisplayDimensions (expected actual : Int × Int)
  | invalidKeyVectorLength (expected actual : Int)
  /-- The key is on the pad, but the key vector ends before it. -/
  | keyVectorTooShort
  /-- The key to be marked as down or up is beyond the end of the key vector. -/
  | keyVectorEnds
  | registerOutOfRange (number : Int)
  /-- The number of a register takes sixty-four bits without a sign. -/
  | registerTooFar
  /-- The number of a register is beyond sixty-four bits. -/
  | registerUncounted
  | screenWithoutRows
  | screenWithoutColumns
  | columnTooFar
  deriving DecidableEq

namespace Fault

/-- Text of a pair of numbers, in parentheses. -/
def pairText (pair : Int × Int) : String := s!"({pair.1}, {pair.2})"

/-- What is said of a size that is not the expected one. -/
def sizeText (what expected actual : String) : String :=
  s!"{what} size is {actual}, only size {expected} is supported"

def message : Fault → String
  | addressOutOfRange address => s!"RAM address 0x{Text.hex 4 false address} is invalid"
  | unknownOpcode opcode => s!"Unknown opcode 0x{Text.hex 4 true opcode}"
  | keyIndexOutOfRange value => s!"Pad address 0x{Text.hex 2 false value} is invalid"
  | stackOverflow address => s!"CPU stack overflow while calling from 0x{Text.hex 4 false address}"
  | stackUnderflow => "CPU stack underflow: return with an empty stack"
  | zeroSeed => "RNG seed must be non-zero"
  | invalidDisplayDimensions expected actual =>
    sizeText "Screen" (pairText expected) (pairText actual)
  | invalidKeyVectorLength expected actual =>
    sizeText "Pad" (toString expected) (toString actual)
  | keyVectorTooShort => "tuple index out of range"
  | screenWithoutRows => "integer modulo by zero"
  | keyVectorEnds => "list assignment index out of range"
  | registerOutOfRange number => s!"index {number} is out of bounds for axis 0 with size 16"
  | registerUncounted =>
    "only integers, slices (`:`), ellipsis (`...`), numpy.newaxis (`None`) and integer or " ++
      "boolean arrays are valid indices"
  | screenWithoutColumns => "index 0 is out of bounds for axis 0 with size 0"
  | registerTooFar | columnTooFar => Integer64.refusal

/-- A fault that the machine checks for and reports to its host. The others come from a host that
lends a screen or a pad of its own making to the bare processor. -/
def isReported : Fault → Bool
  | keyVectorTooShort | keyVectorEnds | registerOutOfRange _ | registerTooFar | registerUncounted
  | screenWithoutRows | screenWithoutColumns | columnTooFar => false
  | _ => true

/-- The four nibbles of the low sixteen bits of an opcode, most significant first. -/
def opcodeNibbles (opcode : Int) : List Int :=
  [opcode / 0x1000 % 0x10, opcode / 0x100 % 0x10, opcode / 0x10 % 0x10, opcode % 0x10]

end Fault

end Chip8
