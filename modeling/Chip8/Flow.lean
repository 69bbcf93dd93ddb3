/-!
# Flow

What an instruction does to the program counter once it has done everything else. Instructions are
two bytes long and the counter has sixteen bits.
-/

namespace Chip8

/-- Where the program goes on after an instruction. -/
inductive Flow where
  /-- At the same instruction, until something outside changes. -/
  | wait
  | next
  | skip
  | jump (address : Int)
  deriving DecidableEq

namespace Flow

/-- Skips the next instruction if the condition holds. -/
def skipIf (condition : Bool) : Flow := if condition then skip else next

/-- The address of a jump, and zero otherwise. -/
def address : Flow → Int
  | jump address => address
  | _ => 0

/-- The program counter after an instruction at `counter`. -/
def apply (flow : Flow) (counter : Int) : Int :=
  match flow with
  | wait => counter
  | next => (counter + 2) % 0x10000
  | skip => (counter + 4) % 0x10000
  | jump address => address % 0x10000

end Flow

end Chip8
