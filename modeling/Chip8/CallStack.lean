import Chip8.Fault

/-!
# Call stack

Sixteen cells for return addresses and a pointer to the first free one. Popping clears the cell it
empties, so that a stack on which calls and returns matched is the stack it was before.
-/

namespace Chip8

/-- Return addresses of the calls in progress. -/
structure CallStack where
  /-- The cells, used from the first on. -/
  cells : Vector UInt16 16 := Vector.replicate 16 0
  /-- Number of cells in use. -/
  pointer : Nat := 0
  pointer_le : pointer ≤ 16 := by omega
  deriving DecidableEq

namespace CallStack

/-- The stack with no call in progress. -/
def empty : CallStack := {}

/-- Number of calls in progress. -/
def depth (stack : CallStack) : Nat := stack.pointer

/-- The return addresses in use, oldest first. -/
def toList (stack : CallStack) : List UInt16 := stack.cells.toList.take stack.pointer

/-- Puts the low sixteen bits of an address on top. -/
def push (stack : CallStack) (address : Int) : Except Fault CallStack :=
  if room : stack.pointer < 16 then
    .ok { cells := stack.cells.set stack.pointer (UInt16.ofInt address), pointer := stack.pointer + 1 }
  else .error (.stackOverflow address)

/-- Takes the top address off and clears its cell. -/
def pop (stack : CallStack) : Except Fault (CallStack × UInt16) :=
  match stack with
  | { pointer := 0, .. } => .error .stackUnderflow
  | { cells, pointer := top + 1, pointer_le } =>
    .ok ({ cells := cells.set top 0, pointer := top }, cells[top])

@[simp]
theorem toList_empty : empty.toList = [] := rfl

@[simp]
theorem length_toList (stack : CallStack) : stack.toList.length = stack.depth := by
  simp [toList, depth, stack.pointer_le]

theorem toList_push {stack pushed : CallStack} {address : Int}
    (done : stack.push address = .ok pushed) :
    pushed.toList = stack.toList ++ [UInt16.ofInt address] := by
  unfold push at done
  split at done
  next room =>
    cases done
    simp only [toList, Vector.toList_set, List.take_add_one, List.take_set_of_le (Nat.le_refl _)]
    simp [room]
  next => cases done

theorem toList_pop {stack popped : CallStack} {address : UInt16}
    (done : stack.pop = .ok (popped, address)) :
    stack.toList = popped.toList ++ [address] := by
  obtain ⟨cells, pointer, pointer_le⟩ := stack
  cases pointer with
  | zero => cases done
  | succ top =>
    cases done
    have room : top < 16 := pointer_le
    simp only [toList, Vector.toList_set, List.take_add_one, List.take_set_of_le (Nat.le_refl _)]
    simp [room]

end CallStack

end Chip8
