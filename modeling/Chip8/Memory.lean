import Chip8.Extent
import Chip8.Fault

/-!
# Memory

A flat array of bytes that is read and written at checked addresses. An address is an integer, so
that a wrong one can be named in the fault. Writing gives a new memory; what held the old one still
sees the old bytes.

Access to a block is access to its bytes one after the other, all or nothing: the fault names the
first address of the block that is not in memory.
-/

namespace Chip8

/-- Bytes numbered from zero. -/
structure Memory where
  bytes : Array UInt8
  deriving DecidableEq

namespace Memory

def blank (size : Nat) : Memory := ⟨Array.replicate size 0⟩

/-- Memory of as many bytes as a host asks for, all zero. -/
def ofSize (room : Nat) (size : Int) : Except ExtentFault Memory := do
  return blank (elements (← extents room [size] .byte))

def size (memory : Memory) : Nat := memory.bytes.size

/-- The position of an address, if memory has it. -/
def position (memory : Memory) (address : Int) : Except Fault Nat :=
  if 0 ≤ address ∧ address < memory.size then .ok address.toNat
  else .error (.addressOutOfRange address)

/-- The position of a block of `length ≥ 1` bytes, if memory has all of it. Of a block that starts in
memory and runs past its end, the first wrong address is the size of memory. -/
def blockPosition (memory : Memory) (address : Int) (length : Nat) : Except Fault Nat := do
  let start ← memory.position address
  if start + length ≤ memory.size then .ok start else .error (.addressOutOfRange memory.size)

def read (memory : Memory) (address : Int) : Except Fault UInt8 := do
  let position ← memory.position address
  .ok (memory.bytes.getD position 0)

/-- Stores the low eight bits of `value` at an address. -/
def write (memory : Memory) (address value : Int) : Except Fault Memory := do
  let position ← memory.position address
  .ok ⟨memory.bytes.setIfInBounds position (UInt8.ofInt value)⟩

/-- Where a bound of a slice falls among `size` positions: a negative one counts from the end, and
one outside is moved to the nearer end. -/
def sliceBound (size : Nat) (bound : Int) : Nat :=
  if bound < 0 then (bound + size).toNat else min bound.toNat size

/-- The bytes from one bound up to another, as slices count bounds. -/
def slice (memory : Memory) (first last : Int) : List UInt8 :=
  (memory.bytes.extract (sliceBound memory.size first) (sliceBound memory.size last)).toList

/-- The `length` bytes from an address on. A length that is not positive is not checked; it gives the
slice between the two bounds. -/
def readBlock (memory : Memory) (address length : Int) : Except Fault (List UInt8) :=
  if 0 < length then do
    let start ← memory.blockPosition address length.toNat
    .ok (memory.bytes.extract start (start + length.toNat)).toList
  else .ok (memory.slice address (address + length))

def store (bytes : Array UInt8) (position : Nat) : List Int → Array UInt8
  | [] => bytes
  | value :: rest => store (bytes.setIfInBounds position (UInt8.ofInt value)) (position + 1) rest

/-- Stores the low eight bits of each value from an address on, or nothing at all. -/
def writeBlock (memory : Memory) (address : Int) (values : List Int) : Except Fault Memory :=
  match values with
  | [] => .ok memory
  | _ :: _ => do
    let start ← memory.blockPosition address values.length
    .ok ⟨store memory.bytes start values⟩

@[simp]
theorem size_blank (size : Nat) : (blank size).size = size := by
  simp [blank, Memory.size]

@[simp]
theorem size_store (bytes : Array UInt8) (position : Nat) (values : List Int) :
    (store bytes position values).size = bytes.size := by
  induction values generalizing bytes position with
  | nil => rfl
  | cons value rest ih => simp [store, ih]

theorem size_writeBlock {memory written : Memory} {address : Int} {values : List Int}
    (done : memory.writeBlock address values = .ok written) : written.size = memory.size := by
  cases values with
  | nil =>
    cases done
    rfl
  | cons value rest =>
    simp only [writeBlock, bind, Except.bind] at done
    split at done
    · cases done
    · cases done
      simp [Memory.size]

end Memory

end Chip8
