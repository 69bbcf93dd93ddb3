import Chip8.Number.Binary64
import Chip8.Number.Integer64

/-!
# Extents and places

How many elements an array is to have in each direction, as a host asks for it. The numbers are
looked at before anything is made: each must fit into sixty-four bits, none may be negative, there
must not be more bytes in all than sixty-four bits can count, and there must be room for them. How many
bytes an array finds room for is the host's affair.

A place in an array is told by one number for each direction. Negative numbers count from the end.

A direction without elements does not make an array countable: what is counted is the product of the
other directions. Such an array needs no room.
-/

namespace Chip8

/-- What an array holds. -/
inductive ElementKind where
  | truth
  | byte
  | integer
  | single
  deriving DecidableEq

namespace ElementKind

def size : ElementKind → Nat
  | truth | byte => 1
  | single => 4
  | integer => 8

def name : ElementKind → String
  | truth => "bool"
  | byte => "uint8"
  | integer => "int64"
  | single => "float32"

end ElementKind

/-- Why no array can be made. -/
inductive ExtentFault where
  /-- A number of elements does not fit into sixty-four bits. -/
  | tooLong
  | negative
  /-- There would be more bytes in all than can be counted. -/
  | tooMany
  | noRoom (counts : List Nat) (kind : ElementKind)
  deriving DecidableEq

/-- The units in which numbers of bytes are told, each 1024 times the one before. -/
def byteUnits : List String := ["bytes", "KiB", "MiB", "GiB", "TiB", "PiB", "EiB"]

/-- A number of bytes in the greatest unit of which there is one: whole if there are a thousand of it
or if it is the byte, else with three digits. The point stays where no digit follows it. How many units
there are is a double, so that digits beyond its last bit have no say. -/
def byteText (bytes : Nat) : String :=
  let unit := bytes.log2 / 10
  let (numerator, denominator) := Binary64.fraction (Binary64.ofRatio false bytes (Nat.pow 1024 unit))
  let (unit, denominator) :=
    if roundDiv numerator denominator = 1024 then (unit + 1, denominator * 1024)
    else (unit, denominator)
  let inUnits (places : Nat) : Nat := roundDiv (numerator * Nat.pow 10 places) denominator
  let whole (places : Nat) : Nat := inUnits places / Nat.pow 10 places
  let part (places : Nat) : String :=
    let digits := toString (inUnits places % Nat.pow 10 places)
    String.ofList (List.replicate (places - digits.length) '0') ++ digits
  let amount :=
    if unit = 0 then toString bytes
    else if inUnits 2 < 1000 then s!"{whole 2}.{part 2}"
    else if inUnits 1 < 1000 then s!"{whole 1}.{part 1}"
    else s!"{inUnits 0}."
  amount ++ " " ++ byteUnits.getD unit ""

def elements (counts : List Nat) : Nat := counts.foldl (· * ·) 1

/-- Numbers of elements in parentheses; a single one is followed by a comma. -/
def extentText (counts : List Nat) : String :=
  match counts with
  | [count] => s!"({count},)"
  | _ => "(" ++ String.intercalate ", " (counts.map toString) ++ ")"

def ExtentFault.message : ExtentFault → String
  | tooLong => "Maximum allowed dimension exceeded"
  | negative => "negative dimensions are not allowed"
  | tooMany =>
    "array is too big; `arr.size * arr.dtype.itemsize` is larger than the maximum possible size."
  | noRoom counts kind =>
    s!"Unable to allocate {byteText (elements counts * kind.size)} for an array with shape " ++
      s!"{extentText counts} and data type {kind.name}"

/-- The numbers of elements, as natural numbers, of an array that may take up so many bytes. -/
def extents (room : Nat) (numbers : List Int) (kind : ElementKind) : Except ExtentFault (List Nat) :=
  let counts := numbers.map Int.toNat
  let inAll : Nat := elements (counts.filter (· ≠ 0)) * kind.size
  if numbers.any fun number => !Integer64.holds number then .error .tooLong
  else if numbers.any (· < 0) then .error .negative
  else if !Integer64.holds inAll then .error .tooMany
  else if !counts.contains 0 && room < inAll then .error (.noRoom counts kind)
  else .ok counts

/-- Whether there can be an array of so many elements in each direction. -/
def checkExtents (room : Nat) (counts : List Nat) (kind : ElementKind) : Except ExtentFault Unit :=
  (extents room (counts.map Nat.cast) kind).map fun _ => ()

/-- Why an array has no element at a place. -/
inductive PlaceFault where
  /-- A number does not fit into sixty-four bits, with or without a sign. -/
  | noPlace
  /-- A number does not fit into sixty-four bits with a sign. -/
  | tooFar
  | outside (place : Int) (direction count : Nat)
  deriving DecidableEq

def PlaceFault.message : PlaceFault → String
  | noPlace =>
    "only integers, slices (`:`), ellipsis (`...`), numpy.newaxis (`None`) and integer or boolean " ++
      "arrays are valid indices"
  | tooFar => Integer64.refusal
  | outside place direction count =>
    s!"index {place} is out of bounds for axis {direction} with size {count}"

/-- Whether a number can tell a place in an array of any size. -/
def checkPlace (place : Int) : Except PlaceFault Unit :=
  if Integer64.holds place then .ok ()
  else if 0 ≤ place ∧ place < 0x10000000000000000 then .error .tooFar
  else .error .noPlace

/-- The position, counted from the start, that a number tells in a direction with so many elements. -/
def position (place : Int) (direction count : Nat) : Except PlaceFault Nat :=
  if -(count : Int) ≤ place ∧ place < count then .ok (place % count).toNat
  else .error (.outside place direction count)

end Chip8
