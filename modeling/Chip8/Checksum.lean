/-!
# Checksum

The CRC-16 with polynomial `x^16 + x^12 + x^5 + 1`, initial value `0xFFFF`, most significant bit
first and nothing reflected. Taking in bytes one chunk after another is taking in all of them.
-/

namespace Chip8

/-- The remainder of the bytes taken in so far. -/
abbrev Checksum := UInt16

namespace Checksum

def initial : Checksum := 0xFFFF

/-- Takes in one byte, eight bits of the division at a time: the quotient digits are the top byte of
the sum, corrected by its own high half. -/
def update (checksum : Checksum) (byte : UInt8) : Checksum :=
  let sum := checksum >>> 8 ^^^ byte.toUInt16
  let quotient := sum ^^^ sum >>> 4
  checksum <<< 8 ^^^ quotient <<< 12 ^^^ quotient <<< 5 ^^^ quotient

def updateAll (checksum : Checksum) (bytes : List UInt8) : Checksum := bytes.foldl update checksum

def afterEach (checksum : Checksum) : List (List UInt8) → List Checksum
  | [] => []
  | chunk :: rest =>
    let checksum := updateAll checksum chunk
    checksum :: afterEach checksum rest

def ofBytes (bytes : List UInt8) : Checksum := updateAll initial bytes

theorem updateAll_append (checksum : Checksum) (first second : List UInt8) :
    updateAll checksum (first ++ second) = updateAll (updateAll checksum first) second := by
  simp [updateAll]

/-- Why a list of numbers has no checksum. -/
inductive ValueFault where
  | notByte
  deriving DecidableEq

def ValueFault.message : ValueFault → String
  | notByte => "bytes must be in range(0, 256)"

/-- The checksum of a list of numbers, which must all fit into bytes. -/
def ofValues (values : List Int) : Except ValueFault Checksum :=
  if values.all fun value => 0 ≤ value && value < 0x100 then
    .ok (ofBytes (values.map UInt8.ofInt))
  else .error .notByte

end Checksum

end Chip8
