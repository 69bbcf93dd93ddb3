import Chip8.Tool.Picture.Webp.Transform

/-!
# Steps

An amount of a wave is kept as a count of steps, its level. The lowest wave of a block has a step of
its own; all others share one. The coarser a part of the picture may be, the longer are its steps.

A level is rounded down more often than up, since a small level takes less room, and the amounts of
fine waves are raised a little first in what is kept of brightness.
-/

namespace Chip8.Webp

/-- The steps of lowest waves, by coarseness. -/
def lowestSteps : Array Nat := #[
    4, 5, 6, 7, 8, 9, 10, 10, 11, 12, 13, 14, 15, 16, 17, 17, 18, 19, 20, 20, 21, 21, 22, 22, 23,
    23, 24, 25, 25, 26, 27, 28, 29, 30, 31, 32, 33, 34, 35, 36, 37, 37, 38, 39, 40, 41, 42, 43, 44,
    45, 46, 46, 47, 48, 49, 50, 51, 52, 53, 54, 55, 56, 57, 58, 59, 60, 61, 62, 63, 64, 65, 66, 67,
    68, 69, 70, 71, 72, 73, 74, 75, 76, 76, 77, 78, 79, 80, 81, 82, 83, 84, 85, 86, 87, 88, 89, 91,
    93, 95, 96, 98, 100, 101, 102, 104, 106, 108, 110, 112, 114, 116, 118, 122, 124, 126, 128, 130,
    132, 134, 136, 138, 140, 143, 145, 148, 151, 154, 157]

/-- The steps of all other waves, by coarseness. -/
def higherSteps : Array Nat := #[
    4, 5, 6, 7, 8, 9, 10, 11, 12, 13, 14, 15, 16, 17, 18, 19, 20, 21, 22, 23, 24, 25, 26, 27, 28,
    29, 30, 31, 32, 33, 34, 35, 36, 37, 38, 39, 40, 41, 42, 43, 44, 45, 46, 47, 48, 49, 50, 51, 52,
    53, 54, 55, 56, 57, 58, 60, 62, 64, 66, 68, 70, 72, 74, 76, 78, 80, 82, 84, 86, 88, 90, 92, 94,
    96, 98, 100, 102, 104, 106, 108, 110, 112, 114, 116, 119, 122, 125, 128, 131, 134, 137, 140,
    143, 146, 149, 152, 155, 158, 161, 164, 167, 170, 173, 177, 181, 185, 189, 193, 197, 201, 205,
    209, 213, 217, 221, 225, 229, 234, 239, 245, 249, 254, 259, 264, 269, 274, 279, 284]

/-- A step out of a table that goes on with its last step. -/
def stepAt (steps : Array Nat) (coarseness : Int) : Nat :=
  steps.getD (min coarseness.toNat (steps.size - 1)) 1

/-- The places of a block in the order in which its levels are kept, from low waves to high ones. -/
def keptOrder : Array Nat := #[0, 1, 4, 8, 5, 2, 3, 6, 9, 12, 13, 10, 7, 11, 14, 15]

/-- Where the level of each place is kept. -/
def keptPlaces : Array Nat := #[0, 1, 5, 6, 2, 4, 7, 12, 3, 8, 11, 13, 9, 10, 14, 15]

/-- The levels of a block in the order in which they are kept. -/
abbrev Levels := Array Int

/-- The steps of a block, place by place. -/
structure Steps where
  lengths : Array Nat
  /-- The inverse of each length, in parts of 2 ^ 17. -/
  inverses : Array Nat
  /-- What is added to a count of steps before its fraction is dropped, in parts of 2 ^ 17. -/
  roundings : Array Nat
  raises : Array Nat

namespace Steps

/-- How much amounts are raised, in parts of 2048 of a step. -/
def raiseParts : Array Nat := #[0, 30, 60, 90, 30, 60, 90, 90, 60, 90, 90, 90, 90, 90, 90, 90]

/-- The steps of a block with the length and the rounding, in parts of 256, of the lowest wave and of
all others. -/
def of (lowest higher : Nat × Nat) (raised : Bool) : Steps :=
  let sixteen (part : Nat → Nat → Nat) : Array Nat := Array.ofFn fun place : Fin 16 =>
    part place (if place = 0 then lowest.1 else higher.1)
  { lengths := sixteen fun _ length => length
    inverses := sixteen fun _ length => 131072 / length
    roundings := sixteen fun place _ => 512 * (if place = 0 then lowest.2 else higher.2)
    raises := sixteen fun place length =>
      if raised then raiseParts.getD place 0 * length / 2048 else 0 }

def mean (steps : Steps) : Nat := (steps.lengths.foldl (· + ·) 0 + 8) / 16

/-- The count of steps in an amount without its sign. -/
def count (steps : Steps) (place amount : Nat) : Nat :=
  ((amount + steps.raises.getD place 0) * steps.inverses.getD place 0 +
    steps.roundings.getD place 0) / 131072

/-- The level of an amount in a place. -/
def level (steps : Steps) (place : Nat) (amount : Int) : Int :=
  let level : Int := (min 2047 (steps.count place amount.natAbs) : Nat)
  if amount < 0 then -level else level

def levels (steps : Steps) (amounts : Block) : Levels :=
  keptOrder.map fun place => steps.level place (amounts.getD place 0)

def amounts (steps : Steps) (levels : Levels) : Block :=
  Array.zipWith (fun kept (length : Nat) => levels.getD kept 0 * length) keptPlaces steps.lengths

end Steps

/-- Whether a block has any level that is not zero. -/
def Levels.isFull (levels : Levels) : Bool := levels.any (· ≠ 0)

/-- The number of levels that are not zero, the lowest wave apart. -/
def Levels.higherCount (levels : Levels) : Nat :=
  (levels.extract 1 16).countP (· ≠ 0)

end Chip8.Webp
