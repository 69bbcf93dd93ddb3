import Chip8.Tool.Picture.Webp.Planes

/-!
# Waves in a block

A block holds four rows of four samples. A transform tells how much of each of sixteen waves there is
in it, first along the rows and then along the columns; another one puts the waves together again. The
waves of one kind are cosines, with factors in parts of powers of two; those of the other kind go up
and down in steps and need no factors.
-/

namespace Chip8.Webp

/-- Sixteen samples or amounts of waves, row by row. -/
abbrev Block := Array Int

namespace Block

/-- Makes a block of the row that each row gives. -/
@[inline]
def mapRows (row : Int → Int → Int → Int → Block) (block : Block) : Block :=
  let line (first : Nat) : Block :=
    row (block.getD first 0) (block.getD (first + 1) 0) (block.getD (first + 2) 0)
      (block.getD (first + 3) 0)
  line 0 ++ line 4 ++ line 8 ++ line 12

def transpose (block : Block) : Block :=
  let at_ (place : Nat) : Int := block.getD place 0
  #[at_ 0, at_ 4, at_ 8, at_ 12, at_ 1, at_ 5, at_ 9, at_ 13,
    at_ 2, at_ 6, at_ 10, at_ 14, at_ 3, at_ 7, at_ 11, at_ 15]

/-- Makes a block of the column that each column gives. -/
@[inline]
def mapColumns (column : Int → Int → Int → Int → Block) (block : Block) : Block :=
  (block.transpose.mapRows column).transpose

/-- The differences between the samples of two blocks. -/
def minus (block other : Block) : Block := Array.zipWith (· - ·) block other

/-- The samples of a block with differences added, within the range of bytes. -/
def plus (block differences : Block) : Block :=
  Array.zipWith (fun sample difference => clipByte (sample + difference)) block differences

/-- How much of each cosine wave there is in a block. -/
def cosines (block : Block) : Block :=
  let rows := block.mapRows fun d0 d1 d2 d3 =>
    let (a0, a1, a2, a3) := (d0 + d3, d1 + d2, d1 - d2, d0 - d3)
    #[(a0 + a1) * 8, (a2 * 2217 + a3 * 5352 + 1812) / 512, (a0 - a1) * 8,
      (a3 * 2217 - a2 * 5352 + 937) / 512]
  rows.mapColumns fun t0 t1 t2 t3 =>
    let (a0, a1, a2, a3) := (t0 + t3, t1 + t2, t1 - t2, t0 - t3)
    #[(a0 + a1 + 7) / 16, (a2 * 2217 + a3 * 5352 + 12000) / 65536 + (if a3 = 0 then 0 else 1),
      (a0 - a1 + 7) / 16, (a3 * 2217 - a2 * 5352 + 51000) / 65536]

/-- An amount times the square root of two times the cosine of an eighth of a half turn. -/
def timesLong (amount : Int) : Int := amount * 85627 / 65536

/-- An amount times the square root of two times the sine of an eighth of a half turn. -/
def timesShort (amount : Int) : Int := amount * 35468 / 65536

/-- The block in which there is so much of each cosine wave. -/
def ofCosines (amounts : Block) : Block :=
  let columns := amounts.mapColumns fun t0 t1 t2 t3 =>
    let (a, b) := (t0 + t2, t0 - t2)
    let (c, d) := (timesShort t1 - timesLong t3, timesLong t1 + timesShort t3)
    #[a + d, b + c, b - c, a - d]
  columns.mapRows fun t0 t1 t2 t3 =>
    let (a, b) := (t0 + 4 + t2, t0 + 4 - t2)
    let (c, d) := (timesShort t1 - timesLong t3, timesLong t1 + timesShort t3)
    #[(a + d) / 8, (b + c) / 8, (b - c) / 8, (a - d) / 8]

/-- How much of each wave of steps there is in a block, in halves of what four samples add up to. -/
def steps (block : Block) : Block :=
  let rows := block.mapRows fun t0 t1 t2 t3 =>
    let (a0, a1, a2, a3) := (t0 + t2, t1 + t3, t1 - t3, t0 - t2)
    #[a0 + a1, a3 + a2, a3 - a2, a0 - a1]
  rows.mapColumns fun t0 t1 t2 t3 =>
    let (a0, a1, a2, a3) := (t0 + t2, t1 + t3, t1 - t3, t0 - t2)
    #[(a0 + a1) / 2, (a3 + a2) / 2, (a3 - a2) / 2, (a0 - a1) / 2]

/-- The block in which there is so much of each wave of steps. -/
def ofSteps (amounts : Block) : Block :=
  let columns := amounts.mapColumns fun t0 t1 t2 t3 =>
    let (a0, a1, a2, a3) := (t0 + t3, t1 + t2, t1 - t2, t0 - t3)
    #[a0 + a1, a3 + a2, a0 - a1, a3 - a2]
  columns.mapRows fun t0 t1 t2 t3 =>
    let (a0, a1, a2, a3) := (t0 + 3 + t3, t1 + t2, t1 - t2, t0 + 3 - t3)
    #[(a0 + a1) / 8, (a3 + a2) / 8, (a0 - a1) / 8, (a3 - a2) / 8]

/-- How much each wave of steps counts when two blocks are compared. -/
def textureWeights : Block := #[38, 32, 20, 9, 32, 28, 17, 7, 20, 17, 10, 4, 9, 7, 4, 2]

/-- How rough a block is: the amounts of its waves of steps, weighted. -/
def texture (block : Block) : Int :=
  let amount (weight sum : Int) : Int := weight * (sum.natAbs : Int)
  let rows := block.mapRows fun t0 t1 t2 t3 =>
    let (a0, a1, a2, a3) := (t0 + t2, t1 + t3, t1 - t3, t0 - t2)
    #[a0 + a1, a3 + a2, a3 - a2, a0 - a1]
  let columns := rows.mapColumns fun t0 t1 t2 t3 =>
    let (a0, a1, a2, a3) := (t0 + t2, t1 + t3, t1 - t3, t0 - t2)
    #[a0 + a1, a3 + a2, a3 - a2, a0 - a1]
  (Array.zipWith amount textureWeights columns).foldl (· + ·) 0

/-- The difference in roughness of two blocks. -/
def textureDistance (block other : Block) : Int :=
  ((other.texture - block.texture).natAbs : Int) / 32

def distance (block other : Block) : Int :=
  (Array.zipWith (fun sample other => (sample - other) * (sample - other)) block other).foldl
    (· + ·) 0

/-- The block whose samples are given by row and column. -/
def ofFn (sampleAt : Nat → Nat → Int) : Block :=
  Array.ofFn fun place : Fin 16 => sampleAt (place / 4) (place % 4)

end Block

/-- A square of blocks, row by row. -/
structure Patch where
  side : Nat
  blocks : Array Block

/-- The patch whose samples are given by row and column. -/
def Patch.ofFn (side : Nat) (sampleAt : Nat → Nat → Int) : Patch where
  side
  blocks := Array.ofFn fun block : Fin (side * side) => Block.ofFn fun row column =>
    sampleAt (block / side * 4 + row) (block % side * 4 + column)

/-- The patch of a plane whose upper left sample is in a row and a column. -/
def Patch.ofPlane (plane : Plane) (side row column : Nat) : Patch :=
  .ofFn side fun y x => plane.at (row + y) (column + x)

def Patch.at (patch : Patch) (row column : Nat) : Int :=
  (patch.blocks.getD (row / 4 * patch.side + column / 4) #[]).getD (row % 4 * 4 + column % 4) 0

def Patch.bottom (patch : Patch) : Array Int :=
  Array.ofFn fun column : Fin (4 * patch.side) => patch.at (4 * patch.side - 1) column

def Patch.rightmost (patch : Patch) : Array Int :=
  Array.ofFn fun row : Fin (4 * patch.side) => patch.at row (4 * patch.side - 1)

def Patch.last (patch : Patch) : Int := patch.at (4 * patch.side - 1) (4 * patch.side - 1)

/-- Whether all samples are the same. -/
def Patch.isFlat (patch : Patch) : Bool :=
  let first := patch.at 0 0
  patch.blocks.all fun block => block.all (· == first)

end Chip8.Webp
