import Chip8.Tool.Picture.Webp.Transform

/-!
# Guesses

Before anything is written about a patch, it is guessed from the samples next to it that are known
already: the last column of the patch on its left, the last row of the patch above it and the sample
in the corner between them. A block is guessed from a longer edge, which reaches four samples further
to the right above it. There are ten ways to guess; a patch of several blocks is guessed in one of the
first four, a block in any of them.
-/

namespace Chip8.Webp

/-- A way to guess samples from those next to them. -/
inductive Way where
  /-- All samples are the mean of the known ones. -/
  | mean
  /-- Samples rise from the left as the known ones above do, and downwards as those on the left do. -/
  | slope
  /-- The known samples above are continued downwards. -/
  | down
  /-- The known samples on the left are continued to the right. -/
  | across
  /-- Known samples are continued downwards and as far to the right. -/
  | downRight
  /-- Known samples are continued downwards and half as far to the right. -/
  | steepRight
  /-- Known samples are continued downwards and as far to the left. -/
  | downLeft
  /-- Known samples are continued downwards and half as far to the left. -/
  | steepLeft
  /-- Known samples are continued to the right and half as far downwards. -/
  | acrossDown
  /-- Known samples are continued to the right and half as far upwards. -/
  | acrossUp
  deriving Repr, DecidableEq

namespace Way

def all : List Way :=
  [mean, slope, down, across, downRight, steepRight, downLeft, steepLeft, acrossDown, acrossUp]

def place (way : Way) : Nat := all.idxOf way

end Way

/-- What is known next to a patch. -/
structure Border where
  left : Option (Array Int)
  above : Option (Array Int)
  corner : Int

namespace Border

/-- The border that neighbours leave, of which there are none at the edge of a plane. -/
def ofNeighbours (left above corner : Option Patch) : Border where
  left := left.map Patch.rightmost
  above := above.map Patch.bottom
  corner :=
    match left, above, corner with
    | none, some _, _ => 129
    | some _, some _, some corner => corner.last
    | _, _, _ => 127

def total (samples : Array Int) : Int := samples.foldl (· + ·) 0

/-- The mean of the known samples beside a patch of so many samples in a row. -/
def mean (border : Border) (width : Nat) : Int :=
  match border.left, border.above with
  | some left, some above => (total left + total above + width) / (2 * width)
  | some known, none | none, some known => (2 * total known + width) / (2 * width)
  | none, none => 128

/-- The guess for a patch of so many blocks in a row. -/
def guess (border : Border) (side : Nat) (way : Way) : Patch :=
  match way, border.left, border.above with
  | .down, _, some above | .slope, none, some above =>
    .ofFn side fun _ column => above.getD column 0
  | .across, some left, _ | .slope, some left, none => .ofFn side fun row _ => left.getD row 0
  | .slope, some left, some above => .ofFn side fun row column =>
    clipByte (left.getD row 0 + above.getD column 0 - border.corner)
  | .down, _, none => .ofFn side fun _ _ => 127
  | .across, none, _ | .slope, none, none => .ofFn side fun _ _ => 129
  | _, _, _ =>
    let mean := border.mean (4 * side)
    .ofFn side fun _ _ => mean

end Border

/-- The thirteen samples next to a block: four on its left from below, the corner, and eight above it
from the left. -/
abbrev Edge := Array Int

namespace Edge

/-- A sample of an edge, which goes on with its last sample. -/
def sample (edge : Edge) (place : Nat) : Int := edge.getD (min place 12) 0

/-- A sample of an edge blurred with those before and after it. -/
def blurred (edge : Edge) (place : Nat) : Int :=
  (edge.sample (place - 1) + 2 * edge.sample place + edge.sample (place + 1) + 2) / 4

/-- The mean of a sample and the one after it. -/
def between (edge : Edge) (place : Nat) : Int :=
  (edge.sample place + edge.sample (place + 1) + 1) / 2

/-- The edge with left and above exchanged. -/
def turned (edge : Edge) : Edge := Array.ofFn fun place : Fin 13 => edge.sample (8 - place)

/-- The edge continued downwards and half as far to the right. -/
def steepRight (edge : Edge) : Block := .ofFn fun row column =>
  let along : Int := 2 * column - row
  if along < -1 then edge.blurred (along + 5).toNat
  else if along % 2 = 0 then edge.between (along / 2 + 4).toNat
  else edge.blurred ((along + 1) / 2 + 4).toNat

/-- The edge continued downwards and half as far to the left. -/
def steepLeft (edge : Edge) : Block := .ofFn fun row column =>
  if column = 3 ∧ row ≥ 2 then edge.blurred (row + 8)
  else if row % 2 = 0 then edge.between (column + row / 2 + 5)
  else edge.blurred (column + row / 2 + 6)

/-- The edge continued to the right and half as far upwards. -/
def acrossUp (edge : Edge) : Block := .ofFn fun row column =>
  let along := column + 2 * row
  if along ≥ 6 then edge.sample 0
  else if along % 2 = 0 then edge.between (2 - along / 2)
  else edge.blurred (2 - along / 2)

def guess (edge : Edge) : Way → Block
  | .mean =>
    let sum := edge.sample 0 + edge.sample 1 + edge.sample 2 + edge.sample 3 +
      edge.sample 5 + edge.sample 6 + edge.sample 7 + edge.sample 8
    .ofFn fun _ _ => (sum + 4) / 8
  | .slope => .ofFn fun row column =>
    clipByte (edge.sample (3 - row) + edge.sample (5 + column) - edge.sample 4)
  | .down => .ofFn fun _ column => edge.blurred (5 + column)
  | .across => .ofFn fun row _ => edge.blurred (3 - row)
  | .downRight => .ofFn fun row column => edge.blurred (4 + column - row)
  | .steepRight => edge.steepRight
  | .downLeft => .ofFn fun row column => edge.blurred (6 + row + column)
  | .steepLeft => edge.steepLeft
  | .acrossDown => edge.turned.steepRight.transpose
  | .acrossUp => edge.acrossUp

end Edge

end Chip8.Webp
