import Chip8.Tool.Picture.Webp.Guess
import Chip8.Tool.Picture.Webp.Steps

/-!
# Groups of tiles

A picture is cut into tiles, each sixteen pixels wide and high. Some tiles are rougher than others: the
guesses for them leave many different amounts of waves. Loss shows less in rough tiles. So tiles are
sorted into at most four groups by how calm they are, and each group is tuned on its own, with finer
steps for calmer ones.
-/

namespace Chip8.Webp

/-- What belongs to a tile in each plane. -/
structure Tile where
  bright : Patch
  blue : Patch
  red : Patch

/-- The tiles of a picture, row by row. -/
structure Tiling where
  columns : Nat
  rows : Nat
  tiles : Array Tile

/-- The tiles of planes. -/
def Tiling.ofPlanes (planes : Planes) : Tiling :=
  let columns := (planes.bright.width + 15) / 16
  let rows := (planes.bright.height + 15) / 16
  { columns, rows
    tiles := Array.ofFn fun place : Fin (rows * columns) =>
      let (row, column) := (place / columns, place % columns)
      { bright := .ofPlane planes.bright 4 (16 * row) (16 * column)
        blue := .ofPlane planes.blue 2 (8 * row) (8 * column)
        red := .ofPlane planes.red 2 (8 * row) (8 * column) } }

/-- What lies before a place among things in rows: on its left, above it, and in the corner. -/
def neighbours {Thing : Type} (things : Array Thing) (columns place : Nat) :
    Option Thing × Option Thing × Option Thing :=
  let inRow (thing : Option Thing) : Option Thing := if place % columns = 0 then none else thing
  let inColumn (thing : Option Thing) : Option Thing := if place < columns then none else thing
  (inRow things[place - 1]?, inColumn things[place - columns]?,
    inRow (inColumn things[place - columns - 1]?))

/-- The border of a tile in a plane. -/
def Tiling.border (tiling : Tiling) (patch : Tile → Patch) (place : Nat) : Border :=
  let (left, above, corner) := neighbours tiling.tiles tiling.columns place
  .ofNeighbours (left.map patch) (above.map patch) (corner.map patch)

/-- Counts how often each size of an amount is left of a patch by a guess for it, in eighths. -/
def countSizes (counts : Array Nat) (patch guess : Patch) : Array Nat :=
  (Array.zip patch.blocks guess.blocks).foldl
    (fun counts (block, guess) => (block.minus guess).cosines.foldl
      (fun counts amount => counts.modify (min 31 (amount.natAbs / 8)) (· + 1)) counts) counts

/-- How far sizes are spread: the greatest size over the number of the most frequent one. -/
def spread (counts : Array Nat) : Nat :=
  let greatest := (List.range counts.size).foldl
    (fun greatest size => if counts.getD size 0 > 0 then size else greatest) 1
  let most := counts.foldl max 0
  if most > 1 then 510 * greatest / most else 0

/-- How far the sizes are spread that guesses for patches leave, by the way with the widest spread. -/
def widestSpread (patches : List (Border × Patch)) : Nat :=
  ([Way.mean, .slope].map fun way =>
    spread (patches.foldl
      (fun counts (border, patch) => countSizes counts patch (border.guess patch.side way))
      (Array.replicate 32 0))).foldl max 0

/-- How rough a tile is in brightness and in colour. -/
def Tiling.roughness (tiling : Tiling) (place : Nat) (tile : Tile) : Nat × Nat :=
  (widestSpread [(tiling.border Tile.bright place, tile.bright)],
    widestSpread [(tiling.border Tile.blue place, tile.blue),
      (tiling.border Tile.red place, tile.red)])

/-- How calm a tile is, from 0 to 255. -/
def calmness (roughness : Nat × Nat) : Nat := 255 - (3 * roughness.1 + roughness.2 + 2) / 4

/-- Numbers sorted around four centres. -/
structure Clusters where
  members : List (Nat × Nat)
  centers : Array Int
  mean : Int
  /-- How far the centres were moved in all. -/
  moved : Nat

namespace Clusters

/-- The first centres, evenly spread between two numbers. -/
def start (least greatest : Nat) : Array Int :=
  Array.ofFn fun place : Fin 4 => (least + (2 * place + 1) * (greatest - least) / 8 : Nat)

/-- Goes on to the next centre while it is nearer to a number, at most so often. -/
def advance (centers : Array Int) (number : Nat) : Nat → Nat → Nat
  | 0, place => place
  | more + 1, place =>
    let distance (place : Nat) : Nat := (number - centers.getD place 0).natAbs
    if place < 3 ∧ distance (place + 1) < distance place then
      advance centers number more (place + 1)
    else place

/-- The centre of each number, for numbers in ascending order. -/
def assign (centers : Array Int) : Nat → List (Nat × Nat) → List (Nat × Nat)
  | _, [] => []
  | place, (number, _) :: numbers =>
    let place := advance centers number 3 place
    (number, place) :: assign centers place numbers

/-- Sorts counted numbers around centres and moves each centre to the mean of its numbers. -/
def around (numbers : List (Nat × Nat)) (centers : Array Int) : Clusters :=
  let members := assign centers 0 numbers
  let sums := (List.range 4).map fun place =>
    (numbers.zip members).foldl (fun (count, total) ((number, times), (_, center)) =>
      if center = place then (count + times, total + number * times) else (count, total)) (0, 0)
  let moved := (sums.zip centers.toList).map fun ((count, total), center) =>
    if count = 0 then center else ((total + count / 2) / count : Nat)
  let count := sums.foldl (fun count (counted, _) => count + counted) 0
  let total := (sums.zip moved).foldl (fun total ((count, _), center) => total + center * count) 0
  { members
    centers := moved.toArray
    mean := (total + (count / 2 : Nat)) / count
    moved := (centers.toList.zip moved).foldl
      (fun distance (center, new) => distance + (center - new).natAbs) 0 }

/-- Moves centres at most so many times more, until they hardly move any further. -/
def settle (numbers : List (Nat × Nat)) : Nat → Clusters → Clusters
  | 0, clusters => clusters
  | more + 1, clusters =>
    if clusters.moved < 5 then clusters
    else settle numbers more (around numbers clusters.centers)

/-- The clusters of numbers below 256. -/
def ofNumbers (numbers : Array Nat) : Clusters :=
  let counts := numbers.foldl (fun counts number => counts.modify number (· + 1))
    (Array.replicate 256 0)
  let counted := (List.range 256).filterMap fun number =>
    let times := counts.getD number 0
    if times = 0 then none else some (number, times)
  let (least, greatest) := ((counted.map (·.1)).headD 0, (counted.map (·.1)).getLastD 0)
  settle counted 5 (around counted (start least greatest))

/-- How far the centres lie apart, at least one. -/
def range (clusters : Clusters) : Int × Int :=
  let least := clusters.centers.foldl min (clusters.centers.getD 0 0)
  let greatest := clusters.centers.foldl max (clusters.centers.getD 0 0)
  (least, max 1 (greatest - least))

end Clusters

/-- How the tiles of a group are kept. -/
structure Tuning where
  /-- How strongly the edges between blocks are smoothed. -/
  strength : Nat
  bright : Steps
  lowest : Steps
  color : Steps
  /-- How much room counts against loss when a block is guessed. -/
  blockWeight : Nat
  /-- How much room counts when a whole tile is guessed. -/
  tileWeight : Nat
  /-- How much room counts when the colour of a tile is guessed. -/
  colorWeight : Nat
  /-- How much room counts between guessing a tile at once and block by block. -/
  splitWeight : Nat
  /-- How much differences in roughness count. -/
  textureWeight : Nat
  /-- The loss from which on a tile without higher waves is smoothed the more. -/
  rest : Nat

/-- How coarse a group may be kept whose calmness is so far above the mean. -/
def coarsenessOf (calm : Int) : Int :=
  let coarseness := Float.pow (2.0 * (80.0 / 100.0) - 1.0) (1.0 / 3.0)
  let power := 1.0 - 0.9 * 50.0 / 100.0 / 128.0 * Float.ofInt calm
  clip 0 127 (127.0 * (1.0 - Float.pow coarseness power)).toUInt64.toNat

/-- How strongly edges are smoothed at a coarseness, in a group whose calmness is so far above the
least. -/
def strengthOf (coarseness calm : Int) : Nat :=
  let strength := min (stepAt higherSteps coarseness / 4) 63 * 300 / (256 + calm.toNat)
  if strength < 2 then 0 else min strength 63

/-- The tuning for a coarseness and a strength. Colour is kept the coarser the rougher it is. -/
def Tuning.of (coarseness : Int) (strength colorRoughness : Nat) : Tuning :=
  let (lowest, higher) := (stepAt lowestSteps coarseness, stepAt higherSteps coarseness)
  let coarser := clip (-4) 6 (((((colorRoughness : Int) - 64) * 10).tdiv 70 * 50).tdiv 100)
  let bright := Steps.of (lowest, 96) (higher, 110) true
  let lowestWaves := Steps.of (2 * lowest, 96) (max 8 (higher * 155 / 100), 108) false
  let color := Steps.of (stepAt lowestSteps (clip 0 117 (coarseness - 2)), 110)
    (stepAt higherSteps (coarseness + coarser), 115) false
  let square (steps : Steps) : Nat := steps.mean * steps.mean
  { strength, bright, color
    lowest := lowestWaves
    blockWeight := max 1 (3 * square bright / 128)
    tileWeight := max 1 (3 * square lowestWaves)
    colorWeight := max 1 (3 * square color / 64)
    splitWeight := max 1 (square bright / 128)
    textureWeight := max 1 (50 * bright.mean / 32)
    rest := 20 * lowest }

/-- The groups of the tiles of a picture. -/
structure Grouping where
  tunings : Array Tuning
  groups : Array Nat

/-- The share of a count in two, in parts of 255. -/
def share (count other : Nat) : Nat :=
  if count + other = 0 then 255 else (255 * count + (count + other) / 2) / (count + other)

/-- The groups of tiles, all of them the first one if the share of the others is not worth telling. -/
def mergeFew (groups : Array Nat) : Array Nat :=
  let count (group : Nat) : Nat := groups.count group
  let shares := [share (count 0 + count 1) (count 2 + count 3), share (count 0) (count 1),
    share (count 2) (count 3)]
  if shares.all (· = 255) then groups.map fun _ => 0 else groups

/-- The groups of tiles. -/
def Grouping.ofTiling (tiling : Tiling) : Grouping :=
  let roughness := tiling.tiles.mapIdx tiling.roughness
  let calm := roughness.map calmness
  let colorRoughness := (roughness.foldl (fun sum rough => sum + rough.2) 0) / tiling.tiles.size
  let clusters := Clusters.ofNumbers calm
  let (least, range) := clusters.range
  let kinds := clusters.centers.toList.map fun center =>
    let coarseness := coarsenessOf (clip (-127) 127 ((255 * (center - clusters.mean)).tdiv range))
    (coarseness, strengthOf coarseness (clip 0 255 ((255 * (center - least)).tdiv range)))
  let distinct := kinds.eraseDups
  { tunings := (distinct.map fun (coarseness, strength) =>
      Tuning.of coarseness strength colorRoughness).toArray
    groups := mergeFew (calm.map fun number =>
      distinct.idxOf (kinds.getD ((clusters.members.lookup number).getD 0) (0, 0))) }

end Chip8.Webp
