import Chip8.Tool.Picture.Webp.Grouping
import Chip8.Tool.Picture.Webp.Price

/-!
# Choosing guesses

The tiles of a picture are kept one after another, row by row. What is kept of a tile are the ways in
which it is guessed and the levels of what the guesses miss. Among the ways, the one is chosen that
costs least, where the cost weighs the loss of a tile against the room it takes. Brightness is guessed
for a whole tile at once or block by block, colour always for a whole tile. Guesses start from tiles as
they will be read again, so that reading can repeat them.

The lowest waves of colour are rounded so that their errors even out: the error of a block is passed on
to its neighbours on the right and below.
-/

namespace Chip8.Webp

/-- A patch as it is kept. -/
structure KeptPatch where
  samples : Patch
  levels : Array Levels

/-- Errors of lowest waves that are passed on from four blocks. -/
structure PassedErrors where
  /-- To the two blocks on the right. -/
  right : Int × Int
  /-- To the two blocks below. -/
  below : Int × Int

/-- A tile as it is kept. -/
structure KeptTile where
  bright : KeptPatch
  blue : KeptPatch
  red : KeptPatch
  split : Bool
  ways : Array Way
  filled : Bool
  /-- Whether the last tile on the left whose lowest waves were kept apart, or this one, is full. -/
  lowestRight : Nat
  /-- The same for the last tile above. -/
  lowestBelow : Nat
  blueErrors : PassedErrors
  redErrors : PassedErrors

/-- The tiles around a tile that are kept already. -/
structure Surroundings where
  left : Option KeptTile
  above : Option KeptTile
  corner : Option KeptTile
  /-- Above on the right. -/
  beyond : Option KeptTile
  isLast : Bool

namespace Surroundings

/-- What surrounds a place after the tiles before it. -/
def ofTiles (tiles : Array KeptTile) (columns place : Nat) : Surroundings :=
  let (left, above, corner) := neighbours tiles columns place
  let isLast := place % columns = columns - 1
  { left, above, corner, isLast
    beyond := if place < columns ∨ isLast then none else tiles[place - columns + 1]? }

def border (around : Surroundings) (patch : KeptTile → KeptPatch) : Border :=
  let samples (tile : Option KeptTile) : Option Patch := tile.map fun tile => (patch tile).samples
  .ofNeighbours (samples around.left) (samples around.above) (samples around.corner)

/-- Whether a block of a patch is full, as a number. -/
def fullAt (levels : Array Levels) (block : Nat) : Nat :=
  if (levels.getD block #[]).isFull then 1 else 0

/-- The circumstance of a block, which is how many of the blocks on its left and above it are full. -/
def circumstance (around : Surroundings) (patch : KeptTile → KeptPatch) (side : Nat)
    (levels : Array Levels) (block : Nat) : Nat :=
  let levelsOf (tile : Option KeptTile) : Array Levels :=
    (tile.map fun tile => (patch tile).levels).getD #[]
  let left :=
    if block % side = 0 then fullAt (levelsOf around.left) (block + side - 1)
    else fullAt levels (block - 1)
  let above :=
    if block < side then fullAt (levelsOf around.above) (block + side * (side - 1))
    else fullAt levels (block - side)
  left + above

/-- Whether the lowest waves on the left are full, as a number. -/
def lowestLeft (around : Surroundings) : Nat := (around.left.map KeptTile.lowestRight).getD 0

/-- Whether the lowest waves above are full, as a number. -/
def lowestAbove (around : Surroundings) : Nat := (around.above.map KeptTile.lowestBelow).getD 0

/-- The price of all levels of a patch. -/
def patchPrice (around : Surroundings) (patch : KeptTile → KeptPatch) (side : Nat)
    (kind : BlockKind) (chances : Array Nat) (levels : Array Levels) : Nat :=
  (List.range levels.size).foldl (fun sum block => sum +
    (levels.getD block #[]).price kind (around.circumstance patch side levels block) chances) 0

end Surroundings

structure Cost where
  /-- The squares of the differences that are lost. -/
  loss : Int
  texture : Int
  price : Int

/-- A cost as one number, with a weight for what is kept. -/
def Cost.weighed (cost : Cost) (weight : Nat) : Int :=
  cost.price * weight + 256 * (cost.loss + cost.texture)

/-- A sum over the blocks of two patches. -/
def sumBlocks (measure : Block → Block → Int) (blocks others : Array Block) : Int :=
  (Array.zip blocks others).foldl (fun sum (block, other) => sum + measure block other) 0

/-- Roughness with its weight. -/
def Tuning.textureCost (tuning : Tuning) (texture : Int) : Int :=
  (tuning.textureWeight * texture + 128) / 256

/-! ## The brightness of whole tiles -/

/-- A way to guess the brightness of a tile at once. -/
structure TileChoice where
  way : Way
  cost : Cost
  patch : KeptPatch
  lowest : Levels

namespace TileChoice

/-- What guessing in a way comes to. -/
def ofWay (tuning : Tuning) (chances : Array Nat) (around : Surroundings) (border : Border)
    (patch : Patch) (way : Way) : TileChoice :=
  let guess := border.guess 4 way
  let waves := Array.zipWith (fun block guess => (block.minus guess).cosines)
    patch.blocks guess.blocks
  let lowest := tuning.lowest.levels (Block.steps (waves.map fun wave => wave.getD 0 0))
  let levels := waves.map fun wave => tuning.bright.levels (wave.setIfInBounds 0 0)
  let means := Block.ofSteps (tuning.lowest.amounts lowest)
  let blocks := guess.blocks.mapIdx fun place guess =>
    let amounts := tuning.bright.amounts (levels.getD place #[])
    guess.plus (Block.ofCosines (amounts.setIfInBounds 0 (means.getD place 0)))
  let price := lowest.price .lowest (around.lowestLeft + around.lowestAbove) chances +
    around.patchPrice KeptTile.bright 4 .higher chances levels
  { way, lowest
    cost :=
      { loss := sumBlocks Block.distance patch.blocks blocks
        texture := tuning.textureCost (sumBlocks Block.textureDistance patch.blocks blocks)
        price := (price + brightWayPrice way : Nat) }
    patch := ⟨⟨4, blocks⟩, levels⟩ }

/-- Whether no higher waves are kept. -/
def isFlat (choice : TileChoice) : Bool :=
  choice.patch.levels.all fun levels => levels.higherCount = 0

/-- The choice with its loss counted twice. -/
def doubled (choice : TileChoice) : TileChoice :=
  { choice with cost :=
      { choice.cost with loss := 2 * choice.cost.loss, texture := 2 * choice.cost.texture } }

/-- The best of ways. The loss in a tile of one colour counts twice until a way keeps higher waves. -/
def best (tuning : Tuning) (choiceOf : Way → TileChoice) : Bool → TileChoice → List Way → TileChoice
  | _, best, [] => best
  | flat, best, way :: ways =>
    let choice := choiceOf way
    let flat := flat && choice.isFlat
    let choice := if flat then choice.doubled else choice
    let isBetter := choice.cost.weighed tuning.tileWeight < best.cost.weighed tuning.tileWeight
    TileChoice.best tuning choiceOf flat (if isBetter then choice else best) ways

/-- The best way to guess a tile at once. -/
def choose (tuning : Tuning) (chances : Array Nat) (around : Surroundings) (border : Border)
    (patch : Patch) : TileChoice :=
  let choiceOf := ofWay tuning chances around border patch
  let first := choiceOf .mean
  let flat := patch.isFlat && first.isFlat
  best tuning choiceOf flat (if flat then first.doubled else first) [.slope, .down, .across]

/-- The greatest level among the lowest waves but one, if they are all that is kept and the loss is
great. -/
def peak (choice : TileChoice) (tuning : Tuning) : Nat :=
  let size (place : Nat) : Nat := (choice.lowest.getD place 0).natAbs
  if choice.lowest.isFull ∧ choice.patch.levels.all (!·.isFull) ∧ choice.cost.loss > tuning.rest
  then max (size 1) (max (size 2) (size 4)) else 0

end TileChoice

/-! ## Brightness block by block -/

/-- A way to guess a block. -/
structure BlockChoice where
  way : Way
  cost : Cost
  samples : Block
  levels : Levels

namespace BlockChoice

/-- What guessing in a way comes to, without the price of levels. A block that is almost flat pays for
any way but the mean. -/
def ofWay (tuning : Tuning) (wayPrice : Way → Nat) (block : Block) (edge : Edge) (way : Way) :
    BlockChoice :=
  let guess := edge.guess way
  let levels := tuning.bright.levels (block.minus guess).cosines
  let samples := guess.plus (Block.ofCosines (tuning.bright.amounts levels))
  let flatPrice := if way ≠ .mean ∧ levels.higherCount ≤ 3 then 140 else 0
  { way, levels, samples
    cost :=
      { loss := block.distance samples
        texture := tuning.textureCost (block.textureDistance samples)
        price := (wayPrice way + flatPrice : Nat) } }

/-- The choice with the price of its levels. -/
def priced (choice : BlockChoice) (chances : Array Nat) (circumstance : Nat) : BlockChoice :=
  let price : Nat := choice.levels.price .whole circumstance chances
  { choice with cost := { choice.cost with price := choice.cost.price + price } }

/-- The best way to guess a block. Levels are only priced where a way may be better than the best so
far. -/
def choose (tuning : Tuning) (chances : Array Nat) (circumstance : Nat) (choiceOf : Way → BlockChoice) :
    BlockChoice :=
  let first := (choiceOf .mean).priced chances circumstance
  let pick (best : BlockChoice) (way : Way) : BlockChoice :=
    let limit := best.cost.weighed tuning.blockWeight
    let choice := choiceOf way
    if choice.cost.weighed tuning.blockWeight ≥ limit then best
    else
      let choice := choice.priced chances circumstance
      if choice.cost.weighed tuning.blockWeight < limit then choice else best
  (Way.all.drop 1).foldl pick first

end BlockChoice

/-- Brightness that is guessed block by block. -/
structure Split where
  ways : Array Way
  samples : Array Block
  levels : Array Levels
  cost : Int

namespace Split

/-- A sample around or in the blocks so far. The row above a tile and the column on its left come first;
the row above goes on for four samples beyond the tile. -/
def sample (split : Split) (border : Border) (beyond : Array Int) (row column : Nat) : Int :=
  match row, column with
  | 0, 0 => border.corner
  | 0, column + 1 =>
    if column ≥ 16 then beyond.getD (column - 16) 0
    else border.above.elim 127 fun above => above.getD column 0
  | row + 1, 0 => border.left.elim 129 fun left => left.getD row 0
  | row + 1, column + 1 => Patch.at ⟨4, split.samples⟩ row column

/-- The edge of a block. What is known to the right of a tile is only known above it. -/
def edge (split : Split) (border : Border) (beyond : Array Int) (block : Nat) : Edge :=
  let (row, column) := (4 * (block / 4), 4 * (block % 4))
  Array.ofFn fun place : Fin 13 =>
    if place < 4 then split.sample border beyond (row + 4 - place) column
    else
      let column := column + place - 4
      split.sample border beyond (if column > 16 then 0 else row) column

/-- The samples above that lie beyond a tile. -/
def beyondOf (around : Surroundings) (border : Border) : Array Int :=
  match border.above, around.beyond with
  | some _, some tile => tile.bright.samples.bottom.extract 0 4
  | some above, none => Array.replicate 4 (above.getD 15 0)
  | none, _ => Array.replicate 4 127

/-- The way of the block on the left of a block. -/
def wayLeft (split : Split) (around : Surroundings) (block : Nat) : Way :=
  if block % 4 = 0 then (around.left.map fun tile => tile.ways.getD (block + 3) .mean).getD .mean
  else split.ways.getD (block - 1) .mean

/-- The way of the block above a block. -/
def wayAbove (split : Split) (around : Surroundings) (block : Nat) : Way :=
  if block < 4 then (around.above.map fun tile => tile.ways.getD (block + 12) .mean).getD .mean
  else split.ways.getD (block - 4) .mean

/-- Adds a block, unless the cost reaches a limit. -/
def add? (tuning : Tuning) (chances : Array Nat) (around : Surroundings) (border : Border)
    (beyond : Array Int) (patch : Patch) (limit : Int) (split : Split) (block : Nat) :
    Option Split :=
  let wayPrice := blockWayPrice (split.wayAbove around block) (split.wayLeft around block)
  let circumstance := around.circumstance KeptTile.bright 4 split.levels block
  let edge := split.edge border beyond block
  let choice := BlockChoice.choose tuning chances circumstance
    (.ofWay tuning wayPrice (patch.blocks.getD block #[]) edge)
  let cost := split.cost + choice.cost.weighed tuning.splitWeight
  if cost ≥ limit then none
  else some
    { ways := split.ways.push choice.way
      samples := split.samples.push choice.samples
      levels := split.levels.push choice.levels
      cost }

/-- The best ways to guess the blocks of a tile, if they cost less than a limit. -/
def choose? (tuning : Tuning) (chances : Array Nat) (around : Surroundings) (border : Border)
    (patch : Patch) (limit : Int) : Option Split :=
  let beyond := beyondOf around border
  (List.range 16).foldlM (add? tuning chances around border beyond patch limit)
    ⟨#[], #[], #[], blocksPrice * tuning.splitWeight⟩

end Split

/-! ## Colour -/

/-- A way to guess the colour of a tile. -/
structure ColorChoice where
  cost : Cost
  blue : KeptPatch
  red : KeptPatch
  blueErrors : PassedErrors
  redErrors : PassedErrors

/-- Rounds the lowest wave of a block to whole steps and gives half of the error. -/
def Steps.roundLowest (steps : Steps) (amount : Int) : Int × Int :=
  let count := steps.count 0 amount.natAbs * steps.lengths.getD 0 0
  let rounded : Int := if amount < 0 then -count else count
  (rounded, (amount - rounded) / 2)

/-- Rounds the lowest waves of four blocks. Each block takes eight of sixteen parts of the error on its
left and seven of the error above it. -/
def Steps.roundFour (steps : Steps) (left above : Int × Int) (waves : Array Block) :
    Array Block × PassedErrors :=
  let lowest (place : Nat) (fromAbove fromLeft : Int) : Int :=
    (waves.getD place #[]).getD 0 0 + (7 * fromAbove + 8 * fromLeft) / 8
  let (first, error0) := steps.roundLowest (lowest 0 above.1 left.1)
  let (second, error1) := steps.roundLowest (lowest 1 above.2 error0)
  let (third, error2) := steps.roundLowest (lowest 2 error0 left.2)
  let (fourth, error3) := steps.roundLowest (lowest 3 error1 error2)
  let rounded := #[first, second, third, fourth]
  let toRight := 3 * error3 / 4
  (waves.mapIdx fun place wave => wave.setIfInBounds 0 (rounded.getD place 0),
    { right := (error1, toRight), below := (error2, error3 - toRight) })

namespace ColorChoice

/-- A patch of colour that is guessed in a way, with the errors that it passes on. -/
def keep (tuning : Tuning) (left above : Int × Int) (patch guess : Patch) :
    KeptPatch × PassedErrors :=
  let waves := Array.zipWith (fun block guess => (block.minus guess).cosines)
    patch.blocks guess.blocks
  let (waves, errors) := tuning.color.roundFour left above waves
  let levels := waves.map tuning.color.levels
  let blocks := Array.zipWith
    (fun guess levels => guess.plus (Block.ofCosines (tuning.color.amounts levels)))
    guess.blocks levels
  (⟨⟨2, blocks⟩, levels⟩, errors)

/-- What guessing in a way comes to. A tile that is almost flat pays for any way but the mean. -/
def ofWay (tuning : Tuning) (chances : Array Nat) (around : Surroundings)
    (blueBorder redBorder : Border) (tile : Tile) (way : Way) : ColorChoice :=
  let passed (errors : KeptTile → PassedErrors) : (Int × Int) × (Int × Int) :=
    ((around.left.map fun tile => (errors tile).right).getD (0, 0),
      (around.above.map fun tile => (errors tile).below).getD (0, 0))
  let (blueLeft, blueAbove) := passed KeptTile.blueErrors
  let (redLeft, redAbove) := passed KeptTile.redErrors
  let (blue, blueErrors) := keep tuning blueLeft blueAbove tile.blue (blueBorder.guess 2 way)
  let (red, redErrors) := keep tuning redLeft redAbove tile.red (redBorder.guess 2 way)
  let higher := ((blue.levels ++ red.levels).map Levels.higherCount).foldl (· + ·) 0
  let price := around.patchPrice KeptTile.blue 2 .color chances blue.levels +
    around.patchPrice KeptTile.red 2 .color chances red.levels
  let flatPrice := if way ≠ .mean ∧ higher ≤ 2 then 8 * 140 else 0
  { blue, red, blueErrors, redErrors
    cost :=
      { loss := sumBlocks Block.distance tile.blue.blocks blue.samples.blocks +
          sumBlocks Block.distance tile.red.blocks red.samples.blocks
        texture := 0
        price := (price + flatPrice + colorWayPrice way : Nat) } }

/-- The best way to guess the colour of a tile. -/
def choose (tuning : Tuning) (choiceOf : Way → ColorChoice) : ColorChoice :=
  [Way.slope, .down, .across].foldl
    (fun best way =>
      let choice := choiceOf way
      if choice.cost.weighed tuning.colorWeight < best.cost.weighed tuning.colorWeight then choice
      else best)
    (choiceOf .mean)

end ColorChoice

/-! ## Tiles -/

/-- Keeps a tile. Gives the levels of the lowest waves beside it, and how high they reach if they are
all that is kept of brightness. -/
def keepTile (tuning : Tuning) (chances : Array Nat) (around : Surroundings) (tile : Tile) :
    KeptTile × Levels × Nat :=
  let border := around.border KeptTile.bright
  let whole := TileChoice.choose tuning chances around border tile.bright
  let split := Split.choose? tuning chances around border tile.bright
    (whole.cost.weighed tuning.splitWeight)
  let color := ColorChoice.choose tuning (ColorChoice.ofWay tuning chances around
    (around.border KeptTile.blue) (around.border KeptTile.red) tile)
  let anyFull (levels : Array Levels) : Bool := levels.any Levels.isFull
  let colorFilled := anyFull color.blue.levels || anyFull color.red.levels
  let means := Block.ofSteps (tuning.lowest.amounts whole.lowest)
  let lowestFull := if whole.lowest.isFull then 1 else 0
  let kept : KeptTile :=
    match split with
    | some split =>
      { bright := ⟨⟨4, split.samples⟩, split.levels⟩
        blue := color.blue
        red := color.red
        split := true
        ways := split.ways
        filled := colorFilled || anyFull split.levels
        lowestRight := around.lowestLeft
        lowestBelow := around.lowestAbove
        blueErrors := color.blueErrors
        redErrors := color.redErrors }
    | none =>
      { bright := whole.patch
        blue := color.blue
        red := color.red
        split := false
        ways := Array.replicate 16 whole.way
        filled := colorFilled || anyFull whole.patch.levels || means.any (· ≠ 0)
        lowestRight := lowestFull
        lowestBelow := lowestFull
        blueErrors := color.blueErrors
        redErrors := color.redErrors }
  (kept, whole.lowest, whole.peak tuning)

/-- Counts the decisions on the levels of a patch. -/
def Tally.addPatch (tally : Tally) (around : Surroundings) (patch : KeptTile → KeptPatch)
    (side : Nat) (kind : BlockKind) (levels : Array Levels) : Tally :=
  (List.range levels.size).foldl (fun tally block =>
    tally.add (levels.getD block #[]) kind (around.circumstance patch side levels block)) tally

/-- Counts the decisions on the levels of a tile. -/
def Tally.addTile (tally : Tally) (around : Surroundings) (tile : KeptTile) (lowest : Levels) :
    Tally :=
  let tally :=
    if tile.split then tally.addPatch around KeptTile.bright 4 .whole tile.bright.levels
    else
      let circumstance := around.lowestLeft + around.lowestAbove
      (tally.add lowest .lowest circumstance).addPatch around KeptTile.bright 4 .higher
        tile.bright.levels
  (tally.addPatch around KeptTile.blue 2 .color tile.blue.levels).addPatch around KeptTile.red 2
    .color tile.red.levels

/-- The tiles of a picture that are kept so far, and what was learnt from them. -/
structure Keeping where
  tiles : Array KeptTile
  chances : Array Nat
  tally : Tally
  peaks : Array Nat

namespace Keeping

/-- Keeps the next tile. After so many tiles more the chances are renewed. -/
def add (grouping : Grouping) (columns period : Nat) (keeping : Keeping) (tile : Tile) : Keeping :=
  let place := keeping.tiles.size
  let group := grouping.groups.getD place 0
  match grouping.tunings[group]? with
  | none => keeping
  | some tuning =>
    let ⟨tiles, chances, tally, peaks⟩ := keeping
    let chances := if (place + 1) % (period + 1) = 0 then tally.chances else chances
    let around := Surroundings.ofTiles tiles columns place
    let (kept, lowest, peak) := keepTile tuning chances around tile
    { tiles := tiles.push kept
      chances
      tally := tally.addTile around kept lowest
      peaks := peaks.modify group (max peak) }

/-- Keeps all tiles of a picture. -/
def ofTiling (tiling : Tiling) (grouping : Grouping) : Keeping :=
  tiling.tiles.foldl (add grouping tiling.columns (max 96 (tiling.tiles.size / 8)))
    ⟨#[], firstChances, .zero, Array.replicate grouping.tunings.size 0⟩

end Keeping

end Chip8.Webp
