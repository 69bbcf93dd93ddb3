import Chip8.Tool.Picture.Webp.Choice

/-!
# Smoothing

When a picture is read again, the edges between blocks are smoothed where they are likely to come from
the loss and not from the picture: where the step at an edge and the steps next to it are small. A
stronger smoothing takes greater steps for loss. Edges between tiles are smoothed over six samples,
edges within a tile over four; where the samples at an edge are uneven, over two.
-/

namespace Chip8.Webp

/-- How an edge is smoothed. -/
structure Brush where
  strength : Nat
  /-- Whether the edge lies between tiles. -/
  wide : Bool

namespace Brush

/-- Half of the greatest step at an edge that is smoothed. -/
def reach (brush : Brush) : Nat := 3 * brush.strength + (if brush.wide then 4 else 0)

/-- The greatest step next to an edge that counts as even. -/
def evenness (brush : Brush) : Nat :=
  if brush.strength ≥ 40 then 2 else if brush.strength ≥ 15 then 1 else 0

/-- Smooths the samples on both sides of an edge, of which the first on the far side is in a place and
the others follow and precede it in steps. -/
def cross (brush : Brush) (step : Nat) (samples : Array Int) (place : Nat) : Array Int :=
  let before (distance : Nat) : Int := samples.getD (place - distance * step) 0
  let after (distance : Nat) : Int := samples.getD (place + distance * step) 0
  let (p3, p2, p1, p0) := (before 4, before 3, before 2, before 1)
  let (q0, q1, q2, q3) := (after 0, after 1, after 2, after 3)
  let gap (sample other : Int) : Nat := (sample - other).natAbs
  if 4 * gap p0 q0 + gap p1 q1 > 2 * brush.reach + 1 then samples
  else if gap p3 p2 > brush.strength ∨ gap p2 p1 > brush.strength ∨ gap p1 p0 > brush.strength ∨
      gap q3 q2 > brush.strength ∨ gap q2 q1 > brush.strength ∨ gap q1 q0 > brush.strength then
    samples
  else
    let put (samples : Array Int) (place : Nat) (sample : Int) : Array Int :=
      samples.setIfInBounds place (clipByte sample)
    let shift (amount : Int) : Int := clip (-16) 15 (amount / 8)
    if gap p1 p0 > brush.evenness ∨ gap q1 q0 > brush.evenness then
      let amount := 3 * (q0 - p0) + clip (-128) 127 (p1 - q1)
      put (put samples (place - step) (p0 + shift (amount + 3))) place (q0 - shift (amount + 4))
    else if brush.wide then
      let amount := clip (-128) 127 (3 * (q0 - p0) + clip (-128) 127 (p1 - q1))
      let part (weight : Int) : Int := (weight * amount + 63) / 128
      let samples := put samples (place - 3 * step) (p2 + part 9)
      let samples := put samples (place - 2 * step) (p1 + part 18)
      let samples := put samples (place - step) (p0 + part 27)
      let samples := put samples place (q0 - part 27)
      let samples := put samples (place + step) (q1 - part 18)
      put samples (place + 2 * step) (q2 - part 9)
    else
      let amount := 3 * (q0 - p0)
      let (far, near) := (shift (amount + 4), shift (amount + 3))
      let rest := (far + 1) / 2
      let samples := put samples (place - 2 * step) (p1 + rest)
      let samples := put samples (place - step) (p0 + near)
      let samples := put samples place (q0 - far)
      put samples (place + step) (q1 - rest)

/-- Smooths along an edge of so many samples. -/
def along (brush : Brush) (step next length : Nat) (samples : Array Int) (place : Nat) : Array Int :=
  (List.range length).foldl (fun samples count => brush.cross step samples (place + count * next))
    samples

end Brush

/-- Smooths the edges of a tile in a plane: on its left, those across within it, above it, and those
down within it. The inner edges of a tile are only smoothed if anything is kept in it. -/
def smoothTile (side width : Nat) (inner : Bool) (strength row column : Nat) (samples : Array Int) :
    Array Int :=
  let place := row * side * width + column * side
  let steps := if inner then (List.range (side / 4)).drop 1 else []
  let (outer, within) := (Brush.mk strength true, Brush.mk strength false)
  let samples := if column = 0 then samples else outer.along 1 width side samples place
  let samples := steps.foldl (fun samples step =>
    within.along 1 width side samples (place + 4 * step)) samples
  let samples := if row = 0 then samples else outer.along width 1 side samples place
  steps.foldl (fun samples step =>
    within.along width 1 side samples (place + 4 * step * width)) samples

/-- Smooths a plane whose tiles have so many samples in a row, each as strongly as told. -/
def Plane.smooth (plane : Plane) (side : Nat) (tiles : List (Nat × Bool)) : Plane :=
  let columns := plane.width / side
  { plane with
    samples := (tiles.zipIdx).foldl (fun samples ((strength, inner), place) =>
      if strength = 0 then samples
      else smoothTile side plane.width inner strength (place / columns) (place % columns) samples)
      plane.samples }

/-- How strongly each tile is smoothed, and whether its inner edges are. Where lowest waves reached
high in a group while nothing else was kept, it is smoothed the more. -/
def Keeping.strengths (keeping : Keeping) (grouping : Grouping) : List (Nat × Bool) :=
  let strengths := grouping.tunings.mapIdx fun group tuning =>
    max tuning.strength
      (min 63 (keeping.peaks.getD group 0 * tuning.lowest.lengths.getD 1 0 / 8))
  keeping.tiles.toList.mapIdx fun place tile =>
    (strengths.getD (grouping.groups.getD place 0) 0, tile.split || tile.filled)

/-- The plane of patches in so many columns. -/
def Keeping.plane (keeping : Keeping) (patch : KeptTile → KeptPatch) (side columns : Nat) : Plane :=
  let patches := keeping.tiles.map fun tile => (patch tile).samples
  .ofFn (patches.size / columns * side) (columns * side) fun row column =>
    (patches.getD (row / side * columns + column / side) ⟨0, #[]⟩).at (row % side) (column % side)

/-- The planes of kept tiles. -/
def Keeping.planes (keeping : Keeping) (grouping : Grouping) (columns : Nat) : Planes :=
  let tiles := keeping.strengths grouping
  { bright := (keeping.plane KeptTile.bright 16 columns).smooth 16 tiles
    blue := (keeping.plane KeptTile.blue 8 columns).smooth 8 tiles
    red := (keeping.plane KeptTile.red 8 columns).smooth 8 tiles }

end Chip8.Webp
