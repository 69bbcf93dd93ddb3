import Chip8.Tool.Picture.Resample

/-!
# Icons

Files of icons hold a picture in several sizes, of which the greatest is shown. There are two kinds.
One has squares of usual sides, none of them greater than the picture: a picture that is no square
keeps the ratio of its sides and fills a square in one direction only. A picture smaller than all of
them is held as it is. The other kind has squares only, up to a fixed side, and the picture is
stretched to them.
-/

namespace Chip8.Icon

/-- The sides of the usual squares, greatest first. -/
def usualSides : List Nat := [256, 128, 64, 48, 32, 24, 16]

def longestSide : Nat := 256

/-- The one of the two whole numbers around a number that comes first by a key; at least one. -/
def nearestBy (key : Float → Float) (number : Float) : Nat :=
  let best := if key number.ceil < key number.floor then number.ceil else number.floor
  max best.toUInt64.toNat 1

/-- The width and height of a picture that fills a square in one direction and keeps the ratio of its
sides as well as whole numbers can. -/
def fitting (width height side : Nat) : Nat × Nat :=
  let ratio := width.toFloat / height.toFloat
  let length := side.toFloat
  if ratio ≤ 1.0 then
    (nearestBy (fun candidate => (ratio - candidate / length).abs) (length * ratio), side)
  else
    (side, nearestBy
      (fun candidate => if candidate == 0.0 then 0.0 else (ratio - length / candidate).abs)
      (length / ratio))

/-- The greatest form in which a picture is held, unless it is too great to be held as it is and still
smaller than every usual square in one direction. -/
def greatest? (picture : Picture) : Option Picture :=
  match usualSides.find? fun side => side ≤ picture.width && side ≤ picture.height with
  | some side =>
    let (width, height) := fitting picture.width picture.height side
    some (picture.resized .windowedWave width height)
  | none =>
    if picture.width ≤ longestSide ∧ picture.height ≤ longestSide then some picture else none

/-- The side of the greatest square of the kind that has squares only. -/
def squareSide : Nat := 1024

/-- A picture stretched to the greatest square. -/
def stretched (picture : Picture) : Picture := picture.resized .cubic squareSide squareSide

end Chip8.Icon
