import Chip8.Picture.Basic

/-!
# Pictures of another size

A picture is brought to another width and then to another height; if it is higher than it is wide, to
another height first. The order shows, since samples are bytes in between. Each new sample is a mean of old
ones around the place it comes from, weighted by a kernel that falls off with the distance. A smaller
picture takes in as many more samples as it is smaller.

The weights of a place are worked out in doubles and rounded to parts of `2 ^ 22`; means are taken in
integers.
-/

namespace Chip8

/-- A weight for each distance, in samples, up to a greatest distance. -/
structure Kernel where
  /-- The distance from which on all weights are zero. -/
  reach : Float
  weight : Float → Float

namespace Kernel

/-- The cubic kernel that goes through the samples and has the slope of their neighbours. -/
def cubic : Kernel where
  reach := 2.0
  weight distance :=
    let x := distance.abs
    if x < 1.0 then (1.5 * x - 2.5) * x * x + 1.0
    else if x < 2.0 then (((x - 5.0) * x + 8.0) * x - 4.0) * -0.5
    else 0.0

/-- The wave of a single sample in a signal without higher frequencies. -/
def sinc (x : Float) : Float :=
  let angle := x * 3.14159265358979323846
  if x == 0.0 then 1.0 else angle.sin / angle

/-- The wave of a sample, faded out over three samples. -/
def windowedWave : Kernel where
  reach := 3.0
  weight distance :=
    if -3.0 ≤ distance && distance < 3.0 then sinc distance * sinc (distance / 3.0) else 0.0

end Kernel

namespace Picture

/-- Places of old samples and their weights in parts of `2 ^ 22`. -/
abbrev Weights := Array (Nat × Int)

/-- A weight in parts of `2 ^ 22`, rounded to the nearest. -/
def partsOf (weight : Float) : Int :=
  if weight < 0.0 then -((0.5 - weight * 4194304.0).toUInt64.toNat : Int)
  else (0.5 + weight * 4194304.0).toUInt64.toNat

/-- The weights for one of `target` new samples that take the place of `source` old ones. -/
def weightsFor (kernel : Kernel) (source target place : Nat) : Weights :=
  let step := source.toFloat / target.toFloat
  let spread := if step < 1.0 then 1.0 else step
  let reach := kernel.reach * spread
  let center := (place.toFloat + 0.5) * step
  let first := (center - reach + 0.5).toUInt64.toNat
  let last := min (center + reach + 0.5).toUInt64.toNat source
  let shrink := 1.0 / spread
  let places := (List.range (last - first)).map (first + ·)
  let weights := places.map fun old => kernel.weight ((old.toFloat - center + 0.5) * shrink)
  let sum := weights.foldl (· + ·) 0.0
  let share (weight : Float) : Float := if sum == 0.0 then weight else weight / sum
  (places.zip (weights.map fun weight => partsOf (share weight))).toArray

/-- The weighted mean of amounts, as a byte. -/
def weightedMean (weights : Weights) (amountAt : Nat → UInt8) : UInt8 :=
  let sum : Int := weights.foldl
    (fun sum (place, weight) => sum + weight * ((amountAt place).toNat : Int)) (0x200000 : Int)
  UInt8.ofInt (max 0 (min 255 (sum / 0x400000)))

def meanPixel (weights : Weights) (pixelAt : Nat → Pixel) : Pixel where
  red := weightedMean weights fun place => (pixelAt place).red
  green := weightedMean weights fun place => (pixelAt place).green
  blue := weightedMean weights fun place => (pixelAt place).blue

def withWidth (kernel : Kernel) (picture : Picture) (width : Nat) : Picture :=
  let weights := Array.ofFn fun place : Fin width => weightsFor kernel picture.width width place
  { picture with
    width
    rows := picture.rows.map fun row => weights.map fun weights =>
      meanPixel weights fun place => row.getD place default }

def withHeight (kernel : Kernel) (picture : Picture) (height : Nat) : Picture :=
  { picture with
    height
    rows := Array.ofFn fun place : Fin height =>
      let weights := weightsFor kernel picture.height height place
      Array.ofFn fun column : Fin picture.width =>
        meanPixel weights fun place => picture.pixelAt place column }

/-- A picture brought to another size. A side that has it already is left alone. -/
def resized (kernel : Kernel) (picture : Picture) (width height : Nat) : Picture :=
  let toWidth (picture : Picture) : Picture :=
    if picture.width = width then picture else picture.withWidth kernel width
  let toHeight (picture : Picture) : Picture :=
    if picture.height = height then picture else picture.withHeight kernel height
  if picture.width < picture.height then toWidth (toHeight picture) else toHeight (toWidth picture)

end Picture

end Chip8
