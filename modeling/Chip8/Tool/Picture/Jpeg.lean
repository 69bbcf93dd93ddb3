import Chip8.Picture.Basic

/-!
# The loss of a JPEG file

What is left of a picture once it was written to a JPEG file of quality 75 and read again. The picture
is taken apart into brightness and two planes of colour difference; the differences are kept at half
the size in both directions. Each plane is cut into blocks of eight by eight samples, a block is
turned into amounts of cosine waves, and each amount is rounded to a multiple of its step. Reading
goes the same way back, with a triangle filter that brings the differences to full size again.

Only the rounding is worked out here: the codes in which the amounts are packed lose nothing. All
arithmetic is on integers, with factors scaled by powers of two as the usual accurate method has them,
so that the samples come out bit for bit.
-/

namespace Chip8.Jpeg

/-- Samples in rows. -/
abbrev Plane := Array (Array Int)

/-- The quotient by `2 ^ bits`, rounded to the nearest integer and up from the middle. -/
def descale (bits : Nat) (value : Int) : Int := (value + Nat.pow 2 bits / 2) / Nat.pow 2 bits

def clamp (value : Int) : Int := max 0 (min 255 value)

def sample (plane : Plane) (row column : Nat) : Int := (plane.getD row #[]).getD column 0

/-- The plane of so many rows and columns whose samples are given by a function. -/
def ofFn (height width : Nat) (at_ : Nat → Nat → Int) : Plane :=
  Array.ofFn fun row : Fin height => Array.ofFn fun column : Fin width => at_ row column

/-- Rows and columns exchanged, for a block of eight by eight samples. -/
def transpose (block : Plane) : Plane := ofFn 8 8 fun row column => sample block column row

/-- The amounts of eight cosine waves in eight samples, scaled down by `2 ^ bits`. -/
def analyze (bits : Nat) (samples : Array Int) : Array Int :=
  let at_ (place : Nat) : Int := samples.getD place 0
  let (s0, s1, s2, s3) := (at_ 0 + at_ 7, at_ 1 + at_ 6, at_ 2 + at_ 5, at_ 3 + at_ 4)
  let (d0, d1, d2, d3) := (at_ 0 - at_ 7, at_ 1 - at_ 6, at_ 2 - at_ 5, at_ 3 - at_ 4)
  let (even0, even1, even2, even3) := (s0 + s3, s1 + s2, s1 - s2, s0 - s3)
  let turn := (even2 + even3) * 4433
  let mix := (d3 + d1 + d2 + d0) * 9633
  let (z1, z2) := ((d3 + d0) * -7373, (d2 + d1) * -20995)
  let (z3, z4) := ((d3 + d1) * -16069 + mix, (d2 + d0) * -3196 + mix)
  #[(even0 + even1) * 8192, d0 * 12299 + z1 + z4, turn + even3 * 6270, d1 * 25172 + z2 + z3,
    (even0 - even1) * 8192, d2 * 16819 + z2 + z4, turn - even2 * 15137, d3 * 2446 + z1 + z3].map
      (descale bits)

/-- The eight samples in which eight cosine waves have the given amounts, scaled down by
`2 ^ bits`. -/
def synthesize (bits : Nat) (amounts : Array Int) : Array Int :=
  let at_ (place : Nat) : Int := amounts.getD place 0
  let turn := (at_ 2 + at_ 6) * 4433
  let (low, high) := (turn - at_ 6 * 15137, turn + at_ 2 * 6270)
  let (sum, difference) := ((at_ 0 + at_ 4) * 8192, (at_ 0 - at_ 4) * 8192)
  let (even0, even1, even2, even3) := (sum + high, difference + low, difference - low, sum - high)
  let mix := (at_ 7 + at_ 3 + at_ 5 + at_ 1) * 9633
  let (z1, z2) := ((at_ 7 + at_ 1) * -7373, (at_ 5 + at_ 3) * -20995)
  let (z3, z4) := ((at_ 7 + at_ 3) * -16069 + mix, (at_ 5 + at_ 1) * -3196 + mix)
  let (odd0, odd1) := (at_ 1 * 12299 + z1 + z4, at_ 3 * 25172 + z2 + z3)
  let (odd2, odd3) := (at_ 5 * 16819 + z2 + z4, at_ 7 * 2446 + z1 + z3)
  #[even0 + odd0, even1 + odd1, even2 + odd2, even3 + odd3,
    even3 - odd3, even2 - odd2, even1 - odd1, even0 - odd0].map (descale bits)

/-- The steps for brightness, by row of waves. -/
def brightnessSteps : Plane :=
  #[#[8, 6, 5, 8, 12, 20, 26, 31], #[6, 6, 7, 10, 13, 29, 30, 28],
    #[7, 7, 8, 12, 20, 29, 35, 28], #[7, 9, 11, 15, 26, 44, 40, 31],
    #[9, 11, 19, 28, 34, 55, 52, 39], #[12, 18, 28, 32, 41, 52, 57, 46],
    #[25, 32, 39, 44, 52, 61, 60, 51], #[36, 46, 48, 49, 56, 50, 52, 50]]

/-- The steps for differences of colour, by row of waves. -/
def differenceSteps : Plane :=
  #[#[9, 9, 12, 24, 50, 50, 50, 50], #[9, 11, 13, 33, 50, 50, 50, 50],
    #[12, 13, 28, 50, 50, 50, 50, 50], #[24, 33, 50, 50, 50, 50, 50, 50],
    #[50, 50, 50, 50, 50, 50, 50, 50], #[50, 50, 50, 50, 50, 50, 50, 50],
    #[50, 50, 50, 50, 50, 50, 50, 50], #[50, 50, 50, 50, 50, 50, 50, 50]]

/-- The multiple of a step that is nearest to an amount, which comes scaled up by eight. -/
def roundToStep (step amount : Int) : Int :=
  let count := (amount.natAbs + 4 * step) / (8 * step)
  if amount < 0 then -count * step else count * step

/-- A block after its amounts of waves were rounded. -/
def roundBlock (steps block : Plane) : Plane :=
  let centered := block.map fun row => row.map (· - 128)
  let amounts := transpose ((transpose (centered.map (analyze 11))).map (analyze 15))
  let rounded := ofFn 8 8 fun row column =>
    roundToStep (sample steps row column) (sample amounts row column)
  let columns := transpose ((transpose rounded).map (synthesize 11))
  columns.map fun row => (synthesize 18 row).map fun value => clamp (value + 128)

/-- A plane after its blocks were rounded. Beyond its edge a plane goes on as the function says. -/
def roundPlane (steps : Plane) (height width : Nat) (at_ : Nat → Nat → Int) : Plane :=
  let columns := (width + 7) / 8
  let blocks := Array.ofFn fun down : Fin ((height + 7) / 8) =>
    Array.ofFn fun across : Fin columns =>
      roundBlock steps (ofFn 8 8 fun row column => at_ (8 * down + row) (8 * across + column))
  ofFn height width fun row column =>
    sample ((blocks.getD (row / 8) #[]).getD (column / 8) #[]) (row % 8) (column % 8)

def brightness (pixel : Pixel) : Int :=
  descale 16 (19595 * pixel.red.toNat + 38470 * pixel.green.toNat + 7471 * pixel.blue.toNat)

/-- How much bluer than grey a pixel is, with grey at 128. -/
def blueness (pixel : Pixel) : Int :=
  descale 16 (-11059 * pixel.red.toNat - 21709 * pixel.green.toNat + 32768 * pixel.blue.toNat +
    128 * 65536 - 1)

/-- How much redder than grey a pixel is, with grey at 128. -/
def redness (pixel : Pixel) : Int :=
  descale 16 (32768 * pixel.red.toNat - 27439 * pixel.green.toNat - 5329 * pixel.blue.toNat +
    128 * 65536 - 1)

/-- The pixel of a brightness and two differences. -/
def pixelOf (bright blue red : Int) : Pixel :=
  let byte (value : Int) : UInt8 := UInt8.ofInt (clamp value)
  ⟨byte (bright + descale 16 (91881 * (red - 128))),
    byte (bright + descale 16 (-22554 * (blue - 128) - 46802 * (red - 128))),
    byte (bright + descale 16 (116130 * (blue - 128)))⟩

/-- A plane at half its size: the mean of four samples, rounded up and down in turn. The last row and
column are repeated beyond the edge, and so is the last row of means. -/
def halved (height width : Nat) (at_ : Nat → Nat → Int) (row column : Nat) : Int :=
  let above := 2 * min row ((height - 1) / 2)
  let below := min (above + 1) (height - 1)
  let (left, right) := (min (2 * column) (width - 1), min (2 * column + 1) (width - 1))
  (at_ above left + at_ above right + at_ below left + at_ below right + 1 + (column % 2 : Nat)) / 4

/-- A sample of a plane brought to twice its size: nine sixteenths of the nearest sample, three of the
next ones beside and below or above it, and one of the next in both directions. In a plane of at most
two columns it is the nearest sample. -/
def doubled (plane : Plane) (height width row column : Nat) : Int :=
  let (y, x) := (row / 2, column / 2)
  if width ≤ 2 then sample plane y x
  else
    let (farY, farX) :=
      (if row % 2 = 0 then y - 1 else min (y + 1) (height - 1),
       if column % 2 = 0 then x - 1 else min (x + 1) (width - 1))
    let sum (place : Nat) : Int := 3 * sample plane y place + sample plane farY place
    (3 * sum x + sum farX + 8 - (column % 2 : Nat)) / 16

/-- A picture after it was written to a file and read again. -/
def reread (picture : Picture) : Picture :=
  let (height, width) := (picture.height, picture.width)
  let (halfHeight, halfWidth) := ((height + 1) / 2, (width + 1) / 2)
  let plane (measure : Pixel → Int) : Plane := picture.rows.map fun row => row.map measure
  let difference (measure : Pixel → Int) : Plane :=
    let full := plane measure
    roundPlane differenceSteps halfHeight halfWidth (halved height width (sample full))
  let bright := plane brightness
  let bright := roundPlane brightnessSteps height width fun row column =>
    sample bright (min row (height - 1)) (min column (width - 1))
  let (blue, red) := (difference blueness, difference redness)
  { picture with
    rows := Array.ofFn fun row : Fin height => Array.ofFn fun column : Fin width =>
      pixelOf (sample bright row column) (doubled blue halfHeight halfWidth row column)
        (doubled red halfHeight halfWidth row column) }

end Chip8.Jpeg
