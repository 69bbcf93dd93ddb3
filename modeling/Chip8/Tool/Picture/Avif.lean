import Chip8.Picture.Basic

/-!
# The loss of an AVIF file

What is left of a picture of one colour once it was written to an AVIF file of quality 75 and read
again. The colour becomes a brightness and two differences, each a whole number around 128.

A picture that is at most eight pixels wide or high is cut into blocks of eight by eight. How far the
differences of the first block are from 128 is told in steps of 43 parts in 32. The blocks after it are
told by what the ones before them lack, which leaves nothing out. A picture that is one such block is cut
further, so that a step of the brightness is two whole numbers: what lies an odd number away from 128 is
rounded away from it. Larger pictures have larger blocks with finer steps, in which the one number of a
plane stays as it is.

A picture of more than one colour is taken to stay as it is.
-/

namespace Chip8.Avif

def clamp (number : Int) : Int := max 0 (min 255 number)

def brightness (pixel : Pixel) : Int :=
  (77 * (pixel.red.toNat : Int) + 150 * pixel.green.toNat + 29 * pixel.blue.toNat + 128) / 256

/-- How much bluer than grey a pixel is, with grey at 128. -/
def blueness (pixel : Pixel) : Int :=
  (128 * (pixel.blue.toNat : Int) - 85 * pixel.green.toNat - 43 * pixel.red.toNat + 32768) / 256

/-- How much redder than grey a pixel is, with grey at 128. -/
def redness (pixel : Pixel) : Int :=
  (128 * (pixel.red.toNat : Int) - 107 * pixel.green.toNat - 21 * pixel.blue.toNat + 32768) / 256

/-- The pixel of a brightness and two differences. -/
def pixelOf (bright blue red : Int) : Pixel :=
  let light := bright * 257 * 16320 / 65536 + 32
  let byte (amount : Int) : UInt8 := UInt8.ofInt (clamp (amount / 64))
  ⟨byte (light + 90 * (red - 128)), byte (light - 22 * (blue - 128) - 46 * (red - 128)),
    byte (light + 113 * (blue - 128))⟩

/-- The number an even distance from 128 that is nearest to a number, away from 128 in the middle. -/
def roundToEven (number : Int) : Int :=
  let distance := number - 128
  clamp (if distance < 0 then 128 - (1 - distance) / 2 * 2 else 128 + (distance + 1) / 2 * 2)

/-- The whole number nearest to a quotient with a positive divisor, the greater one of two. -/
def nearest (numerator denominator : Int) : Int :=
  (2 * numerator + denominator) / (2 * denominator)

/-- The number whose distance from 128 is told in steps of 43 parts in 32. -/
def inSteps (number : Int) : Int :=
  clamp (128 + nearest (43 * nearest (32 * (number - 128)) 43) 32)

/-- The colour of a place in a picture of one colour and of so many columns and rows, after it was
written. -/
def rereadColor (width height : Nat) (pixel : Pixel) (row column : Nat) : Pixel :=
  let bright := brightness pixel
  let isOneBlock := width ≤ 8 && height ≤ 8
  let isInFirst := (width ≤ 8 || height ≤ 8) && row < 8 && column < 8
  let difference (number : Int) : Int := if isInFirst then inSteps number else number
  pixelOf (if isOneBlock then roundToEven bright else bright) (difference (blueness pixel))
    (difference (redness pixel))

/-- A picture after it was written to a file and read again. -/
def reread (picture : Picture) : Picture :=
  let first := picture.pixelAt 0 0
  if picture.rows.all fun row => row.all (· = first) then
    .ofFn picture.width picture.height (rereadColor picture.width picture.height first)
  else picture

end Chip8.Avif
