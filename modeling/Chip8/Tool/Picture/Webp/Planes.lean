import Chip8.Picture.Basic

/-!
# Brightness and differences of colour

A picture becomes a plane of brightness and two planes that say how much bluer and how much redder
than grey it is. The differences are kept at half the size in both directions: four pixels share the
mean of their light, which is not the mean of their amounts, since an amount stands for more light the
greater it is.

Brightness takes the amounts 16 to 235, and 128 stands for no difference. On the way back the
differences are spread out again: nine sixteenths of the nearest sample, three of the next ones beside
and below or above it, and one of the next in both directions.
-/

namespace Chip8.Webp

/-- Samples in rows. -/
structure Plane where
  width : Nat
  height : Nat
  /-- The samples, row by row from the top. -/
  samples : Array Int

/-- The plane of so many samples, each given by its row and column. -/
def Plane.ofFn (height width : Nat) (sampleAt : Nat → Nat → Int) : Plane :=
  ⟨width, height, Array.ofFn fun place : Fin (height * width) =>
    sampleAt (place / width) (place % width)⟩

/-- A sample in a row and a column. Beyond its edge a plane goes on with its last samples. -/
def Plane.at (plane : Plane) (row column : Nat) : Int :=
  plane.samples.getD (min row (plane.height - 1) * plane.width + min column (plane.width - 1)) 0

def clip (least greatest number : Int) : Int := max least (min greatest number)

def clipByte (sample : Int) : Int := clip 0 255 sample

def brightness (pixel : Pixel) : Int :=
  (16839 * (pixel.red.toNat : Int) + 33059 * pixel.green.toNat + 6420 * pixel.blue.toNat + 32768 +
    16 * 65536) / 65536

/-- The power of an amount to which its light is in proportion. -/
def lightPower : Float := 0.8

def lights : Array Nat := Array.ofFn fun amount : Fin 256 =>
  (Float.pow (1.0 / 255.0 * amount.val.toFloat) lightPower * 4095.0 + 0.5).toUInt64.toNat

/-- The amounts of lights that are 128 apart. -/
def amounts : Array Nat := Array.ofFn fun place : Fin 33 =>
  (255.0 * Float.pow (128.0 / 4095.0 * place.val.toFloat) (1.0 / lightPower) + 0.5).toUInt64.toNat

/-- Four times the amount of a quarter of a light, on straight lines between the known amounts. -/
def amountOfLight (light : Nat) : Int :=
  let (place, part) := (light / 512, light % 512)
  ((amounts.getD (place + 1) 0 * part + amounts.getD place 0 * (512 - part) + 64) / 128 : Nat)

/-- Four times the mean amount of four pixels, in the sense of their light. -/
def sharedAmount (channel : Pixel → UInt8) (pixels : List Pixel) : Int :=
  amountOfLight (pixels.foldl (fun light pixel => light + lights.getD (channel pixel).toNat 0) 0)

/-- A difference of colour from weighted amounts four times too great. -/
def differenceOf (weighted : Int) : Int := clipByte ((weighted + 131072 + 128 * 262144) / 262144)

/-- The planes of a picture: brightness, and how much bluer and redder than grey it is. -/
structure Planes where
  bright : Plane
  /-- How much bluer than grey. -/
  blue : Plane
  /-- How much redder than grey. -/
  red : Plane

/-- The planes of a picture. -/
def Planes.ofPicture (picture : Picture) : Planes :=
  let (height, width) := (picture.height, picture.width)
  let (halfHeight, halfWidth) := ((height + 1) / 2, (width + 1) / 2)
  let shared (row column : Nat) : Int × Int × Int :=
    let (below, right) := (min (2 * row + 1) (height - 1), min (2 * column + 1) (width - 1))
    let pixels := [picture.pixelAt (2 * row) (2 * column), picture.pixelAt (2 * row) right,
      picture.pixelAt below (2 * column), picture.pixelAt below right]
    (sharedAmount Pixel.red pixels, sharedAmount Pixel.green pixels, sharedAmount Pixel.blue pixels)
  { bright := .ofFn height width fun row column => brightness (picture.pixelAt row column)
    blue := .ofFn halfHeight halfWidth fun row column =>
      let (red, green, blue) := shared row column
      differenceOf (28800 * blue - 9719 * red - 19081 * green)
    red := .ofFn halfHeight halfWidth fun row column =>
      let (red, green, blue) := shared row column
      differenceOf (28800 * red - 24116 * green - 4684 * blue) }

/-- A sample of a plane brought to twice its size. -/
def Plane.doubled (plane : Plane) (row column : Nat) : Int :=
  let (y, x) := (row / 2, column / 2)
  let farY := if row % 2 = 0 then y - 1 else y + 1
  let farX := if column % 2 = 0 then x - 1 else x + 1
  (9 * plane.at y x + 3 * plane.at y farX + 3 * plane.at farY x + plane.at farY farX + 8) / 16

/-- An amount of colour in parts of 64, as a byte. -/
def amountByte (parts : Int) : UInt8 := UInt8.ofInt (clipByte (parts / 64))

/-- The pixel of a brightness and two differences. -/
def pixelOf (bright blue red : Int) : Pixel :=
  let light := bright * 19077 / 256
  ⟨amountByte (light + red * 26149 / 256 - 14234),
    amountByte (light - blue * 6419 / 256 - red * 13320 / 256 + 8708),
    amountByte (light + blue * 33050 / 256 - 17685)⟩

/-- The picture of planes, of so many rows and columns. -/
def Planes.toPicture (planes : Planes) (height width : Nat) : Picture :=
  ⟨width, height, Array.ofFn fun row : Fin height => Array.ofFn fun column : Fin width =>
    pixelOf (planes.bright.at row column) (planes.blue.doubled row column)
      (planes.red.doubled row column)⟩

end Chip8.Webp
