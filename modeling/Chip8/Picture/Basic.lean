import Chip8.Picture.Color
import Chip8.Screen

/-!
# Pictures

Rows of pixels from the top. A screen becomes a picture by colouring its pixels and enlarging each to
a square block. The arrays that this takes are made one after the other, each as far as there is room.
-/

namespace Chip8

/-- Rows of elements, as many in each. -/
structure Raster (Element : Type) where
  width : Nat
  height : Nat
  /-- The rows from the top. -/
  rows : Array (Array Element)

abbrev Picture := Raster Pixel

namespace Raster

variable {Element Other : Type}

def repeatEach (count : Nat) (elements : Array Element) : Array Element :=
  elements.flatMap fun element => Array.replicate count element

/-- The side of the block that an element is enlarged to: a scale below one leaves it as it is. -/
def blockSide (scale : Int) : Nat := max 1 scale.toNat

/-- Enlarges every element to a block. -/
def enlarge (raster : Raster Element) (scale : Int) : Raster Element :=
  let side := blockSide scale
  ⟨raster.width * side, raster.height * side, repeatEach side (raster.rows.map (repeatEach side))⟩

def map (change : Element → Other) (raster : Raster Element) : Raster Other :=
  ⟨raster.width, raster.height, raster.rows.map fun row => row.map change⟩

/-- The element in a row and a column; outside there is nothing to be seen. -/
def pixelAt [Inhabited Element] (raster : Raster Element) (row column : Nat) : Element :=
  (raster.rows.getD row #[]).getD column default

def isEmpty (raster : Raster Element) : Bool := raster.width = 0 || raster.height = 0

end Raster

namespace Picture

def filled (width height : Nat) (pixel : Pixel) : Picture :=
  ⟨width, height, Array.replicate height (Array.replicate width pixel)⟩

/-- The picture of the pixels that rows and columns have. -/
def ofFn (width height : Nat) (pixelOf : Nat → Nat → Pixel) : Picture :=
  ⟨width, height, Array.ofFn fun row : Fin height => Array.ofFn fun column : Fin width =>
    pixelOf row column⟩

/-- The picture of a screen, one pixel for each of its pixels. -/
def ofScreen (screen : Screen) (lit unlit : Pixel) : Picture :=
  ⟨screen.width, screen.height,
    screen.allRows.map fun row => row.map fun on => if on then lit else unlit⟩

/-- Whether there is room for bytes, so many in a pixel, when pixels are enlarged to blocks of a side,
first downwards and then to the right. Rows and columns are counted in sixty-four bits. -/
def checkSide (room width height depth : Nat) (scale : Int) : Except PictureFault Unit :=
  if scale ≤ 1 then .ok ()
  else if !Integer64.holds scale then .error .sideTooLong
  else do
    let rows := Integer64.wrap (height * scale)
    let _ ← (extents room [rows, width, depth] .byte).mapError .extent
    let _ ← (extents room [rows, Integer64.wrap (width * scale), depth] .byte).mapError .extent
    .ok ()

/-- The picture of a screen in two colours. The pixels of the screen are copied, those of the picture are
made, and the colour of lit pixels is looked at before the pixels that are not lit are picked out. -/
def paint (room : Nat) (screen : Screen) (palette : Palette) : Except PictureFault Picture := do
  (checkExtents room [screen.width, screen.height] .truth).mapError .extent
  (checkExtents room [screen.height, screen.width, 3] .byte).mapError .extent
  let lit ← palette.lit.pixel screen.litCount
  (checkExtents room [screen.height, screen.width] .truth).mapError .extent
  let unlit ← palette.unlit.pixel (screen.width * screen.height - screen.litCount)
  .ok (ofScreen screen lit unlit)

/-- The picture of a screen in two colours, enlarged. -/
def render (room : Nat) (screen : Screen) (scale : Int) (palette : Palette) :
    Except PictureFault Picture := do
  let picture ← paint room screen palette
  checkSide room picture.width picture.height 3 scale
  .ok (picture.enlarge scale)

/-- The pixel at a place, `x` to the right and `y` down. Negative numbers count from the right and from
the bottom. -/
def probe (picture : Picture) (x y : Int) : Except PlaceFault Pixel := do
  checkPlace x
  checkPlace y
  let column ← position x 0 picture.width
  let row ← position y 1 picture.height
  .ok (picture.pixelAt row column)

/-- Puts a picture over the top left corner of another one; what does not fit is cut off. -/
def overlay (top bottom : Picture) : Picture :=
  { bottom with
    rows := bottom.rows.mapIdx fun row pixels =>
      if row < top.rows.size then
        pixels.mapIdx fun column pixel =>
          if column < (top.rows.getD row #[]).size then top.pixelAt row column else pixel
      else pixels }

end Picture

end Chip8
