import Chip8.Tool.Picture.Webp.Smoothing

/-!
# The loss of a WebP file

What is left of a picture once it was written to a WebP file of quality 80 and read again. The picture
is taken apart into brightness and two differences of colour at half its size. Each plane is cut into
patches, a patch is guessed from those before it, and what the guess misses is turned into amounts of
waves, which are rounded to steps. Which guesses are made depends on what they cost, so all of the
choosing is worked out here; only the packing of what was chosen is not, since it loses nothing.
-/

namespace Chip8.Webp

/-- A plane cut to so many rows and columns. -/
def Plane.cut (plane : Plane) (height width : Nat) : Plane := .ofFn height width plane.at

/-- A picture after it was written to a file and read again. -/
def reread (picture : Picture) : Picture :=
  let (height, width) := (picture.height, picture.width)
  let (halfHeight, halfWidth) := ((height + 1) / 2, (width + 1) / 2)
  let tiling := Tiling.ofPlanes (.ofPicture picture)
  let grouping := Grouping.ofTiling tiling
  let planes := (Keeping.ofTiling tiling grouping).planes grouping tiling.columns
  Planes.toPicture
    ⟨planes.bright, planes.blue.cut halfHeight halfWidth, planes.red.cut halfHeight halfWidth⟩
    height width

end Chip8.Webp
