import Chip8.Number.Integer64
import Chip8.Tool

/-!
# A desktop

A desktop with a display of its own size. A window takes up the whole display if no size is asked for.
-/

namespace Chip8.Desktop

def display : Nat × Nat := (1024, 768)

def longestSide : Int := 16384

/-- A surface with nothing on it. Of its sides the low thirty-two bits are kept, with their sign. -/
def blank (width height : Int) : Except ToolFault Picture :=
  let kept (side : Int) : Int := Int.bmod side 0x100000000
  if !Integer64.holds width || !Integer64.holds height then
    .error ⟨"TypeError", "size must be two numbers"⟩
  else if kept width < 0 ∨ kept height < 0 then
    .error ⟨"error", "Cannot set negative sized display mode"⟩
  else if kept width = 0 ∧ kept height = 0 then .ok (Picture.filled display.1 display.2 default)
  else if longestSide < kept width ∨ longestSide < kept height then
    .error ⟨"error", "Window is too large."⟩
  else .ok (Picture.filled (kept width).toNat (kept height).toNat default)

/-- The desktop, with a sound device or without one. -/
def usual (sounds : Bool) : Desktop where
  surface := blank
  silence := if sounds then none else some "no audio device"

end Chip8.Desktop
