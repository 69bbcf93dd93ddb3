import Chip8.Number.Reader
import Chip8.Picture.Basic

/-!
# Tools

What the program leaves to others: the room for its arrays, the bar that shows how far a run has come, the
recorder of videos, the coder of pictures, and the desktop with its sound. Nothing is taken for granted of a
tool but that it complies with a call or says why it does not.
-/

namespace Chip8

/-- Why a tool does not comply, by the name of the fault and its wording. -/
structure ToolFault where
  name : String
  message : String
  deriving DecidableEq

/-- A bar that was made. It may be drawn anew whenever it is told of a frame, and once more at its end. -/
structure ProgressBar where
  /-- Told that one more frame is done, so many in all. -/
  advance : Nat → Except ToolFault Unit
  /-- Taken away when so many frames are done. -/
  close : Nat → Except ToolFault Unit

/-- A bar that complies with everything. -/
def ProgressBar.calm : ProgressBar where
  advance _ := .ok ()
  close _ := .ok ()

/-- What a bar for so many frames says, unless their number has too many digits to be told. -/
def ProgressBar.text? (frames : Int) : Option String :=
  if Number.digitLimit < (Nat.toDigits 10 frames.natAbs).length then none
  else some s!"Emulating ({Text.grouped frames} frames)"

/-- Frames as a recorder has them: the amounts of each pixel, a byte each. -/
abbrev Frame := Raster (List UInt8)

/-- What writes videos. A video that was begun can always be ended. -/
structure Recorder where
  /-- Begins a video in a file, at a rate and of a width and a height. -/
  begin : String → Float → Int × Int → Except ToolFault Unit
  /-- Turns the colours of a frame, of so many amounts each, from red first to blue first. -/
  turn : Nat → Frame → Except ToolFault Frame
  write : Frame → Except ToolFault Unit

/-- What a window is opened on. -/
structure Desktop where
  /-- Opens a surface so wide and so high. -/
  surface : Int → Int → Except ToolFault Picture
  /-- What the sound device says if there is none. -/
  silence : Option String := none

/-- The tools of a run. -/
structure Tools where
  /-- The bytes that an array finds room for. -/
  room : Nat
  /-- Makes a bar with a total and a description, hidden or not. -/
  bar : Int → String → Bool → Except ToolFault ProgressBar
  recorder : Recorder
  /-- Writes a picture to a file. -/
  coder : String → Picture → Except ToolFault Unit

end Chip8
