import Chip8.Number.Binary64
import Chip8.Tool

/-!
# Videos

A video is made of screens, one for each frame. With persistence a pixel glows on after it went out,
like the phosphor of a tube: each frame keeps four fifths of the glow before and adds full light where
the screen is lit. The colour of a pixel lies between the two colours of the palette, as far as it
glows.

Screens of different sizes share a glow if one of them has a single column or row where they differ:
that column or row then stands for as many as the other has. Colours with different numbers of amounts
go together in the same way. A frame may lack a screen: it then has no rows and any number of columns.

Everything about a pixel is worked out in single precision and cut off to whole amounts at the end. The
frame is then enlarged, and a recorder turns its colours about before it takes it.
-/

namespace Chip8

/-- Frames of one size that follow each other at a rate. -/
structure Video where
  file : String
  /-- Frames per second. -/
  rate : Float
  /-- Width and height that the file is made for. -/
  size : Int × Int
  frames : List Frame
  /-- Whether the recorder was told that there are no more frames. -/
  released : Bool := true

/-- Why a video is not made or ends before its time. -/
inductive VideoFault where
  | noFrames
  | number (fault : NumberFault)
  /-- The first frame has no screen. -/
  | noRows
  /-- A frame has no screen and there is no glow to give it columns. -/
  | noColumns
  /-- The glow and a frame cannot go together. Their widths and heights are given; a frame without a
  screen has none. -/
  | unfitFrame (glow : Nat × Nat) (frame : Option (Nat × Nat))
  | unfitColors (first second : Nat)
  | extent (fault : ExtentFault)
  | side (fault : PictureFault)
  | recorder (fault : ToolFault)
  deriving DecidableEq

/-- What comes of making a video: as much of it as there is, and whether it was finished. -/
structure Recording where
  video : Option Video
  outcome : Except VideoFault Unit

def VideoFault.message : VideoFault → String
  | noFrames => "No frames to record"
  | number fault => fault.message
  | noRows => RowsFault.none.message
  | noColumns => "too many indices for array: array is 1-dimensional, but 2 were indexed"
  | unfitFrame glow frame =>
    s!"operands could not be broadcast together with shapes ({glow.1},{glow.2}) " ++
      match frame with
      | some (width, height) => s!"({width},{height}) "
      | none => "(0,) "
  | unfitColors first second =>
    s!"operands could not be broadcast together with shapes ({first},) ({second},) "
  | extent fault => fault.message
  | side fault => fault.message
  | recorder fault => fault.message

namespace Video

/-- The code of the way in which frames are packed: the letters m, p, 4 and v, first one lowest. -/
def codec : Nat := 'm'.toNat + 'p'.toNat * 0x100 + '4'.toNat * 0x10000 + 'v'.toNat * 0x1000000

/-- How many there are of two kinds that go together: as many as of each, or one that stands for all
of the other. -/
def together? (first second : Nat) : Option Nat :=
  if first = second || second = 1 then some first else if first = 1 then some second else none

/-- The place that stands for a place, where one may stand for all. -/
def standIn (count place : Nat) : Nat := if count = 1 then 0 else place

/-- How much each pixel glows. -/
structure Glow where
  width : Nat
  height : Nat
  rows : Array (Array Float32)

/-- The glow of a pixel; a single column or row stands for all. -/
def Glow.at (glow : Glow) (row column : Nat) : Float32 :=
  (glow.rows.getD (standIn glow.height row) #[]).getD (standIn glow.width column) 0.0

/-- The glow of so many pixels, each given by its row and column. -/
def Glow.ofFn (width height : Nat) (glowOf : Nat → Nat → Float32) : Glow :=
  ⟨width, height, Array.ofFn fun row : Fin height => Array.ofFn fun column : Fin width =>
    glowOf row column⟩

def Glow.none (width height : Nat) : Glow := .ofFn width height fun _ _ => 0.0

/-- The part of the glow that is left after a frame. -/
def decay : Float32 := 0.8

def light (lit : Bool) : Float32 := if lit then 1.0 else 0.0

def Glow.ofScreen (screen : Screen) : Glow :=
  .ofFn screen.width screen.height fun row column => light (screen.lit column row)

/-- The glow of a pixel after a frame: never more than full light. -/
def glowAfter (glow light : Float32) : Float32 :=
  let sum := glow * decay + light
  if sum < 0.0 then 0.0 else if 1.0 < sum then 1.0 else sum

/-- How much each pixel glows in a frame that shows a light after a glow. -/
def Glow.after (glow shown : Glow) : Except VideoFault Glow :=
  match together? glow.width shown.width, together? glow.height shown.height with
  | some width, some height =>
    .ok (.ofFn width height fun row column => glowAfter (glow.at row column) (shown.at row column))
  | _, _ => .error (.unfitFrame (glow.width, glow.height) (some (shown.width, shown.height)))

/-- The glow that a frame without a screen leaves: the columns stay, and there are no rows. -/
def Glow.withoutRows (glow : Glow) : Except VideoFault Glow :=
  match together? glow.height 0 with
  | some _ => .ok (.none glow.width 0)
  | .none => .error (.unfitFrame (glow.width, glow.height) .none)

/-- How much each pixel glows in a frame after a glow, or without a glow before it. -/
def Glow.shown (glow : Glow) (persistence : Bool) (frame : Option Screen) :
    Except VideoFault Glow :=
  match frame, persistence with
  | some screen, true => glow.after (.ofScreen screen)
  | some screen, false => .ok (.ofScreen screen)
  | .none, true => glow.withoutRows
  | .none, false => .error .noColumns

/-- An amount cut off to a whole number, of which the low eight bits are kept. What does not fit into
thirty-two bits has none. -/
def byteOf (amount : Float32) : UInt8 :=
  if 2147483648.0 ≤ amount.abs then 0
  else if amount < 0.0 then 0 - (-amount).toUInt32.toUInt8
  else amount.toUInt32.toUInt8

def amountsOf (color : Color) : Except VideoFault (List Float32) :=
  color.amounts.mapM fun amount => match Binary64.ofInt amount with
    | .ok number => .ok number.toFloat32
    | .error fault => .error (.number fault)

/-- The amounts of two colours side by side, those of unlit pixels first. -/
def blends (lit unlit : List Float32) : Except VideoFault (List (Float32 × Float32)) :=
  match together? lit.length unlit.length with
  | none => .error (.unfitColors lit.length unlit.length)
  | some count => .ok ((List.range count).map fun place =>
    (unlit.getD (standIn unlit.length place) 0.0, lit.getD (standIn lit.length place) 0.0))

/-- An amount of colour as far between two as a pixel glows. -/
def blendAmount (glow : Float32) (ends : Float32 × Float32) : UInt8 :=
  byteOf (ends.1 + glow * (ends.2 - ends.1))

def frame (ends : List (Float32 × Float32)) (glow : Glow) : Frame :=
  ⟨glow.width, glow.height, glow.rows.map fun row => row.map fun glow => ends.map (blendAmount glow)⟩

/-- Whether there is room for arrays in single precision. -/
def checkSingles (room : Nat) (counts : List Nat) : Except VideoFault Unit :=
  (checkExtents room counts .single).mapError .extent

/-- Whether there is room for the light of a screen, if there is one. -/
def checkLight (room : Nat) : Option Screen → Except VideoFault Unit
  | some screen => checkSingles room [screen.width, screen.height]
  | none => .ok ()

/-- How much each pixel glows in a frame, as far as there is room for it. -/
def shownIn (room : Nat) (glow : Glow) (persistence : Bool) (frame : Option Screen) :
    Except VideoFault Glow := do
  checkLight room frame
  let shown ← glow.shown persistence frame
  checkSingles room [shown.width, shown.height]
  .ok shown

/-- The frame that a recorder takes: worked out in single precision, cut off to bytes, enlarged and turned
about. -/
def takenFrame (room : Nat) (recorder : Recorder) (scale : Int) (ends : List (Float32 × Float32))
    (glow : Glow) : Except VideoFault Frame := do
  let depth := ends.length
  checkSingles room [glow.height, glow.width, depth]
  (checkExtents room [glow.height, glow.width, depth] .byte).mapError .extent
  (Picture.checkSide room glow.width glow.height depth scale).mapError .side
  let turned ← (recorder.turn depth ((frame ends glow).enlarge scale)).mapError .recorder
  (recorder.write turned).mapError .recorder
  .ok turned

/-- One frame: how much each pixel glows in it, and what the recorder took. -/
def filmed (room : Nat) (recorder : Recorder) (scale : Int) (ends : List (Float32 × Float32))
    (persistence : Bool) (glow : Glow) (frame : Option Screen) : Except VideoFault (Glow × Frame) := do
  let shown ← shownIn room glow persistence frame
  let taken ← takenFrame room recorder scale ends shown
  .ok (shown, taken)

/-- The frames up to the first that is not made, with the glow that is left before. -/
def framesFrom (room : Nat) (recorder : Recorder) (scale : Int) (ends : List (Float32 × Float32))
    (persistence : Bool) (glow : Glow) : List (Option Screen) → List Frame × Except VideoFault Unit
  | [] => ([], .ok ())
  | frame :: rest =>
    match filmed room recorder scale ends persistence glow frame with
    | .error fault => ([], .error fault)
    | .ok (shown, taken) =>
      let (frames, outcome) :=
        framesFrom room recorder scale ends persistence (if persistence then shown else glow) rest
      (taken :: frames, outcome)

/-- The frames in the colours of a palette. -/
def framesIn (room : Nat) (recorder : Recorder) (frames : List (Option Screen)) (lit unlit : List Float32)
    (scale : Int) (persistence : Bool) (glow : Glow) : List Frame × Except VideoFault Unit :=
  match blends lit unlit with
  | .error fault => ([], .error fault)
  | .ok ends => framesFrom room recorder scale ends persistence glow frames

/-- The size of the first screen and the amounts of the colours, all that is looked at before a video is
begun. -/
def looked (frames : List (Option Screen)) (rate : Except NumberFault Float) (palette : Palette) :
    Except VideoFault (Screen × List Float32 × List Float32 × Float) := do
  let first ← match frames with
    | [] => .error .noFrames
    | none :: _ => .error .noRows
    | some first :: _ => .ok first
  .ok (first, ← amountsOf palette.lit, ← amountsOf palette.unlit, ← rate.mapError .number)

/-- The video of a list of frames. A video for whose glow there is no room stays without frames and is not
even released. -/
def ofFrames (room : Nat) (recorder : Recorder) (frames : List (Option Screen)) (file : String)
    (rate : Except NumberFault Float) (scale : Int) (palette : Palette) (persistence : Bool) : Recording :=
  match looked frames rate palette with
  | .error fault => ⟨none, .error fault⟩
  | .ok (first, lit, unlit, rate) =>
    let size : Int × Int := (first.width * scale, first.height * scale)
    match recorder.begin file rate size with
    | .error fault => ⟨none, .error (.recorder fault)⟩
    | .ok () =>
      match checkSingles room [first.width, first.height] with
      | .error fault => ⟨some ⟨file, rate, size, [], false⟩, .error fault⟩
      | .ok () =>
        let (frames, outcome) := framesIn room recorder frames lit unlit scale persistence
          (.none first.width first.height)
        ⟨some ⟨file, rate, size, frames, true⟩, outcome⟩

end Video

end Chip8
