import Chip8.Clock.Readings
import Chip8.Emulator
import Chip8.Tone
import Chip8.Tool

/-!
# The window

A host with a surface to draw on, a keyboard and a buzzer. Once per frame it handles the events that
came in, runs the emulator unless it is paused, switches the buzzer and draws the screen.

What the window asks of the sound device is kept as a list of calls: the buzzer is switched only when
it changes.
-/

namespace Chip8

/-- A key of the keyboard, by what it does. -/
inductive Key where
  | escape
  | pause
  | pad (key : Nibble)
  | other
  deriving DecidableEq

/-- The key with a name: a label of the pad or one of the special keys. -/
def Key.ofName (name : String) : Key :=
  if name = "escape" then escape
  else if name = "f1" then pause
  else match Keypad.labels.idxOf? name with
    | some key => pad (Fin.ofNat 16 key)
    | none => other

/-- What happens at the window. -/
inductive Event where
  | keyDown (key : Key)
  | keyUp (key : Key)
  | quit
  | other
  deriving DecidableEq

/-- What the window asks of the sound device. -/
inductive SoundCall where
  /-- To get ready for samples of sixteen signed bits on one channel. -/
  | prepare (rate : Int)
  | take (tone : Tone)
  /-- To play the sound over and over. -/
  | play
  | stop

/-- Why a window cannot be opened. -/
inductive OpenFault where
  | surface (fault : ToolFault)
  | tone (fault : ToneFault)
  deriving DecidableEq

def OpenFault.message : OpenFault → String
  | surface fault => fault.message
  | tone fault => fault.message

/-- Why a frame cannot be shown. -/
inductive FrameFault where
  /-- The emulator failed, or a key is not on the pad that the host lends. -/
  | poll (fault : PollFault Fault)
  | picture (fault : PictureFault)

/-- A window and what it shows. -/
structure Window (Time : Type) where
  emulator : Emulator Time
  host : Host := {}
  room : Nat
  /-- Side of the block that a pixel is shown as. -/
  scale : Int := 8
  /-- Frames per second. -/
  frameRate : Int := 30
  palette : Palette := Scheme.default.palette
  surface : Picture
  paused : Bool := false
  isOpen : Bool := false
  hasSound : Bool := true
  isPlaying : Bool := false
  calls : Array SoundCall := #[]

/-- The outcome of showing frames: the window after them, how many were finished, and whether they
ended well. -/
structure Showing (Time : Type) where
  window : Window Time
  finished : Nat
  outcome : Except FrameFault Unit

namespace Window

variable {Time : Type} [ClockNumber Time]

def caption : String := "CHIP-8 Emulator"

/-- Gets the sound of the buzzer. Without a sound device the log says so, and there is no sound. -/
def openSound (window : Window Time) (silence : Option String) : Except OpenFault (Window Time) :=
  let prepared := { window with calls := window.calls.push (.prepare Tone.buzzerRate) }
  match silence with
  | some reason =>
    .ok { prepared with
      hasSound := false
      emulator := window.emulator.noted (.audioDisabled reason) }
  | none => do
    let tone ←
      (Tone.square window.room Tone.buzzerPitch Tone.buzzerRate Tone.buzzerVolume).mapError .tone
    .ok { prepared with calls := prepared.calls.push (.take tone) }

def create (room : Nat) (desktop : Desktop) (emulator : Emulator Time) (scale frameRate : Int)
    (palette : Palette) : Except OpenFault (Window Time) := do
  let surface ← (desktop.surface (64 * scale) (32 * scale)).mapError .surface
  let window : Window Time := { emulator, room, scale, frameRate, palette, surface }
  window.openSound desktop.silence

/-- Pauses the emulator, or lets it go on once it is resynchronized, which is done in a given way. -/
def togglePauseBy (resync : Emulator Time → Emulator Time) (window : Window Time) : Window Time :=
  if window.paused then
    { window with paused := false, emulator := (resync window.emulator).noted .resumed }
  else
    { window with paused := true, emulator := window.emulator.noted .paused }

/-- Marks a key of the pad as down or up, if the host lends one that long. -/
def setKey (window : Window Time) (key : Nibble) (down : Bool) : Except Fault (Window Time) :=
  if key < window.host.keys.length then
    .ok { window with host := { window.host with keys := window.host.keys.set key down } }
  else .error .keyVectorEnds

/-- Handles one event, with a given way to resynchronize the emulator. -/
def handleBy (resync : Emulator Time → Emulator Time) (window : Window Time) :
    Event → Except Fault (Window Time)
  | .quit | .keyDown .escape => .ok { window with isOpen := false }
  | .keyDown .pause => .ok (window.togglePauseBy resync)
  | .keyDown (.pad key) => window.setKey key true
  | .keyUp (.pad key) => window.setKey key false
  | _ => .ok window

/-- Handles one event. After a pause the time between is not caught up on. -/
def handle (window : Window Time) (event : Event) : Except Fault (Window Time) :=
  window.handleBy Emulator.resync event

/-- Handles events in order, up to the first that fails. -/
def handleAll : List Event → Action (Window Time) Fault
  | [], window => (window, .ok ())
  | event :: rest, window =>
    match window.handle event with
    | .error fault => (window, .error fault)
    | .ok window => handleAll rest window

/-- Switches the sound when the buzzer has changed. -/
def updateAudio (window : Window Time) : Window Time :=
  if !window.hasSound || window.host.buzzer == window.isPlaying then window
  else
    let call := if window.host.buzzer then .play else .stop
    { window with isPlaying := window.host.buzzer, calls := window.calls.push call }

/-- Draws the screen on the surface. -/
def draw (window : Window Time) : Except PictureFault (Window Time) := do
  let picture ← Picture.render window.room window.host.screen window.scale window.palette
  .ok { window with surface := picture.overlay window.surface }

/-- Runs the emulator up to a reading of the clock, unless it is paused. -/
def clock (window : Window Time) (readings : Readings Time) :
    Window Time × Readings Time × Except (PollFault Fault) Unit :=
  if window.paused then (window, readings, .ok ())
  else
    let (now, readings) := readings.next (ClockNumber.ofNat 0)
    let done := window.emulator.clock window.host now
    ({ window with emulator := done.emulator, host := done.host }, readings, done.outcome.map fun _ => ())

/-- Shows one frame: events, emulator, buzzer, screen. -/
def frame (window : Window Time) (events : List Event) (readings : Readings Time) :
    Window Time × Readings Time × Except FrameFault Unit :=
  match handleAll events window with
  | (window, .error fault) => (window, readings, .error (.poll (.action fault)))
  | (window, .ok ()) =>
    match window.clock readings with
    | (window, readings, .error fault) => (window, readings, .error (.poll fault))
    | (window, readings, .ok ()) =>
      let window := window.updateAudio
      match window.draw with
      | .error fault => (window, readings, .error (.picture fault))
      | .ok window => (window, readings, .ok ())

/-- Shows a frame for each batch of events while the window is open. When the batches run out, the
window is asked to close. -/
def frames (window : Window Time) (readings : Readings Time) (finished : Nat) :
    List (List Event) → Showing Time
  | [] =>
    match window.frame [.quit] readings with
    | (window, _, .error fault) => ⟨window, finished, .error fault⟩
    | (window, _, .ok ()) => ⟨window, finished + 1, .ok ()⟩
  | events :: rest =>
    match window.frame events readings with
    | (window, _, .error fault) => ⟨window, finished, .error fault⟩
    | (window, readings, .ok ()) =>
      if window.isOpen then frames window readings (finished + 1) rest
      else ⟨window, finished + 1, .ok ()⟩

/-- Opens the window and shows frames until it is closed or the emulator fails. -/
def run (window : Window Time) (readings : Readings Time) (batches : List (List Event)) :
    Showing Time :=
  frames { window with isOpen := true } readings 0 batches

end Window

end Chip8
