import Chip8.Run

/-!
# Runs without a window

A run emulates so many frames at a frame rate without waiting: frame `i` is at `i / rate` seconds. A bar
shows how far it has come. It can be recorded as a video, and its last screen saved as a picture.
-/

namespace Chip8

/-- What a run without a window is to do. -/
structure Plan where
  frames : Int := 600
  /-- Frames per second. -/
  rate : Int := 30
  /-- Side of the block that a pixel is shown as. -/
  scale : Given Int := .value 8
  palette : Palette := Scheme.default.palette
  record : Option String := none
  screenshot : Option String := none

/-- The outcome of frames: emulator and host after them, the screens of those that were finished, and
whether they ended well. -/
structure Frames (Time : Type) where
  emulator : Emulator Time
  host : Host
  screens : List Screen
  outcome : Except RunFault Unit

/-- Saves the picture of a screen in a file. The colours are looked at before the file. -/
def saveScreen (tools : Tools) (screen : Screen) (file : String) (scale : Int) (palette : Palette) :
    Except RunFault SavedPicture := do
  let picture ← (Picture.render tools.room screen scale palette).mapError .picture
  (tools.coder file picture).mapError .tool
  .ok ⟨file, picture⟩

namespace Emulator

variable {Time : Type} [ClockNumber Time]

/-- Emulates `count` frames from frame `index` on, and tells a bar of each of them. -/
def runFrames (bar : ProgressBar) (rate : Int) (emulator : Emulator Time) (host : Host) (index : Nat) :
    Nat → Frames Time
  | 0 => ⟨emulator, host, [], .ok ()⟩
  | count + 1 =>
    match ClockNumber.ofQuotient index rate with
    | .error fault => ⟨emulator, host, [], .error (.number fault)⟩
    | .ok now =>
      let done := emulator.clock host now
      match done.outcome with
      | .error fault => ⟨done.emulator, done.host, [], .error (.poll fault)⟩
      | .ok _ =>
        match bar.advance (index + 1) with
        | .error fault => ⟨done.emulator, done.host, [done.host.screen], .error (.tool fault)⟩
        | .ok () =>
          let rest := runFrames bar rate done.emulator done.host (index + 1) count
          { rest with screens := done.host.screen :: rest.screens }

/-- The video of a run. It is not begun if the side of its blocks is not given. -/
def recording (tools : Tools) (plan : Plan) (screens : List Screen) (file : String) :
    Option Video × Except RunFault Unit :=
  let frames := screens.map some
  let rate := Binary64.ofInt plan.rate
  match plan.scale with
  | .value scale =>
    let made := Video.ofFrames tools.room tools.recorder frames file rate scale plan.palette true
    (made.video, made.outcome.mapError .video)
  | .nothing =>
    match Video.looked frames rate plan.palette with
    | .error fault => (none, .error (.video fault))
    | .ok _ => (none, .error (.lack .videoSide))

def saveVideo (tools : Tools) (plan : Plan) (screens : List Screen) (run : Run Time) : Run Time :=
  match plan.record with
  | none => run
  | some file =>
    match recording tools plan screens file with
    | (video?, .error fault) => { run with videos := video?.toList, outcome := .error fault }
    | (video?, .ok ()) =>
      { run with videos := video?.toList, emulator := run.emulator.noted (.savedVideo file) }

def lastPicture (tools : Tools) (plan : Plan) (screen : Screen) (file : String) :
    Except RunFault SavedPicture :=
  match plan.scale with
  | .value scale => saveScreen tools screen file scale plan.palette
  | .nothing => do
    let _ ← (Picture.paint tools.room screen plan.palette).mapError .picture
    .error (.lack .side)

/-- Saves the picture of the last screen of a run, if one is asked for. -/
def saveLastScreen (tools : Tools) (plan : Plan) (run : Run Time) : Run Time :=
  match plan.screenshot with
  | none => run
  | some file =>
    match lastPicture tools plan run.host.screen file with
    | .error fault => { run with outcome := .error fault }
    | .ok saved =>
      { run with pictures := [saved], emulator := run.emulator.noted (.savedScreenshot file) }

/-- Makes the bar for the frames of a run. It is hidden if the log takes no such notices, but what it says is
made up in any case. -/
def makeBar (tools : Tools) (emulator : Emulator Time) (frames : Int) : Except RunFault ProgressBar :=
  match ProgressBar.text? frames with
  | none => .error .untold
  | some text => (tools.bar frames text (!Level.info.passes emulator.log.threshold)).mapError .tool

/-- Emulates the frames of a run, after which the bar is taken away whether they went well or not. -/
def barredFrames (bar : ProgressBar) (plan : Plan) (emulator : Emulator Time) (host : Host) :
    Frames Time :=
  let done := runFrames bar plan.rate emulator host 0 plan.frames.toNat
  match bar.close done.screens.length with
  | .error fault => { done with outcome := .error (.tool fault) }
  | .ok () => done

/-- Runs the emulator without a window. Nothing is saved if a frame fails. -/
def runHeadless (tools : Tools) (plan : Plan) (emulator : Emulator Time) (host : Host) : Run Time :=
  match emulator.makeBar tools plan.frames with
  | .error fault => { emulator, host, outcome := .error fault }
  | .ok bar =>
    let done := barredFrames bar plan emulator host
    let ended : Run Time := { emulator := done.emulator, host := done.host, outcome := done.outcome }
    match done.outcome with
    | .error _ => ended
    | .ok () =>
      match (ClockNumber.ofQuotient plan.frames plan.rate : Except NumberFault Time) with
      | .error fault => { ended with outcome := .error (.number fault) }
      | .ok _ =>
        let told := { ended with emulator := done.emulator.noted (.emulated plan.frames plan.rate) }
        let recorded := saveVideo tools plan done.screens told
        match recorded.outcome with
        | .error _ => recorded
        | .ok () => saveLastScreen tools plan recorded

end Emulator

end Chip8
