import Chip8.CommandLine.Options
import Chip8.Headless
import Chip8.Window

/-!
# Sessions

One start of the program: its options are given, the program to emulate is read, and it runs in a
window or without one. A fault that the machine reports is logged and ends the session with code 1;
any other fault ends it as it is.
-/

namespace Chip8

/-- What a session has around it. -/
structure Stage where
  /-- The events that come in at the window before its first frame. -/
  events : List Event := []
  tools : Tools
  desktop : Desktop

/-- How a session ends. -/
inductive Ending where
  | exit (code : Nat)
  | fault (fault : RunFault)

/-- What a session leaves. -/
structure Report where
  ending : Ending
  log : Log
  videos : List Video := []
  pictures : List SavedPicture := []

namespace Session

/-- What a run without a window is to do. -/
def plan (options : Options) : Except Lack Plan :=
  match options.frames, options.frameRate with
  | .nothing, _ => .error .frames
  | .value _, .nothing => .error .frameDivisor
  | .value frames, .value rate =>
    .ok { frames, rate, scale := options.scale, palette := options.palette
          record := options.record.map Path.toText
          screenshot := options.screenshot.map Path.toText }

/-- The settings that a session starts with. -/
def settings (options : Options) (emulator : Emulator Float) (seed : Int) :
    List (String × Setting) :=
  [("rom", .text options.rom.name), ("frequency", .real emulator.frequency),
   ("max catch-up", emulator.cpuClock.cap.elim .absent .whole),
   ("seed", .text ("0x" ++ Text.hex 4 true seed)),
   ("mode", .text (if options.headless then "headless" else "window"))]

/-- A run that fails before its first frame. -/
def failed (emulator : Emulator Float) (fault : RunFault) : Run Float :=
  { emulator, host := {}, outcome := .error fault }

def runHeadless (options : Options) (stage : Stage) (emulator : Emulator Float) : Run Float :=
  match plan options with
  | .error lack => failed emulator (.lack lack)
  | .ok plan => emulator.runHeadless stage.tools plan {}

/-- The window of a session. Only the pace of its frames depends on the frame rate. -/
def window (options : Options) (stage : Stage) (emulator : Emulator Float) :
    Except RunFault (Window Float) :=
  let frameRate : Int := match options.frameRate with
    | .value rate => rate
    | .nothing => 0
  match options.scale with
  | .nothing => .error (.lack .windowSide)
  | .value scale =>
    (Window.create stage.tools.room stage.desktop emulator scale frameRate options.palette).mapError .window

/-- Runs in a window for the frame in which it is closed. -/
def runWindow (options : Options) (stage : Stage) (emulator : Emulator Float) : Run Float :=
  match window options stage emulator with
  | .error fault => failed emulator fault
  | .ok window =>
    let showing := window.run ⟨[0.0]⟩ [stage.events]
    let outcome := showing.outcome.mapError fun
      | .poll fault => .poll fault
      | .picture fault => .picture fault
    { emulator := showing.window.emulator, host := showing.window.host, outcome }

/-- What a run leaves, with a fault that the machine reports written to the log. -/
def report (run : Run Float) : Report :=
  let log := run.emulator.log
  let (ending, log) := match run.outcome with
    | .ok () => (Ending.exit 0, log)
    | .error (.poll (.action fault)) =>
      if fault.isReported then (Ending.exit 1, log.write (.failed fault))
      else (Ending.fault (.poll (.action fault)), log)
    | .error fault => (Ending.fault fault, log)
  { ending, log, videos := run.videos, pictures := run.pictures }

/-- Runs a program that was read, with a seed if one is given. -/
def start (options : Options) (program : List UInt8) (seed : Option Int) (stage : Stage)
    (emulator : Emulator Float) : Report :=
  match emulator.load program seed with
  | (emulator, .error fault) => ⟨.exit 1, emulator.log.write (.failed fault), [], []⟩
  | (emulator, .ok seed) =>
    let configuration := Notice.configuration "Starting CHIP-8" (settings options emulator seed)
    let emulator := { emulator with log := emulator.log.writeAll configuration }
    report (if options.headless then runHeadless options stage emulator
      else runWindow options stage emulator)

/-- Runs a program that was read. It is looked at before its seed. -/
def startSeeded (options : Options) (program : List UInt8) (stage : Stage)
    (emulator : Emulator Float) : Report :=
  match options.seed, Machine.programMemory program with
  | none, _ => start options program none stage emulator
  | some (.value seed), _ => start options program (some seed) stage emulator
  | some .nothing, .error fault => ⟨.exit 1, emulator.log.write (.failed fault), [], []⟩
  | some .nothing, .ok _ => ⟨.fault (.lack .seed), emulator.log, [], []⟩

/-- Why a session does not begin. -/
def startFault : StartFault → RunFault
  | .schedule fault => .schedule fault
  | .lack lack => .lack lack

/-- Runs a session with the program as far as it could be read. A path that the system cannot even be
asked about ends the session; every other fault of the file is logged. -/
def run (options : Options) (program : Except FileFault (List UInt8)) (stage : Stage) : Report :=
  match options.logLevel with
  | .nothing => ⟨.fault (.lack .level), {}, [], []⟩
  | .value threshold =>
    let log : Log := { threshold }
    match program with
    | .error .embeddedZero => ⟨.fault (.file .embeddedZero), log, [], []⟩
    | .error fault => ⟨.exit 1, log.write (.unreadable options.rom.toText fault), [], []⟩
    | .ok program =>
      match options.emulator log with
      | .error fault => ⟨.fault (startFault fault), log, [], []⟩
      | .ok emulator => startSeeded options program stage emulator

end Session

end Chip8
