import Chip8.Checksum
import Chip8.Clock.Scheduler
import Chip8.Log.Notice
import Chip8.Machine

/-!
# The emulator

A machine with the schedules of its processor and its timers. The host lends a screen and the states
of the keys on every call and gets a buzzer back; it calls `Emulator.clock` from its frame loop, and
processor cycles and timer ticks follow the time it gives, whatever its frame rate.

A cap on the cycles of one call gives the timers the same span of machine time, so both stay in step
after a stall.
-/

namespace Chip8

/-- What the host lends to the machine. -/
structure Host where
  screen : Screen := Screen.blank 64 32
  keys : List Bool := Keypad.released
  buzzer : Bool := false

/-- A machine and its schedules. -/
structure Emulator (Time : Type) where
  /-- Processor cycles per second. -/
  frequency : Time
  cpuClock : Scheduler Time
  timerClock : Scheduler Time
  machine : Machine := {}
  /-- The seed in use, once a program is loaded. -/
  seed : Option Int := none
  log : Log := {}

/-- How often one call ran the processor and the timers. -/
structure Firing where
  cycles : Nat
  ticks : Nat
  deriving DecidableEq

/-- The outcome of a call: emulator and host after it, and a result or why there is none. -/
structure Emulated (Time Result : Type) where
  emulator : Emulator Time
  host : Host
  outcome : Except (PollFault Fault) Result

namespace Emulator

variable {Time : Type} [ClockNumber Time]

/-- Processor cycles per second if none are asked for. -/
def defaultFrequency : Time := ClockNumber.ofNat 500

def timerFrequency : Time := ClockNumber.ofNat 60

/-- Host frames of backlog that are caught up after a stall before periods are skipped. -/
def catchUpFrames : Time := ClockNumber.ofNat 2

/-- The seed in place of a checksum of zero. -/
def fallbackSeed : Nat := 0xACE1

/-- The timer ticks that cover `cap` processor cycles: at least one. -/
def timerCap (frequency : Time) (cap : Int) : Except NumberFault Int := do
  let span ← ClockNumber.ofInt cap
  let ticks ← ClockNumber.div (span * timerFrequency) frequency
  .ok (max 1 (← ClockNumber.ceil ticks))

/-- The timer ticks that cover a cap on processor cycles, if there is one. -/
def timerCap? (frequency : Time) : Option Int → Except (ScheduleFault Time) (Option Int)
  | none => .ok none
  | some cap =>
    match timerCap frequency cap with
    | .ok ticks => .ok (some ticks)
    | .error fault => .error (.number fault)

/-- The cap that covers two host frames: at least one cycle. -/
def defaultCap (frequency frameRate : Time) : Except NumberFault Int := do
  let cycles ← ClockNumber.div (frequency * catchUpFrames) frameRate
  .ok (max 1 (← ClockNumber.ceil cycles))

def create (frequency : Time) (cap : Option Int) (log : Log) :
    Except (ScheduleFault Time) (Emulator Time) := do
  let cpuClock ← Scheduler.ofFrequency frequency cap
  let timerClock ← Scheduler.ofFrequency timerFrequency (← timerCap? frequency cap)
  .ok { frequency, cpuClock, timerClock, log }

/-- Forgets the phase of both schedules, so that the next call does not catch up on idle time. -/
def resync (emulator : Emulator Time) : Emulator Time :=
  { emulator with cpuClock := emulator.cpuClock.reset, timerClock := emulator.timerClock.reset }

/-- The emulator with one notice more in its log. -/
def noted (emulator : Emulator Time) (notice : Notice) : Emulator Time :=
  { emulator with log := emulator.log.write notice }

/-- The seed in use for a program: the one given, or its checksum, unless that is zero. -/
def seedFor (program : List UInt8) : Option Int → Int
  | some seed => seed
  | none =>
    let checksum := (Checksum.ofBytes program).toNat
    if checksum = 0 then fallbackSeed else checksum

/-- Loads a program and starts the machine anew. Gives the seed in use. If the program does not fit
or the seed is zero, nothing changes. -/
def load (emulator : Emulator Time) (program : List UInt8) (seed : Option Int) :
    Emulator Time × Except Fault Int :=
  match Machine.programMemory program with
  | .error fault => (emulator, .error fault)
  | .ok memory =>
    let inUse := seedFor program seed
    match Lfsr.seeded inUse with
    | .error fault => (emulator, .error fault)
    | .ok random =>
      let derived := match seed with
        | some _ => []
        | none => [Notice.derivedSeed inUse (Checksum.ofBytes program).toNat]
      let log := emulator.log.writeAll (derived ++ [Notice.loaded program.length inUse])
      ({ emulator with machine := { memory, random }, seed := some inUse, log }.resync, .ok inUse)

/-- Puts what the host lends into the machine, after checking it. -/
def attach (machine : Machine) (host : Host) : Except Fault Machine :=
  if host.screen.size ≠ (64, 32) then
    .error (.invalidDisplayDimensions (64, 32) host.screen.size)
  else if host.keys.length ≠ Keypad.size then
    .error (.invalidKeyVectorLength Keypad.size host.keys.length)
  else .ok { machine with screen := host.screen, keys := host.keys }

/-- What the processor schedule runs: a cycle, which changes nothing if it fails. -/
def cycleAction : Action Machine Fault := fun machine =>
  match machine.cycle with
  | .ok after => (after, .ok ())
  | .error fault => (machine, .error fault)

/-- What the timer schedule runs. -/
def tickAction : Action Machine Fault := fun machine => (machine.tickTimers, .ok ())

/-- Periods skipped so far by either schedule. -/
def dropped (emulator : Emulator Time) : Int :=
  emulator.cpuClock.dropped + emulator.timerClock.dropped

/-- Runs the processor up to a timestamp, then the timers, and sounds the buzzer while the sound timer
runs. Skipped periods are written to the log. -/
def clock (emulator : Emulator Time) (host : Host) (now : Time) : Emulated Time Firing :=
  match attach emulator.machine host with
  | .error fault => ⟨emulator, host, .error (.action fault)⟩
  | .ok machine =>
    let cpu := emulator.cpuClock.advance now cycleAction machine
    let host := { host with screen := cpu.state.screen }
    let afterCpu := { emulator with machine := cpu.state, cpuClock := cpu.scheduler }
    match cpu.outcome with
    | .error fault => ⟨afterCpu, host, .error fault⟩
    | .ok cycles =>
      let timers := emulator.timerClock.advance now tickAction cpu.state
      let after := { afterCpu with machine := timers.state, timerClock := timers.scheduler }
      match timers.outcome with
      | .error fault => ⟨after, host, .error fault⟩
      | .ok ticks =>
        let skipped := after.dropped - emulator.dropped
        let log := if skipped = 0 then after.log else after.log.write (.stalled skipped)
        ⟨{ after with log }, { host with buzzer := after.machine.soundTimer.isRunning },
          .ok ⟨cycles, ticks⟩⟩

/-- Runs exactly one cycle, whatever the schedules say. -/
def step (emulator : Emulator Time) (host : Host) : Emulated Time Unit :=
  match attach emulator.machine host with
  | .error fault => ⟨emulator, host, .error (.action fault)⟩
  | .ok machine =>
    match machine.cycle with
    | .error fault => ⟨{ emulator with machine }, host, .error (.action fault)⟩
    | .ok after =>
      ⟨{ emulator with machine := after }, { host with screen := after.screen }, .ok ()⟩

/-- Runs `count` cycles, up to the first that fails: the outcome of the last one, and the number of
those that went well, `done` of them before. -/
def steps (emulator : Emulator Time) (host : Host) (done : Nat) : Nat → Emulated Time Unit × Nat
  | 0 => (⟨emulator, host, .ok ()⟩, done)
  | count + 1 =>
    let next := emulator.step host
    match next.outcome with
    | .error _ => (next, done)
    | .ok () => steps next.emulator next.host (done + 1) count

end Emulator

def ScheduleFault.message : ScheduleFault Float → String
  | periodNotPositive period => s!"Scheduler period must be positive, got {Decimal.shortest period}"
  | capBelowOne cap => s!"max_catch_up must be at least 1, got {cap}"
  | frequencyNotPositive frequency =>
    s!"Frequency must be positive, got {Decimal.shortest frequency}"
  | number fault => fault.message

end Chip8
