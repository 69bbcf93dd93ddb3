import Chip8.Emulator

/-!
# What the host calls

The host of an emulator loads programs, polls it with timestamps, runs single cycles and lets it
forget its phase, in any order and with any arguments; a call that fails leaves an emulator as well.
This file has these calls as data, so that what is kept by each of them is kept by all sequences of
them, and it says once how a clock call can end.
-/

namespace Chip8

variable {Time : Type} [ClockNumber Time]

/-- What a host can ask an emulator to do. -/
inductive Call (Time : Type) where
  | load (program : List UInt8) (seed : Option Int)
  | clock (host : Host) (now : Time)
  | step (host : Host)
  | resync

namespace Emulator

/-- The emulator after a call, whether it succeeds or fails. -/
def after (emulator : Emulator Time) : Call Time → Emulator Time
  | .load program seed => (emulator.load program seed).1
  | .clock host now => (emulator.clock host now).emulator
  | .step host => (emulator.step host).emulator
  | .resync => emulator.resync

def afterAll (emulator : Emulator Time) (calls : List (Call Time)) : Emulator Time :=
  calls.foldl after emulator

/-- A property that every call keeps holds after any calls. -/
theorem afterAll_keeps {property : Emulator Time → Prop}
    (kept : ∀ emulator call, property emulator → property (emulator.after call))
    {emulator : Emulator Time} (holds : property emulator) (calls : List (Call Time)) :
    property (emulator.afterAll calls) := by
  induction calls generalizing emulator with
  | nil => exact holds
  | cons call rest ih => exact ih (kept emulator call holds)

/-- How a clock call ends. -/
inductive ClockEnds (emulator : Emulator Time) (host : Host) (now : Time) :
    Emulated Time Firing → Prop where
  | refused {fault : Fault} (refused : attach emulator.machine host = .error fault) :
    ClockEnds emulator host now ⟨emulator, host, .error (.action fault)⟩
  /-- The poll of the processor schedule fails. -/
  | stopped {lent reached : Machine} {cpuClock : Scheduler Time} {fault : PollFault Fault}
    (attached : attach emulator.machine host = .ok lent)
    (cpu : emulator.cpuClock.advance now cycleAction lent = ⟨cpuClock, reached, .error fault⟩) :
    ClockEnds emulator host now
      ⟨{ emulator with machine := reached, cpuClock }, { host with screen := reached.screen },
        .error fault⟩
  /-- The poll of the timer schedule fails. -/
  | unticked {lent reached ticked : Machine} {cpuClock timerClock : Scheduler Time} {cycles : Nat}
    {fault : PollFault Fault} (attached : attach emulator.machine host = .ok lent)
    (cpu : emulator.cpuClock.advance now cycleAction lent = ⟨cpuClock, reached, .ok cycles⟩)
    (timers : emulator.timerClock.advance now tickAction reached =
      ⟨timerClock, ticked, .error fault⟩) :
    ClockEnds emulator host now
      ⟨{ emulator with machine := ticked, cpuClock, timerClock },
        { host with screen := reached.screen }, .error fault⟩
  | done {lent reached ticked : Machine} {cpuClock timerClock : Scheduler Time} {cycles ticks : Nat}
    (attached : attach emulator.machine host = .ok lent)
    (cpu : emulator.cpuClock.advance now cycleAction lent = ⟨cpuClock, reached, .ok cycles⟩)
    (timers : emulator.timerClock.advance now tickAction reached = ⟨timerClock, ticked, .ok ticks⟩) :
    ClockEnds emulator host now
      ⟨{ emulator with
          machine := ticked, cpuClock, timerClock
          log :=
            if cpuClock.dropped + timerClock.dropped - emulator.dropped = 0 then emulator.log
            else
              emulator.log.write
                (.stalled (cpuClock.dropped + timerClock.dropped - emulator.dropped)) },
        ⟨reached.screen, host.keys, ticked.soundTimer.isRunning⟩, .ok ⟨cycles, ticks⟩⟩

theorem clock_ends (emulator : Emulator Time) (host : Host) (now : Time) :
    ClockEnds emulator host now (emulator.clock host now) := by
  unfold clock
  split
  next fault refused => exact .refused refused
  next lent attached =>
    generalize cpu : emulator.cpuClock.advance now cycleAction lent = polled
    rcases polled with ⟨cpuClock, reached, fault | cycles⟩
    · exact .stopped attached cpu
    · simp only
      generalize timers : emulator.timerClock.advance now tickAction reached = polled
      rcases polled with ⟨timerClock, ticked, fault | ticks⟩
      · exact .unticked attached cpu timers
      · exact .done attached cpu timers

/-- However a clock call ends, the host keeps the states of its keys. -/
theorem keys_clock (emulator : Emulator Time) (host : Host) (now : Time) :
    (emulator.clock host now).host.keys = host.keys := by
  have ends := emulator.clock_ends host now
  generalize emulator.clock host now = called at ends
  cases ends <;> rfl

end Emulator

end Chip8
