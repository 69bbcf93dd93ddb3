import Chip8.Clock.Number

/-!
# Schedulers

A scheduler runs an action once for every whole period that has passed. The timestamp of the last
run only ever moves on by whole periods and is never set to the present, so the schedule keeps its
phase however irregularly it is polled.

A cap bounds the runs of one poll. The whole periods beyond it are skipped: the timestamp moves past
them, and they are counted as dropped.

An action is a function on some state that may fail. When it fails the poll ends, the state is what
the action left, and the periods that were run before stay consumed.
-/

namespace Chip8

/-- What a scheduler runs: a step on a state, which may fail with a cause. -/
abbrev Action (State Cause : Type) := State → State × Except Cause Unit

/-- The number of whole periods between two timestamps, and the first one moved on by them. -/
def catchUp {Time : Type} [ClockNumber Time] (period last now : Time) :
    Except NumberFault (Int × Time) :=
  if ClockNumber.lt (now - last) period then .ok (0, last)
  else do
    let count ← ClockNumber.wholePeriods (now - last) period
    .ok (count, last + ClockNumber.times count period)

/-- Why a scheduler cannot be made. -/
inductive ScheduleFault (Time : Type) where
  | periodNotPositive (period : Time)
  | capBelowOne (cap : Int)
  | frequencyNotPositive (frequency : Time)
  | number (fault : NumberFault)

/-- Why a poll ended before its time. -/
inductive PollFault (Cause : Type) where
  | action (cause : Cause)
  | number (fault : NumberFault)
  /-- More periods are due than can be run. -/
  | endless
  deriving DecidableEq

/-- A schedule with its phase. -/
structure Scheduler (Time : Type) where
  period : Time
  /-- The most runs of one poll, if there is a bound. -/
  cap : Option Int := none
  last : Option Time := none
  dropped : Int := 0

/-- The outcome of a poll: the scheduler and the state after it, and the number of runs or the reason
for its end. -/
structure Poll (Time State Cause : Type) where
  scheduler : Scheduler Time
  state : State
  outcome : Except (PollFault Cause) Nat

namespace Scheduler

variable {Time State Cause : Type} [ClockNumber Time]

/-- A scheduler that has not run yet. -/
def ofPeriod (period : Time) (cap : Option Int) : Except (ScheduleFault Time) (Scheduler Time) :=
  if ClockNumber.le period (ClockNumber.ofNat 0) then .error (.periodNotPositive period)
  else match cap with
    | none => .ok { period, cap }
    | some bound => if bound < 1 then .error (.capBelowOne bound) else .ok { period, cap }

/-- A scheduler for so many runs per unit of time. -/
def ofFrequency (frequency : Time) (cap : Option Int) :
    Except (ScheduleFault Time) (Scheduler Time) :=
  if ClockNumber.le frequency (ClockNumber.ofNat 0) then .error (.frequencyNotPositive frequency)
  else match ClockNumber.div (ClockNumber.ofNat 1) frequency with
    | .error fault => .error (.number fault)
    | .ok period => ofPeriod period cap

/-- Forgets the phase and the count of skipped periods. -/
def reset (scheduler : Scheduler Time) : Scheduler Time := { scheduler with last := none, dropped := 0 }

/-- Whether a poll that has run the action `fired` times may run it no more. -/
def capReached (scheduler : Scheduler Time) (fired : Nat) : Bool :=
  match scheduler.cap with
  | none => false
  | some bound => bound ≤ fired

/-- Skips the whole periods since `last`. -/
def skip (scheduler : Scheduler Time) (last now : Time) (state : State) (fired : Nat) :
    Poll Time State Cause :=
  match catchUp scheduler.period last now with
  | .error fault => ⟨{ scheduler with last := some last }, state, .error (.number fault)⟩
  | .ok (count, moved) =>
    ⟨{ scheduler with last := some moved, dropped := scheduler.dropped + count }, state, .ok fired⟩

/-- Runs the action for every whole period since `last`, up to the cap; `fired` counts the runs. The
first argument bounds the rounds. -/
def runDue (action : Action State Cause) (now : Time) :
    Nat → Scheduler Time → Time → State → Nat → Poll Time State Cause
  | 0, scheduler, last, state, _ =>
    ⟨{ scheduler with last := some last }, state, .error .endless⟩
  | rounds + 1, scheduler, last, state, fired =>
    if ClockNumber.le scheduler.period (now - last) then
      if scheduler.capReached fired then scheduler.skip last now state fired
      else match action state with
        | (state, .error cause) =>
          ⟨{ scheduler with last := some last }, state, .error (.action cause)⟩
        | (state, .ok ()) =>
          runDue action now rounds scheduler (last + scheduler.period) state (fired + 1)
    else ⟨{ scheduler with last := some last }, state, .ok fired⟩

/-- Polls the scheduler at a timestamp. The first poll runs the action once and sets the phase. -/
def advance (scheduler : Scheduler Time) (now : Time) (action : Action State Cause) (state : State) :
    Poll Time State Cause :=
  match scheduler.last with
  | none =>
    match action state with
    | (state, .error cause) => ⟨scheduler, state, .error (.action cause)⟩
    | (state, .ok ()) => ⟨{ scheduler with last := some now }, state, .ok 1⟩
  | some last =>
    runDue action now (ClockNumber.budget scheduler.period last now) scheduler last state 0

end Scheduler

end Chip8
