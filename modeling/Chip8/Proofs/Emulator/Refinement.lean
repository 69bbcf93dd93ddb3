import Chip8.Proofs.Clock.Poll
import Chip8.Proofs.Emulator.Call
import Chip8.Proofs.Machine.Refusal

/-!
# What a clock call does to the machine

A clock call is a number of cycles and then a number of ticks, as many as the two schedules fire. If a
cycle fails, the call ends with its fault: the cycles before it stay done, the processor schedule has
moved on by one period for each of them, and nothing else has changed.
-/

namespace Chip8

variable {Time : Type} [ClockNumber Time]

namespace Emulator

theorem cycleAction_eq_ok_iff {machine after : Machine} :
    cycleAction machine = (after, .ok ()) ↔ machine.cycle = .ok after := by
  unfold cycleAction
  split
  next next cycled => simp [cycled]
  next fault failed => simp [failed]

theorem cycleAction_eq_error_iff {machine after : Machine} {fault : Fault} :
    cycleAction machine = (after, .error fault) ↔
      machine.cycle = .error fault ∧ after = machine := by
  unfold cycleAction
  split
  next next cycled => simp [cycled]
  next other failed => simp [failed, eq_comm, and_comm]

/-- Successful runs of the processor action are cycles. -/
theorem cycles_of_runs {count : Nat} {machine reached : Machine}
    (runs : cycleAction.Runs count machine reached) (done : Nat) :
    machine.cycles done count = ⟨reached, done + count, .ok ()⟩ := by
  induction runs generalizing done with
  | zero machine => rfl
  | succ ran rest ih =>
      simp only [Machine.cycles, cycleAction_eq_ok_iff.mp ran]
      rw [ih, Nat.add_right_comm, Nat.add_assoc]

/-- Successful runs of the timer action are ticks. -/
theorem ticks_of_runs {count : Nat} {machine reached : Machine}
    (runs : tickAction.Runs count machine reached) :
    reached = Machine.tickTimers^[count] machine := by
  induction runs with
  | zero machine => rfl
  | succ ran rest ih =>
      cases ran
      exact ih

theorem screen_iterate_tickTimers (machine : Machine) (count : Nat) :
    (Machine.tickTimers^[count] machine).screen = machine.screen := by
  induction count generalizing machine with
  | zero => rfl
  | succ count ih => exact ih machine.tickTimers

theorem attach_of_size {machine : Machine} {host : Host} (size : host.screen.size = (64, 32))
    (length : host.keys.length = 16) :
    attach machine host = .ok { machine with screen := host.screen, keys := host.keys } := by
  simp [attach, size, length, Keypad.size]

/-- The screen keeps its size through cycles. -/
theorem size_screen_of_runs {count : Nat} {machine reached : Machine}
    (runs : cycleAction.Runs count machine reached) :
    reached.screen.size = machine.screen.size := by
  induction runs with
  | zero machine => rfl
  | @succ _ first _ _ ran rest ih =>
      rw [ih, ← Machine.screenLeft_of_ok (cycleAction_eq_ok_iff.mp ran), first.size_screenLeft]

theorem cycles_of_advance {cpuClock after : Scheduler Time} {now : Time} {machine reached : Machine}
    {count : Nat} (polled : cpuClock.advance now cycleAction machine = ⟨after, reached, .ok count⟩) :
    machine.cycles 0 count = ⟨reached, count, .ok ()⟩ := by
  have runs := Scheduler.runs_of_advance (congrArg Poll.outcome polled)
  rw [polled] at runs
  simpa using cycles_of_runs runs 0

theorem ticks_of_advance {timerClock after : Scheduler Time} {now : Time} {machine ticked : Machine}
    {count : Nat} (polled : timerClock.advance now tickAction machine = ⟨after, ticked, .ok count⟩) :
    ticked = Machine.tickTimers^[count] machine := by
  have runs := Scheduler.runs_of_advance (congrArg Poll.outcome polled)
  rw [polled] at runs
  exact ticks_of_runs runs

/-- A tick never fails, so no poll of the timer schedule ends with a fault of the machine. -/
theorem advance_tickAction_ne_action {timerClock after : Scheduler Time} {now : Time}
    {machine ticked : Machine} {fault : Fault} :
    timerClock.advance now tickAction machine ≠ ⟨after, ticked, .error (.action fault)⟩ := by
  intro failed
  rcases Scheduler.runs_of_advance_failed (congrArg Poll.outcome failed) with
    ⟨_, _, _, _, refused, _⟩
  cases refused

end Emulator

end Chip8
