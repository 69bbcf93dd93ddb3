import Chip8.Clock.Scheduler
import Mathlib.Algebra.Ring.Rat

/-!
# Schedules see spans of time only

A schedule compares and counts the time that has passed since its last run. In rational time this span is
exact, so a schedule does not notice if its clock shows all times later by one constant: it runs the action
as often, skips as many periods and ends in the same way, and only its last timestamp is later as well.
-/

namespace Chip8

variable {State Cause : Type}

theorem catchUp_shift (period last now offset : Rat) :
    catchUp period (last + offset) (now + offset) =
      (catchUp period last now).map fun (count, moved) => (count, moved + offset) := by
  have span : now + offset - (last + offset) = now - last := add_sub_add_right_eq_sub now last offset
  unfold catchUp
  rw [span]
  split
  · rfl
  · rcases ClockNumber.wholePeriods (now - last) period with fault | count
    · rfl
    · have moved : last + offset + ClockNumber.times count period =
          last + ClockNumber.times count period + offset := add_right_comm _ _ _
      exact congrArg (fun moved => Except.ok (count, moved)) moved

namespace Scheduler

/-- The schedule with its last run at another time. -/
def shift (offset : Rat) (scheduler : Scheduler Rat) : Scheduler Rat :=
  { scheduler with last := scheduler.last.map (· + offset) }

/-- A schedule that has not run yet has no time to be moved. -/
theorem shift_of_unset {scheduler : Scheduler Rat} (unset : scheduler.last = none) (offset : Rat) :
    scheduler.shift offset = scheduler := by
  rcases scheduler with ⟨period, cap, last, dropped⟩
  cases unset
  rfl

@[simp]
theorem shift_reset (scheduler : Scheduler Rat) (offset : Rat) :
    scheduler.reset.shift offset = scheduler.reset :=
  shift_of_unset rfl offset

@[simp]
theorem period_shift (scheduler : Scheduler Rat) (offset : Rat) :
    (scheduler.shift offset).period = scheduler.period := rfl

@[simp]
theorem dropped_shift (scheduler : Scheduler Rat) (offset : Rat) :
    (scheduler.shift offset).dropped = scheduler.dropped := rfl

end Scheduler

/-- The poll with its schedule moved in time. -/
def Poll.shift (offset : Rat) (poll : Poll Rat State Cause) : Poll Rat State Cause :=
  { poll with scheduler := poll.scheduler.shift offset }

namespace Scheduler

variable (scheduler : Scheduler Rat) (action : Action State Cause) (last now offset : Rat) (state : State)

theorem skip_shift (fired : Nat) :
    (scheduler.shift offset).skip (last + offset) (now + offset) state fired =
      (scheduler.skip last now state fired : Poll Rat State Cause).shift offset := by
  have caught := catchUp_shift scheduler.period last now offset
  unfold skip
  rw [shift, caught]
  rcases catchUp scheduler.period last now with fault | ⟨count, moved⟩ <;> rfl

theorem runDue_shift (limit fired : Nat) :
    runDue action (now + offset) limit (scheduler.shift offset) (last + offset) state fired =
      (runDue action now limit scheduler last state fired).shift offset := by
  induction limit generalizing last state fired with
  | zero => rfl
  | succ limit ih =>
      have span : now + offset - (last + offset) = now - last := add_sub_add_right_eq_sub now last offset
      have next : last + offset + scheduler.period = last + scheduler.period + offset :=
        add_right_comm _ _ _
      have same : (scheduler.shift offset).capReached fired = scheduler.capReached fired := rfl
      rw [runDue, runDue, period_shift, span, next, same]
      split
      · split
        · exact skip_shift scheduler last now offset state fired
        · rcases action state with ⟨after, cause | _⟩
          · rfl
          · exact ih _ _ _
      · rfl

/-- A poll with all times moved is the same poll, with the last run moved. -/
theorem advance_shift :
    (scheduler.shift offset).advance (now + offset) action state =
      (scheduler.advance now action state).shift offset := by
  rcases started : scheduler.last with _ | last
  · rw [shift_of_unset started]
    unfold advance
    rw [started]
    rcases ran : action state with ⟨after, cause | _⟩
    · rw [Poll.shift, shift_of_unset started]
    · rfl
  · have moved : (scheduler.shift offset).last = some (last + offset) := by simp [shift, started]
    have budget : ClockNumber.budget scheduler.period (last + offset) (now + offset) =
        ClockNumber.budget scheduler.period last now := by
      simp only [ClockNumber.budget, add_sub_add_right_eq_sub]
    simp only [advance, started, moved, period_shift, budget]
    exact runDue_shift scheduler action last now offset state _ 0

end Scheduler

end Chip8
