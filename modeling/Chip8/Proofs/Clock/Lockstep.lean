import Chip8.Clock.Scheduler

/-!
# Schedules in lockstep

A schedule sees of a state only what the action makes of it, whether it goes well or fails. So two
equal schedules whose actions go well and fail together stay equal, and whatever relates their states
and is kept by the actions relates them after every poll as well.
-/

namespace Chip8

variable {Time State Other Cause : Type} {relation : State → Other → Prop}

/-- From related states the actions lead to related states, and go well or fail alike. -/
def Action.Lockstep (relation : State → Other → Prop) (action : Action State Cause)
    (other : Action Other Cause) : Prop :=
  ∀ state otherState, relation state otherState →
    relation (action state).1 (other otherState).1 ∧ (other otherState).2 = (action state).2

theorem Action.Lockstep.exists_run {action : Action State Cause} {other : Action Other Cause}
    {state : State} {otherState : Other} (lockstep : action.Lockstep relation other)
    (related : relation state otherState) :
    ∃ after otherAfter outcome, action state = (after, outcome) ∧
      other otherState = (otherAfter, outcome) ∧ relation after otherAfter := by
  rcases lockstep state otherState related with ⟨next, alike⟩
  exact ⟨_, _, _, rfl, Prod.ext rfl alike, next⟩

/-- Two polls leave equal schedules and related states, and end alike. -/
structure Poll.Lockstep (relation : State → Other → Prop) (poll : Poll Time State Cause)
    (other : Poll Time Other Cause) : Prop where
  scheduler_eq : other.scheduler = poll.scheduler
  related : relation poll.state other.state
  outcome_eq : other.outcome = poll.outcome

theorem Poll.Lockstep.exists_eq {poll : Poll Time State Cause} {other : Poll Time Other Cause}
    (lockstep : poll.Lockstep relation other) :
    ∃ scheduler state otherState outcome, poll = ⟨scheduler, state, outcome⟩ ∧
      other = ⟨scheduler, otherState, outcome⟩ ∧ relation state otherState := by
  rcases poll with ⟨scheduler, state, outcome⟩
  rcases other with ⟨_, otherState, _⟩
  rcases lockstep with ⟨rfl, related, rfl⟩
  exact ⟨_, _, _, _, rfl, rfl, related⟩

namespace Scheduler

variable [ClockNumber Time] {action : Action State Cause} {other : Action Other Cause}
  {state : State} {otherState : Other}

theorem skip_lockstep (scheduler : Scheduler Time) (last now : Time)
    (related : relation state otherState) (fired : Nat) :
    (scheduler.skip last now state fired : Poll Time State Cause).Lockstep relation
      (scheduler.skip last now otherState fired) := by
  unfold skip
  split <;> exact ⟨rfl, related, rfl⟩

theorem runDue_lockstep (lockstep : action.Lockstep relation other) (now : Time) (limit : Nat)
    (scheduler : Scheduler Time) (last : Time) (related : relation state otherState) (fired : Nat) :
    (runDue action now limit scheduler last state fired).Lockstep relation
      (runDue other now limit scheduler last otherState fired) := by
  induction limit generalizing last state otherState fired with
  | zero => exact ⟨rfl, related, rfl⟩
  | succ limit ih =>
      unfold runDue
      split
      · split
        · exact skip_lockstep scheduler last now related fired
        · rcases lockstep.exists_run related with ⟨after, otherAfter, outcome, ran, otherRan, next⟩
          rw [ran, otherRan]
          rcases outcome with cause | _
          · exact ⟨rfl, next, rfl⟩
          · exact ih _ next _
      · exact ⟨rfl, related, rfl⟩

/-- Polls at the same timestamp keep schedules equal and states related, however they end. -/
theorem advance_lockstep (lockstep : action.Lockstep relation other) (scheduler : Scheduler Time)
    (now : Time) (related : relation state otherState) :
    (scheduler.advance now action state).Lockstep relation
      (scheduler.advance now other otherState) := by
  unfold advance
  split
  · rcases lockstep.exists_run related with ⟨after, otherAfter, outcome, ran, otherRan, next⟩
    rw [ran, otherRan]
    rcases outcome with cause | _ <;> exact ⟨rfl, next, rfl⟩
  · exact runDue_lockstep lockstep now _ scheduler _ related 0

end Scheduler

end Chip8
