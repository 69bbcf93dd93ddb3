import Chip8.Proofs.Clock.Lockstep
import Chip8.Proofs.Clock.Poll

/-!
# Counting the runs of an action

How often an action went well and whether it failed is a matter of the action alone. A tally counts
this where the action runs, without a look at what the schedule tells of it, so that what the schedule
tells can be compared with it.

Counting has no influence: the counted action runs in lockstep with the action itself, so a poll of
the one is a poll of the other.
-/

namespace Chip8

/-- A state, and what has become of the runs that led to it. -/
structure Tally (State : Type) where
  succeeded : Nat
  failed : Bool
  state : State

variable {State Cause : Type}

namespace Action

/-- The action, with its runs counted. -/
def tallied (action : Action State Cause) : Action (Tally State) Cause := fun tally =>
  match action tally.state with
  | (state, .ok ()) => (⟨tally.succeeded + 1, tally.failed, state⟩, .ok ())
  | (state, .error cause) => (⟨tally.succeeded, true, state⟩, .error cause)

theorem tallied_of_ok {action : Action State Cause} {tally : Tally State} {state : State}
    (ran : action tally.state = (state, .ok ())) :
    action.tallied tally = (⟨tally.succeeded + 1, tally.failed, state⟩, .ok ()) := by
  simp only [tallied, ran]

theorem tallied_of_error {action : Action State Cause} {tally : Tally State} {state : State}
    {cause : Cause} (refused : action tally.state = (state, .error cause)) :
    action.tallied tally = (⟨tally.succeeded, true, state⟩, .error cause) := by
  simp only [tallied, refused]

theorem eq_of_tallied_eq_ok {action : Action State Cause} {before after : Tally State}
    (ran : action.tallied before = (after, .ok ())) :
    after.succeeded = before.succeeded + 1 ∧ after.failed = before.failed := by
  rcases performed : action before.state with ⟨state, cause | _⟩
  · rw [tallied_of_error performed] at ran
    cases ran
  · rw [tallied_of_ok performed] at ran
    cases ran
    exact ⟨rfl, rfl⟩

theorem eq_of_tallied_eq_error {action : Action State Cause} {before after : Tally State}
    {cause : Cause} (refused : action.tallied before = (after, .error cause)) :
    after.succeeded = before.succeeded ∧ after.failed = true := by
  rcases performed : action before.state with ⟨state, other | _⟩
  · rw [tallied_of_error performed] at refused
    cases refused
    exact ⟨rfl, rfl⟩
  · rw [tallied_of_ok performed] at refused
    cases refused

/-- The counted action does to the state what the action itself does. -/
theorem tallied_lockstep (action : Action State Cause) :
    action.tallied.Lockstep (fun tally state => tally.state = state) action := by
  rintro tally _ rfl
  rcases ran : action tally.state with ⟨state, cause | _⟩
  · rw [tallied_of_error ran]
    exact ⟨rfl, rfl⟩
  · rw [tallied_of_ok ran]
    exact ⟨rfl, rfl⟩

/-- Runs that go well are counted one by one. -/
theorem Runs.tallied_eq {action : Action State Cause} {count : Nat} {before after : Tally State}
    (runs : action.tallied.Runs count before after) :
    after.succeeded = before.succeeded + count ∧ after.failed = before.failed := by
  induction runs with
  | zero tally => exact ⟨rfl, rfl⟩
  | succ ran rest ih =>
      rcases eq_of_tallied_eq_ok ran with ⟨succeeded, failed⟩
      rcases ih with ⟨more, same⟩
      exact ⟨by omega, same.trans failed⟩

end Action

variable {Time : Type}

/-- What a poll of the action itself is, given one of the counted action. -/
def Poll.untallied (poll : Poll Time (Tally State) Cause) : Poll Time State Cause :=
  ⟨poll.scheduler, poll.state.state, poll.outcome⟩

namespace Scheduler

variable [ClockNumber Time]

/-- Counting the runs of an action has no influence on a poll. -/
theorem advance_tallied (scheduler : Scheduler Time) (now : Time) (action : Action State Cause)
    (tally : Tally State) :
    (scheduler.advance now action.tallied tally).untallied =
      scheduler.advance now action tally.state := by
  rcases advance_lockstep action.tallied_lockstep scheduler now (rfl : tally.state = tally.state) with
    ⟨scheduler_eq, state_eq, outcome_eq⟩
  rw [Poll.untallied, ← scheduler_eq, state_eq, ← outcome_eq]

/-- A poll that ends well tells what is counted where the action runs. -/
theorem advance_tallied_of_ok {scheduler after : Scheduler Time} {now : Time}
    {action : Action State Cause} {state reached : State} {count : Nat}
    (polled : scheduler.advance now action state = ⟨after, reached, .ok count⟩) :
    scheduler.advance now action.tallied ⟨0, false, state⟩ =
      ⟨after, ⟨count, false, reached⟩, .ok count⟩ := by
  have untallied := advance_tallied scheduler now action ⟨0, false, state⟩
  rcases tallied : scheduler.advance now action.tallied ⟨0, false, state⟩ with
    ⟨same, ⟨succeeded, failed, last⟩, outcome⟩
  rw [tallied, polled, Poll.untallied] at untallied
  cases untallied
  have done : (scheduler.advance now action.tallied ⟨0, false, state⟩).outcome = .ok count := by
    rw [tallied]
  have runs := runs_of_advance done
  rw [tallied] at runs
  rcases runs.tallied_eq with ⟨counted, unfailed⟩
  simp only [Nat.zero_add] at counted unfailed
  simp only [counted, unfailed]

end Scheduler

end Chip8
