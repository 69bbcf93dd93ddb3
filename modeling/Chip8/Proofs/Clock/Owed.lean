import Chip8.Proofs.Clock.Exact

/-!
# What a poll owes

A poll owes one run if the schedule begins anew, and otherwise a run for every whole period since the
last one. A poll that ends well skips what it owes and does not run. A poll that fails does so while it
still owes a run, and skips nothing.
-/

namespace Chip8.Scheduler

variable {State Cause : Type} {scheduler : Scheduler Rat} {action : Action State Cause} {now : Rat}
  {state : State}

/-- How often a schedule is to run by a timestamp: once if it has not run yet, and otherwise for every
whole period since the last run. -/
def owed (scheduler : Scheduler Rat) (now : Rat) : Nat :=
  scheduler.last.elim 1 (scheduler.due · now)

/-- A poll that ends well skips what is owed and not run. -/
theorem dropped_advance_of_ok (positive : 0 < scheduler.period) {count : Nat}
    (done : (scheduler.advance now action state).outcome = .ok count) :
    count ≤ scheduler.owed now ∧
      (scheduler.advance now action state).scheduler.dropped =
        scheduler.dropped + (scheduler.owed now - count : Nat) := by
  cases started : scheduler.last with
  | none =>
      rcases advance_first_of_ok started done with ⟨rfl, begun⟩
      rw [begun, owed, started]
      simp
  | some last =>
      rcases advance_of_ok positive started done with ⟨allowed, moved⟩
      have inTime : count ≤ scheduler.due last now := by
        rw [allowed, Scheduler.allowed]
        split <;> omega
      rw [moved, owed, started]
      exact ⟨inTime, by simp only [Option.elim_some]; omega⟩

/-- A poll that fails does so for a failure of the action, in a run that is still owed, and skips
nothing. -/
theorem advance_of_error (positive : 0 < scheduler.period) {fault : PollFault Cause}
    (failed : (scheduler.advance now action state).outcome = .error fault) :
    ∃ count cause reached, fault = .action cause ∧ count < scheduler.owed now ∧
      action.Runs count state reached ∧
      action reached = ((scheduler.advance now action state).state, .error cause) ∧
      (scheduler.advance now action state).scheduler.dropped = scheduler.dropped := by
  cases started : scheduler.last with
  | none =>
      have owes : 0 < scheduler.owed now := by
        rw [owed, started]
        exact Nat.one_pos
      rcases ran : action state with ⟨after, cause | _⟩
      · rw [advance_first_failed started now ran] at failed ⊢
        cases failed
        exact ⟨0, cause, state, rfl, owes, .zero state, ran, rfl⟩
      · rw [advance_first started now ran] at failed
        cases failed
  | some last =>
      rcases advance_ends started now action state with ⟨finish, rounds, ends⟩
      have inTime := rounds.fired_ne_budget rfl positive
      generalize scheduler.advance now action state = poll at ends failed ⊢
      cases ends with
      | settled early => cases failed
      | skipped due full =>
          rw [skip_eq positive (of_decide_eq_true due)] at failed
          cases failed
      | failed pending refused =>
          cases failed
          rcases rounds.exists_runs with ⟨fired, total, _, runs⟩
          rcases rounds.last_eq rfl with ⟨moved, -⟩
          simp only [Nat.zero_add] at total moved
          subst total
          have pending : scheduler.period ≤ now - finish.last := of_decide_eq_true pending.due
          have all := lt_due_add_one_mul positive last now
          have more : (finish.fired + 1 : Rat) * scheduler.period <
              (scheduler.due last now + 1) * scheduler.period := by
            linarith
          have fewer := lt_of_mul_lt_mul_right more positive.le
          have owes : finish.fired < scheduler.owed now := by
            rw [owed, started]
            exact_mod_cast lt_of_add_lt_add_right fewer
          exact ⟨_, _, _, rfl, owes, runs, refused, rfl⟩
      | endless exhausted => exact absurd exhausted inTime

end Chip8.Scheduler
