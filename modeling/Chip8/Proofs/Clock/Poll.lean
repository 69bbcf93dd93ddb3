import Chip8.Clock.Scheduler
import Mathlib.Logic.Function.Iterate

/-!
# What a poll does

A poll is a number of rounds and an end. In a round the action is due, there is room for it under the
cap and it goes well; the last timestamp moves on by one period. The end comes when nothing is due any
more, when the cap is reached and the rest is skipped, or when the action fails.

This holds whatever numbers the clock keeps, so also where sums and differences are rounded. What a
schedule does over many polls starts from it.
-/

namespace Chip8

/-- So many successful runs of an action lead from one state to another. -/
inductive Action.Runs {State Cause : Type} (action : Action State Cause) : Nat → State → State → Prop where
  | zero (state : State) : Runs action 0 state state
  | succ {count : Nat} {first next last : State} (ran : action first = (next, .ok ()))
    (rest : Runs action count next last) : Runs action (count + 1) first last

namespace Scheduler

/-- What a poll has come to between two rounds. -/
structure Midway (Time State : Type) where
  fired : Nat
  last : Time
  state : State

variable {Time State Cause : Type} [ClockNumber Time]

/-- The action is due and there is room for it under the cap. -/
structure Pending (scheduler : Scheduler Time) (now : Time) (midway : Midway Time State) : Prop where
  due : ClockNumber.le scheduler.period (now - midway.last) = true
  room : scheduler.capReached midway.fired = false

/-- What the rounds of a poll lead from and to. -/
inductive Rounds (scheduler : Scheduler Time) (action : Action State Cause) (now : Time) :
    Midway Time State → Midway Time State → Prop where
  | nil (midway : Midway Time State) : Rounds scheduler action now midway midway
  | cons {start finish : Midway Time State} {state : State} (pending : scheduler.Pending now start)
    (ran : action start.state = (state, .ok ()))
    (rest : Rounds scheduler action now
      ⟨start.fired + 1, start.last + scheduler.period, state⟩ finish) :
    Rounds scheduler action now start finish

/-- How a poll ends after its rounds, of which there can be no more than `limit`. -/
inductive Ends (scheduler : Scheduler Time) (action : Action State Cause) (now : Time) (limit : Nat)
    (finish : Midway Time State) : Poll Time State Cause → Prop where
  | settled (early : ClockNumber.le scheduler.period (now - finish.last) = false) :
    Ends scheduler action now limit finish
      ⟨{ scheduler with last := some finish.last }, finish.state, .ok finish.fired⟩
  | skipped (due : ClockNumber.le scheduler.period (now - finish.last) = true)
    (full : scheduler.capReached finish.fired = true) :
    Ends scheduler action now limit finish
      (scheduler.skip finish.last now finish.state finish.fired)
  | failed {state : State} {cause : Cause} (pending : scheduler.Pending now finish)
    (refused : action finish.state = (state, .error cause)) :
    Ends scheduler action now limit finish
      ⟨{ scheduler with last := some finish.last }, state, .error (.action cause)⟩
  | endless (exhausted : finish.fired = limit) :
    Ends scheduler action now limit finish
      ⟨{ scheduler with last := some finish.last }, finish.state, .error .endless⟩

/-- The loop of a poll is rounds and an end. -/
theorem runDue_ends (scheduler : Scheduler Time) (action : Action State Cause) (now : Time)
    (limit : Nat) (start : Midway Time State) :
    ∃ finish, scheduler.Rounds action now start finish ∧
      scheduler.Ends action now (start.fired + limit) finish
        (runDue action now limit scheduler start.last start.state start.fired) := by
  induction limit generalizing start with
  | zero => exact ⟨start, .nil start, .endless rfl⟩
  | succ limit ih =>
      unfold runDue
      split
      next due =>
        split
        next full => exact ⟨start, .nil start, .skipped due full⟩
        next room =>
          have pending : scheduler.Pending now start := ⟨due, Bool.eq_false_iff.mpr room⟩
          split
          next state cause refused => exact ⟨start, .nil start, .failed pending refused⟩
          next state ran =>
            rcases ih ⟨start.fired + 1, start.last + scheduler.period, state⟩ with
              ⟨finish, rounds, ends⟩
            refine ⟨finish, .cons pending ran rounds, ?_⟩
            rw [show start.fired + (limit + 1) = start.fired + 1 + limit by omega]
            exact ends
      next early => exact ⟨start, .nil start, .settled (Bool.eq_false_iff.mpr early)⟩

/-- A poll of a scheduler that has run before is rounds and an end. -/
theorem advance_ends {scheduler : Scheduler Time} {last : Time} (started : scheduler.last = some last)
    (now : Time) (action : Action State Cause) (state : State) :
    ∃ finish, scheduler.Rounds action now ⟨0, last, state⟩ finish ∧
      scheduler.Ends action now (ClockNumber.budget scheduler.period last now) finish
        (scheduler.advance now action state) := by
  have ends := runDue_ends scheduler action now (ClockNumber.budget scheduler.period last now)
    ⟨0, last, state⟩
  simpa only [advance, started, Nat.zero_add] using ends

theorem advance_first {scheduler : Scheduler Time} (unset : scheduler.last = none) (now : Time)
    {action : Action State Cause} {state after : State} (ran : action state = (after, .ok ())) :
    scheduler.advance now action state = ⟨{ scheduler with last := some now }, after, .ok 1⟩ := by
  simp only [advance, unset, ran]

theorem advance_first_failed {scheduler : Scheduler Time} (unset : scheduler.last = none) (now : Time)
    {action : Action State Cause} {state after : State} {cause : Cause}
    (refused : action state = (after, .error cause)) :
    scheduler.advance now action state = ⟨scheduler, after, .error (.action cause)⟩ := by
  simp only [advance, unset, refused]

namespace Rounds

variable {scheduler : Scheduler Time} {action : Action State Cause} {now : Time}
  {start finish : Midway Time State}

/-- A property that the action keeps holds after the rounds as well. -/
theorem keeps {property : State → Prop}
    (kept : ∀ state, property state → property (action state).1)
    (rounds : scheduler.Rounds action now start finish) (holds : property start.state) :
    property finish.state := by
  induction rounds with
  | nil midway => exact holds
  | cons pending ran rest ih =>
      apply ih
      have next := kept _ holds
      rwa [ran] at next

/-- The rounds of a poll are runs of the action, and each has moved the last timestamp on by one
period. -/
theorem exists_runs (rounds : scheduler.Rounds action now start finish) :
    ∃ count, finish.fired = start.fired + count ∧
      finish.last = (· + scheduler.period)^[count] start.last ∧
      action.Runs count start.state finish.state := by
  induction rounds with
  | nil midway => exact ⟨0, rfl, rfl, .zero _⟩
  | cons pending ran rest ih =>
      rcases ih with ⟨count, fired, last, runs⟩
      exact ⟨count + 1, by simp only at fired; omega, last, .succ ran runs⟩

end Rounds

variable {scheduler : Scheduler Time} {action : Action State Cause} {now : Time}

@[simp]
theorem state_skip (scheduler : Scheduler Time) (last now : Time) (state : State) (fired : Nat) :
    (scheduler.skip last now state fired : Poll Time State Cause).state = state := by
  unfold skip
  split <;> rfl

theorem last_skip_ne_none (scheduler : Scheduler Time) (last now : Time) (state : State)
    (fired : Nat) :
    (scheduler.skip last now state fired : Poll Time State Cause).scheduler.last ≠ none := by
  unfold skip
  split <;> simp

theorem eq_of_outcome_skip {last : Time} {state : State} {fired count : Nat}
    (done : (scheduler.skip last now state fired : Poll Time State Cause).outcome = .ok count) :
    count = fired := by
  unfold skip at done
  split at done <;> cases done
  rfl

theorem outcome_skip_ne_action {last : Time} {state : State} {fired : Nat} {cause : Cause} :
    (scheduler.skip last now state fired : Poll Time State Cause).outcome ≠
      .error (.action cause) := by
  unfold skip
  split <;> simp

/-- A poll that ends well has run the action as often as it tells. -/
theorem runs_of_advance {state : State} {count : Nat}
    (done : (scheduler.advance now action state).outcome = .ok count) :
    action.Runs count state (scheduler.advance now action state).state := by
  cases started : scheduler.last with
  | none =>
      rcases ran : action state with ⟨after, cause | _⟩
      · rw [advance_first_failed started now ran] at done
        cases done
      · rw [advance_first started now ran] at done ⊢
        cases done
        exact .succ ran (.zero after)
  | some last =>
      rcases advance_ends started now action state with ⟨finish, rounds, ends⟩
      rcases rounds.exists_runs with ⟨fired, total, _, runs⟩
      simp only [Nat.zero_add] at total
      generalize scheduler.advance now action state = poll at ends done ⊢
      cases ends with
      | settled early =>
          cases done
          rwa [total]
      | skipped due full =>
          rw [eq_of_outcome_skip done, state_skip]
          rwa [total]
      | failed pending refused => cases done
      | endless exhausted => cases done

/-- A poll that ends with a failure of the action has run it before as often as the last timestamp
has moved on, and nothing else about the scheduler has changed. -/
theorem runs_of_advance_failed {state : State} {cause : Cause}
    (failed : (scheduler.advance now action state).outcome = .error (.action cause)) :
    ∃ count reached after, action.Runs count state reached ∧
      action reached = (after, .error cause) ∧ (scheduler.last = none → count = 0) ∧
      scheduler.advance now action state =
        ⟨{ scheduler with last := scheduler.last.map (· + scheduler.period)^[count] }, after,
          .error (.action cause)⟩ := by
  cases started : scheduler.last with
  | none =>
      rcases ran : action state with ⟨after, other | _⟩
      · rw [advance_first_failed started now ran] at failed ⊢
        cases failed
        refine ⟨0, state, after, .zero state, ran, fun _ => rfl, ?_⟩
        rcases scheduler
        cases started
        rfl
      · rw [advance_first started now ran] at failed
        cases failed
  | some last =>
      rcases advance_ends started now action state with ⟨finish, rounds, ends⟩
      rcases rounds.exists_runs with ⟨count, _, moved, runs⟩
      generalize scheduler.advance now action state = poll at ends failed ⊢
      cases ends with
      | settled early => cases failed
      | skipped due full => exact absurd failed outcome_skip_ne_action
      | @failed after _ pending refused =>
          cases failed
          refine ⟨count, finish.state, after, runs, refused, by simp, ?_⟩
          rw [moved]
          rfl
      | endless exhausted => cases failed

/-- A property that the action keeps is kept by every poll, however it ends. -/
theorem advance_keeps {property : State → Prop}
    (kept : ∀ state, property state → property (action state).1) {state : State}
    (holds : property state) : property (scheduler.advance now action state).state := by
  cases started : scheduler.last with
  | none =>
      have next := kept state holds
      rcases ran : action state with ⟨after, cause | _⟩
      · rw [advance_first_failed started now ran]
        rwa [ran] at next
      · rw [advance_first started now ran]
        rwa [ran] at next
  | some last =>
      rcases advance_ends started now action state with ⟨finish, rounds, ends⟩
      have reached := rounds.keeps kept holds
      generalize scheduler.advance now action state = poll at ends ⊢
      cases ends with
      | skipped due full => simpa using reached
      | failed pending refused =>
          have next := kept _ reached
          rwa [refused] at next
      | _ => exact reached

/-- A poll leaves the phase unset exactly if it is the first one and fails. -/
theorem last_advance_eq_none_iff {state : State} :
    (scheduler.advance now action state).scheduler.last = none ↔
      scheduler.last = none ∧ ∃ fault, (scheduler.advance now action state).outcome = .error fault := by
  cases started : scheduler.last with
  | none =>
      rcases ran : action state with ⟨after, cause | _⟩
      · rw [advance_first_failed started now ran]
        simp [started]
      · rw [advance_first started now ran]
        simp
  | some last =>
      rcases advance_ends started now action state with ⟨finish, rounds, ends⟩
      generalize scheduler.advance now action state = poll at ends ⊢
      cases ends with
      | skipped due full => simp [last_skip_ne_none]
      | _ => simp

end Scheduler

end Chip8
