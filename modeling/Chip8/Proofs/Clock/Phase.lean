import Chip8.Proofs.Clock.Tally
import Mathlib.Algebra.Order.Floor.Ring
import Mathlib.Data.Rat.Floor
import Mathlib.Tactic.Linarith

/-!
# The phase of a schedule

Where time is kept in rational numbers a schedule keeps its phase: the timestamp of the last run is
that of the first one and so many whole periods as were run or skipped since. No period is lost and
none is counted twice, in whatever order the timestamps of the polls come and whichever runs fail.

A poll moves the last timestamp by the periods it runs and those it skips, and never past the larger
of what it was and the present. From this follows what a history of polls and resets keeps.
-/

namespace Chip8

variable {State Cause : Type}

namespace Scheduler

/-- What a poll of a scheduler that has run before does in rational time: `fired` runs go well, and
`skipped` periods are skipped. -/
structure Moves (scheduler : Scheduler Rat) (last now : Rat) (tally : Tally State) (fired : Nat)
    (skipped : Int) (poll : Poll Rat (Tally State) Cause) : Prop where
  /-- The last timestamp moves by the periods run and skipped, and the skipped ones are counted. -/
  scheduler_eq : poll.scheduler = { scheduler with
    last := some (last + (fired + skipped) * scheduler.period)
    dropped := scheduler.dropped + skipped }
  skipped_nonneg : 0 ≤ skipped
  uncapped : scheduler.cap = none → skipped = 0
  moved_le : last + (fired + skipped) * scheduler.period ≤ max last now
  succeeded : poll.state.succeeded = tally.succeeded + fired
  ends : (∃ count, poll.outcome = .ok count) ∧ poll.state.failed = tally.failed ∧
      now - (last + (fired + skipped) * scheduler.period) < scheduler.period ∨
    (∃ cause, poll.outcome = .error (.action cause)) ∧ poll.state.failed = true

variable {scheduler : Scheduler Rat} {action : Action State Cause} {now : Rat}

/-- A poll does not move the last timestamp back. -/
theorem Moves.forth {last : Rat} {tally : Tally State} {fired : Nat} {skipped : Int}
    {poll : Poll Rat (Tally State) Cause} (positive : 0 < scheduler.period)
    (moves : scheduler.Moves last now tally fired skipped poll) :
    0 ≤ (fired + skipped) * scheduler.period := by
  have skips : (0 : Rat) ≤ skipped := by exact_mod_cast moves.skipped_nonneg
  positivity

/-- The rounds of a poll move the last timestamp by a period each. -/
theorem Rounds.last_eq {start finish : Midway Rat State}
    (rounds : scheduler.Rounds action now start finish) (fresh : start.fired = 0) :
    finish.last = start.last + finish.fired * scheduler.period ∧
      action.Runs finish.fired start.state finish.state := by
  rcases rounds.exists_runs with ⟨count, fired, last, runs⟩
  have total : finish.fired = count := by omega
  have iterated : finish.last = (· + scheduler.period)^[count] start.last := last
  rw [add_right_iterate, nsmul_eq_mul] at iterated
  subst total
  exact ⟨iterated, runs⟩

/-- The rounds of a poll do not move the last timestamp past the present. -/
theorem Rounds.last_le {start finish : Midway Rat State}
    (rounds : scheduler.Rounds action now start finish) : finish.last ≤ max start.last now := by
  induction rounds with
  | nil midway => exact le_max_left _ _
  | @cons start finish state pending ran rest ih =>
      have due : scheduler.period ≤ now - start.last := of_decide_eq_true pending.due
      have moved : start.last + scheduler.period ≤ now := by linarith
      have inTime : start.last + scheduler.period ≤ max start.last now :=
        moved.trans (le_max_right _ _)
      exact ih.trans (max_le inTime (le_max_right _ _))

/-- As many periods as the budget bounds do not fit between the timestamps. -/
theorem Rounds.fired_ne_budget {start finish : Midway Rat State}
    (rounds : scheduler.Rounds action now start finish) (fresh : start.fired = 0)
    (positive : 0 < scheduler.period) :
    finish.fired ≠ ClockNumber.budget scheduler.period start.last now := by
  intro exhausted
  have fired : finish.fired = ((now - start.last) / scheduler.period).floor.toNat + 1 := exhausted
  have moved := (rounds.last_eq fresh).1
  have bound := rounds.last_le
  have past : (now - start.last) / scheduler.period < (finish.fired : Rat) := by
    have whole : ((now - start.last) / scheduler.period).floor + 1 ≤ (finish.fired : Int) := by
      omega
    exact (Int.lt_floor_add_one _).trans_le (by exact_mod_cast whole)
  rw [div_lt_iff₀ positive] at past
  have once : (1 : Rat) ≤ finish.fired := by
    exact_mod_cast (show 1 ≤ finish.fired by omega)
  have ahead : scheduler.period ≤ finish.fired * scheduler.period :=
    le_mul_of_one_le_left positive.le once
  rcases le_max_iff.mp bound with early | late
  · linarith
  · linarith

theorem catchUp_of_due {last : Rat} (positive : 0 < scheduler.period)
    (due : scheduler.period ≤ now - last) :
    catchUp scheduler.period last now =
      .ok (⌊(now - last) / scheduler.period⌋,
        last + ⌊(now - last) / scheduler.period⌋ * scheduler.period) := by
  have early : ClockNumber.lt (now - last) scheduler.period = false :=
    decide_eq_false (not_lt.mpr due)
  have counted : ClockNumber.wholePeriods (now - last) scheduler.period =
      .ok ⌊(now - last) / scheduler.period⌋ := if_neg positive.ne'
  simp only [catchUp, early, counted]
  rfl

/-- Skipping moves the last timestamp by all whole periods up to the present. -/
theorem skip_eq {Result : Type} {last : Rat} {state : Result} {fired : Nat}
    (positive : 0 < scheduler.period) (due : scheduler.period ≤ now - last) :
    (scheduler.skip last now state fired : Poll Rat Result Cause) =
      ⟨{ scheduler with
          last := some (last + ⌊(now - last) / scheduler.period⌋ * scheduler.period)
          dropped := scheduler.dropped + ⌊(now - last) / scheduler.period⌋ }, state, .ok fired⟩ := by
  simp only [skip, catchUp_of_due positive due]

/-- What a poll does in rational time. The budget of rounds suffices, and the periods beyond the cap
can be counted, so only the action can fail. -/
theorem exists_moves {last : Rat} (positive : 0 < scheduler.period)
    (started : scheduler.last = some last) (now : Rat) (action : Action State Cause)
    (tally : Tally State) : ∃ fired skipped,
      scheduler.Moves last now tally fired skipped (scheduler.advance now action.tallied tally) := by
  rcases advance_ends started now action.tallied tally with ⟨finish, rounds, ends⟩
  rcases rounds.last_eq rfl with ⟨moved, runs⟩
  rcases runs.tallied_eq with ⟨succeeded, failed⟩
  have bound := rounds.last_le
  have exhausts := rounds.fired_ne_budget rfl positive
  simp only at moved bound exhausts
  generalize scheduler.advance now action.tallied tally = poll at ends ⊢
  have unskipped : last + (finish.fired + (0 : Int)) * scheduler.period = finish.last := by
    rw [moved, Int.cast_zero, add_zero]
  cases ends with
  | settled early =>
      have settled : now - finish.last < scheduler.period := not_le.mp (of_decide_eq_false early)
      refine ⟨finish.fired, 0, ?_⟩
      exact {
        scheduler_eq := by rw [unskipped, add_zero]
        skipped_nonneg := le_rfl
        uncapped := fun _ => rfl
        moved_le := by rwa [unskipped]
        succeeded
        ends := .inl ⟨⟨_, rfl⟩, failed, by rwa [unskipped]⟩ }
  | skipped due full =>
      have due : scheduler.period ≤ now - finish.last := of_decide_eq_true due
      have rest := Int.sub_floor_div_mul_nonneg (now - finish.last) positive
      have small := Int.sub_floor_div_mul_lt (now - finish.last) positive
      rw [skip_eq positive due]
      generalize counted : ⌊(now - finish.last) / scheduler.period⌋ = skipped at rest small ⊢
      have further : last + (finish.fired + skipped) * scheduler.period =
          finish.last + skipped * scheduler.period := by
        rw [moved]
        ring
      refine ⟨finish.fired, skipped, ?_⟩
      exact {
        scheduler_eq := by rw [further]
        skipped_nonneg := by
          rw [← counted]
          exact Int.floor_nonneg.mpr (div_nonneg (positive.le.trans due) positive.le)
        uncapped := by
          intro uncapped
          simp only [capReached, uncapped, Bool.false_eq_true] at full
        moved_le := by
          rw [further]
          exact le_max_of_le_right (by linarith)
        succeeded
        ends := .inl ⟨⟨_, rfl⟩, failed, by rw [further]; linarith⟩ }
  | @failed state cause pending refused =>
      rcases Action.eq_of_tallied_eq_error refused with ⟨unchanged, noted⟩
      refine ⟨finish.fired, 0, ?_⟩
      exact {
        scheduler_eq := by rw [unskipped, add_zero]
        skipped_nonneg := le_rfl
        uncapped := fun _ => rfl
        moved_le := by rwa [unskipped]
        succeeded := unchanged.trans succeeded
        ends := .inr ⟨⟨cause, rfl⟩, noted⟩ }
  | endless exhausted => exact absurd exhausted exhausts

end Scheduler

end Chip8
