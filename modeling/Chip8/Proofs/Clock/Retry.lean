import Chip8.Proofs.Clock.Phase
import Mathlib.Data.Nat.SuccPred

/-!
# Polls that are interrupted

A failure of the action ends a poll, but nothing that the poll has done is lost: what was run stays run, and
the period whose run failed is still due. A host that polls again at the same timestamp until the poll ends
well has the action run as often as one poll of an action that never fails, and leaves the same schedule.

No arithmetic is behind this. The timestamps that the polls go through are the same ones, made by the same
additions and compared in the same way, so it holds for doubles as well as for rational numbers. Only the
budget of rounds has to allow it: a round that was run may take one round off the budget and no more.
-/

namespace Chip8

/-- A period that is due takes at most one round off the budget. -/
class ClockNumber.LawfulBudget (Time : Type) [ClockNumber Time] : Prop where
  budget_le {period last now : Time} (due : ClockNumber.le period (now - last) = true) :
    ClockNumber.budget period last now ≤ ClockNumber.budget period (last + period) now + 1

instance : ClockNumber.LawfulBudget Float where
  budget_le _ := Nat.le_succ _

instance : ClockNumber.LawfulBudget Rat where
  budget_le {period last now} _ := by
    have moved : ⌊(now - last) / period⌋ ≤ ⌊(now - (last + period)) / period⌋ + 1 := by
      have whole : period / period ≤ 1 := div_self_le_one period
      rw [← Int.floor_add_one, ← sub_sub, sub_div (now - last)]
      apply Int.floor_le_floor
      linarith
    change (⌊(now - last) / period⌋).toNat + 1 ≤ (⌊(now - (last + period)) / period⌋).toNat + 1 + 1
    omega

variable {Time State Other Cause Refusal : Type}

namespace Action

/-- The state after so many runs of an action, whether they go well or fail. -/
def after (action : Action State Cause) (runs : Nat) (state : State) : State :=
  (fun state => (action state).1)^[runs] state

/-- After so many runs of an action all further ones go well. -/
def GoesWellFrom (action : Action State Cause) (runs : Nat) (state : State) : Prop :=
  ∀ later, runs ≤ later → (action (action.after later state)).2 = .ok ()

/-- Only finitely many runs of an action fail. -/
def FailsFinitely (action : Action State Cause) (state : State) : Prop :=
  ∃ runs, action.GoesWellFrom runs state

variable {action : Action State Cause}

theorem after_succ (runs : Nat) (state : State) :
    action.after (runs + 1) state = action.after runs (action state).1 := rfl

theorem after_add (runs more : Nat) (state : State) :
    action.after (runs + more) state = action.after runs (action.after more state) :=
  Function.iterate_add_apply _ runs more state

/-- Runs that go well lead to the state after them. -/
theorem Runs.after_eq {count : Nat} {first last : State} (runs : action.Runs count first last) :
    action.after count first = last := by
  induction runs with
  | zero state => rfl
  | succ ran rest ih => rw [after_succ, ran, ih]

/-- Counting the runs has no influence on the states that they lead to. -/
theorem state_after_tallied (action : Action State Cause) (runs : Nat) (tally : Tally State) :
    (action.tallied.after runs tally).state = action.after runs tally.state := by
  induction runs generalizing tally with
  | zero => rfl
  | succ runs ih =>
      rw [after_succ, after_succ, ih]
      exact congrArg (action.after runs) (action.tallied_lockstep tally tally.state rfl).1

theorem failsFinitely_tallied {tally : Tally State} (finitely : action.FailsFinitely tally.state) :
    action.tallied.FailsFinitely tally := by
  rcases finitely with ⟨runs, well⟩
  refine ⟨runs, ?_⟩
  intro later further
  have same := (action.tallied_lockstep _ _ (action.state_after_tallied later tally)).2
  rw [← same]
  exact well later further

theorem GoesWellFrom.after {runs : Nat} {state : State} (well : action.GoesWellFrom runs state)
    (made : Nat) : action.GoesWellFrom (runs - made) (action.after made state) := by
  intro later further
  rw [← after_add]
  exact well _ (by omega)

end Action

namespace Scheduler

variable [ClockNumber Time]

/-- Polls at one timestamp, one after the other as long as the action fails, come to a poll that ends
well. -/
inductive Retried (action : Action State Cause) (now : Time) :
    Scheduler Time → State → Poll Time State Cause → Prop where
  | done {scheduler : Scheduler Time} {state : State} {count : Nat}
    (well : (scheduler.advance now action state).outcome = .ok count) :
    Retried action now scheduler state (scheduler.advance now action state)
  | again {scheduler : Scheduler Time} {state : State} {cause : Cause} {poll : Poll Time State Cause}
    (failed : (scheduler.advance now action state).outcome = .error (.action cause))
    (rest : Retried action now (scheduler.advance now action state).scheduler
      (scheduler.advance now action state).state poll) :
    Retried action now scheduler state poll

/-- A schedule owes so many runs at a timestamp, and they lead to a last timestamp. -/
inductive Owes (scheduler : Scheduler Time) (now : Time) : Nat → Time → Prop where
  | first (unset : scheduler.last = none) : Owes scheduler now 1 now
  /-- After that a run is owed for each period that has passed. -/
  | later {last : Time} {count : Nat} (started : scheduler.last = some last)
    (due : ∀ run < count,
      ClockNumber.le scheduler.period (now - (· + scheduler.period)^[run] last) = true)
    (settled : ClockNumber.le scheduler.period (now - (· + scheduler.period)^[count] last) = false)
    (inBudget : count < ClockNumber.budget scheduler.period last now) :
    Owes scheduler now count ((· + scheduler.period)^[count] last)

/-- What has become of a poll that owed `count` runs. -/
inductive Attempted (scheduler : Scheduler Time) (action : Action State Cause) (now moved : Time)
    (tally : Tally State) (count : Nat) : Poll Time (Tally State) Cause → Prop where
  | paid {runs : Nat} {state : Tally State} (succeeded : state.succeeded = tally.succeeded + count) :
    Attempted scheduler action now moved tally count
      ⟨{ scheduler with last := some moved }, state, .ok runs⟩
  /-- A run failed, and this one and those after it are still owed. -/
  | interrupted {fired : Nat} {last : Option Time} {cause : Cause} {state : Tally State}
    (rest : { scheduler with last }.Owes now (count - fired) moved) (fired_le : fired ≤ count)
    (succeeded : state.succeeded = tally.succeeded + fired)
    (state_eq : state = action.tallied.after (fired + 1) tally)
    (refused : (action.tallied (action.tallied.after fired tally)).2 = .error cause) :
    Attempted scheduler action now moved tally count
      ⟨{ scheduler with last }, state, .error (.action cause)⟩

variable {scheduler : Scheduler Time} {action : Action State Cause} {now moved : Time}

/-- Each round of a poll was due. -/
theorem Rounds.due_iterate {start finish : Midway Time State}
    (rounds : scheduler.Rounds action now start finish) {run : Nat} (inside : start.fired + run < finish.fired) :
    ClockNumber.le scheduler.period (now - (· + scheduler.period)^[run] start.last) = true := by
  induction rounds generalizing run with
  | nil midway => omega
  | cons pending ran rest ih =>
      rcases run with _ | run
      · exact pending.due
      · apply ih
        simp only
        omega

theorem budget_le_iterate [ClockNumber.LawfulBudget Time] {period last : Time} {runs : Nat}
    (due : ∀ run < runs, ClockNumber.le period (now - (· + period)^[run] last) = true) :
    ClockNumber.budget period last now ≤ ClockNumber.budget period ((· + period)^[runs] last) now + runs := by
  induction runs with
  | zero => exact le_rfl
  | succ runs ih =>
      have before := ih fun run inside => due run (Nat.lt_succ_of_lt inside)
      have step := ClockNumber.LawfulBudget.budget_le (due runs (Nat.lt_succ_self runs))
      rw [Function.iterate_succ_apply']
      omega

/-- Runs that were made are owed no more. -/
theorem owes_rest [ClockNumber.LawfulBudget Time] {last : Time} {count fired : Nat}
    (due : ∀ run < count,
      ClockNumber.le scheduler.period (now - (· + scheduler.period)^[run] last) = true)
    (settled : ClockNumber.le scheduler.period (now - (· + scheduler.period)^[count] last) = false)
    (inBudget : count < ClockNumber.budget scheduler.period last now) (fired_le : fired ≤ count) :
    { scheduler with last := some ((· + scheduler.period)^[fired] last) }.Owes now (count - fired)
      ((· + scheduler.period)^[count] last) := by
  rcases Nat.exists_eq_add_of_le fired_le with ⟨rest, rfl⟩
  have split (run : Nat) : (· + scheduler.period)^[fired + run] last =
      (· + scheduler.period)^[run] ((· + scheduler.period)^[fired] last) := by
    rw [Nat.add_comm, Function.iterate_add_apply]
  have spent := budget_le_iterate fun run (inside : run < fired) => due run (by omega)
  rw [Nat.add_sub_cancel_left, split]
  refine .later rfl ?_ ?_ ?_
  · intro run inside
    rw [← split]
    exact due _ (by omega)
  · rwa [← split]
  · simp only
    omega

/-- A run that fails after others that went well leaves what they have not paid. -/
theorem attempted_of_refused {count fired : Nat} {last : Option Time} {tally between state : Tally State}
    {cause : Cause} (rest : { scheduler with last }.Owes now (count - fired) moved) (fired_le : fired ≤ count)
    (runs : action.tallied.Runs fired tally between)
    (refused : action.tallied between = (state, .error cause)) :
    scheduler.Attempted action now moved tally count
      ⟨{ scheduler with last }, state, .error (.action cause)⟩ := by
  have before := runs.after_eq
  refine .interrupted rest fired_le ?_ ?_ ?_
  · rw [(Action.eq_of_tallied_eq_error refused).1, runs.tallied_eq.1]
  · rw [Nat.add_comm, Action.after_add, before, Action.after, Function.iterate_one, refused]
  · rw [before, refused]

/-- A poll makes all the runs that are owed, or those before the first one that fails. -/
theorem Owes.attempted [ClockNumber.LawfulBudget Time] {count : Nat} (owes : scheduler.Owes now count moved)
    (uncapped : scheduler.cap = none) (action : Action State Cause) (tally : Tally State) :
    scheduler.Attempted action now moved tally count (scheduler.advance now action.tallied tally) := by
  cases owes with
  | first unset =>
      rcases ran : action.tallied tally with ⟨after, cause | _⟩
      · rw [advance_first_failed unset now ran]
        rcases scheduler with ⟨period, cap, last, dropped⟩
        cases unset
        exact attempted_of_refused (.first rfl) (Nat.zero_le 1) (.zero tally) ran
      · rw [advance_first unset now ran]
        exact .paid (Action.eq_of_tallied_eq_ok ran).1
  | @later last _ started due settled inBudget =>
      rcases advance_ends started now action.tallied tally with ⟨finish, rounds, ends⟩
      rcases rounds.exists_runs with ⟨fired, total, reached, runs⟩
      have gone (run : Nat) (inside : run < fired) :
          ClockNumber.le scheduler.period (now - (· + scheduler.period)^[run] last) = true :=
        rounds.due_iterate (by simpa [total] using inside)
      have succeeded := runs.tallied_eq.1
      simp only [Nat.zero_add] at total reached succeeded
      have fired_le : fired ≤ count := by
        by_contra further
        rw [gone count (Nat.lt_of_not_le further)] at settled
        cases settled
      generalize scheduler.advance now action.tallied tally = poll at ends ⊢
      cases ends with
      | settled early =>
          have all : fired = count := by
            by_contra other
            rw [reached, due fired (Nat.lt_of_le_of_ne fired_le other)] at early
            cases early
          rw [reached, all]
          exact .paid (by rw [succeeded, all])
      | skipped _ full =>
          rw [capReached, uncapped] at full
          cases full
      | @failed state cause pending refused =>
          rw [reached]
          exact attempted_of_refused (owes_rest due settled inBudget fired_le) fired_le runs refused
      | endless exhausted => omega

/-- Polls that are made until one ends well make all the runs that are owed. -/
theorem Retried.owed [ClockNumber.LawfulBudget Time] {tally : Tally State} {count : Nat}
    {poll : Poll Time (Tally State) Cause} (retried : Retried action.tallied now scheduler tally poll)
    (owes : scheduler.Owes now count moved) (uncapped : scheduler.cap = none) :
    poll.scheduler = { scheduler with last := some moved } ∧
      poll.state.succeeded = tally.succeeded + count := by
  -- What an interrupted poll leaves owed is paid by the polls after it.
  induction retried generalizing count with
  | @done scheduler tally _ well =>
      have attempted := owes.attempted uncapped action tally
      generalize scheduler.advance now action.tallied tally = poll at attempted well ⊢
      cases attempted with
      | paid succeeded => exact ⟨rfl, succeeded⟩
      | interrupted => cases well
  | @again scheduler tally _ poll failed rest ih =>
      have attempted := owes.attempted uncapped action tally
      generalize scheduler.advance now action.tallied tally = first at attempted failed ih
      cases attempted with
      | paid => cases failed
      | interrupted owed fired_le succeeded _ _ =>
          rcases ih owed uncapped with ⟨scheduler_eq, further⟩
          refine ⟨scheduler_eq, ?_⟩
          rw [further, succeeded]
          omega

/-- Polls of an action that fails finitely often come to one that ends well. -/
theorem exists_retried [ClockNumber.LawfulBudget Time] {tally : Tally State} {count : Nat}
    (owes : scheduler.Owes now count moved) (uncapped : scheduler.cap = none)
    (finitely : action.tallied.FailsFinitely tally) :
    ∃ poll, Retried action.tallied now scheduler tally poll := by
  rcases finitely with ⟨runs, well⟩
  -- Each poll that fails takes at least the failing run off those that may still fail.
  induction runs using Nat.strongRecOn generalizing scheduler tally count with
  | ind runs ih =>
      have attempted := owes.attempted uncapped action tally
      rcases polled : scheduler.advance now action.tallied tally with ⟨after, state, outcome⟩
      rw [polled] at attempted
      cases attempted with
      | paid => exact ⟨_, .done (by rw [polled])⟩
      | @interrupted fired _ _ _ owed _ _ state_eq refused =>
          have early : fired < runs := by
            by_contra late
            rw [well fired (Nat.not_lt.mp late)] at refused
            cases refused
          have rest := well.after (fired + 1)
          rw [← state_eq] at rest
          rcases ih _ (by omega) owed uncapped rest with ⟨poll, retried⟩
          exact ⟨poll, .again (by rw [polled]) (by rwa [polled])⟩

/-- What a loop that ends well without a cap and without a failure was owed. -/
theorem owes_of_runDue {steady : Action Other Refusal} (succeeds : ∀ state, (steady state).2 = .ok ())
    (uncapped : scheduler.cap = none) {limit fired total : Nat} {last : Time} {other : Other}
    (well : (runDue steady now limit scheduler last other fired).outcome = .ok total) :
    ∃ count < limit, (∀ run < count,
        ClockNumber.le scheduler.period (now - (· + scheduler.period)^[run] last) = true) ∧
      ClockNumber.le scheduler.period (now - (· + scheduler.period)^[count] last) = false := by
  induction limit generalizing last other fired with
  | zero => cases well
  | succ limit ih =>
      rw [runDue] at well
      split at well
      next dueNow =>
        have room : scheduler.capReached fired = false := by rw [capReached, uncapped]
        rcases ran : steady other with ⟨after, cause | _⟩
        · have := succeeds other
          rw [ran] at this
          cases this
        · rw [room, ran] at well
          rcases ih well with ⟨count, inside, due, settled⟩
          refine ⟨count + 1, Nat.succ_lt_succ inside, ?_, settled⟩
          intro run earlier
          rcases run with _ | run
          · exact dueNow
          · exact due run (Nat.lt_of_succ_lt_succ earlier)
      next early => exact ⟨0, Nat.succ_pos limit, by simp, Bool.eq_false_iff.mpr early⟩

/-- A poll that ends well without a failure had a number of runs to make. -/
theorem exists_owes {steady : Action Other Refusal} (succeeds : ∀ state, (steady state).2 = .ok ())
    (uncapped : scheduler.cap = none) {other : Other} {total : Nat}
    (well : (scheduler.advance now steady other).outcome = .ok total) :
    ∃ count moved, scheduler.Owes now count moved := by
  rcases started : scheduler.last with _ | last
  · exact ⟨1, now, .first started⟩
  · rw [advance, started] at well
    rcases owes_of_runDue succeeds uncapped well with ⟨count, inBudget, due, settled⟩
    exact ⟨count, _, .later started due settled inBudget⟩

/-- Interrupted polls lose and repeat nothing. Without a cap, polls of an action that fails finitely often
come to one that ends well, and by then the action has gone well as often as in one poll of an action that
never fails, and the schedule is the same. -/
theorem retried_agrees_with_uninterrupted [ClockNumber.LawfulBudget Time] (uncapped : scheduler.cap = none)
    {steady : Action Other Refusal} (succeeds : ∀ state, (steady state).2 = .ok ()) {other : Other}
    {count : Nat} (well : (scheduler.advance now steady other).outcome = .ok count) {state : State}
    (finitely : action.FailsFinitely state) :
    let whole := scheduler.advance now steady.tallied ⟨0, false, other⟩
    whole.state.succeeded = count ∧
      (∃ poll, Retried action.tallied now scheduler ⟨0, false, state⟩ poll) ∧
      ∀ poll, Retried action.tallied now scheduler ⟨0, false, state⟩ poll →
        poll.state.succeeded = whole.state.succeeded ∧ poll.scheduler = whole.scheduler := by
  intro whole
  have polled : whole = _ := advance_tallied_of_ok (congrArg (Poll.mk _ _) well)
  have wholeWell : whole.outcome = .ok count := by rw [polled]
  rcases exists_owes succeeds uncapped well with ⟨owed, moved, owes⟩
  rcases (Retried.done wholeWell).owed owes uncapped with ⟨wholeScheduler, wholeSucceeded⟩
  refine ⟨by rw [polled], exists_retried owes uncapped (Action.failsFinitely_tallied finitely), ?_⟩
  intro poll retried
  rcases retried.owed owes uncapped with ⟨scheduler_eq, succeeded⟩
  exact ⟨succeeded.trans wholeSucceeded.symm, scheduler_eq.trans wholeScheduler.symm⟩

/-- Tenths as doubles: after two periods of 0.1 the rest up to 0.3 is less than 0.1. An action that fails at
its first, third and fifth run comes to the two periods as well. -/
theorem retried_agrees_with_uninterrupted_of_tenths :
    let scheduler : Scheduler Float := { period := 0.1, last := some 0 }
    let failing : Action Nat Unit := fun left => (left.pred, if left % 2 = 1 then .error () else .ok ())
    ∃ poll, Retried failing.tallied 0.3 scheduler ⟨0, false, 5⟩ poll ∧ poll.state.succeeded = 2 ∧
      poll.scheduler.dropped = 0 := by
  intro scheduler failing
  let steady : Action Unit Unit := fun state => (state, .ok ())
  have well : (scheduler.advance 0.3 steady ()).outcome = .ok 2 := by decide +kernel
  have left (runs : Nat) : failing.after runs 5 = 5 - runs := Nat.pred_iterate 5 runs
  have finitely : failing.FailsFinitely 5 := by
    refine ⟨5, ?_⟩
    intro later further
    rw [left, Nat.sub_eq_zero_of_le further]
    rfl
  rcases retried_agrees_with_uninterrupted rfl (fun _ => rfl) well finitely with
    ⟨counted, ⟨poll, retried⟩, same⟩
  rcases same poll retried with ⟨succeeded, scheduler_eq⟩
  refine ⟨poll, retried, succeeded.trans counted, ?_⟩
  rw [scheduler_eq]
  decide +kernel

end Scheduler

end Chip8
