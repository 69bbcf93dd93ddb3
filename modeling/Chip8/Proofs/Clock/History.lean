import Chip8.Proofs.Clock.Exact

/-!
# The history of a schedule

A schedule is polled with timestamps in any order, with actions that may fail at any time, and it is
reset now and then. Its history keeps what counts since it was made or last reset: which poll was the
first in which an action went well, the runs since, and the largest timestamp so far. Nothing of this
is taken from the schedule itself.

Every run and every skipped period is accounted for by a whole period since the first run, and a
schedule of which no action failed is behind the largest timestamp by less than one period.
-/

namespace Chip8

variable {State Cause : Type}

/-- What happens to a schedule. -/
inductive Scheduler.Event (State Cause : Type) where
  | poll (now : Rat) (action : Action State Cause)
  | reset

namespace Scheduler

theorem eq_of_ofPeriod {period : Rat} {cap : Option Int} {scheduler : Scheduler Rat}
    (made : ofPeriod period cap = .ok scheduler) : 0 < period ∧ scheduler = { period, cap } := by
  rcases ofPeriod_eq_ok_iff.mp made with ⟨positive, _, same⟩
  exact ⟨positive, same⟩

end Scheduler

/-- A schedule, and what has become of it since it was made or last reset. -/
structure History (State : Type) where
  scheduler : Scheduler Rat
  tally : Tally State
  /-- The timestamp of the first poll in which a run went well. -/
  first : Option Rat := none
  /-- The largest timestamp of a poll. -/
  latest : Option Rat := none

namespace History

/-- The history of a schedule from now on. -/
def ofScheduler (scheduler : Scheduler Rat) (state : State) : History State :=
  { scheduler, tally := ⟨0, false, state⟩ }

def after (history : History State) : Scheduler.Event State Cause → History State
  | .poll now action =>
    let poll := history.scheduler.advance now action.tallied history.tally
    { scheduler := poll.scheduler
      tally := poll.state
      first := history.first.or (if poll.state.succeeded = 0 then none else some now)
      latest := some (history.latest.elim now (max now)) }
  | .reset => ofScheduler history.scheduler.reset history.tally.state

def afterAll (history : History State) (events : List (Scheduler.Event State Cause)) :
    History State :=
  events.foldl after history

/-- The timestamp of the last run or skipped period, if each of them is a period after the one before
and `first` is that of the first run. -/
def lastRun (history : History State) (first : Rat) : Rat :=
  first + (history.tally.succeeded + history.scheduler.dropped - 1) * history.scheduler.period

/-- What holds before any run has gone well. -/
structure Unstarted (history : History State) : Prop where
  last_eq : history.scheduler.last = none
  succeeded : history.tally.succeeded = 0
  dropped : history.scheduler.dropped = 0
  /-- A poll before the first run is one whose action failed. -/
  unpolled : history.tally.failed = false → history.latest = none

/-- What holds from the first run on. -/
structure Started (history : History State) (first latest : Rat) : Prop where
  /-- The last timestamp accounts for all runs and skipped periods. -/
  last_eq : history.scheduler.last = some (history.lastRun first)
  last_le : history.lastRun first ≤ latest
  /-- It falls behind by a period only if an action fails. -/
  caughtUp : history.tally.failed = false →
    latest - history.lastRun first < history.scheduler.period

/-- The invariant of a history. -/
structure InPhase (period : Rat) (cap : Option Int) (history : History State) : Prop where
  period_eq : history.scheduler.period = period
  cap_eq : history.scheduler.cap = cap
  uncapped : cap = none → history.scheduler.dropped = 0
  unset : history.first = none → history.Unstarted
  set : ∀ first, history.first = some first →
    ∃ latest, history.latest = some latest ∧ history.Started first latest

variable {period : Rat} {cap : Option Int} {history : History State}

/-- A new schedule and one that was reset are in phase. -/
theorem inPhase_ofScheduler (scheduler : Scheduler Rat) (state : State)
    (unset : scheduler.last = none) (dropped : scheduler.dropped = 0) :
    (ofScheduler scheduler state).InPhase scheduler.period scheduler.cap where
  period_eq := rfl
  cap_eq := rfl
  uncapped := fun _ => dropped
  unset := fun _ => ⟨unset, rfl, dropped, fun _ => rfl⟩
  set := by
    intro first set
    cases set

/-- A poll before the first run sets the phase if its action goes well. -/
theorem inPhase_of_unset (positive : 0 < period) (inPhase : history.InPhase period cap)
    (unset : history.first = none) (now : Rat) (action : Action State Cause) :
    (history.after (.poll now action)).InPhase period cap := by
  have before := inPhase.unset unset
  rcases performed : action history.tally.state with ⟨state, cause | _⟩
  · have polled := Scheduler.advance_first_failed before.last_eq now
      (Action.tallied_of_error performed)
    simp only [after, polled, unset, before.succeeded]
    exact {
      period_eq := inPhase.period_eq
      cap_eq := inPhase.cap_eq
      uncapped := inPhase.uncapped
      unset := fun _ => ⟨before.last_eq, rfl, before.dropped, by simp⟩
      set := by simp }
  · have polled := Scheduler.advance_first before.last_eq now (Action.tallied_of_ok performed)
    simp only [after, polled, unset, before.succeeded]
    exact {
      period_eq := inPhase.period_eq
      cap_eq := inPhase.cap_eq
      uncapped := inPhase.uncapped
      unset := by simp
      set := by
        intro first set
        simp at set
        subst set
        refine ⟨_, rfl, ?_, ?_, ?_⟩
        · simp [lastRun, before.dropped]
        · cases latest : history.latest <;> simp [lastRun, before.dropped]
        · intro unfailed
          simp [lastRun, before.dropped, before.unpolled unfailed, inPhase.period_eq, positive] }

section

variable {first latest now : Rat} {action : Action State Cause} {fired : Nat} {skipped : Int}

/-- The timestamp that a poll should leave moves by what the poll runs and skips. -/
theorem lastRun_after
    (moves : history.scheduler.Moves (history.lastRun first) now history.tally fired skipped
      (history.scheduler.advance now action.tallied history.tally)) :
    (history.after (.poll now action)).lastRun first =
      history.lastRun first + (fired + skipped) * history.scheduler.period := by
  simp only [lastRun, after, moves.scheduler_eq, moves.succeeded]
  push_cast
  ring

/-- A poll after the first run moves the last timestamp as it should. -/
theorem set_after (positive : 0 < history.scheduler.period) (before : history.Started first latest)
    (moves : history.scheduler.Moves (history.lastRun first) now history.tally fired skipped
      (history.scheduler.advance now action.tallied history.tally)) :
    (history.after (.poll now action)).Started first (max now latest) := by
  have moved := lastRun_after moves
  constructor
  · rw [moved]
    simp only [after, moves.scheduler_eq]
  · have inTime : history.lastRun first ≤ max now latest := before.last_le.trans (le_max_right _ _)
    rw [moved]
    exact moves.moved_le.trans (max_le inTime (le_max_left _ _))
  · rw [moved]
    intro unfailed
    simp only [after, moves.scheduler_eq] at unfailed ⊢
    rcases moves.ends with ⟨_, same, settled⟩ | ⟨_, failed⟩
    · -- What was near the larger timestamp stays near it, as the poll only moves forward.
      have nearer := before.caughtUp (same ▸ unfailed)
      have forth := moves.forth positive
      rcases max_choice now latest with isNow | isLatest
      · rw [isNow]
        exact settled
      · rw [isLatest]
        linarith
    · rw [failed] at unfailed
      cases unfailed

end

/-- A poll after the first run keeps a history in phase. -/
theorem inPhase_of_set (positive : 0 < period) (inPhase : history.InPhase period cap) {first : Rat}
    (set : history.first = some first) (now : Rat) (action : Action State Cause) :
    (history.after (.poll now action)).InPhase period cap := by
  rcases inPhase.set first set with ⟨latest, latestEq, before⟩
  rw [← inPhase.period_eq] at positive
  rcases Scheduler.exists_moves positive before.last_eq now action history.tally with
    ⟨fired, skipped, moves⟩
  have started : (history.after (.poll now action)).first = some first := by
    simp only [after, set, Option.some_or]
  exact {
    period_eq := by simpa only [after, moves.scheduler_eq] using inPhase.period_eq
    cap_eq := by simpa only [after, moves.scheduler_eq] using inPhase.cap_eq
    uncapped := by
      intro uncapped
      have none := inPhase.uncapped uncapped
      rw [← inPhase.cap_eq] at uncapped
      simp only [after, moves.scheduler_eq, moves.uncapped uncapped, none, add_zero]
    unset := by
      intro unset
      rw [started] at unset
      cases unset
    set := by
      intro start isFirst
      rw [started] at isFirst
      cases isFirst
      refine ⟨max now latest, ?_, set_after positive before moves⟩
      simp only [after, latestEq, Option.elim_some] }

/-- Every event keeps a history in phase. -/
theorem inPhase_after (positive : 0 < period) (inPhase : history.InPhase period cap)
    (event : Scheduler.Event State Cause) : (history.after event).InPhase period cap := by
  cases event with
  | poll now action =>
      cases first : history.first with
      | none => exact inPhase_of_unset positive inPhase first now action
      | some start => exact inPhase_of_set positive inPhase first now action
  | reset =>
      have fresh : InPhase history.scheduler.period history.scheduler.cap
          (ofScheduler history.scheduler.reset history.tally.state) :=
        inPhase_ofScheduler history.scheduler.reset _ rfl rfl
      rwa [inPhase.period_eq, inPhase.cap_eq] at fresh

theorem inPhase_afterAll (positive : 0 < period) (inPhase : history.InPhase period cap)
    (events : List (Scheduler.Event State Cause)) : (history.afterAll events).InPhase period cap := by
  induction events generalizing history with
  | nil => exact inPhase
  | cons event rest ih => exact ih (inPhase_after positive inPhase event)

/-- Runs and skipped periods add up to the whole periods up to the largest timestamp, and the first
run. -/
theorem Started.accounted {first latest : Rat} (set : history.Started first latest)
    (positive : 0 < history.scheduler.period) (unfailed : history.tally.failed = false) :
    history.tally.succeeded + history.scheduler.dropped =
      1 + ⌊(latest - first) / history.scheduler.period⌋ := by
  have ahead := set.last_le
  have near := set.caughtUp unfailed
  simp only [lastRun] at ahead near
  have whole : ⌊(latest - first) / history.scheduler.period⌋ =
      history.tally.succeeded + history.scheduler.dropped - 1 := by
    rw [Int.floor_eq_iff, le_div_iff₀ positive, div_lt_iff₀ positive]
    push_cast
    constructor <;> linarith
  omega

/-- A poll never moves the last timestamp back, and one that ends well moves it to less than a period
before the present. Only the action can fail. -/
theorem poll_of_inPhase (positive : 0 < period) (inPhase : history.InPhase period cap) (now : Rat)
    (action : Action State Cause) :
    let poll := history.scheduler.advance now action history.tally.state
    (∀ last, history.scheduler.last = some last →
        ∃ moved, poll.scheduler.last = some moved ∧ last ≤ moved) ∧
      (∀ count, poll.outcome = .ok count →
        ∃ moved, poll.scheduler.last = some moved ∧ now - moved < period) ∧
      ∀ fault, poll.outcome = .error fault → ∃ cause, fault = .action cause := by
  cases isFirst : history.first with
  | none =>
      have before := (inPhase.unset isFirst).last_eq
      rcases performed : action history.tally.state with ⟨state, cause | _⟩
      · rw [Scheduler.advance_first_failed before now performed]
        refine ⟨by simp [before], by simp, ?_⟩
        intro fault failed
        cases failed
        exact ⟨cause, rfl⟩
      · rw [Scheduler.advance_first before now performed]
        refine ⟨by simp [before], ?_, by simp⟩
        intro count _
        exact ⟨now, rfl, by rwa [sub_self]⟩
  | some first =>
      rcases inPhase.set first isFirst with ⟨latest, _, before⟩
      have period_eq := inPhase.period_eq
      subst period_eq
      rcases Scheduler.exists_moves positive before.last_eq now action history.tally with
        ⟨fired, skipped, moves⟩
      rw [← Scheduler.advance_tallied]
      simp only [Poll.untallied, moves.scheduler_eq, before.last_eq, Option.some.injEq]
      have forth := moves.forth positive
      refine ⟨?_, ?_, ?_⟩
      · rintro last rfl
        exact ⟨_, rfl, by linarith⟩
      · intro count done
        rcases moves.ends with ⟨_, _, settled⟩ | ⟨⟨cause, failed⟩, _⟩
        · exact ⟨_, rfl, settled⟩
        · rw [failed] at done
          cases done
      · intro fault failed
        rcases moves.ends with ⟨⟨count, done⟩, _⟩ | ⟨⟨cause, refused⟩, _⟩
        · rw [done] at failed
          cases failed
        · rw [refused] at failed
          cases failed
          exact ⟨cause, rfl⟩

/-- The phase law. After any events, the last timestamp is that of the first run and so many periods
as were run or skipped since, and it is not ahead of all timestamps; and any poll that follows moves it
forward if at all, to less than a period before the present unless the action fails. -/
theorem phase_of_events {scheduler : Scheduler Rat}
    (made : Scheduler.ofPeriod period cap = .ok scheduler) (state : State)
    (events : List (Scheduler.Event State Cause)) :
    let history := (ofScheduler scheduler state).afterAll events
    (history.first = none → history.scheduler.last = none) ∧
      (∀ first, history.first = some first → ∃ latest, history.latest = some latest ∧
        history.scheduler.last = some (history.lastRun first) ∧
        history.lastRun first =
          first + (history.tally.succeeded + history.scheduler.dropped - 1) * period ∧
        history.lastRun first ≤ latest ∧
        (history.tally.failed = false →
          history.tally.succeeded + history.scheduler.dropped = 1 + ⌊(latest - first) / period⌋)) ∧
      (cap = none → history.scheduler.dropped = 0) ∧
      ∀ now (action : Action State Cause),
        let poll := history.scheduler.advance now action history.tally.state
        (history.after (.poll now action)).scheduler = poll.scheduler ∧
          (history.after (.poll now action)).tally.state = poll.state ∧
          (∀ last, history.scheduler.last = some last →
            ∃ moved, poll.scheduler.last = some moved ∧ last ≤ moved) ∧
          (∀ count, poll.outcome = .ok count →
            ∃ moved, poll.scheduler.last = some moved ∧ now - moved < period) ∧
          ∀ fault, poll.outcome = .error fault → ∃ cause, fault = .action cause := by
  intro history
  rcases Scheduler.eq_of_ofPeriod made with ⟨positive, rfl⟩
  have inPhase : history.InPhase period cap :=
    inPhase_afterAll positive (inPhase_ofScheduler { period, cap } state rfl rfl) events
  refine ⟨fun unset => (inPhase.unset unset).last_eq, ?_, inPhase.uncapped, ?_⟩
  · intro first isFirst
    rcases inPhase.set first isFirst with ⟨latest, latestEq, set⟩
    have accounted := set.accounted (inPhase.period_eq.symm ▸ positive)
    have lastRun_eq : history.lastRun first =
        first + (history.tally.succeeded + history.scheduler.dropped - 1) * period := by
      rw [lastRun, inPhase.period_eq]
    rw [inPhase.period_eq] at accounted
    exact ⟨latest, latestEq, set.last_eq, lastRun_eq, set.last_le, accounted⟩
  · intro now action
    have polled := history.scheduler.advance_tallied now action history.tally
    exact ⟨congrArg Poll.scheduler polled, congrArg Poll.state polled,
      poll_of_inPhase positive inPhase now action⟩

/-- A schedule that stalls, so that its cap makes it skip periods, and whose clock then runs back. -/
theorem phase_of_events_of_stall :
    let runs : Action Unit Unit := fun _ => ((), .ok ())
    let history := (ofScheduler { period := 1, cap := some 2 } ()).afterAll
      [.poll 0 runs, .poll 5 runs, .poll 3 runs]
    history.tally.succeeded = 3 ∧ history.scheduler.dropped = 3 ∧
      ∃ latest, history.latest = some latest ∧ history.scheduler.last = some (history.lastRun 0) ∧
        history.tally.succeeded + history.scheduler.dropped = 1 + ⌊(latest - 0) / 1⌋ := by
  intro runs history
  have made : Scheduler.ofPeriod (1 : Rat) (some 2) = .ok { period := 1, cap := some 2 } := rfl
  have first : history.first = some 0 := rfl
  have unfailed : history.tally.failed = false := by decide +kernel
  rcases (phase_of_events made () [.poll 0 runs, .poll 5 runs, .poll 3 runs]).2.1 0 first with
    ⟨latest, latestEq, last_eq, _, _, accounted⟩
  exact ⟨by decide +kernel, by decide +kernel, latest, latestEq, last_eq, accounted unfailed⟩

end History

end Chip8
