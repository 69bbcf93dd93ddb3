import Chip8.Proofs.Clock.Exact

/-!
# Counting and looping agree

How many periods are due can be worked out by one division, or by running the action until nothing is due
any more. In rational time both come to the same number and to the same last timestamp, also where the
present lies on a whole period or before the last run. A cap changes only what is done about the periods:
those beyond it are counted as skipped.

The loop ends by itself. As soon as it is allowed one round more than there are periods due, the number of
rounds that it is allowed makes no difference.
-/

namespace Chip8

namespace Scheduler

/-- A poll that came to its end in some rounds does the same if it is allowed more of them. -/
theorem runDue_of_le {Time State Cause : Type} [ClockNumber Time] {action : Action State Cause} {now : Time}
    {limit more fired : Nat} {scheduler : Scheduler Time} {last : Time} {state : State}
    (ended : (runDue action now limit scheduler last state fired).outcome ≠ .error .endless)
    (further : limit ≤ more) :
    runDue action now more scheduler last state fired =
      runDue action now limit scheduler last state fired := by
  induction limit generalizing more last state fired with
  | zero => exact absurd rfl ended
  | succ limit ih =>
      rcases more with _ | more
      · omega
      · rw [runDue] at ended
        rw [runDue, runDue]
        split
        next due =>
          rw [if_pos due] at ended
          split
          next full => rfl
          next room =>
            rw [if_neg room] at ended
            rcases ran : action state with ⟨after, cause | _⟩
            · rfl
            · rw [ran] at ended
              exact ih ended (Nat.le_of_succ_le_succ further)
        next early => rfl

end Scheduler

/-- Catching up counts the periods due and moves the last timestamp by them. -/
theorem catchUp_eq {scheduler : Scheduler Rat} (positive : 0 < scheduler.period) (last now : Rat) :
    catchUp scheduler.period last now =
      .ok (scheduler.due last now, last + scheduler.due last now * scheduler.period) := by
  by_cases early : now - last < scheduler.period
  · have none : scheduler.due last now = 0 := Scheduler.due_eq_zero positive (by linarith)
    have isEarly : ClockNumber.lt (now - last) scheduler.period = true := decide_eq_true early
    rw [catchUp, if_pos isEarly, none]
    simp
  · have isDue : scheduler.period ≤ now - last := not_lt.mp early
    have nonneg : 0 ≤ ⌊(now - last) / scheduler.period⌋ :=
      Int.floor_nonneg.mpr (div_nonneg (positive.le.trans isDue) positive.le)
    have whole : (scheduler.due last now : Int) = ⌊(now - last) / scheduler.period⌋ :=
      Int.toNat_of_nonneg nonneg
    rw [Scheduler.catchUp_of_due positive isDue, ← whole, Int.cast_natCast]

namespace Scheduler

variable {State Cause : Type} {scheduler : Scheduler Rat} {action : Action State Cause} {last : Rat}

/-- A poll with an action that never fails does what catching up tells: without a cap it runs every period,
and with one it runs those within the cap and skips the others. It needs one round for each period due and
one more. -/
theorem advance_agrees_with_catchUp (positive : 0 < scheduler.period)
    (allows : ∀ bound ∈ scheduler.cap, 1 ≤ bound) (started : scheduler.last = some last)
    (succeeds : ∀ state, (action state).2 = .ok ()) (now : Rat) (state : State) :
    ∃ (count fired : Nat) (moved : Rat) (after : State),
      catchUp scheduler.period last now = .ok (count, moved) ∧
      (scheduler.cap = none → fired = count) ∧
      (∀ bound : Int, scheduler.cap = some bound → (fired : Int) = min (count : Int) bound) ∧
      scheduler.advance now action state =
        ⟨{ scheduler with last := some moved, dropped := scheduler.dropped + (count - fired) }, after,
          .ok fired⟩ ∧
      action.Runs fired state after ∧
      ∀ limit, count < limit →
        runDue action now limit scheduler last state 0 = scheduler.advance now action state := by
  have goesOn : ∀ state, True → ∃ after, action state = (after, .ok ()) ∧ True := by
    intro state _
    exact ⟨_, Prod.ext rfl (succeeds state), trivial⟩
  rcases exists_outcome_advance positive goesOn trivial now with ⟨fired, done⟩
  rcases advance_of_ok positive started done with ⟨allowed, scheduler_eq⟩
  refine ⟨scheduler.due last now, fired, _, (scheduler.advance now action state).state,
    catchUp_eq positive last now, ?_, ?_, ?_, runs_of_advance done, ?_⟩
  · intro uncapped
    rw [allowed, allowed_of_uncapped uncapped]
  · intro bound capped
    have := allows bound capped
    rw [allowed, allowed_of_capped capped]
    omega
  · rw [← scheduler_eq, ← done]
  · intro limit enough
    have polled : scheduler.advance now action state =
        runDue action now (scheduler.due last now + 1) scheduler last state 0 := by
      rw [advance, started]
      rfl
    rw [polled] at done ⊢
    exact runDue_of_le (by simp [done]) enough

/-- Four periods and a half with a cap of three: three runs, and one period skipped. -/
theorem advance_agrees_with_catchUp_of_capped :
    let scheduler : Scheduler Rat := { period := 1 / 2, cap := some 3, last := some 1 }
    let counts : Action Nat Unit := fun count => (count + 1, .ok ())
    ∃ after, catchUp (1 / 2 : Rat) 1 (13 / 4) = .ok (4, 3) ∧
      scheduler.advance (13 / 4) counts 0 =
        ⟨{ scheduler with last := some 3, dropped := 1 }, after, .ok 3⟩ := by
  intro scheduler counts
  have positive : 0 < scheduler.period := one_half_pos
  have allows : ∀ bound ∈ scheduler.cap, 1 ≤ bound := by simp [scheduler]
  have caught : catchUp (1 / 2 : Rat) 1 (13 / 4) = .ok (4, 3) := by decide +kernel
  have succeeds : ∀ count, (counts count).2 = .ok () := fun _ => rfl
  rcases advance_agrees_with_catchUp positive allows rfl succeeds (13 / 4) 0 with
    ⟨count, fired, moved, after, again, _, capped, polled, _⟩
  have same : ((count : Int), moved) = (4, 3) := Except.ok.inj (again.symm.trans caught)
  rw [Prod.mk.injEq] at same
  rcases same with ⟨four, rfl⟩
  have three : (fired : Int) = 3 := by
    rw [capped 3 rfl, four]
    rfl
  refine ⟨after, caught, ?_⟩
  rw [polled, four, three]
  obtain rfl : fired = 3 := by exact_mod_cast three
  rfl

end Scheduler

end Chip8
