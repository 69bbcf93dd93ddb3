import Chip8.Proofs.Clock.Owed

/-!
# A schedule polled once a frame

Frame `i` is at `i / rate` seconds. A schedule that is polled at every frame is due once at the first of
them, and once more for each whole period up to the present one. So many runs are due altogether however
the period and the time between frames fit together: some frames may have no run in them, or others one
run more than their neighbours. A cap that covers the time between two frames, rounded down, is never
passed, although a part of a period is left over from frame to frame.
-/

namespace Chip8.Scheduler

variable {State Cause : Type} {frequency : Rat} {rate bound : Int} {action : Action State Cause}
  {state : State} {count frame frames : Nat}

/-- The whole periods up to a frame. -/
def periodsUpTo (frequency : Rat) (rate : Int) (frame : Nat) : Nat := ⌊frame * frequency / rate⌋.toNat

/-- How often a schedule is due in the first frames: once in the first of them, and once more for each
whole period up to the last of them. -/
def dueWithin (frequency : Rat) (rate : Int) : Nat → Nat
  | 0 => 0
  | frame + 1 => 1 + periodsUpTo frequency rate frame

/-- A schedule that was polled in the first frames, and has run as often as it was due. -/
def following (frequency : Rat) (cap : Option Int) (rate : Int) : Nat → Scheduler Rat
  | 0 => { period := 1 / frequency, cap }
  | frame + 1 =>
    { period := 1 / frequency, cap, last := some (periodsUpTo frequency rate frame * (1 / frequency)) }

theorem period_following (cap : Option Int) (frames : Nat) :
    (following frequency cap rate frames).period = 1 / frequency := by
  cases frames <;> rfl

theorem dropped_following (cap : Option Int) (frames : Nat) :
    (following frequency cap rate frames).dropped = 0 := by
  cases frames <;> rfl

section

variable (positive : 0 < frequency) (rated : 0 < rate)

include positive rated

theorem periodsUpTo_le (frame : Nat) : periodsUpTo frequency rate frame ≤ frame * frequency / rate := by
  have ratePositive : (0 : Rat) < rate := by exact_mod_cast rated
  have nonneg : 0 ≤ ⌊frame * frequency / rate⌋ := Int.floor_nonneg.mpr (by positivity)
  have below := Int.floor_le (frame * frequency / rate)
  unfold periodsUpTo
  lift ⌊frame * frequency / rate⌋ to Nat using nonneg with whole
  exact_mod_cast below

/-- What is due in a number of frames above zero, as a formula. -/
theorem natCast_dueWithin {frames : Int} (framed : 1 ≤ frames) :
    (dueWithin frequency rate frames.toNat : Int) =
      1 + ⌊((frames - 1 : Int) : Rat) * frequency / rate⌋ := by
  have ratePositive : (0 : Rat) < rate := by exact_mod_cast rated
  rcases Int.eq_ofNat_of_zero_le (show 0 ≤ frames - 1 by omega) with ⟨frame, last⟩
  have nonneg : 0 ≤ ⌊(frame : Rat) * frequency / rate⌋ := Int.floor_nonneg.mpr (by positivity)
  have whole : frames.toNat = frame + 1 := by omega
  rw [whole, last, dueWithin, periodsUpTo, Nat.cast_add, Int.toNat_of_nonneg nonneg]
  rfl

omit positive rated in
theorem lt_periodsUpTo_add_one (frequency : Rat) (rate : Int) (frame : Nat) :
    frame * frequency / rate < periodsUpTo frequency rate frame + 1 := by
  have above := Int.lt_floor_add_one (frame * frequency / rate)
  have most : (⌊frame * frequency / rate⌋ : Rat) ≤ periodsUpTo frequency rate frame := by
    exact_mod_cast Int.self_le_toNat _
  linarith

/-- From one frame to the next the periods become no fewer, and no more of them are added than a cap
allows that covers the time between the frames. -/
theorem periodsUpTo_succ (covers : frequency / rate ≤ bound) (frame : Nat) :
    periodsUpTo frequency rate frame ≤ periodsUpTo frequency rate (frame + 1) ∧
      (periodsUpTo frequency rate (frame + 1) : Int) ≤ periodsUpTo frequency rate frame + bound := by
  have ratePositive : (0 : Rat) < rate := by exact_mod_cast rated
  have step : ((frame + 1 : Nat) : Rat) * frequency / rate =
      frame * frequency / rate + frequency / rate := by
    push_cast
    ring
  have gap : 0 < frequency / rate := by positivity
  have below := periodsUpTo_le positive rated frame
  have above := lt_periodsUpTo_add_one frequency rate frame
  have nextBelow := periodsUpTo_le positive rated (frame + 1)
  have nextAbove := lt_periodsUpTo_add_one frequency rate (frame + 1)
  rw [step] at nextBelow nextAbove
  constructor
  · have : (periodsUpTo frequency rate frame : Rat) < periodsUpTo frequency rate (frame + 1) + 1 := by
      linarith
    exact Nat.lt_add_one_iff.mp (by exact_mod_cast this)
  · have : (periodsUpTo frequency rate (frame + 1) : Rat) <
        periodsUpTo frequency rate frame + bound + 1 := by
      linarith
    exact Int.lt_add_one_iff.mp (by exact_mod_cast this)

/-- What is due in a frame is what has become due since the frame before. -/
theorem due_following (covers : frequency / rate ≤ bound) (cap : Option Int) (frame : Nat) :
    (following frequency cap rate (frame + 1)).due
        (periodsUpTo frequency rate frame * (1 / frequency)) ((frame + 1 : Nat) / rate) =
      periodsUpTo frequency rate (frame + 1) - periodsUpTo frequency rate frame := by
  have ratePositive : (0 : Rat) < rate := by exact_mod_cast rated
  have step := (periodsUpTo_succ positive rated covers frame).1
  have below := periodsUpTo_le positive rated (frame + 1)
  have above := lt_periodsUpTo_add_one frequency rate (frame + 1)
  have moved : periodsUpTo frequency rate frame * (1 / frequency) +
      (periodsUpTo frequency rate (frame + 1) - periodsUpTo frequency rate frame : Nat) *
        (1 / frequency) = periodsUpTo frequency rate (frame + 1) / frequency := by
    rw [Nat.cast_sub step]
    ring
  have now : ((frame + 1 : Nat) : Rat) / rate = (frame + 1 : Nat) * frequency / rate / frequency := by
    field_simp
  apply due_eq (one_div_pos.mpr positive)
  · apply le_max_of_le_right
    rw [period_following, moved, now]
    exact div_le_div_of_nonneg_right below positive.le
  · rw [period_following, moved, now, ← sub_div]
    exact div_lt_div_of_pos_right (by linarith) positive

/-- In a frame a schedule owes what has become due in it. -/
theorem dueWithin_add_owed (covers : frequency / rate ≤ bound) (cap : Option Int) (frames : Nat) :
    dueWithin frequency rate frames + (following frequency cap rate frames).owed (frames / rate) =
      dueWithin frequency rate (frames + 1) := by
  cases frames with
  | zero => simp [dueWithin, following, owed, periodsUpTo]
  | succ frame =>
      have owes : (following frequency cap rate (frame + 1)).owed ((frame + 1 : Nat) / rate) =
          periodsUpTo frequency rate (frame + 1) - periodsUpTo frequency rate frame :=
        due_following positive rated covers cap frame
      have step := (periodsUpTo_succ positive rated covers frame).1
      rw [owes, dueWithin, dueWithin]
      omega

/-- A poll that ends well at the next frame has run as often as was due in it, and the schedule has
followed one frame more. -/
theorem advance_following_of_ok (covers : frequency / rate ≤ bound)
    (done : ((following frequency (some bound) rate frames).advance (frames / rate) action state).outcome =
      .ok count) :
    dueWithin frequency rate frames + count = dueWithin frequency rate (frames + 1) ∧
      ((following frequency (some bound) rate frames).advance (frames / rate) action state).scheduler =
        following frequency (some bound) rate (frames + 1) := by
  cases frames with
  | zero =>
      rcases advance_first_of_ok rfl done with ⟨rfl, begun⟩
      refine ⟨by simp [dueWithin, periodsUpTo], ?_⟩
      rw [begun]
      simp [following, periodsUpTo]
  | succ frame =>
      have owes := due_following positive rated covers (some bound) frame
      rcases periodsUpTo_succ positive rated covers frame with ⟨step, inRoom⟩
      have period : 0 < (following frequency (some bound) rate (frame + 1)).period :=
        one_div_pos.mpr positive
      rcases advance_of_ok period rfl done with ⟨allowed, moved⟩
      rw [owes, allowed_of_capped rfl, Nat.min_eq_left (by omega)] at allowed
      subst allowed
      refine ⟨by simp only [dueWithin]; omega, ?_⟩
      rw [moved, owes]
      simp only [following, Scheduler.mk.injEq, Option.some.injEq, true_and]
      refine ⟨?_, by omega⟩
      rw [Nat.cast_sub step]
      ring

end

end Chip8.Scheduler
