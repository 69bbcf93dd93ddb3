import Chip8.Proofs.Clock.Phase
import Mathlib.Algebra.Order.Group.MinMax

/-!
# How often a poll runs

In rational time a poll that ends well has dealt with every whole period up to the present. How many
there are is a matter of two timestamps, and the cap decides how many of them are run and how many are
skipped.

Between two polls that end well the periods due span the time that has passed since the largest
timestamp so far, up to less than a period. This is what two schedules with different periods and
phases have in common.
-/

namespace Chip8.Scheduler

theorem ofPeriod_eq_ok_iff {period : Rat} {cap : Option Int} {scheduler : Scheduler Rat} :
    ofPeriod period cap = .ok scheduler ↔
      0 < period ∧ (∀ bound ∈ cap, 1 ≤ bound) ∧ scheduler = { period, cap } := by
  simp only [ofPeriod, ClockNumber.le, ClockNumber.ofNat, Nat.cast_zero, decide_eq_true_eq]
  split
  next notPositive => simp [notPositive]
  next positive =>
    cases cap with
    | none => simp [not_le.mp positive, eq_comm]
    | some bound =>
        dsimp only
        split
        next tooLow => simp [tooLow]
        next room => simp [not_le.mp positive, not_lt.mp room, eq_comm]

theorem ofFrequency_eq_ok_iff {frequency : Rat} {cap : Option Int} {scheduler : Scheduler Rat} :
    ofFrequency frequency cap = .ok scheduler ↔
      0 < frequency ∧ (∀ bound ∈ cap, 1 ≤ bound) ∧ scheduler = { period := 1 / frequency, cap } := by
  simp only [ofFrequency, ClockNumber.le, ClockNumber.ofNat, ClockNumber.div, Nat.cast_zero,
    Nat.cast_one, decide_eq_true_eq]
  split
  next notPositive => simp [notPositive]
  next positive =>
    rw [if_neg (not_le.mp positive).ne']
    simp [ofPeriod_eq_ok_iff, not_le.mp positive]

/-- The whole periods from the last run to the present, if it is not earlier. -/
def due (scheduler : Scheduler Rat) (last now : Rat) : Nat :=
  ⌊(now - last) / scheduler.period⌋.toNat

/-- How many of the periods due may be run in one poll. -/
def allowed (scheduler : Scheduler Rat) (due : Nat) : Nat :=
  match scheduler.cap with
  | none => due
  | some bound => min due bound.toNat

theorem allowed_of_uncapped {scheduler : Scheduler Rat} (uncapped : scheduler.cap = none)
    (due : Nat) : scheduler.allowed due = due := by
  rw [allowed, uncapped]

theorem allowed_of_capped {scheduler : Scheduler Rat} {bound : Int}
    (capped : scheduler.cap = some bound) (due : Nat) :
    scheduler.allowed due = min due bound.toNat := by
  rw [allowed, capped]

theorem allowed_mul_of_cap {scheduler : Scheduler Rat} (positive : 0 < scheduler.period) {bound : Int}
    (capped : scheduler.cap = some bound) (nonneg : 0 ≤ bound) (due : Nat) :
    (scheduler.allowed due : Rat) * scheduler.period =
      min (due * scheduler.period) (bound * scheduler.period) := by
  lift bound to Nat using nonneg
  simp only [allowed_of_capped capped, Int.toNat_natCast, Int.cast_natCast, Nat.cast_min]
  exact min_mul_of_nonneg _ _ positive.le

variable {State Cause : Type} {scheduler : Scheduler Rat} {action : Action State Cause}
  {last now latest : Rat} {state : State} {count : Nat}

/-- The periods due are those that lead from the last run to less than a period before the present, and
there are none if the present is earlier. -/
theorem due_eq (positive : 0 < scheduler.period)
    (moved_le : last + count * scheduler.period ≤ max last now)
    (near : now - (last + count * scheduler.period) < scheduler.period) :
    scheduler.due last now = count := by
  rcases le_or_gt last now with forth | back
  · rw [max_eq_right forth] at moved_le
    have whole : ⌊(now - last) / scheduler.period⌋ = (count : Int) := by
      rw [Int.floor_eq_iff, le_div_iff₀ positive, div_lt_iff₀ positive]
      push_cast
      constructor <;> linarith
    rw [due, whole, Int.toNat_natCast]
  · rw [max_eq_left back.le] at moved_le
    have none : count = 0 := by
      have small : (count : Rat) * scheduler.period ≤ 0 := by linarith
      have := nonpos_of_mul_nonpos_left small positive
      exact_mod_cast le_antisymm this (Nat.cast_nonneg count)
    have early : ⌊(now - last) / scheduler.period⌋ < 0 := by
      rw [Int.floor_lt, div_lt_iff₀ positive]
      simp only [Int.cast_zero, zero_mul]
      linarith
    rw [due, none]
    omega

/-- The rounds of a poll do not pass the cap. -/
theorem Rounds.fired_le {start finish : Midway Rat State}
    (rounds : scheduler.Rounds action now start finish) {bound : Int}
    (capped : scheduler.cap = some bound) : finish.fired ≤ max start.fired bound.toNat := by
  induction rounds with
  | nil midway => exact Nat.le_max_left _ _
  | cons pending ran rest ih =>
      have room := pending.room
      simp only [capReached, capped, decide_eq_false_iff_not] at room
      simp only at ih
      omega

/-- A poll that ends well has run as many of the periods due as the cap allows, has skipped the others,
and has moved the last timestamp by all of them. -/
theorem advance_of_ok (positive : 0 < scheduler.period) (started : scheduler.last = some last)
    (done : (scheduler.advance now action state).outcome = .ok count) :
    count = scheduler.allowed (scheduler.due last now) ∧
      (scheduler.advance now action state).scheduler = { scheduler with
        last := some (last + scheduler.due last now * scheduler.period)
        dropped := scheduler.dropped + (scheduler.due last now - count : Int) } := by
  rcases advance_ends started now action state with ⟨finish, rounds, ends⟩
  rcases rounds.last_eq rfl with ⟨moved, -⟩
  have bound := rounds.last_le
  simp only at moved bound
  generalize scheduler.advance now action state = poll at ends done ⊢
  cases ends with
  | settled early =>
      cases done
      have settled : now - finish.last < scheduler.period := not_le.mp (of_decide_eq_false early)
      rw [moved] at settled bound
      rw [due_eq positive bound settled, moved]
      refine ⟨?_, by simp⟩
      cases capped : scheduler.cap with
      | none => exact (allowed_of_uncapped capped _).symm
      | some most =>
          have inRoom : finish.fired ≤ max 0 most.toNat := rounds.fired_le capped
          rw [allowed_of_capped capped]
          omega
  | skipped dueYet full =>
      have dueYet : scheduler.period ≤ now - finish.last := of_decide_eq_true dueYet
      have rest := Int.sub_floor_div_mul_nonneg (now - finish.last) positive
      have small := Int.sub_floor_div_mul_lt (now - finish.last) positive
      have nonneg : 0 ≤ ⌊(now - finish.last) / scheduler.period⌋ :=
        Int.floor_nonneg.mpr (div_nonneg (positive.le.trans dueYet) positive.le)
      rw [skip_eq positive dueYet] at done ⊢
      cases done
      lift ⌊(now - finish.last) / scheduler.period⌋ to Nat using nonneg with skipped
      push_cast at rest small ⊢
      have further : last + (finish.fired + skipped : Nat) * scheduler.period =
          finish.last + skipped * scheduler.period := by
        rw [moved]
        push_cast
        ring
      have whole : scheduler.due last now = finish.fired + skipped := by
        apply due_eq positive
        · rw [further]
          exact le_max_of_le_right (by linarith)
        · rw [further]
          linarith
      rw [whole, further]
      refine ⟨?_, by simp⟩
      cases capped : scheduler.cap with
      | none => simp only [capReached, capped, Bool.false_eq_true] at full
      | some most =>
          simp only [capReached, capped, decide_eq_true_eq] at full
          have inRoom : finish.fired ≤ max 0 most.toNat := rounds.fired_le capped
          rw [allowed_of_capped capped]
          omega
  | failed pending refused => cases done
  | endless exhausted => cases done

/-- A poll of an action that does not fail ends well. -/
theorem exists_outcome_advance (positive : 0 < scheduler.period) {property : State → Prop}
    (succeeds : ∀ state, property state → ∃ after, action state = (after, .ok ()) ∧ property after)
    (holds : property state) (now : Rat) :
    ∃ count, (scheduler.advance now action state).outcome = .ok count := by
  cases started : scheduler.last with
  | none =>
      rcases succeeds state holds with ⟨after, ran, _⟩
      rw [advance_first started now ran]
      exact ⟨1, rfl⟩
  | some last =>
      have kept : ∀ state, property state → property (action state).1 := by
        intro state holds
        rcases succeeds state holds with ⟨after, ran, keeps⟩
        rwa [ran]
      rcases advance_ends started now action state with ⟨finish, rounds, ends⟩
      have inTime := rounds.fired_ne_budget rfl positive
      rcases succeeds finish.state (rounds.keeps kept holds) with ⟨after, ran, _⟩
      generalize scheduler.advance now action state = poll at ends ⊢
      cases ends with
      | settled early => exact ⟨finish.fired, rfl⟩
      | skipped due full =>
          rw [skip_eq positive (of_decide_eq_true due)]
          exact ⟨finish.fired, rfl⟩
      | failed pending refused => cases ran.symm.trans refused
      | endless exhausted => exact absurd exhausted inTime

/-- A poll of an action that leads back to the same state ends well and leaves this state. -/
theorem exists_advance_of_fixed (positive : 0 < scheduler.period)
    (fixed : action state = (state, .ok ())) (now : Rat) :
    ∃ count, (scheduler.advance now action state).outcome = .ok count ∧
      (scheduler.advance now action state).state = state := by
  have succeeds : ∀ reached, reached = state →
      ∃ after, action reached = (after, .ok ()) ∧ after = state := by
    rintro _ rfl
    exact ⟨_, fixed, rfl⟩
  have kept : ∀ reached, reached = state → (action reached).1 = state := by
    rintro _ rfl
    rw [fixed]
  rcases exists_outcome_advance positive succeeds rfl now with ⟨count, done⟩
  exact ⟨count, done, advance_keeps kept rfl⟩

/-- The last run is less than a period behind a timestamp, and not ahead of it. -/
def Near (scheduler : Scheduler Rat) (latest : Rat) : Prop :=
  ∃ last, scheduler.last = some last ∧ last ≤ latest ∧ latest < last + scheduler.period

/-- A first poll that ends well has run the action once, and the phase begins with it. -/
theorem advance_first_of_ok (unset : scheduler.last = none)
    (done : (scheduler.advance now action state).outcome = .ok count) :
    count = 1 ∧
      (scheduler.advance now action state).scheduler = { scheduler with last := some now } := by
  rcases ran : action state with ⟨after, cause | _⟩
  · rw [advance_first_failed unset now ran] at done
    cases done
  · rw [advance_first unset now ran] at done ⊢
    cases done
    exact ⟨rfl, rfl⟩

theorem near_advance_first (positive : 0 < scheduler.period) (unset : scheduler.last = none)
    (done : (scheduler.advance now action state).outcome = .ok count) :
    (scheduler.advance now action state).scheduler.Near now := by
  rw [(advance_first_of_ok unset done).2]
  exact ⟨now, rfl, le_rfl, lt_add_of_pos_right now positive⟩

theorem due_mul_le (positive : 0 < scheduler.period) (forth : last ≤ now) :
    scheduler.due last now * scheduler.period ≤ now - last := by
  have nonneg : 0 ≤ ⌊(now - last) / scheduler.period⌋ :=
    Int.floor_nonneg.mpr (div_nonneg (sub_nonneg.mpr forth) positive.le)
  have rest := Int.sub_floor_div_mul_nonneg (now - last) positive
  unfold due
  lift ⌊(now - last) / scheduler.period⌋ to Nat using nonneg with whole
  simp only [Int.cast_natCast, Int.toNat_natCast] at rest ⊢
  linarith

theorem lt_due_add_one_mul (positive : 0 < scheduler.period) (last now : Rat) :
    now - last < (scheduler.due last now + 1) * scheduler.period := by
  have small := Int.sub_floor_div_mul_lt (now - last) positive
  have most : (⌊(now - last) / scheduler.period⌋ : Rat) ≤ scheduler.due last now := by
    exact_mod_cast Int.self_le_toNat _
  have := mul_le_mul_of_nonneg_right most positive.le
  linarith

theorem due_eq_zero (positive : 0 < scheduler.period) (early : now < last + scheduler.period) :
    scheduler.due last now = 0 := by
  apply due_eq positive
  · simp
  · simp only [Nat.cast_zero, zero_mul, add_zero]
    linarith

/-- The periods due span the time since the largest timestamp, up to less than a period. -/
theorem abs_due_sub_lt (positive : 0 < scheduler.period) (last_le : last ≤ latest)
    (near : latest < last + scheduler.period) (now : Rat) :
    |scheduler.due last now * scheduler.period - (max latest now - latest)| < scheduler.period := by
  rcases le_or_gt now latest with back | forth
  · rw [due_eq_zero positive (back.trans_lt near), max_eq_left back]
    simpa using positive
  · have lower := lt_due_add_one_mul positive last now
    have upper := due_mul_le positive (last_le.trans forth.le)
    rw [max_eq_right forth.le, abs_lt]
    constructor <;> linarith

/-- A poll that ends well leaves the last run near the largest timestamp. -/
theorem near_advance (positive : 0 < scheduler.period) (near : scheduler.Near latest)
    (done : (scheduler.advance now action state).outcome = .ok count) :
    (scheduler.advance now action state).scheduler.Near (max latest now) := by
  rcases near with ⟨last, started, last_le, near⟩
  rw [(advance_of_ok positive started done).2]
  refine ⟨_, rfl, ?_, ?_⟩
  · rcases le_or_gt now latest with back | forth
    · rw [due_eq_zero positive (back.trans_lt near)]
      simpa using Or.inl last_le
    · have upper := due_mul_le positive (last_le.trans forth.le)
      exact le_max_of_le_right (by linarith)
  · rcases le_or_gt now latest with back | forth
    · rw [due_eq_zero positive (back.trans_lt near), max_eq_left back]
      simpa using near
    · have lower := lt_due_add_one_mul positive last now
      rw [max_eq_right forth.le]
      simp only
      linarith

end Chip8.Scheduler
