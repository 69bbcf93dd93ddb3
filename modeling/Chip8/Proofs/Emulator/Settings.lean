import Chip8.Proofs.Clock.Poll
import Chip8.Proofs.Emulator.Call

/-!
# What calls do not change

The frequency of an emulator and the periods and caps of its two schedules are given when it is made.
No call of the host changes them, whether it succeeds or fails.
-/

namespace Chip8

variable {Time State Cause : Type}

namespace Scheduler

/-- Another scheduler has the same period and the same cap. -/
structure Alike (scheduler other : Scheduler Time) : Prop where
  period_eq : scheduler.period = other.period
  cap_eq : scheduler.cap = other.cap

theorem alike_refl (scheduler : Scheduler Time) : scheduler.Alike scheduler := ⟨rfl, rfl⟩

theorem Alike.trans {scheduler other third : Scheduler Time} (first : scheduler.Alike other)
    (second : other.Alike third) : scheduler.Alike third :=
  ⟨first.period_eq.trans second.period_eq, first.cap_eq.trans second.cap_eq⟩

theorem alike_reset (scheduler : Scheduler Time) : scheduler.reset.Alike scheduler := ⟨rfl, rfl⟩

/-- Without phase and count, schedulers with one period and one cap are the same. -/
theorem Alike.reset_eq {scheduler other : Scheduler Time} (alike : scheduler.Alike other) :
    scheduler.reset = other.reset := by
  rcases scheduler with ⟨period, cap, last, dropped⟩
  rcases other with ⟨otherPeriod, otherCap, otherLast, otherDropped⟩
  rcases alike with ⟨rfl, rfl⟩
  rfl

variable [ClockNumber Time]

theorem alike_skip (scheduler : Scheduler Time) (last now : Time) (state : State) (fired : Nat) :
    (scheduler.skip last now state fired : Poll Time State Cause).scheduler.Alike scheduler := by
  unfold skip
  split <;> exact ⟨rfl, rfl⟩

theorem alike_advance (scheduler : Scheduler Time) (now : Time) (action : Action State Cause)
    (state : State) : (scheduler.advance now action state).scheduler.Alike scheduler := by
  cases started : scheduler.last with
  | none =>
      rcases ran : action state with ⟨after, cause | _⟩
      · rw [advance_first_failed started now ran]
        exact scheduler.alike_refl
      · rw [advance_first started now ran]
        exact ⟨rfl, rfl⟩
  | some last =>
      rcases advance_ends started now action state with ⟨finish, _, ends⟩
      generalize scheduler.advance now action state = poll at ends ⊢
      cases ends with
      | skipped due full => exact scheduler.alike_skip _ _ _ _
      | _ => exact ⟨rfl, rfl⟩

end Scheduler

namespace Emulator

/-- Another emulator has the same frequency, periods and caps. -/
structure Alike (emulator other : Emulator Time) : Prop where
  frequency_eq : emulator.frequency = other.frequency
  cpuClock : emulator.cpuClock.Alike other.cpuClock
  timerClock : emulator.timerClock.Alike other.timerClock

theorem alike_refl (emulator : Emulator Time) : emulator.Alike emulator :=
  ⟨rfl, emulator.cpuClock.alike_refl, emulator.timerClock.alike_refl⟩

theorem Alike.trans {emulator other third : Emulator Time} (first : emulator.Alike other)
    (second : other.Alike third) : emulator.Alike third :=
  ⟨first.frequency_eq.trans second.frequency_eq, first.cpuClock.trans second.cpuClock,
    first.timerClock.trans second.timerClock⟩

theorem alike_resync (emulator : Emulator Time) : emulator.resync.Alike emulator :=
  ⟨rfl, emulator.cpuClock.alike_reset, emulator.timerClock.alike_reset⟩

theorem alike_load (emulator : Emulator Time) (program : List UInt8) (seed : Option Int) :
    (emulator.load program seed).1.Alike emulator := by
  unfold load
  split
  next => exact emulator.alike_refl
  next memory fits =>
    simp only
    split
    next => exact emulator.alike_refl
    next random started => exact (alike_resync _).trans ⟨rfl, ⟨rfl, rfl⟩, ⟨rfl, rfl⟩⟩

theorem alike_step (emulator : Emulator Time) (host : Host) :
    (emulator.step host).emulator.Alike emulator := by
  unfold step
  split
  next => exact emulator.alike_refl
  next lent attached => split <;> exact ⟨rfl, ⟨rfl, rfl⟩, ⟨rfl, rfl⟩⟩

variable [ClockNumber Time]

theorem alike_clock (emulator : Emulator Time) (host : Host) (now : Time) :
    (emulator.clock host now).emulator.Alike emulator := by
  have ends := emulator.clock_ends host now
  generalize emulator.clock host now = called at ends ⊢
  cases ends with
  | refused _ => exact emulator.alike_refl
  | @stopped lent _ _ _ _ cpu =>
      have polled := emulator.cpuClock.alike_advance now cycleAction lent
      rw [cpu] at polled
      exact ⟨rfl, polled, emulator.timerClock.alike_refl⟩
  | @unticked lent reached _ _ _ _ _ _ cpu timers | @done lent reached _ _ _ _ _ _ cpu timers =>
      have polled := emulator.cpuClock.alike_advance now cycleAction lent
      have ticked := emulator.timerClock.alike_advance now tickAction reached
      rw [cpu] at polled
      rw [timers] at ticked
      exact ⟨rfl, polled, ticked⟩

/-- No call changes the frequency, a period or a cap. -/
theorem alike_after (emulator : Emulator Time) (call : Call Time) :
    (emulator.after call).Alike emulator := by
  cases call with
  | load program seed => exact emulator.alike_load program seed
  | clock host now => exact emulator.alike_clock host now
  | step host => exact emulator.alike_step host
  | resync => exact emulator.alike_resync

theorem alike_afterAll (emulator : Emulator Time) (calls : List (Call Time)) :
    (emulator.afterAll calls).Alike emulator := by
  have kept : ∀ (reached : Emulator Time) (call : Call Time), reached.Alike emulator →
      (reached.after call).Alike emulator :=
    fun reached call alike => (reached.alike_after call).trans alike
  exact afterAll_keeps kept emulator.alike_refl calls

end Emulator

end Chip8
