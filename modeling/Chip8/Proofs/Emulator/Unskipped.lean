import Chip8.Proofs.Emulator.FrameRate
import Chip8.Proofs.Emulator.InStep
import Mathlib.Data.List.Chain

/-!
# When nothing is skipped

A cap is there for stalls. A host that polls in time is to notice nothing of it, although each poll
finds more than the time since the poll before: up to a period may be left over from then. What is left
over and the gap together hold no more whole periods than a cap that covers the gap alone, for the
processor, and for the timers, whose cap is the one of the processor in ticks, rounded up. So as long as
no gap is longer, neither schedule ever skips a period.

The cap that is taken where none is asked for covers two host frames.
-/

namespace Chip8

namespace Scheduler

variable {State Cause : Type} {scheduler : Scheduler Rat} {action : Action State Cause}
  {last now latest gap : Rat} {state : State} {bound : Int} {count : Nat}

/-- Less than a period is left over, so that no more periods are due than cover the gap, rounded up. -/
theorem due_le_of_gap (positive : 0 < scheduler.period) (last_le : last ≤ latest)
    (near : latest < last + scheduler.period) (forth : latest ≤ now) (inTime : now ≤ latest + gap)
    (covers : gap ≤ bound * scheduler.period) : scheduler.due last now ≤ bound := by
  have spanned := due_mul_le positive (last_le.trans forth)
  have small : scheduler.due last now * scheduler.period < (bound + 1) * scheduler.period := by
    linarith
  have below := lt_of_mul_lt_mul_right small positive.le
  exact Int.lt_add_one_iff.mp (by exact_mod_cast below)

/-- A poll that comes within a gap that the cap covers skips nothing. -/
theorem dropped_advance_of_gap (positive : 0 < scheduler.period) (near : scheduler.Near latest)
    (forth : latest ≤ now) (inTime : now ≤ latest + gap) (capped : scheduler.cap = some bound)
    (covers : gap ≤ bound * scheduler.period)
    (done : (scheduler.advance now action state).outcome = .ok count) :
    (scheduler.advance now action state).scheduler.dropped = scheduler.dropped := by
  rcases near with ⟨last, started, last_le, near⟩
  rcases advance_of_ok positive started done with ⟨allowed, moved⟩
  have room := due_le_of_gap positive last_le near forth inTime covers
  rw [allowed_of_capped capped] at allowed
  rw [moved]
  simp only
  omega

end Scheduler

namespace Emulator

/-- The ticks that cover a cap on cycles take as long as the cycles at least. -/
theorem le_coveringTicks_mul {frequency gap : Rat} {bound : Int} (positive : 0 < frequency)
    (covers : frequency * gap ≤ bound) : gap ≤ coveringTicks frequency bound * (1 / 60) := by
  have ticks : gap * 60 ≤ bound * 60 / frequency := by
    rw [le_div_iff₀ positive]
    linarith
  have rounded : bound * 60 / frequency ≤ (bound * 60 / frequency).ceil := Rat.le_ceil
  have most : ((bound * 60 / frequency).ceil : Rat) ≤ coveringTicks frequency bound :=
    Int.cast_le.mpr (Int.le_max_right _ _)
  linarith

/-- Both schedules have caught up with a timestamp, or begin anew, and have skipped nothing. -/
structure Unskipped (emulator : Emulator Rat) (latest? : Option Rat) : Prop where
  timed : emulator.Timed latest?
  cpuClock : emulator.cpuClock.dropped = 0
  timerClock : emulator.timerClock.dropped = 0

/-- Whatever the emulator did before, once a program was loaded or the phase was forgotten, clock calls
that end well skip nothing if their timestamps never go back and are at most a gap apart. -/
def SkipsNothingWithin (emulator : Emulator Rat) (gap : Rat) : Prop :=
  ∀ (past : List (Call Rat)) (start : Call Rat), start.Restarts (emulator.afterAll past) →
    ∀ polls reached, Clocks polls ((emulator.afterAll past).after start) reached →
      (polls.map Prod.snd).IsChain (fun before next => before ≤ next ∧ next ≤ before + gap) →
        reached.cpuClock.dropped = 0 ∧ reached.timerClock.dropped = 0

variable {frequency gap : Rat} {cap : Int} {log : Log} {emulator reached : Emulator Rat}
  {latest? : Option Rat} {host : Host} {now : Rat} {firing : Firing}

theorem unskipped_after_of_restarts {start : Call Rat} (restarts : start.Restarts emulator) :
    (emulator.after start).Unskipped none := by
  have timed := timed_after_of_restarts restarts
  cases start with
  | load program seed =>
      rcases restarts with ⟨inUse, done⟩
      rcases loads : emulator.load program seed with ⟨loaded, outcome⟩
      rw [loads] at done
      cases done
      rcases load_of_ok loads with ⟨_, _, cpuClock, timerClock, _⟩
      have after : emulator.after (.load program seed) = loaded := congrArg Prod.fst loads
      rw [after] at timed ⊢
      exact ⟨timed, congrArg Scheduler.dropped cpuClock, congrArg Scheduler.dropped timerClock⟩
  | resync => exact ⟨timed, rfl, rfl⟩
  | clock _ _ | step _ => cases restarts

/-- A clock call in time skips nothing, and the next one has as much time again. -/
theorem Unskipped.clock (positive : 0 < frequency) (covers : frequency * gap ≤ cap)
    (alike : emulator.Alike (fresh frequency (some cap) log)) (unskipped : emulator.Unskipped latest?)
    (inTime : ∀ latest ∈ latest?, latest ≤ now ∧ now ≤ latest + gap)
    (done : (emulator.clock host now).outcome = .ok firing) :
    (emulator.clock host now).emulator.Unskipped (some now) := by
  rcases alike.periods_pos positive with ⟨cpuPositive, timerPositive⟩
  have polls := clockDone_of_outcome done
  have timed := timed_clock cpuPositive timerPositive unskipped.timed done
  rcases unskipped with ⟨caughtUp, cpuDropped, timerDropped⟩
  cases caughtUp with
  | unset cpuUnset timerUnset =>
      have cpuBegun := (Scheduler.advance_first_of_ok cpuUnset polls.cycles).2
      have timerBegun := (Scheduler.advance_first_of_ok timerUnset polls.ticks).2
      refine ⟨timed, ?_, ?_⟩
      · rw [polls.cpuClock_eq, cpuPoll, cpuBegun, cpuDropped]
      · rw [polls.timerClock_eq, timerPoll, timerBegun, timerDropped]
  | @near latest cpuNear timerNear =>
      rcases inTime latest rfl with ⟨forth, inTime⟩
      have cpuPeriod : emulator.cpuClock.period = 1 / frequency := alike.cpuClock.period_eq
      have timerPeriod : emulator.timerClock.period = 1 / 60 := alike.timerClock.period_eq
      have cpuCovers : gap ≤ cap * emulator.cpuClock.period := by
        rw [cpuPeriod, mul_one_div, le_div_iff₀ positive]
        linarith
      have timerCovers : gap ≤ coveringTicks frequency cap * emulator.timerClock.period := by
        rw [timerPeriod]
        exact le_coveringTicks_mul positive covers
      have cpuKept := Scheduler.dropped_advance_of_gap cpuPositive cpuNear forth inTime
        alike.cpuClock.cap_eq cpuCovers polls.cycles
      have timerKept := Scheduler.dropped_advance_of_gap timerPositive timerNear forth inTime
        alike.timerClock.cap_eq timerCovers polls.ticks
      refine ⟨?_, ?_, ?_⟩
      · simpa [max_eq_right forth] using timed
      · rw [polls.cpuClock_eq, cpuPoll, cpuKept, cpuDropped]
      · rw [polls.timerClock_eq, timerPoll, timerKept, timerDropped]

/-- Clock calls in time skip nothing. -/
theorem Unskipped.of_clocks (positive : 0 < frequency) (covers : frequency * gap ≤ cap)
    (alike : emulator.Alike (fresh frequency (some cap) log)) (unskipped : emulator.Unskipped latest?)
    {polls : List (Host × Rat)} (clocks : Clocks polls emulator reached)
    (inTime : (latest?.toList ++ polls.map Prod.snd).IsChain
      fun before next => before ≤ next ∧ next ≤ before + gap) :
    reached.cpuClock.dropped = 0 ∧ reached.timerClock.dropped = 0 := by
  induction clocks generalizing latest? with
  | nil emulator => exact ⟨unskipped.cpuClock, unskipped.timerClock⟩
  | @cons host now polls emulator last firing done rest ih =>
      rw [List.map_cons, List.isChain_append] at inTime
      rcases inTime with ⟨_, later, gap⟩
      refine ih ((alike_clock _ _ _).trans alike)
        (unskipped.clock positive covers alike ?_ done) later
      rintro latest ⟨rfl⟩
      exact gap latest rfl now rfl

/-- The cap that covers two host frames is worked out for every frequency and frame rate above zero. -/
theorem exists_defaultCap_eq_ok {frameRate : Rat} (positive : 0 < frameRate) :
    ∃ cap, defaultCap frequency frameRate = .ok cap ∧ 1 ≤ cap ∧
      frequency * (2 / frameRate) ≤ cap := by
  refine ⟨max 1 (frequency * 2 / frameRate).ceil, ?_, Int.le_max_left _ _, ?_⟩
  · simp only [defaultCap, catchUpFrames, ClockNumber.div, ClockNumber.ceil, ClockNumber.ofNat,
      if_neg positive.ne']
    rfl
  · have rounded : frequency * 2 / frameRate ≤ (frequency * 2 / frameRate).ceil := Rat.le_ceil
    have most : ((frequency * 2 / frameRate).ceil : Rat) ≤
        (max 1 (frequency * 2 / frameRate).ceil : Int) :=
      Int.cast_le.mpr (Int.le_max_right _ _)
    rw [← mul_div_assoc]
    exact rounded.trans most

theorem skipsNothingWithin_fresh (positive : 0 < frequency) (covers : frequency * gap ≤ cap)
    (log : Log) : (fresh frequency (some cap) log).SkipsNothingWithin gap := by
  intro past start restarts polls reached clocks inTime
  have begun : ((fresh frequency (some cap) log).afterAll past |>.after start).Alike
      (fresh frequency (some cap) log) :=
    (alike_after _ start).trans (alike_afterAll _ past)
  exact (unskipped_after_of_restarts restarts).of_clocks positive covers begun clocks inTime

/-- A cap that covers the gaps between clock calls never skips anything. An emulator can be made for
every frequency above zero and every cap that is at least one and covers a gap, and it skips nothing as
long as no gap is longer. This is so for two host frames if the cap is the one taken by default. -/
theorem covering_cap_skips_nothing (positive : 0 < frequency) (log : Log) :
    (∀ (gap : Rat) (cap : Int), 0 ≤ gap → max 1 (frequency * gap) ≤ cap →
      ∃ emulator, create frequency (some cap) log = .ok emulator ∧
        emulator.SkipsNothingWithin gap) ∧
    ∀ frameRate : Rat, 0 < frameRate →
      ∃ cap emulator, defaultCap frequency frameRate = .ok cap ∧
        create frequency (some cap) log = .ok emulator ∧
        emulator.SkipsNothingWithin (2 / frameRate) := by
  have made {cap : Int} (room : 1 ≤ cap) :
      create frequency (some cap) log = .ok (fresh frequency (some cap) log) :=
    create_eq_ok_iff.mpr ⟨positive, by simpa using room, rfl⟩
  constructor
  · intro gap cap _ covers
    have room : 1 ≤ cap := by exact_mod_cast (le_max_left _ _).trans covers
    exact ⟨_, made room, skipsNothingWithin_fresh positive ((le_max_right _ _).trans covers) log⟩
  · intro frameRate framed
    rcases exists_defaultCap_eq_ok framed with ⟨cap, worked, room, covers⟩
    exact ⟨cap, _, worked, made room, skipsNothingWithin_fresh positive covers log⟩

/-- At five hundred cycles a second, sixteen or seventeen cycles fall into a thirtieth of a second. A cap
of seventeen covers them. -/
theorem covering_cap_skips_nothing_of_loop :
    ∃ emulator reached : Emulator Rat, ∃ polls,
      create 500 (some 17) {} = .ok emulator ∧
      polls.map Prod.snd = [0, 1 / 30, 1 / 15] ∧
      Clocks polls (emulator.after (.load Machine.loop none)) reached ∧
      reached.cpuClock.dropped = 0 ∧ reached.timerClock.dropped = 0 := by
  have general := (covering_cap_skips_nothing (show (0 : Rat) < 500 by norm_num) {}).1
  rcases general (1 / 30) 17 (by norm_num) (by norm_num) with ⟨emulator, made, skipsNothing⟩
  rcases create_eq_ok_iff.mp made with ⟨positive, _, rfl⟩
  rcases (alike_refl (fresh 500 (some 17) {})).periods_pos positive with ⟨cpuPositive, timerPositive⟩
  rcases exists_driven_of_loop _ cpuPositive timerPositive [0, 1 / 30, 1 / 15] with
    ⟨loaded, _, reached, _, loads, driven, _⟩
  have restarts : (Call.load Machine.loop none).Restarts (fresh 500 (some 17) {}) :=
    ⟨_, congrArg Prod.snd loads⟩
  have after : (fresh 500 (some 17) {}).after (.load Machine.loop none) = loaded :=
    congrArg Prod.fst loads
  rcases driven.exists_clocks with ⟨polls, times, clocks⟩
  rw [← after] at clocks
  have inTime : (polls.map Prod.snd).IsChain
      fun before next => before ≤ next ∧ next ≤ before + 1 / 30 := by
    rw [times]
    norm_num
  exact ⟨_, reached, polls, made, times, clocks,
    skipsNothing [] (.load Machine.loop none) restarts polls reached clocks inTime⟩

end Emulator

end Chip8
