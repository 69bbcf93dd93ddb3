import Chip8.Proofs.Emulator.Idle

/-!
# Processor and timers stay in step

The processor and the timers of an emulator run at different frequencies, begin at one timestamp, and
are polled with the same timestamps. In each clock call both cover the same span of time, the time
since the largest timestamp so far, up to less than one period of their own; and if a stall was so long
that periods are skipped, the caps cover the same span up to less than one tick. So the time that the
cycles of a clock call stand for and the time that its ticks stand for differ by less than a cycle and
a tick.
-/

namespace Chip8

/-- What is due in two schedules that have caught up with one timestamp spans the same time, up to less
than one period of each. -/
theorem Scheduler.abs_due_sub_due_lt {scheduler other : Scheduler Rat} {last otherLast latest : Rat}
    (positive : 0 < scheduler.period) (otherPositive : 0 < other.period) (last_le : last ≤ latest)
    (near : latest < last + scheduler.period) (otherLast_le : otherLast ≤ latest)
    (otherNear : latest < otherLast + other.period) (now : Rat) :
    |scheduler.due last now * scheduler.period - other.due otherLast now * other.period| <
      scheduler.period + other.period := by
  have spans := abs_due_sub_lt positive last_le near now
  have otherSpans := abs_due_sub_lt otherPositive otherLast_le otherNear now
  rw [abs_sub_comm] at otherSpans
  exact (abs_sub_le _ (max latest now - latest) _).trans_lt (add_lt_add spans otherSpans)

namespace Emulator

/-- The last runs of both schedules are near one timestamp, or there were none since both began anew. -/
inductive Timed (emulator : Emulator Rat) : Option Rat → Prop where
  | unset (cpuClock : emulator.cpuClock.last = none) (timerClock : emulator.timerClock.last = none) :
    Timed emulator none
  | near {latest : Rat} (cpuClock : emulator.cpuClock.Near latest)
    (timerClock : emulator.timerClock.Near latest) : Timed emulator (some latest)

variable {frequency : Rat} {cap : Option Int} {log : Log} {emulator reached : Emulator Rat}
  {host : Host} {now : Rat} {firing : Firing}

theorem timed_after_of_restarts {start : Call Rat} (restarts : start.Restarts emulator) :
    (emulator.after start).Timed none := by
  cases start with
  | load program seed =>
      rcases restarts with ⟨inUse, done⟩
      rcases loads : emulator.load program seed with ⟨loaded, outcome⟩
      rw [loads] at done
      cases done
      rcases load_of_ok loads with ⟨_, _, cpuClock, timerClock, _⟩
      have after : emulator.after (.load program seed) = loaded := congrArg Prod.fst loads
      rw [after]
      exact .unset (congrArg Scheduler.last cpuClock) (congrArg Scheduler.last timerClock)
  | resync => exact .unset rfl rfl
  | clock _ _ | step _ => cases restarts

/-- A clock call that ends well lets both schedules catch up with the largest timestamp. -/
theorem timed_clock (cpuPositive : 0 < emulator.cpuClock.period)
    (timerPositive : 0 < emulator.timerClock.period) {latest? : Option Rat}
    (timed : emulator.Timed latest?) (done : (emulator.clock host now).outcome = .ok firing) :
    (emulator.clock host now).emulator.Timed (some (latest?.elim now (max · now))) := by
  have polls := clockDone_of_outcome done
  cases timed with
  | unset cpuUnset timerUnset =>
      refine .near ?_ ?_
      · rw [polls.cpuClock_eq]
        exact Scheduler.near_advance_first cpuPositive cpuUnset polls.cycles
      · rw [polls.timerClock_eq]
        exact Scheduler.near_advance_first timerPositive timerUnset polls.ticks
  | near cpuNear timerNear =>
      refine .near ?_ ?_
      · rw [polls.cpuClock_eq]
        exact Scheduler.near_advance cpuPositive cpuNear polls.cycles
      · rw [polls.timerClock_eq]
        exact Scheduler.near_advance timerPositive timerNear polls.ticks

/-- The ticks that cover a cap on cycles take as long as the cycles, up to less than a tick. -/
theorem abs_sub_coveringTicks_lt (positive : 0 < frequency) {bound : Int} (room : 1 ≤ bound) :
    |(bound : Rat) * (1 / frequency) - coveringTicks frequency bound * (1 / 60)| < 1 / 60 := by
  have some : (0 : Rat) < bound * 60 / frequency := by
    have : (1 : Rat) ≤ bound := by exact_mod_cast room
    positivity
  have least : 1 ≤ (bound * 60 / frequency).ceil := Int.add_one_le_iff.mpr (Rat.lt_ceil_iff.mpr some)
  have above := Rat.le_ceil (x := bound * 60 / frequency)
  have below := Rat.ceil_lt (x := bound * 60 / frequency)
  have same : (bound : Rat) * (1 / frequency) = bound * 60 / frequency * (1 / 60) := by ring
  rw [coveringTicks, max_eq_right least, same, abs_lt]
  constructor <;> linarith

theorem Timed.exists_of_clocks (cpuPositive : 0 < emulator.cpuClock.period)
    (timerPositive : 0 < emulator.timerClock.period) {latest? : Option Rat}
    (timed : emulator.Timed latest?) {polls : List (Host × Rat)}
    (clocks : Clocks polls emulator reached) : ∃ latest?, reached.Timed latest? := by
  induction clocks generalizing latest? with
  | nil emulator => exact ⟨latest?, timed⟩
  | @cons host now polls emulator last firing done rest ih =>
      have alike := emulator.alike_clock host now
      apply ih _ _ (timed_clock cpuPositive timerPositive timed done)
      · rwa [alike.cpuClock.period_eq]
      · rwa [alike.timerClock.period_eq]

/-- The caps keep close to each other what is due in both schedules. -/
theorem abs_allowed_sub_allowed_lt (positive : 0 < frequency) (room : ∀ bound ∈ cap, 1 ≤ bound)
    (alike : emulator.Alike (fresh frequency cap log)) {cycles ticks : Nat}
    (close : |cycles * emulator.cpuClock.period - ticks * emulator.timerClock.period| <
      emulator.cpuClock.period + emulator.timerClock.period) :
    |emulator.cpuClock.allowed cycles * emulator.cpuClock.period -
        emulator.timerClock.allowed ticks * emulator.timerClock.period| <
      emulator.cpuClock.period + emulator.timerClock.period := by
  have cpuCap : emulator.cpuClock.cap = cap := alike.cpuClock.cap_eq
  have timerCap : emulator.timerClock.cap = cap.map (coveringTicks frequency) :=
    alike.timerClock.cap_eq
  rcases alike.periods_pos positive with ⟨cpuPositive, timerPositive⟩
  cases cap with
  | none => rwa [Scheduler.allowed_of_uncapped cpuCap, Scheduler.allowed_of_uncapped timerCap]
  | some bound =>
      have room : 1 ≤ bound := room bound rfl
      have covers : |(bound : Rat) * emulator.cpuClock.period -
          coveringTicks frequency bound * emulator.timerClock.period| <
            emulator.timerClock.period := by
        rw [alike.cpuClock.period_eq, alike.timerClock.period_eq]
        exact abs_sub_coveringTicks_lt positive room
      rw [Scheduler.allowed_mul_of_cap cpuPositive cpuCap (by omega),
        Scheduler.allowed_mul_of_cap timerPositive timerCap (coveringTicks_pos _ _).le]
      -- A minimum of two spans moves no further than one of the spans does.
      apply (abs_min_sub_min_le_max _ _ _ _).trans_lt
      exact max_lt close (covers.trans (lt_add_of_pos_left _ cpuPositive))

/-- Cycles and ticks of a clock call stand for the same time, up to less than a cycle and a tick. -/
theorem Timed.abs_sub_lt (positive : 0 < frequency) (room : ∀ bound ∈ cap, 1 ≤ bound)
    (alike : emulator.Alike (fresh frequency cap log)) {latest? : Option Rat}
    (timed : emulator.Timed latest?) (done : (emulator.clock host now).outcome = .ok firing) :
    |firing.cycles * emulator.cpuClock.period - firing.ticks * emulator.timerClock.period| <
      emulator.cpuClock.period + emulator.timerClock.period := by
  rcases alike.periods_pos positive with ⟨cpuPositive, timerPositive⟩
  have polls := clockDone_of_outcome done
  cases timed with
  | unset cpuUnset timerUnset =>
      rw [(Scheduler.advance_first_of_ok cpuUnset polls.cycles).1,
        (Scheduler.advance_first_of_ok timerUnset polls.ticks).1, abs_lt]
      constructor <;> push_cast <;> linarith
  | @near latest cpuNear timerNear =>
      rcases cpuNear with ⟨cpuLast, cpuStarted, cpuLast_le, cpuNear⟩
      rcases timerNear with ⟨timerLast, timerStarted, timerLast_le, timerNear⟩
      rw [(Scheduler.advance_of_ok cpuPositive cpuStarted polls.cycles).1,
        (Scheduler.advance_of_ok timerPositive timerStarted polls.ticks).1]
      apply abs_allowed_sub_allowed_lt positive room alike
      exact Scheduler.abs_due_sub_due_lt cpuPositive timerPositive cpuLast_le cpuNear timerLast_le
        timerNear now

/-- Processor and timers stay in step. An emulator can be made for every frequency above zero and every
cap from one on, and in each clock call of a row of calls that end well since a program was loaded or
the phase was forgotten, its cycles and its ticks stand for the same time up to less than a cycle and a
tick, in whatever order the timestamps come and however long the host stalls. -/
theorem cycles_in_step_with_ticks (positive : 0 < frequency) (room : ∀ bound ∈ cap, 1 ≤ bound)
    (log : Log) :
    ∃ emulator, create frequency cap log = .ok emulator ∧
      ∀ (past : List (Call Rat)) (start : Call Rat), start.Restarts (emulator.afterAll past) →
        ∀ polls reached, Clocks polls ((emulator.afterAll past).after start) reached →
          ∀ host now firing, (reached.clock host now).outcome = .ok firing →
            |firing.cycles / frequency - firing.ticks / 60| < 1 / frequency + 1 / 60 := by
  refine ⟨_, create_eq_ok_iff.mpr ⟨positive, room, rfl⟩, ?_⟩
  intro past start restarts polls reached clocks host now firing done
  have begun : ((fresh frequency cap log).afterAll past |>.after start).Alike
      (fresh frequency cap log) :=
    (alike_after _ start).trans (alike_afterAll _ past)
  rcases begun.periods_pos positive with ⟨cpuPositive, timerPositive⟩
  rcases (timed_after_of_restarts restarts).exists_of_clocks cpuPositive timerPositive clocks with
    ⟨latest?, timed⟩
  have alike := clocks.alike.trans begun
  have close := timed.abs_sub_lt positive room alike done
  have cpuPeriod : reached.cpuClock.period = 1 / frequency := alike.cpuClock.period_eq
  have timerPeriod : reached.timerClock.period = 1 / 60 := alike.timerClock.period_eq
  rwa [cpuPeriod, timerPeriod, ← div_eq_mul_one_div, ← div_eq_mul_one_div] at close

/-- After a stall of ten seconds sixteen cycles and two ticks are caught up, about a thirtieth of a
second each. -/
theorem cycles_in_step_with_ticks_of_stall :
    ∃ emulator reached : Emulator Rat, create 500 (some 16) {} = .ok emulator ∧
      Clocks [({}, 0)] (emulator.after (.load Machine.loop none)) reached ∧
      (reached.clock {} 10).outcome = .ok ⟨16, 2⟩ ∧
      |((16 : Nat) : Rat) / 500 - (2 : Nat) / 60| < 1 / 500 + 1 / 60 := by
  have room : ∀ bound ∈ some (16 : Int), 1 ≤ bound := by simp
  rcases cycles_in_step_with_ticks (show (0 : Rat) < 500 by norm_num) room {} with
    ⟨emulator, made, inStep⟩
  rcases create_eq_ok_iff.mp made with ⟨positive, _, rfl⟩
  rcases exists_load_loop (fresh 500 (some 16) {}) {} with
    ⟨loaded, done, cpuClock, timerClock, _, idle⟩
  have restarts : (Call.load Machine.loop none).Restarts (fresh 500 (some 16) {}) :=
    ⟨_, congrArg Prod.snd done⟩
  have after : (fresh 500 (some 16) {}).after (.load Machine.loop none) = loaded :=
    congrArg Prod.fst done
  have cpuPositive : 0 < loaded.cpuClock.period := by
    rw [cpuClock]
    decide +kernel
  have timerPositive : 0 < loaded.timerClock.period := by
    rw [timerClock]
    decide +kernel
  rcases exists_clock_of_idle cpuPositive timerPositive rfl rfl idle 0 with
    ⟨firing, first, machine, _⟩
  have polls := clockDone_of_outcome first
  have cpuStarted := polls.cpuClock_eq.trans
    (Scheduler.advance_first_of_ok (congrArg Scheduler.last cpuClock) polls.cycles).2
  have timerStarted := polls.timerClock_eq.trans
    (Scheduler.advance_first_of_ok (congrArg Scheduler.last timerClock) polls.ticks).2
  generalize reached_eq : (loaded.clock {} 0).emulator = reached at machine cpuStarted timerStarted
  rw [cpuClock] at cpuStarted
  rw [timerClock] at timerStarted
  have again : (reached.lent {}).Idle := by
    rwa [lent_eq_of_machine_eq_lent machine rfl rfl]
  have second := outcome_clock_of_idle (by rw [cpuStarted]; decide +kernel)
    (by rw [timerStarted]; decide +kernel) rfl rfl again (congrArg Scheduler.last cpuStarted)
    (congrArg Scheduler.last timerStarted) 10
  have sixteen : reached.cpuClock.allowed (reached.cpuClock.due 0 10) = 16 := by
    rw [cpuStarted]
    decide +kernel
  have two : reached.timerClock.allowed (reached.timerClock.due 0 10) = 2 := by
    rw [timerStarted]
    decide +kernel
  rw [sixteen, two] at second
  have clocks : Clocks [({}, 0)] ((fresh 500 (some 16) {}).after (.load Machine.loop none))
      reached := by
    rw [after, ← reached_eq]
    exact .cons first (.nil _)
  exact ⟨_, reached, made, clocks, second,
    inStep [] (.load Machine.loop none) restarts [({}, 0)] reached clocks {} 10 ⟨16, 2⟩ second⟩

end Emulator

end Chip8
