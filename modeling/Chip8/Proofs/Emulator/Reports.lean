import Chip8.Proofs.Clock.Owed
import Chip8.Proofs.Emulator.Unskipped

/-!
# Skipped periods are reported once

When a host stalls for longer than the cap of a schedule covers, whole periods are skipped, and the clock
call that skips them writes to the log how many there are. A poll that fails skips nothing: the periods
beyond the cap are skipped at its end, when all runs have gone well. So what is skipped in a clock call
is what was due and is not run in a call that ends well, and the reports since the schedules began anew
add up to what both have counted.
-/

namespace Chip8

/-- The number of skipped periods that a notice reports. -/
def Notice.skipped? : Notice → Option Int
  | stalled skipped => some skipped
  | _ => none

namespace Log

/-- The numbers of skipped periods reported after the first notices. -/
def reports (log : Log) (before : Nat) : List Int :=
  (log.notices.toList.drop before).filterMap Notice.skipped?

theorem threshold_write (log : Log) (notice : Notice) : (log.write notice).threshold = log.threshold := by
  unfold write
  split <;> rfl

theorem threshold_writeAll (log : Log) (notices : List Notice) :
    (log.writeAll notices).threshold = log.threshold := by
  induction notices generalizing log with
  | nil => rfl
  | cons notice rest ih => exact (ih _).trans (log.threshold_write notice)

end Log

namespace Emulator

section

variable {Time : Type}

theorem threshold_load (emulator : Emulator Time) (program : List UInt8) (seed : Option Int) :
    (emulator.load program seed).1.log.threshold = emulator.log.threshold := by
  unfold load
  split
  next => rfl
  next memory fits =>
    simp only
    split
    next => rfl
    next random started => exact Log.threshold_writeAll _ _

theorem threshold_step (emulator : Emulator Time) (host : Host) :
    (emulator.step host).emulator.log.threshold = emulator.log.threshold := by
  unfold step
  split
  next => rfl
  next lent attached => split <;> rfl

variable [ClockNumber Time]

theorem threshold_clock (emulator : Emulator Time) (host : Host) (now : Time) :
    (emulator.clock host now).emulator.log.threshold = emulator.log.threshold := by
  have ends := emulator.clock_ends host now
  generalize emulator.clock host now = called at ends ⊢
  cases ends with
  | refused _ | stopped _ _ | unticked _ _ _ => rfl
  | done _ _ _ =>
      dsimp only
      split
      next => rfl
      next => exact Log.threshold_write _ _

/-- No call changes which notices are written. -/
theorem threshold_after (emulator : Emulator Time) (call : Call Time) :
    (emulator.after call).log.threshold = emulator.log.threshold := by
  cases call with
  | load program seed =>
      have loads : emulator.after (.load program seed) = (emulator.load program seed).1 := rfl
      rw [loads, threshold_load]
  | clock host now => exact emulator.threshold_clock host now
  | step host => exact emulator.threshold_step host
  | resync => rfl

theorem threshold_afterAll (emulator : Emulator Time) (calls : List (Call Time)) :
    (emulator.afterAll calls).log.threshold = emulator.log.threshold := by
  have kept : ∀ (reached : Emulator Time) (call : Call Time),
      reached.log.threshold = emulator.log.threshold →
        (reached.after call).log.threshold = emulator.log.threshold :=
    fun reached call same => (reached.threshold_after call).trans same
  exact afterAll_keeps kept rfl calls

end

variable {emulator : Emulator Rat} {host : Host} {now : Rat}

/-- The periods that a clock call skips: those that are owed and not run, if the call ends well. -/
def skipped (emulator : Emulator Rat) (host : Host) (now : Rat) : Nat :=
  match (emulator.clock host now).outcome with
  | .error _ => 0
  | .ok firing =>
    (emulator.cpuClock.owed now - firing.cycles) + (emulator.timerClock.owed now - firing.ticks)

/-- The calls of clock at timestamps. -/
def clockCalls (polls : List (Host × Rat)) : List (Call Rat) :=
  polls.map fun (host, now) => .clock host now

/-- A clock call counts what it skips, and writes it to the log if it is anything. -/
theorem reports_clock (cpuPositive : 0 < emulator.cpuClock.period)
    (timerPositive : 0 < emulator.timerClock.period)
    (heard : Level.warning.passes emulator.log.threshold) (host : Host) (now : Rat) :
    (emulator.clock host now).emulator.dropped = emulator.dropped + emulator.skipped host now ∧
      (emulator.clock host now).emulator.log.notices.toList = emulator.log.notices.toList ++
        if emulator.skipped host now = 0 then [] else [.stalled (emulator.skipped host now)] := by
  have ends := emulator.clock_ends host now
  generalize owing : emulator.skipped host now = skips
  unfold skipped at owing
  generalize emulator.clock host now = called at ends owing ⊢
  cases ends with
  | refused _ =>
      cases owing
      simp
  | stopped attached cpu =>
      cases owing
      rcases Scheduler.advance_of_error cpuPositive (congrArg Poll.outcome cpu) with
        ⟨_, _, _, _, _, _, _, unskipped⟩
      rw [cpu] at unskipped
      simpa [dropped] using unskipped
  | unticked attached cpu timers =>
      rcases Scheduler.advance_of_error timerPositive (congrArg Poll.outcome timers) with
        ⟨_, cause, _, rfl, _⟩
      exact absurd timers advance_tickAction_ne_action
  | @done lent reached ticked cpuClock timerClock cycles ticks attached cpu timers =>
      have cpuSkips := (Scheduler.dropped_advance_of_ok cpuPositive (congrArg Poll.outcome cpu)).2
      have timerSkips := (Scheduler.dropped_advance_of_ok timerPositive (congrArg Poll.outcome timers)).2
      rw [cpu] at cpuSkips
      rw [timers] at timerSkips
      dsimp only at cpuSkips timerSkips owing ⊢
      have counted : cpuClock.dropped + timerClock.dropped = emulator.dropped + skips := by
        rw [cpuSkips, timerSkips, dropped, ← owing]
        push_cast
        ring
      refine ⟨counted, ?_⟩
      rw [counted, add_sub_cancel_left]
      by_cases none : skips = 0
      · simp [none]
      · have written : (Notice.stalled skips).level.passes emulator.log.threshold := heard
        rw [if_neg (by omega), if_neg none, Log.write, if_pos written, Array.toList_push]

/-- Clock calls write nothing else than such reports, and count what they report. -/
theorem reports_clockCalls (cpuPositive : 0 < emulator.cpuClock.period)
    (timerPositive : 0 < emulator.timerClock.period)
    (heard : Level.warning.passes emulator.log.threshold) (polls : List (Host × Rat)) :
    ∃ written, (emulator.afterAll (clockCalls polls)).log.notices.toList =
        emulator.log.notices.toList ++ written ∧
      (emulator.afterAll (clockCalls polls)).dropped =
        emulator.dropped + (written.filterMap Notice.skipped?).sum := by
  induction polls generalizing emulator with
  | nil => exact ⟨[], by simp [clockCalls, afterAll], by simp [clockCalls, afterAll]⟩
  | cons poll polls ih =>
      rcases poll with ⟨host, now⟩
      have alike := emulator.alike_clock host now
      rcases reports_clock cpuPositive timerPositive heard host now with ⟨counted, reported⟩
      rw [← alike.cpuClock.period_eq] at cpuPositive
      rw [← alike.timerClock.period_eq] at timerPositive
      rw [← emulator.threshold_clock host now] at heard
      rcases ih cpuPositive timerPositive heard with ⟨written, later, sum⟩
      refine ⟨(if emulator.skipped host now = 0 then [] else [.stalled (emulator.skipped host now)]) ++
        written, ?_, ?_⟩
      · rw [← List.append_assoc, ← reported]
        exact later
      · have total : (emulator.afterAll (clockCalls ((host, now) :: polls))).dropped =
            emulator.dropped + emulator.skipped host now + (written.filterMap Notice.skipped?).sum := by
          rw [← counted]
          exact sum
        rw [total, List.filterMap_append, List.sum_append, add_assoc]
        split
        next none => simp [none]
        next some => simp [Notice.skipped?]

/-- Every skipped tick is reported once. An emulator whose log takes warnings may have done anything
before a program was loaded or the phase was forgotten. Whatever clock calls come then, failing ones
included, the reports written since add up to what both schedules have counted, and a clock call writes a
report exactly if it skips a period that is due, of as many as it skips. -/
theorem skipped_ticks_are_reported_once {frequency : Rat} {cap : Option Int} {log : Log}
    {made : Emulator Rat} (isMade : create frequency cap log = .ok made)
    (heard : Level.warning.passes log.threshold) (past : List (Call Rat)) {start : Call Rat}
    (restarts : start.Restarts (made.afterAll past)) (polls : List (Host × Rat)) :
    let begun := (made.afterAll past).after start
    let reached := begun.afterAll (clockCalls polls)
    (reached.log.reports begun.log.notices.size).sum =
        reached.cpuClock.dropped + reached.timerClock.dropped ∧
      ∀ host now,
        (reached.clock host now).emulator.dropped = reached.dropped + reached.skipped host now ∧
        (reached.clock host now).emulator.log.notices.toList = reached.log.notices.toList ++
          if reached.skipped host now = 0 then [] else [.stalled (reached.skipped host now)] := by
  intro begun reached
  rcases create_eq_ok_iff.mp isMade with ⟨positive, _, rfl⟩
  have beginsAlike : begun.Alike (fresh frequency cap log) :=
    (alike_after _ start).trans (alike_afterAll _ past)
  have reachesAlike : reached.Alike (fresh frequency cap log) :=
    (alike_afterAll _ _).trans beginsAlike
  have beginsHeard : Level.warning.passes begun.log.threshold := by
    rw [threshold_after, threshold_afterAll]
    exact heard
  have reachesHeard : Level.warning.passes reached.log.threshold := by
    rw [threshold_afterAll]
    exact beginsHeard
  rcases beginsAlike.periods_pos positive with ⟨cpuPositive, timerPositive⟩
  constructor
  · have unskipped := unskipped_after_of_restarts restarts
    have none : begun.dropped = 0 := by
      rw [dropped, unskipped.cpuClock, unskipped.timerClock, add_zero]
    rcases reports_clockCalls cpuPositive timerPositive beginsHeard polls with ⟨written, reported, sum⟩
    rw [none, zero_add] at sum
    rw [Log.reports, reported, ← Array.length_toList, List.drop_left]
    exact sum.symm
  · rcases reachesAlike.periods_pos positive with ⟨cpuPositive, timerPositive⟩
    exact reports_clock cpuPositive timerPositive reachesHeard

/-- A host lends a screen that is too small, then clocks a program that jumps to itself, and stalls for
ten seconds. What is skipped then is reported in one line. -/
theorem skipped_ticks_are_reported_once_of_stall :
    ∃ begun reached : Emulator Rat,
      begun = (fresh 500 (some 16) {}).after (.load Machine.loop none) ∧
      reached = begun.afterAll (clockCalls [({ screen := .blank 8 8 }, 0), ({}, 0), ({}, 10)]) ∧
      reached.log.reports begun.log.notices.size = [5582] ∧
      reached.cpuClock.dropped + reached.timerClock.dropped = 5582 := by
  have room : ∀ bound ∈ some (16 : Int), 1 ≤ bound := by simp
  have made : create 500 (some 16) {} = .ok (fresh 500 (some 16) {}) :=
    create_eq_ok_iff.mpr ⟨by norm_num, room, rfl⟩
  rcases exists_load_loop (fresh 500 (some 16) {}) {} with ⟨_, done, _⟩
  have restarts : (Call.load Machine.loop none).Restarts (fresh 500 (some 16) {}) :=
    ⟨_, congrArg Prod.snd done⟩
  have once := (skipped_ticks_are_reported_once made (by decide) [] restarts
    [({ screen := .blank 8 8 }, 0), ({}, 0), ({}, 10)]).1
  have reported : Log.reports (((fresh 500 (some 16) {}).after (.load Machine.loop none)).afterAll
      (clockCalls [({ screen := .blank 8 8 }, 0), ({}, 0), ({}, 10)])).log
      ((fresh 500 (some 16) {}).after (.load Machine.loop none)).log.notices.size = [5582] := by
    decide +kernel
  have nothing : (fresh 500 (some 16) {}).afterAll [] = fresh 500 (some 16) {} := rfl
  rw [nothing, reported] at once
  exact ⟨_, _, rfl, rfl, reported, once.symm⟩

end Emulator

end Chip8
