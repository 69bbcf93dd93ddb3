import Chip8.Proofs.Clock.Shift
import Chip8.Proofs.Clock.Tally
import Chip8.Proofs.Emulator.Polled

/-!
# Pauses leave no trace

The calls to an emulator fall into segments: a new one begins when the phase is forgotten and when a program
was loaded. The timestamps of one segment are never compared with those of another, so a host may take them
from clocks that are set differently in every segment. All that tells how much later they are is the last
timestamps of the two schedules. The time between two segments is therefore never caught up on.

The host may decide on each call by all that it has seen before, so what is lent may be what the call before
has left.
-/

namespace Chip8

/-- The call with its timestamp, if it has one, so much later. -/
def Call.delayed (offset : Rat) : Call Rat → Call Rat
  | .clock host now => .clock host (now + offset)
  | call => call

/-- How a call has ended, and what it has left to the host. -/
inductive Answer where
  | loaded (outcome : Except Fault Int)
  | clocked (host : Host) (outcome : Except (PollFault Fault) Firing)
  | stepped (host : Host) (outcome : Except (PollFault Fault) Unit)
  | resynced

/-- After this answer both schedules begin anew. -/
def Answer.restarts : Answer → Bool
  | .loaded (.ok _) | .resynced => true
  | _ => false

/-- All that can be seen of a call but the timestamps. -/
structure Sight where
  answer : Answer
  firing : Firing
  machine : Machine
  cpuDropped : Int
  timerDropped : Int
  log : Log

namespace Emulator

section Calls

variable {Time : Type} [ClockNumber Time]

def answer (emulator : Emulator Time) : Call Time → Answer
  | .load program seed => .loaded (emulator.load program seed).2
  | .clock host now => .clocked (emulator.clock host now).host (emulator.clock host now).outcome
  | .step host => .stepped (emulator.step host).host (emulator.step host).outcome
  | .resync => .resynced

theorem restarts_answer_iff {emulator : Emulator Time} {call : Call Time} :
    (emulator.answer call).restarts = true ↔ call.Restarts emulator := by
  cases call with
  | load program seed =>
      simp only [answer, Call.Restarts]
      rcases (emulator.load program seed).2 with fault | inUse <;> simp [Answer.restarts]
  | clock host now => simp [answer, Call.Restarts, Answer.restarts]
  | step host => simp [answer, Call.Restarts, Answer.restarts]
  | resync => simp [answer, Call.Restarts, Answer.restarts]

/-- How often a call runs the processor and the timers, whether it succeeds or fails. A run that fails does
not count. -/
def fired (emulator : Emulator Time) : Call Time → Firing
  | .clock host now =>
    match attach emulator.machine host with
    | .error _ => ⟨0, 0⟩
    | .ok machine =>
      let cpu := emulator.cpuClock.advance now cycleAction.tallied ⟨0, false, machine⟩
      match cpu.outcome with
      | .error _ => ⟨cpu.state.succeeded, 0⟩
      | .ok _ =>
        let timers := emulator.timerClock.advance now tickAction.tallied ⟨0, false, cpu.state.state⟩
        ⟨cpu.state.succeeded, timers.state.succeeded⟩
  | .step host =>
    match (emulator.step host).outcome with
    | .error _ => ⟨0, 0⟩
    | .ok () => ⟨1, 0⟩
  | _ => ⟨0, 0⟩

/-- A clock call that ends well tells how often it has run the processor and the timers. -/
theorem fired_of_outcome_clock {emulator : Emulator Time} {host : Host} {now : Time} {firing : Firing}
    (done : (emulator.clock host now).outcome = .ok firing) :
    emulator.fired (.clock host now) = firing := by
  have ends := emulator.clock_ends host now
  generalize emulator.clock host now = called at ends done
  cases ends with
  | refused _ | stopped _ _ | unticked _ _ _ => cases done
  | @done lent reached ticked cpuClock timerClock cycles ticks attached cpu timers =>
      cases done
      simp only [fired, attached, Scheduler.advance_tallied_of_ok cpu,
        Scheduler.advance_tallied_of_ok timers]

def sight (emulator : Emulator Time) (call : Call Time) : Sight where
  answer := emulator.answer call
  firing := emulator.fired call
  machine := (emulator.after call).machine
  cpuDropped := (emulator.after call).cpuClock.dropped
  timerDropped := (emulator.after call).timerClock.dropped
  log := (emulator.after call).log

end Calls

/-- The emulator with the last runs of both schedules at another time. -/
def shift (offset : Rat) (emulator : Emulator Rat) : Emulator Rat :=
  { emulator with
    cpuClock := emulator.cpuClock.shift offset, timerClock := emulator.timerClock.shift offset }

end Emulator

/-- The outcome of a call with the emulator moved in time. -/
def Emulated.shift {Result : Type} (offset : Rat) (called : Emulated Rat Result) : Emulated Rat Result :=
  { called with emulator := called.emulator.shift offset }

namespace Emulator

theorem shift_resync (emulator : Emulator Rat) (offset : Rat) :
    emulator.resync.shift offset = emulator.resync := by
  simp only [resync, shift, Scheduler.shift_reset]

theorem clock_shift (emulator : Emulator Rat) (host : Host) (now offset : Rat) :
    (emulator.shift offset).clock host (now + offset) = (emulator.clock host now).shift offset := by
  have ends := emulator.clock_ends host now
  generalize emulator.clock host now = called at ends ⊢
  -- Both polls are those of the schedules as they were, moved in time.
  have cpu_shift (lent : Machine) := emulator.cpuClock.advance_shift cycleAction now offset lent
  have timers_shift (reached : Machine) := emulator.timerClock.advance_shift tickAction now offset reached
  cases ends with
  | refused refused => simp only [clock, shift, refused, Emulated.shift]
  | stopped attached cpu => simp only [clock, shift, attached, cpu_shift, cpu, Poll.shift, Emulated.shift]
  | unticked attached cpu timers =>
      simp only [clock, shift, attached, cpu_shift, cpu, timers_shift, timers, Poll.shift, Emulated.shift]
  | done attached cpu timers =>
      simp only [clock, shift, attached, cpu_shift, cpu, timers_shift, timers, Poll.shift, Emulated.shift,
        dropped, Scheduler.dropped_shift]
      rfl

theorem step_shift (emulator : Emulator Rat) (host : Host) (offset : Rat) :
    (emulator.shift offset).step host = (emulator.step host).shift offset := by
  unfold step
  rcases attached : attach emulator.machine host with fault | machine
  · simp only [shift, attached, Emulated.shift]
  · rcases performed : machine.cycle with fault | after <;>
      simp only [shift, attached, performed, Emulated.shift]

/-- A load that is refused keeps the last runs, and one that succeeds forgets them. -/
theorem load_shift (emulator : Emulator Rat) (program : List UInt8) (seed : Option Int)
    (offset next : Rat) (same : ∀ fault, (emulator.load program seed).2 = .error fault → next = offset) :
    (emulator.shift offset).load program seed =
      ((emulator.load program seed).1.shift next, (emulator.load program seed).2) := by
  revert same
  unfold load
  rcases Machine.programMemory program with fault | memory
  · intro same
    rw [same fault rfl]
  · dsimp only
    rcases Lfsr.seeded (seedFor program seed) with fault | random
    · intro same
      rw [same fault rfl]
    · intro _
      simp only [shift_resync]
      rfl

/-- A call at a later time leaves the last runs later by as much, or by any time if there are none. -/
theorem after_shift (emulator : Emulator Rat) (call : Call Rat) (offset next : Rat)
    (same : (emulator.answer call).restarts = false → next = offset) :
    (emulator.shift offset).after (call.delayed offset) = (emulator.after call).shift next := by
  cases call with
  | load program seed =>
      have loaded := load_shift emulator program seed offset next (by
        intro fault refused
        exact same (by simp only [answer, refused, Answer.restarts]))
      simp only [Call.delayed, after, loaded]
  | clock host now =>
      cases same rfl
      simp only [Call.delayed, after, clock_shift, Emulated.shift]
  | step host =>
      cases same rfl
      simp only [Call.delayed, after, step_shift, Emulated.shift]
  | resync => exact (shift_resync emulator next).symm

theorem answer_shift (emulator : Emulator Rat) (call : Call Rat) (offset : Rat) :
    (emulator.shift offset).answer (call.delayed offset) = emulator.answer call := by
  cases call with
  | load program seed =>
      have loaded := load_shift emulator program seed offset offset fun _ _ => rfl
      simp only [Call.delayed, answer, loaded]
  | clock host now => simp only [Call.delayed, answer, clock_shift, Emulated.shift]
  | step host => simp only [Call.delayed, answer, step_shift, Emulated.shift]
  | resync => rfl

theorem fired_shift (emulator : Emulator Rat) (call : Call Rat) (offset : Rat) :
    (emulator.shift offset).fired (call.delayed offset) = emulator.fired call := by
  cases call with
  | load program seed => rfl
  | clock host now => simp only [Call.delayed, fired, shift, Scheduler.advance_shift, Poll.shift]
  | step host => simp only [Call.delayed, fired, step_shift, Emulated.shift]
  | resync => rfl

theorem sight_shift (emulator : Emulator Rat) (call : Call Rat) (offset : Rat) :
    (emulator.shift offset).sight (call.delayed offset) = emulator.sight call := by
  have after_eq := emulator.after_shift call offset offset fun _ => rfl
  simp only [sight, answer_shift, fired_shift, after_eq]
  rfl

end Emulator

/-- An emulator, what its host has seen, and the number of the segment. -/
structure Course where
  emulator : Emulator Rat
  sights : List Sight := []
  segment : Nat := 0

namespace Course

/-- The course after a call. -/
def serve (course : Course) (call : Call Rat) : Course where
  emulator := course.emulator.after call
  sights := course.sights ++ [course.emulator.sight call]
  segment := if (course.emulator.answer call).restarts then course.segment + 1 else course.segment

/-- The course after calls, each of which the host decides on by what it has seen. -/
def follow (course : Course) (demands : List (List Sight → Call Rat)) : Course :=
  demands.foldl (fun course demand => course.serve (demand course.sights)) course

/-- The course after the same calls, with all timestamps of a segment later by its delay. -/
def followDelayed (delay : Nat → Rat) (course : Course) (demands : List (List Sight → Call Rat)) :
    Course :=
  demands.foldl
    (fun course demand => course.serve ((demand course.sights).delayed (delay course.segment))) course

/-- The course with the last runs later by the delay of the segment. -/
def shift (delay : Nat → Rat) (course : Course) : Course :=
  { course with emulator := course.emulator.shift (delay course.segment) }

theorem serve_shift (delay : Nat → Rat) (course : Course) (call : Call Rat) :
    (course.shift delay).serve (call.delayed (delay course.segment)) =
      (course.serve call).shift delay := by
  have after_eq := course.emulator.after_shift call (delay course.segment)
    (delay (course.serve call).segment) (by
      intro goesOn
      simp only [serve, goesOn, Bool.false_eq_true, if_false])
  simp only [serve, shift] at after_eq ⊢
  simp only [after_eq, Emulator.sight_shift, Emulator.answer_shift]

theorem followDelayed_shift (delay : Nat → Rat) (course : Course)
    (demands : List (List Sight → Call Rat)) :
    (course.shift delay).followDelayed delay demands = (course.follow demands).shift delay := by
  induction demands generalizing course with
  | nil => rfl
  | cons demand rest ih =>
      have first := course.serve_shift delay (demand course.sights)
      have later := ih (course.serve (demand course.sights))
      rw [← first] at later
      exact later

/-- The calls to an emulator that was made show the same whatever the delays of the segments are, and only
the last runs are later, by the delay of the segment that is reached. -/
theorem followDelayed_of_create {frequency : Rat} {cap : Option Int} {log : Log} {emulator : Emulator Rat}
    (created : Emulator.create frequency cap log = .ok emulator) (delay : Nat → Rat)
    (demands : List (List Sight → Call Rat)) :
    let course : Course := { emulator }
    course.followDelayed delay demands = (course.follow demands).shift delay := by
  intro course
  rcases Emulator.create_eq_ok_iff.mp created with ⟨_, _, rfl⟩
  -- No schedule has run yet, so there is nothing to be later at the beginning.
  exact followDelayed_shift delay course demands

/-- An hour between two segments is not caught up on. -/
theorem followDelayed_of_create_of_hour :
    let course : Course := { emulator := Emulator.fresh 500 (some 16) {} }
    (course.follow [fun _ => .clock {} 0, fun _ => .resync, fun _ => .clock {} 3600]).sights =
      (course.follow [fun _ => .clock {} 0, fun _ => .resync, fun _ => .clock {} 0]).sights := by
  intro course
  have created : Emulator.create 500 (some 16) {} = .ok (Emulator.fresh 500 (some 16) {}) :=
    Emulator.create_eq_ok_iff.mpr ⟨by decide, by decide, rfl⟩
  have delayed := followDelayed_of_create created (fun segment => if segment = 0 then 0 else 3600)
    [fun _ => .clock {} 0, fun _ => .resync, fun _ => .clock {} 0]
  have sights := congrArg Course.sights delayed
  simpa [followDelayed, follow, serve, shift, Call.delayed, Emulator.answer, Answer.restarts] using sights

end Course

end Chip8
