import Chip8.Proofs.Clock.Poll
import Chip8.Proofs.Emulator.Call
import Chip8.Proofs.Emulator.Loading
import Chip8.Proofs.Machine.Bounds

/-!
# Bounds of the emulator

An emulator with a program stays within the bounds of its machine, whatever its host asks for and
whether or not that goes well, and its two schedules always have a phase together or none.

The schedules lose their phase together when a program is loaded or the host asks for it. A clock call
polls the processor first, and a first poll that fails leaves it without a phase and ends the call.
The ticks of the timers cannot fail, so the first poll of the other schedule always sets its phase.
-/

namespace Chip8.Emulator

/-- The bounds of an emulator with a program. -/
structure Bounded {Time : Type} (emulator : Emulator Time) : Prop where
  machine : emulator.machine.Bounded
  phases : emulator.cpuClock.last = none ↔ emulator.timerClock.last = none

theorem bounded_attach {machine lent : Machine} {host : Host} (bounded : machine.Bounded)
    (attached : attach machine host = .ok lent) : lent.Bounded := by
  unfold attach at attached
  split at attached
  · cases attached
  · split at attached
    · cases attached
    · cases attached
      exact { bounded with }

theorem bounded_cycleAction (machine : Machine) (bounded : machine.Bounded) :
    (cycleAction machine).1.Bounded := by
  unfold cycleAction
  split
  next after cycled => exact Machine.bounded_cycle bounded cycled
  next => exact bounded

variable {Time : Type} {emulator loaded : Emulator Time} {program : List UInt8} {seed : Option Int}

/-- A loaded program starts within the bounds, whatever the emulator was before. -/
theorem bounded_load {inUse : Int} (done : emulator.load program seed = (loaded, .ok inUse)) :
    loaded.Bounded := by
  rcases load_of_ok done with ⟨_, _, cpu, timers, memory, random, fits, started, machine⟩
  refine ⟨?_, ?_⟩
  · rw [machine]
    exact Machine.bounded_of_program fits (Lfsr.running_of_seeded started)
  · rw [cpu, timers]
    simp only [Scheduler.reset]

theorem bounded_step (bounded : emulator.Bounded) (host : Host) :
    (emulator.step host).emulator.Bounded := by
  unfold step
  split
  next => exact bounded
  next lent attached =>
    have lentBounded := bounded_attach bounded.machine attached
    split
    next => exact ⟨lentBounded, bounded.phases⟩
    next after cycled => exact ⟨Machine.bounded_cycle lentBounded cycled, bounded.phases⟩

variable [ClockNumber Time]

/-- The first tick cannot fail, so a poll of the timers always leaves a phase. -/
theorem last_advance_tickAction_ne_none (timerClock : Scheduler Time) (now : Time)
    (machine : Machine) : (timerClock.advance now tickAction machine).scheduler.last ≠ none := by
  intro unset
  rcases Scheduler.last_advance_eq_none_iff.mp unset with ⟨first, fault, failed⟩
  have ticked : tickAction machine = (machine.tickTimers, .ok ()) := rfl
  rw [Scheduler.advance_first first now ticked] at failed
  cases failed

variable {now : Time} {lent reached ticked : Machine} {cpuClock timerClock : Scheduler Time}

/-- The poll of the processor keeps the bounds of the machine. -/
theorem bounded_cpuPoll (bounded : emulator.Bounded) {host : Host}
    (attached : attach emulator.machine host = .ok lent) {outcome : Except (PollFault Fault) Nat}
    (cpu : emulator.cpuClock.advance now cycleAction lent = ⟨cpuClock, reached, outcome⟩) :
    reached.Bounded ∧
      (cpuClock.last = none ↔ emulator.cpuClock.last = none ∧ ∃ fault, outcome = .error fault) := by
  have lentBounded := bounded_attach bounded.machine attached
  have kept : (emulator.cpuClock.advance now cycleAction lent).state.Bounded :=
    Scheduler.advance_keeps bounded_cycleAction lentBounded
  have phase : (emulator.cpuClock.advance now cycleAction lent).scheduler.last = none ↔ _ :=
    Scheduler.last_advance_eq_none_iff
  rw [cpu] at kept phase
  exact ⟨kept, phase⟩

/-- The poll of the timers keeps the bounds, and after it both schedules have a phase. -/
theorem bounded_timerPoll (kept : reached.Bounded) (started : cpuClock.last ≠ none)
    {outcome : Except (PollFault Fault) Nat}
    (timers : emulator.timerClock.advance now tickAction reached = ⟨timerClock, ticked, outcome⟩) :
    ticked.Bounded ∧ (cpuClock.last = none ↔ timerClock.last = none) := by
  have ticking : (emulator.timerClock.advance now tickAction reached).state.Bounded :=
    Scheduler.advance_keeps (fun _ => Machine.bounded_tickTimers) kept
  have phase := last_advance_tickAction_ne_none emulator.timerClock now reached
  rw [timers] at ticking phase
  exact ⟨ticking, iff_of_false started phase⟩

/-- The polls of a clock call keep the bounds, wherever the call ends. -/
theorem bounded_clock (bounded : emulator.Bounded) (host : Host) (now : Time) :
    (emulator.clock host now).emulator.Bounded := by
  have ends := emulator.clock_ends host now
  generalize emulator.clock host now = called at ends ⊢
  cases ends with
  | refused _ => exact bounded
  | stopped attached cpu =>
      rcases bounded_cpuPoll bounded attached cpu with ⟨kept, phase⟩
      refine ⟨kept, ?_⟩
      simp only [phase, ← bounded.phases]
      simp
  | @unticked _ _ _ cpuClock _ _ _ attached cpu timers =>
      rcases bounded_cpuPoll bounded attached cpu with ⟨kept, phase⟩
      have started : cpuClock.last ≠ none := by simp [phase]
      rcases bounded_timerPoll kept started timers with ⟨ticking, phases⟩
      exact ⟨ticking, phases⟩
  | @done _ _ _ cpuClock _ _ _ attached cpu timers =>
      rcases bounded_cpuPoll bounded attached cpu with ⟨kept, phase⟩
      have started : cpuClock.last ≠ none := by simp [phase]
      rcases bounded_timerPoll kept started timers with ⟨ticking, phases⟩
      exact ⟨ticking, phases⟩

/-- Every call keeps the bounds, whether it succeeds or fails. -/
theorem bounded_after (emulator : Emulator Time) (call : Call Time) (bounded : emulator.Bounded) :
    (emulator.after call).Bounded := by
  cases call with
  | load program seed =>
      rcases done : emulator.load program seed with ⟨loaded, fault | inUse⟩
      · simpa only [after, done, load_of_error done] using bounded
      · simpa only [after, done] using bounded_load done
  | clock host now => exact bounded_clock bounded host now
  | step host => exact bounded_step bounded host
  | resync => exact ⟨bounded.machine, by simp only [after, resync, Scheduler.reset]⟩

/-- Once a program is loaded, the bounds hold after any calls, and none of the cycles that a further
call runs loses a part of an address. -/
theorem bounded_afterAll {inUse : Int} (done : emulator.load program seed = (loaded, .ok inUse))
    (calls : List (Call Time)) :
    let reached := loaded.afterAll calls
    reached.Bounded ∧
      (∀ name, (reached.machine.register name).toNat ≤ 0xFF) ∧
      reached.machine.stack.pointer ≤ 16 ∧
      (∀ byte ∈ reached.machine.memory.bytes, byte.toNat ≤ 0xFF) ∧
      ∀ host lent, attach reached.machine host = .ok lent → ∀ count,
        (lent.cycles 0 count).machine.Bounded ∧ (lent.cycles 0 count).machine.KeepsAddresses := by
  intro reached
  have bounded : reached.Bounded := afterAll_keeps bounded_after (bounded_load done) calls
  refine ⟨bounded, ?_, reached.machine.stack.pointer_le, ?_, ?_⟩
  · intro name
    have small := (reached.machine.register name).toNat_lt
    omega
  · intro byte _
    have small := byte.toNat_lt
    omega
  · intro host lent attached count
    have cycled := Machine.bounded_cycles (bounded_attach bounded.machine attached) 0 count
    exact ⟨cycled, cycled.keepsAddresses⟩

/-- A program that jumps to itself, polled and stepped by a host that also tries a seed without
bits. -/
theorem bounded_afterAll_of_loop :
    let emulator : Emulator Rat :=
      { frequency := 500, cpuClock := { period := 1 / 500, cap := some 16 }
        timerClock := { period := 1 / 60, cap := some 2 } }
    ∃ loaded, emulator.load [0x12, 0x00] (some 1) = (loaded, .ok 1) ∧
      (loaded.afterAll [.clock {} 1, .step {}, .load [] (some 0), .clock {} 2, .resync]).Bounded := by
  intro emulator
  have fits : [0x12, 0x00].length ≤ 0xE00 := by decide
  have nonzero : seedFor [0x12, 0x00] (some 1) % 0x10000 ≠ 0 := by decide
  rcases emulator.exists_load_eq_ok fits nonzero with ⟨loaded, done⟩
  exact ⟨loaded, done, (bounded_afterAll done _).1⟩

end Chip8.Emulator
