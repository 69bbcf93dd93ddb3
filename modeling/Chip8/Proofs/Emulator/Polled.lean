import Chip8.Proofs.Clock.Exact
import Chip8.Proofs.Emulator.Loading
import Chip8.Proofs.Emulator.Refinement
import Chip8.Proofs.Emulator.Settings
import Chip8.Proofs.Outcome

/-!
# Clock calls that end well

A clock call that ends well has polled the processor schedule and then the timer schedule, on the
machine with what the host lends in it. Rows of such calls begin after a call that makes both schedules
begin anew, and keep the settings with which the emulator was made.

Where time is kept in rational numbers an emulator is made exactly for frequencies above zero and caps
from one on, and the cap of its timers is the one of its processor in ticks, rounded up.
-/

namespace Chip8

/-- A call after which both schedules begin anew: a program was loaded, or the phase is forgotten. -/
def Call.Restarts {Time : Type} (emulator : Emulator Time) : Call Time → Prop
  | .load program seed => ∃ inUse, (emulator.load program seed).2 = .ok inUse
  | .resync => True
  | _ => False

namespace Emulator

/-- The ticks that cover a cap on cycles, rounded up. -/
def coveringTicks (frequency : Rat) (bound : Int) : Int := max 1 (bound * 60 / frequency).ceil

theorem coveringTicks_pos (frequency : Rat) (bound : Int) : 0 < coveringTicks frequency bound :=
  Int.lt_of_lt_of_le Int.one_pos (Int.le_max_left _ _)

theorem timerCap?_of_pos {frequency : Rat} (positive : 0 < frequency) (cap : Option Int) :
    timerCap? frequency cap = .ok (cap.map (coveringTicks frequency)) := by
  cases cap with
  | none => rfl
  | some bound =>
      have covers : timerCap frequency bound = .ok (coveringTicks frequency bound) := by
        simp only [timerCap, coveringTicks, timerFrequency, ClockNumber.ofInt, ClockNumber.div,
          ClockNumber.ceil, ClockNumber.ofNat, if_neg positive.ne']
        rfl
      rw [timerCap?, covers]
      rfl

/-- An emulator as it is made. -/
def fresh (frequency : Rat) (cap : Option Int) (log : Log) : Emulator Rat :=
  { frequency
    cpuClock := { period := 1 / frequency, cap }
    timerClock := { period := 1 / 60, cap := cap.map (coveringTicks frequency) }
    log }

theorem create_eq_ok_iff {frequency : Rat} {cap : Option Int} {log : Log} {emulator : Emulator Rat} :
    create frequency cap log = .ok emulator ↔
      0 < frequency ∧ (∀ bound ∈ cap, 1 ≤ bound) ∧ emulator = fresh frequency cap log := by
  have covered : ∀ bound ∈ cap.map (coveringTicks frequency), 1 ≤ bound := by
    intro bound mem
    rcases Option.mem_map.mp mem with ⟨_, _, rfl⟩
    exact coveringTicks_pos _ _
  have sixty : (0 : Rat) < timerFrequency := by decide
  simp only [create, bind_eq_ok_iff, Scheduler.ofFrequency_eq_ok_iff, Except.ok.injEq]
  constructor
  · rintro ⟨_, ⟨positive, room, rfl⟩, _, caps, _, ⟨_, _, rfl⟩, rfl⟩
    rw [timerCap?_of_pos positive] at caps
    cases caps
    exact ⟨positive, room, rfl⟩
  · rintro ⟨positive, room, rfl⟩
    exact ⟨_, ⟨positive, room, rfl⟩, _, timerCap?_of_pos positive cap, _, ⟨sixty, covered, rfl⟩, rfl⟩

/-- The periods of an emulator with a frequency above zero are above zero. -/
theorem Alike.periods_pos {frequency : Rat} {cap : Option Int} {log : Log} {emulator : Emulator Rat}
    (alike : emulator.Alike (fresh frequency cap log)) (positive : 0 < frequency) :
    0 < emulator.cpuClock.period ∧ 0 < emulator.timerClock.period := by
  rw [alike.cpuClock.period_eq, alike.timerClock.period_eq]
  exact ⟨one_div_pos.mpr positive, one_div_pos.mpr (by norm_num)⟩

variable {Time : Type}

/-- The machine with what the host lends in it. -/
def lent (emulator : Emulator Time) (host : Host) : Machine :=
  { emulator.machine with screen := host.screen, keys := host.keys }

theorem attach_eq_ok_iff {emulator : Emulator Time} {host : Host} {machine : Machine} :
    attach emulator.machine host = .ok machine ↔
      host.screen.size = (64, 32) ∧ host.keys.length = 16 ∧ machine = emulator.lent host := by
  constructor
  · intro attached
    unfold attach at attached
    split at attached
    next => cases attached
    next size =>
      split at attached
      next => cases attached
      next length =>
        cases attached
        exact ⟨not_not.mp size, not_not.mp length, rfl⟩
  · rintro ⟨size, length, rfl⟩
    exact attach_of_size size length

variable [ClockNumber Time]

/-- Clock calls that all end well lead from one emulator to another. -/
inductive Clocks : List (Host × Time) → Emulator Time → Emulator Time → Prop where
  | nil (emulator : Emulator Time) : Clocks [] emulator emulator
  | cons {host : Host} {now : Time} {polls : List (Host × Time)} {emulator last : Emulator Time}
    {firing : Firing} (done : (emulator.clock host now).outcome = .ok firing)
    (rest : Clocks polls (emulator.clock host now).emulator last) :
    Clocks ((host, now) :: polls) emulator last

theorem Clocks.alike {polls : List (Host × Time)} {emulator last : Emulator Time}
    (clocks : Clocks polls emulator last) : last.Alike emulator := by
  induction clocks with
  | nil emulator => exact emulator.alike_refl
  | cons done rest ih => exact ih.trans (alike_clock _ _ _)

/-- The poll of the processor schedule in a clock call. -/
def cpuPoll (emulator : Emulator Time) (host : Host) (now : Time) : Poll Time Machine Fault :=
  emulator.cpuClock.advance now cycleAction (emulator.lent host)

/-- The poll of the timer schedule in a clock call. -/
def timerPoll (emulator : Emulator Time) (host : Host) (now : Time) : Poll Time Machine Fault :=
  emulator.timerClock.advance now tickAction (emulator.cpuPoll host now).state

/-- A clock call that ends well is a poll of the processor schedule and then one of the timer
schedule, on the machine with what the host lends in it. -/
structure ClockDone (emulator : Emulator Time) (host : Host) (now : Time) (firing : Firing) :
    Prop where
  size_screen : host.screen.size = (64, 32)
  length_keys : host.keys.length = 16
  cycles : (emulator.cpuPoll host now).outcome = .ok firing.cycles
  ticks : (emulator.timerPoll host now).outcome = .ok firing.ticks
  machine_eq : (emulator.clock host now).emulator.machine = (emulator.timerPoll host now).state
  cpuClock_eq : (emulator.clock host now).emulator.cpuClock = (emulator.cpuPoll host now).scheduler
  timerClock_eq : (emulator.clock host now).emulator.timerClock =
    (emulator.timerPoll host now).scheduler
  screen_eq : (emulator.clock host now).host.screen = (emulator.cpuPoll host now).state.screen
  keys_eq : (emulator.clock host now).host.keys = host.keys

variable {emulator : Emulator Time} {host : Host} {now : Time} {firing : Firing}

theorem clockDone_of_outcome (done : (emulator.clock host now).outcome = .ok firing) :
    ClockDone emulator host now firing := by
  have ends := emulator.clock_ends host now
  generalize called_eq : emulator.clock host now = called at ends done
  cases ends with
  | refused _ | stopped _ _ | unticked _ _ _ => cases done
  | @done machine reached ticked cpuClock timerClock cycles ticks attached cpu timers =>
      cases done
      rcases attach_eq_ok_iff.mp attached with ⟨size, length, rfl⟩
      have polled : emulator.cpuPoll host now = ⟨cpuClock, reached, .ok cycles⟩ := cpu
      have ticking : emulator.timerPoll host now = ⟨timerClock, ticked, .ok ticks⟩ := by
        rw [timerPoll, polled]
        exact timers
      refine ⟨size, length, ?_, ?_, ?_, ?_, ?_, ?_, ?_⟩ <;> simp only [called_eq, polled, ticking]

theorem outcome_clock_of_polls (size : host.screen.size = (64, 32)) (length : host.keys.length = 16)
    (cycles : (emulator.cpuPoll host now).outcome = .ok firing.cycles)
    (ticks : (emulator.timerPoll host now).outcome = .ok firing.ticks) :
    (emulator.clock host now).outcome = .ok firing := by
  have attached : attach emulator.machine host = .ok (emulator.lent host) :=
    attach_eq_ok_iff.mpr ⟨size, length, rfl⟩
  have polled : (emulator.cpuClock.advance now cycleAction (emulator.lent host)).outcome =
      .ok firing.cycles := cycles
  simp only [timerPoll, cpuPoll] at ticks
  simp only [clock, attached, polled, ticks]

end Emulator

end Chip8
