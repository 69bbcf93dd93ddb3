import Chip8.Proofs.Clock.Lockstep
import Chip8.Proofs.Emulator.Polled

/-!
# What a host has had done

A call runs any number of cycles, also a call that fails in the end. A journal lists those that were
completed, with the word that each of them executed and the machine that it left. It is kept by the
action that runs the cycle, and that has no influence: a poll of the journaled action is a poll of the
action itself.

Between the cycles there are ticks, and the host lends another screen and other keys. Whatever relates
two journals and is kept by all three is kept by calls that lend the same, however they end, and the
emulators answer them alike. A property of a single journal is the case of two equal journals.
-/

namespace Chip8

/-- A cycle that was completed. -/
structure Completed where
  word : Word
  after : Machine

/-- A machine, and what was done with it. -/
structure Journal where
  machine : Machine
  completed : List Completed

namespace Journal

def tick (journal : Journal) : Journal := { journal with machine := journal.machine.tickTimers }

/-- The journal after the host has lent a screen and keys. -/
def lend (journal : Journal) (screen : Screen) (keys : List Bool) : Journal :=
  { journal with machine := { journal.machine with screen, keys } }

/-- The journal after a cycle that was completed. -/
def complete (journal : Journal) (word : Word) (after : Machine) : Journal :=
  ⟨after, journal.completed ++ [⟨word, after⟩]⟩

/-- A cycle, which goes into the journal if it is completed. -/
def cycleAction : Action Journal Fault := fun journal =>
  match journal.machine.fetch with
  | .error fault => (journal, .error fault)
  | .ok word =>
    match journal.machine.execute word with
    | .error fault => (journal, .error fault)
    | .ok after => (journal.complete word after, .ok ())

/-- A cycle fails and leaves the journal, or goes into it with the word that it has fetched. -/
theorem cycleAction_cases (journal : Journal) :
    (∃ fault, journal.machine.cycle = .error fault ∧ cycleAction journal = (journal, .error fault)) ∨
      ∃ word after, journal.machine.fetch = .ok word ∧ journal.machine.execute word = .ok after ∧
        journal.machine.cycle = .ok after ∧
        cycleAction journal = (journal.complete word after, .ok ()) := by
  unfold cycleAction Machine.cycle
  rcases fetched : journal.machine.fetch with fault | word
  · exact .inl ⟨fault, rfl, rfl⟩
  · rcases executed : journal.machine.execute word with fault | after
    · exact .inl ⟨fault, executed, by simp only [executed]⟩
    · exact .inr ⟨word, after, rfl, executed, executed, by simp only [executed]⟩

/-- The journaled action does to the machine what the action itself does. -/
theorem cycleAction_lockstep :
    cycleAction.Lockstep (fun journal machine => journal.machine = machine) Emulator.cycleAction := by
  rintro journal _ rfl
  unfold Emulator.cycleAction
  rcases journal.cycleAction_cases with ⟨fault, cycled, ran⟩ | ⟨word, after, _, _, cycled, ran⟩
  · rw [cycled, ran]
    exact ⟨rfl, rfl⟩
  · rw [cycled, ran]
    exact ⟨rfl, rfl⟩

/-- What relates two journals is kept by cycles, by ticks and by what the host lends. -/
structure Kept (relation : Journal → Journal → Prop) : Prop where
  cycles : cycleAction.Lockstep relation cycleAction
  ticks (journal other : Journal) : relation journal other → relation journal.tick other.tick
  /-- A host that lends the same screen and keys keeps it. -/
  lends (journal other : Journal) (screen : Screen) (keys : List Bool) :
    relation journal other → relation (journal.lend screen keys) (other.lend screen keys)
  screens (journal other : Journal) :
    relation journal other → other.machine.screen = journal.machine.screen

/-- A property of a journal is kept by cycles, by ticks and by what the host lends. -/
structure Invariant (property : Journal → Prop) : Prop where
  cycles (journal : Journal) (word : Word) (after : Machine) : property journal →
    journal.machine.fetch = .ok word → journal.machine.execute word = .ok after →
      property (journal.complete word after)
  ticks (journal : Journal) : property journal → property journal.tick
  /-- A host that lends a screen and keys keeps it. -/
  lends (journal : Journal) (screen : Screen) (keys : List Bool) :
    property journal → property (journal.lend screen keys)

/-- An invariant relates each journal that has it to itself. -/
theorem Invariant.kept {property : Journal → Prop} (invariant : Invariant property) :
    Kept fun journal other => property journal ∧ other = journal where
  cycles := by
    rintro _ journal ⟨holds, rfl⟩
    rcases journal.cycleAction_cases with ⟨fault, _, ran⟩ | ⟨word, after, fetched, executed, _, ran⟩
    · rw [ran]
      exact ⟨⟨holds, rfl⟩, rfl⟩
    · rw [ran]
      exact ⟨⟨invariant.cycles journal word after holds fetched executed, rfl⟩, rfl⟩
  ticks := by
    rintro _ journal ⟨holds, rfl⟩
    exact ⟨invariant.ticks journal holds, rfl⟩
  lends := by
    rintro _ journal screen keys ⟨holds, rfl⟩
    exact ⟨invariant.lends journal screen keys holds, rfl⟩
  screens := by
    rintro _ journal ⟨_, rfl⟩
    rfl

end Journal

/-- The machine goes on with its program in a call. -/
def Call.Continues {Time : Type} : Call Time → Prop
  | .load _ _ => False
  | .clock _ _ | .step _ | .resync => True

namespace Emulator

variable {Time : Type} {relation : Journal → Journal → Prop}

/-- Two emulators are the same but for their machines, and the journals of these are related. -/
structure Related (relation : Journal → Journal → Prop) (emulator other : Emulator Time)
    (completed otherCompleted : List Completed) : Prop where
  same : other = { emulator with machine := other.machine }
  journals : relation ⟨emulator.machine, completed⟩ ⟨other.machine, otherCompleted⟩

variable {emulator other : Emulator Time} {before otherBefore : List Completed}
  {host otherHost : Host}

/-- What the host lends is refused or taken whatever the machine. -/
theorem attach_alike (screen : otherHost.screen = host.screen) (keys : otherHost.keys = host.keys)
    (emulator other : Emulator Time) :
    (∃ fault, attach emulator.machine host = .error fault ∧
        attach other.machine otherHost = .error fault) ∨
      attach emulator.machine host = .ok (emulator.lent host) ∧
        attach other.machine otherHost = .ok (other.lent otherHost) := by
  unfold attach lent
  rw [screen, keys]
  split
  · exact .inl ⟨_, rfl, rfl⟩
  · split
    · exact .inl ⟨_, rfl, rfl⟩
    · exact .inr ⟨rfl, rfl⟩

theorem Related.lent (kept : Journal.Kept relation)
    (related : emulator.Related relation other before otherBefore)
    (screen : otherHost.screen = host.screen) (keys : otherHost.keys = host.keys) :
    relation ⟨emulator.lent host, before⟩ ⟨other.lent otherHost, otherBefore⟩ := by
  unfold Emulator.lent
  rw [screen, keys]
  exact kept.lends _ _ _ _ related.journals

/-- A step that is not refused runs the processor action, and shows its screen to the host. -/
theorem step_of_attach (attached : attach emulator.machine host = .ok (emulator.lent host)) :
    emulator.step host =
      ⟨{ emulator with machine := (cycleAction (emulator.lent host)).1 },
        { host with screen := (cycleAction (emulator.lent host)).1.screen },
        (cycleAction (emulator.lent host)).2.mapError .action⟩ := by
  unfold step cycleAction
  rw [attached]
  dsimp only
  rcases (emulator.lent host).cycle with fault | after
  · rfl
  · rfl

end Emulator

/-- Two calls leave related emulators and the same picture, and end alike. -/
structure Emulated.Lockstep {Time Result : Type} (relation : Journal → Journal → Prop)
    (called other : Emulated Time Result) (completed otherCompleted : List Completed) : Prop where
  related : called.emulator.Related relation other.emulator completed otherCompleted
  screen_eq : other.host.screen = called.host.screen
  outcome_eq : other.outcome = called.outcome

namespace Emulator

variable {Time : Type} [ClockNumber Time] {relation : Journal → Journal → Prop}
  {emulator other : Emulator Time} {before otherBefore : List Completed} {host otherHost : Host}

/-- The cycles completed after a call, given those before it. -/
def completedAfter (emulator : Emulator Time) (before : List Completed) :
    Call Time → List Completed
  | .load _ _ | .resync => before
  | .clock host now =>
    match attach emulator.machine host with
    | .error _ => before
    | .ok lent => (emulator.cpuClock.advance now Journal.cycleAction ⟨lent, before⟩).state.completed
  | .step host =>
    match attach emulator.machine host with
    | .error _ => before
    | .ok lent => (Journal.cycleAction ⟨lent, before⟩).1.completed

/-- The cycles completed after calls, one after the other, given those before them. -/
def completedAfterAll (emulator : Emulator Time) (before : List Completed) :
    List (Call Time) → List Completed
  | [] => before
  | call :: rest => (emulator.after call).completedAfterAll (emulator.completedAfter before call) rest

theorem step_lockstep (kept : Journal.Kept relation)
    (related : emulator.Related relation other before otherBefore)
    (screen : otherHost.screen = host.screen) (keys : otherHost.keys = host.keys) :
    (emulator.step host).Lockstep relation (other.step otherHost)
      (emulator.completedAfter before (.step host))
      (other.completedAfter otherBefore (.step otherHost)) := by
  have lends := related.lent kept screen keys
  unfold completedAfter
  rcases attach_alike screen keys emulator other with
    ⟨fault, refused, otherRefused⟩ | ⟨attached, otherAttached⟩
  · simp only [step, refused, otherRefused]
    exact ⟨related, screen, rfl⟩
  · rcases kept.cycles _ _ lends with ⟨next, alike⟩
    rcases Journal.cycleAction_lockstep ⟨emulator.lent host, before⟩ _ rfl with ⟨ran, outcome⟩
    rcases Journal.cycleAction_lockstep ⟨other.lent otherHost, otherBefore⟩ _ rfl with
      ⟨otherRan, otherOutcome⟩
    simp only [step_of_attach attached, step_of_attach otherAttached, attached, otherAttached]
    rw [outcome, otherOutcome, alike, ← ran, ← otherRan, related.same]
    exact ⟨⟨rfl, next⟩, kept.screens _ _ next, rfl⟩

/-- A poll of the journaled action is a poll of the action itself. -/
theorem advance_cycleAction {scheduler cpuClock : Scheduler Time} {now : Time}
    {journal reached : Journal} {outcome : Except (PollFault Fault) Nat}
    (polled : scheduler.advance now Journal.cycleAction journal = ⟨cpuClock, reached, outcome⟩) :
    scheduler.advance now cycleAction journal.machine = ⟨cpuClock, reached.machine, outcome⟩ := by
  have lockstep := Scheduler.advance_lockstep Journal.cycleAction_lockstep scheduler now
    (rfl : journal.machine = journal.machine)
  rcases lockstep.exists_eq with ⟨_, _, machine, _, alsoPolled, ran, rfl⟩
  cases polled.symm.trans alsoPolled
  exact ran

theorem clock_lockstep (kept : Journal.Kept relation)
    (related : emulator.Related relation other before otherBefore)
    (screen : otherHost.screen = host.screen) (keys : otherHost.keys = host.keys) (now : Time) :
    (emulator.clock host now).Lockstep relation (other.clock otherHost now)
      (emulator.completedAfter before (.clock host now))
      (other.completedAfter otherBefore (.clock otherHost now)) := by
  have lends := related.lent kept screen keys
  unfold completedAfter
  rcases attach_alike screen keys emulator other with
    ⟨fault, refused, otherRefused⟩ | ⟨attached, otherAttached⟩
  · simp only [clock, refused, otherRefused]
    exact ⟨related, screen, rfl⟩
  · generalize other.lent otherHost = otherLent at lends otherAttached
    have same := related.same
    generalize other.machine = otherMachine at same otherAttached
    subst same
    rcases (Scheduler.advance_lockstep kept.cycles emulator.cpuClock now lends).exists_eq with
      ⟨cpuClock, reached, otherReached, outcome, polled, otherPolled, next⟩
    have cpu := advance_cycleAction polled
    have otherCpu := advance_cycleAction otherPolled
    simp only at cpu otherCpu
    simp only [clock, attached, otherAttached, polled, otherPolled, cpu, otherCpu]
    rcases outcome with fault | cycles
    · exact ⟨⟨rfl, next⟩, kept.screens _ _ next, rfl⟩
    · -- Ticks do not go into the journal, so that it stays as the cycles have left it.
      have ticks : tickAction.Lockstep (fun machine other =>
          relation ⟨machine, reached.completed⟩ ⟨other, otherReached.completed⟩) tickAction :=
        fun _ _ related => ⟨kept.ticks _ _ related, rfl⟩
      rcases (Scheduler.advance_lockstep ticks emulator.timerClock now next).exists_eq with
        ⟨timerClock, ticked, otherTicked, outcome, timers, otherTimers, last⟩
      simp only [timers, otherTimers]
      rcases outcome with fault | ticks
      · exact ⟨⟨rfl, last⟩, kept.screens _ _ next, rfl⟩
      · exact ⟨⟨rfl, last⟩, kept.screens _ _ next, rfl⟩

variable {property : Journal → Prop}

theorem completedAfter_keeps (invariant : Journal.Invariant property) {call : Call Time}
    (continues : call.Continues) (holds : property ⟨emulator.machine, before⟩) :
    property ⟨(emulator.after call).machine, emulator.completedAfter before call⟩ := by
  have related : emulator.Related (fun journal other => property journal ∧ other = journal) emulator
    before before := ⟨rfl, holds, rfl⟩
  cases call with
  | load program seed => cases continues
  | clock host now => exact (clock_lockstep invariant.kept related rfl rfl now).related.journals.1
  | step host => exact (step_lockstep invariant.kept related rfl rfl).related.journals.1
  | resync => exact holds

/-- An invariant of journals holds after any calls with which the program goes on. -/
theorem completedAfterAll_keeps (invariant : Journal.Invariant property) {calls : List (Call Time)}
    (continues : ∀ call ∈ calls, call.Continues) (holds : property ⟨emulator.machine, before⟩) :
    property ⟨(emulator.afterAll calls).machine, emulator.completedAfterAll before calls⟩ := by
  induction calls generalizing emulator before with
  | nil => exact holds
  | cons call rest ih =>
      rw [List.forall_mem_cons] at continues
      exact ih continues.2 (completedAfter_keeps invariant continues.1 holds)

end Emulator

end Chip8
