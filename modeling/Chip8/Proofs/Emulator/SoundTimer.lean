import Chip8.Proofs.Emulator.Usage
import Chip8.Proofs.Machine.Sound
import Mathlib.Data.List.TakeWhile

/-!
# The sound timer is for the host alone

Two machines that differ in nothing but their sound timers, and hosts that ask the same of them, go on
alike: each word does the same on both, ticks count the sound timers down beside everything else, and the
buzzer is all that a host gets to know of them. The first `FX18` that is completed starts both sound
timers at the same value, and from then on the machines do not differ at all.
-/

namespace Chip8

/-- The completed cycles from the first one on that has started the sound timer. -/
def fromSound (completed : List Completed) : List Completed :=
  completed.dropWhile fun entry => !entry.word.SetsSound

theorem fromSound_ne_nil_iff {completed : List Completed} :
    fromSound completed ≠ [] ↔ ∃ entry ∈ completed, entry.word.SetsSound := by
  simp [fromSound, List.dropWhile_eq_nil_iff]

theorem fromSound_append_of_silent {completed : List Completed} {entry : Completed}
    (none : fromSound completed = []) (silent : ¬entry.word.SetsSound) :
    fromSound (completed ++ [entry]) = [] := by
  rw [fromSound] at none
  simp [fromSound, List.dropWhile_append, none, silent]

theorem fromSound_append_of_sounded {completed : List Completed} {entry : Completed}
    (sounded : fromSound completed ≠ [] ∨ entry.word.SetsSound) :
    fromSound (completed ++ [entry]) = fromSound completed ++ [entry] := by
  unfold fromSound at sounded ⊢
  rw [List.dropWhile_append]
  split
  next none =>
    rw [List.isEmpty_iff] at none
    have sets := sounded.resolve_left (not_not.mpr none)
    simp [none, sets]
  next => rfl

namespace Journal

/-- The machines differ in their sound timers at most, and have executed the same words. They do not differ
since the first of these that has started the sound timer. -/
structure SameButSound (journal other : Journal) : Prop where
  machine : ∃ sound, other.machine = journal.machine.withSound sound
  words : other.completed.map Completed.word = journal.completed.map Completed.word
  fromSound_eq : fromSound other.completed = fromSound journal.completed
  /-- The machines are the same if the sound timer was started. -/
  settled : fromSound journal.completed ≠ [] → other.machine = journal.machine

theorem SameButSound.complete {journal other : Journal} (same : journal.SameButSound other)
    {word : Word} {after otherAfter : Machine} (machine : ∃ sound, otherAfter = after.withSound sound)
    (settled : fromSound journal.completed ≠ [] ∨ word.SetsSound → otherAfter = after) :
    (journal.complete word after).SameButSound (other.complete word otherAfter) := by
  have words : (other.complete word otherAfter).completed.map Completed.word =
      (journal.complete word after).completed.map Completed.word := by
    simp only [Journal.complete, List.map_append, same.words, List.map_singleton]
  by_cases sounded : fromSound journal.completed ≠ [] ∨ word.SetsSound
  · cases settled sounded
    refine ⟨machine, words, ?_, fun _ => rfl⟩
    simp only [Journal.complete]
    rw [fromSound_append_of_sounded (by rwa [same.fromSound_eq]), same.fromSound_eq,
      fromSound_append_of_sounded sounded]
  · rw [not_or, not_not] at sounded
    have none : fromSound (journal.complete word after).completed = [] :=
      fromSound_append_of_silent sounded.1 sounded.2
    have otherNone : fromSound (other.complete word otherAfter).completed = [] :=
      fromSound_append_of_silent (same.fromSound_eq.trans sounded.1) sounded.2
    exact ⟨machine, words, otherNone.trans none.symm, fun started => absurd none started⟩

theorem kept_sameButSound : Kept SameButSound where
  cycles := by
    intro journal other same
    rcases same.machine with ⟨sound, machine⟩
    have fetches : other.machine.fetch = journal.machine.fetch := by
      rw [machine]
      rfl
    have executes (word : Word) := journal.machine.execute_withSound sound word
    rw [← machine] at executes
    unfold cycleAction
    rw [fetches]
    rcases journal.machine.fetch with fault | word
    · exact ⟨same, rfl⟩
    · dsimp only
      rcases executed : journal.machine.execute word with fault | after
      · rw [executes, executed]
        exact ⟨same, rfl⟩
      · rw [executes, executed]
        refine ⟨same.complete ⟨_, rfl⟩ ?_, rfl⟩
        rintro (started | sets)
        · have otherExecuted := executes word
          rw [same.settled started, executed] at otherExecuted
          exact (Except.ok.inj otherExecuted).symm
        · simp only [if_pos sets]
          rfl
  ticks := by
    rintro journal other ⟨⟨sound, machine⟩, words, fromSound_eq, settled⟩
    refine ⟨⟨sound.tick, ?_⟩, words, fromSound_eq, fun started => ?_⟩
    · rw [tick, machine]
      rfl
    · rw [tick, settled started]
      rfl
  lends := by
    rintro journal other screen keys ⟨⟨sound, machine⟩, words, fromSound_eq, settled⟩
    refine ⟨⟨sound, ?_⟩, words, fromSound_eq, fun started => ?_⟩
    · rw [lend, machine]
      rfl
    · rw [lend, settled started]
      rfl
  screens := by
    rintro journal other ⟨⟨sound, machine⟩, _, _, _⟩
    rw [machine]
    rfl

end Journal

namespace Emulator

variable {Time : Type}

/-- The emulator with another sound timer in its machine. -/
def withSound (emulator : Emulator Time) (sound : Timer) : Emulator Time :=
  { emulator with machine := emulator.machine.withSound sound }

variable [ClockNumber Time]

/-- Two emulators differ in their sound timers alone, and are used by hosts that differ in their buzzers
alone. Whatever the hosts request, so after each request, their calls have ended alike and nothing but
sound timers and buzzers differs. The same words were executed, and from the first one on that started
the sound timer neither the machines that the cycles left nor the emulators differ at all. -/
theorem sound_timer_is_write_only (emulator : Emulator Time) (sound : Timer) (host : Host)
    (buzzer : Bool) (requests : List (Request Time)) :
    let usage := Usage.serveAll { emulator, host } requests
    let other := Usage.serveAll { emulator := emulator.withSound sound, host := { host with buzzer } }
      requests
    other.outcomes = usage.outcomes ∧
      (∃ left, other.emulator = usage.emulator.withSound left) ∧
      other.host.screen = usage.host.screen ∧
      other.completed.map Completed.word = usage.completed.map Completed.word ∧
      fromSound other.completed = fromSound usage.completed ∧
      ((∃ entry ∈ usage.completed, entry.word.SetsSound) → other.emulator = usage.emulator) := by
  intro usage other
  have begins : Usage.Related Journal.SameButSound { emulator, host }
      { emulator := emulator.withSound sound, host := { host with buzzer } } :=
    ⟨⟨rfl, ⟨sound, rfl⟩, rfl, rfl, fun started => absurd rfl started⟩, rfl, rfl⟩
  have related : usage.Related Journal.SameButSound other :=
    begins.serveAll Journal.kept_sameButSound requests
  rcases related with ⟨⟨same, ⟨left, machine⟩, words, fromSound_eq, settled⟩, screen_eq, outcomes_eq⟩
  simp only at machine settled
  refine ⟨outcomes_eq, ⟨left, ?_⟩, screen_eq, words, fromSound_eq, ?_⟩
  · rw [same, machine]
    rfl
  · intro started
    rw [same, settled (fromSound_ne_nil_iff.mpr started)]

end Emulator

end Chip8
