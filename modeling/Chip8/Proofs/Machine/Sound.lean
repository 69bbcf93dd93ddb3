import Chip8.Proofs.Machine.Timers

/-!
# The sound timer is not read

A program starts the sound timer with `FX18` and cannot tell what is left of it. Each word therefore does
the same whatever the sound timer is, fails alike, and leaves it as it was, or started anew at the same
value.
-/

namespace Chip8

namespace Word

/-- The words that start the sound timer. -/
def SetsSound (word : Word) : Prop := (Pattern.closed 0xF 0x1 0x8).Matches word

instance (word : Word) : Decidable word.SetsSound :=
  inferInstanceAs (Decidable ((Pattern.closed 0xF 0x1 0x8).Matches word))

theorem setsSound_iff {word : Word} {instruction : Instruction}
    (found : word.instruction? = some instruction) :
    word.SetsSound ↔ ∃ x, instruction = .setSound x := by
  constructor
  · intro sets
    have isSetSound : word.instruction? = some (.setSound word.x) :=
      instruction?_eq_some_iff.mpr ⟨sets, rfl⟩
    cases isSetSound.symm.trans found
    exact ⟨_, rfl⟩
  · rintro ⟨x, rfl⟩
    exact (instruction?_eq_some_iff.mp found).1

end Word

namespace Machine

/-- The machine with another sound timer. -/
def withSound (machine : Machine) (sound : Timer) : Machine := { machine with soundTimer := sound }

/-- An instruction leaves the timers as they were, or started anew. -/
theorem timers_of_perform {machine after : Machine} {instruction : Instruction} {flow : Flow}
    (done : machine.perform instruction = .ok (after, flow)) :
    after.delayTimer = machine.delayAfter instruction machine.delayTimer ∧
      after.soundTimer = machine.soundAfter instruction machine.soundTimer := by
  by_cases reads : ∃ x, instruction = .readDelay x
  · rcases reads with ⟨x, rfl⟩
    cases done
    exact ⟨rfl, rfl⟩
  · -- With its own timers the machine does what it does, so that the timers after it are the ones named.
    have same : machine.perform instruction = _ :=
      machine.perform_withTimers machine.delayTimer machine.soundTimer instruction
        fun x isRead => reads ⟨x, isRead⟩
    rw [done] at same
    have after_eq := congrArg Prod.fst (Except.ok.inj same)
    exact ⟨congrArg Machine.delayTimer after_eq, congrArg Machine.soundTimer after_eq⟩

/-- An instruction does the same with another sound timer. -/
theorem perform_withSound (machine : Machine) (sound : Timer) (instruction : Instruction) :
    (machine.withSound sound).perform instruction =
      (machine.perform instruction).map fun performed =>
        (performed.1.withSound (machine.soundAfter instruction sound), performed.2) := by
  by_cases reads : ∃ x, instruction = .readDelay x
  · rcases reads with ⟨x, rfl⟩
    rfl
  · have same : (machine.withSound sound).perform instruction = _ :=
      machine.perform_withTimers machine.delayTimer sound instruction fun x isRead => reads ⟨x, isRead⟩
    rw [same]
    rcases done : machine.perform instruction with fault | ⟨after, flow⟩
    · rfl
    · have delay := (timers_of_perform done).1
      simp only [Except.map, withTimers, withSound, ← delay]

theorem soundAfter_eq {machine after : Machine} {word : Word} {instruction : Instruction} {flow : Flow}
    (found : word.instruction? = some instruction)
    (done : machine.perform instruction = .ok (after, flow)) (sound : Timer) :
    machine.soundAfter instruction sound = if word.SetsSound then after.soundTimer else sound := by
  by_cases sets : word.SetsSound
  · rcases (Word.setsSound_iff found).mp sets with ⟨x, rfl⟩
    rw [if_pos sets, (timers_of_perform done).2]
    rfl
  · rw [if_neg sets]
    rw [Word.setsSound_iff found] at sets
    cases instruction with
    | setSound x => exact absurd ⟨x, rfl⟩ sets
    | _ => rfl

/-- A word does the same with another sound timer, and leaves it alone unless it starts it anew. -/
theorem execute_withSound (machine : Machine) (sound : Timer) (word : Word) :
    (machine.withSound sound).execute word =
      (machine.execute word).map fun after =>
        after.withSound (if word.SetsSound then after.soundTimer else sound) := by
  unfold execute dispatch Word.instruction
  rcases found : word.instruction? with _ | instruction
  · rfl
  · have performs := machine.perform_withSound sound instruction
    rcases done : machine.perform instruction with fault | ⟨after, flow⟩
    · rw [done] at performs
      simp only [bind, Except.bind, performs, done, Except.map]
    · rw [done] at performs
      simp only [bind, Except.bind, performs, done, Except.map, soundAfter_eq found done]
      rfl

end Machine

end Chip8
