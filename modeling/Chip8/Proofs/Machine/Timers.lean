import Chip8.Proofs.Machine.Footprint

/-!
# What the timers decide

The timers count down beside the program. Of all instructions only `FX07` reads one, and so a machine
with other timers does the same as long as it meets no such word: it faces the same words, fails
alike, and differs in nothing but its timers afterwards.

So it does not matter how the ticks are mixed in with the cycles. Of two runs from machines that
differ in their timers alone, with as many cycles, both execute the same words and end in machines
that differ in their timers alone.
-/

namespace Chip8

namespace Word

/-- The words that read the delay timer. -/
def ReadsDelay (word : Word) : Prop := (Pattern.closed 0xF 0x0 0x7).Matches word

theorem readsDelay_of_instruction? {word : Word} {x : Nibble}
    (found : word.instruction? = some (.readDelay x)) : word.ReadsDelay :=
  (instruction?_eq_some_iff.mp found).1

end Word

namespace Machine

/-- The machine with other timers. -/
def withTimers (machine : Machine) (delay sound : Timer) : Machine :=
  { machine with delayTimer := delay, soundTimer := sound }

section

variable (machine : Machine) (delay sound : Timer)

@[simp]
theorem index_withTimers : (machine.withTimers delay sound).index = machine.index := rfl

@[simp]
theorem counter_withTimers : (machine.withTimers delay sound).counter = machine.counter := rfl

@[simp]
theorem stack_withTimers : (machine.withTimers delay sound).stack = machine.stack := rfl

@[simp]
theorem memory_withTimers : (machine.withTimers delay sound).memory = machine.memory := rfl

@[simp]
theorem screen_withTimers : (machine.withTimers delay sound).screen = machine.screen := rfl

@[simp]
theorem keys_withTimers : (machine.withTimers delay sound).keys = machine.keys := rfl

@[simp]
theorem register_withTimers (x : Nibble) :
    (machine.withTimers delay sound).register x = machine.register x := rfl

@[simp]
theorem registersUpTo_withTimers (x : Nibble) :
    (machine.withTimers delay sound).registersUpTo x = machine.registersUpTo x := rfl

@[simp]
theorem keyDown_withTimers (x : Nibble) :
    (machine.withTimers delay sound).keyDown x = machine.keyDown x := rfl

theorem combine_withTimers (operation : Operation) (x y : Nibble) :
    (machine.withTimers delay sound).combine operation x y =
      (machine.combine operation x y).withTimers delay sound := by
  cases operation <;> rfl

end

/-- The delay timer after an instruction of a machine, if it was `delay` before. -/
def delayAfter (machine : Machine) (instruction : Instruction) (delay : Timer) : Timer :=
  match instruction with
  | .setDelay x => delay.set (machine.register x).toNat
  | _ => delay

/-- The sound timer after an instruction of a machine, if it was `sound` before. -/
def soundAfter (machine : Machine) (instruction : Instruction) (sound : Timer) : Timer :=
  match instruction with
  | .setSound x => sound.set (machine.register x).toNat
  | _ => sound

/-- An instruction that does not read the delay timer does the same with other timers. -/
theorem perform_withTimers (machine : Machine) (delay sound : Timer) (instruction : Instruction)
    (blind : ∀ x, instruction ≠ .readDelay x) :
    (machine.withTimers delay sound).perform instruction =
      (machine.perform instruction).map fun performed =>
        (performed.1.withTimers (machine.delayAfter instruction delay)
          (machine.soundAfter instruction sound), performed.2) := by
  cases instruction with
  | readDelay x => exact absurd rfl (blind x)
  | combine operation x y =>
      simp only [perform, combine_withTimers]
      rfl
  | endCall =>
      simp only [perform, stack_withTimers]
      rcases machine.stack.pop with fault | ⟨stack, address⟩ <;> rfl
  | call address =>
      simp only [perform, stack_withTimers, counter_withTimers]
      rcases machine.stack.push (machine.counter + 2) with fault | stack <;> rfl
  | draw x y rows =>
      simp only [perform, memory_withTimers, index_withTimers, screen_withTimers,
        register_withTimers]
      rcases machine.memory.readBlock machine.index (rows : Nat) with fault | sprite
      · rfl
      · dsimp only [bind, Except.bind]
        rcases drawRows machine.screen (machine.register x).toNat (machine.register y).toNat
          sprite with fault | ⟨screen, collided⟩ <;> rfl
  | skipIfKey x | skipUnlessKey x =>
      simp only [perform, keyDown_withTimers]
      rcases machine.keyDown x with fault | down <;> rfl
  | awaitKey x =>
      simp only [perform, keys_withTimers]
      rcases machine.keys.idxOf? true with _ | key <;> rfl
  | storeDigits x =>
      simp only [perform, memory_withTimers, index_withTimers, register_withTimers]
      rcases machine.memory.writeBlock machine.index (decimalDigits (machine.register x)) with
        fault | memory <;> rfl
  | storeRegisters x =>
      simp only [perform, memory_withTimers, index_withTimers, registersUpTo_withTimers]
      rcases machine.memory.writeBlock machine.index (machine.registersUpTo x) with
        fault | memory <;> rfl
  | loadRegisters x =>
      simp only [perform, memory_withTimers, index_withTimers]
      rcases machine.memory.readBlock machine.index (x + 1 : Nat) with fault | bytes <;> rfl
  | _ => rfl

/-- A machine that differs from another one in its timers alone. -/
def SameButTimers (machine other : Machine) : Prop :=
  ∃ delay sound, other = machine.withTimers delay sound

variable {machine other third after first second last otherLast : Machine} {word : Word}
  {words otherWords : List Word}

theorem sameButTimers_refl (machine : Machine) : machine.SameButTimers machine :=
  ⟨machine.delayTimer, machine.soundTimer, rfl⟩

theorem sameButTimers_tickTimers (machine : Machine) : machine.SameButTimers machine.tickTimers :=
  ⟨machine.delayTimer.tick, machine.soundTimer.tick, rfl⟩

theorem SameButTimers.symm (same : machine.SameButTimers other) : other.SameButTimers machine := by
  rcases same with ⟨delay, sound, rfl⟩
  exact ⟨machine.delayTimer, machine.soundTimer, rfl⟩

theorem SameButTimers.trans (same : machine.SameButTimers other)
    (alsoSame : other.SameButTimers third) : machine.SameButTimers third := by
  rcases same with ⟨delay, sound, rfl⟩
  rcases alsoSame with ⟨delay, sound, rfl⟩
  exact ⟨delay, sound, rfl⟩

theorem SameButTimers.fetch_eq (same : machine.SameButTimers other) : other.fetch = machine.fetch := by
  rcases same with ⟨delay, sound, rfl⟩
  rfl

/-- A cycle on a word that does not read the delay timer does the same with other timers. -/
theorem SameButTimers.exists_cycle (same : machine.SameButTimers other)
    (fetched : machine.fetch = .ok word) (blind : ¬word.ReadsDelay)
    (cycled : machine.cycle = .ok after) :
    ∃ otherAfter, other.cycle = .ok otherAfter ∧ after.SameButTimers otherAfter := by
  rcases same with ⟨delay, sound, rfl⟩
  rcases cycle_eq_ok_iff.mp cycled with
    ⟨_, instruction, performed, flow, alsoFetched, found, performs, rfl⟩
  cases fetched.symm.trans alsoFetched
  have readsNot : ∀ x, instruction ≠ .readDelay x := by
    rintro x rfl
    exact blind (Word.readsDelay_of_instruction? found)
  have performsToo := machine.perform_withTimers delay sound instruction readsNot
  rw [performs] at performsToo
  exact ⟨_, cycle_eq_ok_iff.mpr ⟨word, instruction, _, flow, fetched, found, performsToo, rfl⟩, _, _,
    rfl⟩

/-- The words that `count` cycles execute, up to the first that fails. -/
def executed (machine : Machine) : Nat → List Word
  | 0 => []
  | count + 1 =>
    match machine.fetch, machine.cycle with
    | .ok word, .ok after => word :: executed after count
    | _, _ => []

/-- Cycles that execute these words, with ticks in between, lead from one machine to another. -/
inductive Interleaved : List Word → Machine → Machine → Prop where
  | nil (machine : Machine) : Interleaved [] machine machine
  | tick {words : List Word} {machine last : Machine}
    (rest : Interleaved words machine.tickTimers last) : Interleaved words machine last
  | cycle {word : Word} {words : List Word} {machine after last : Machine}
    (fetched : machine.fetch = .ok word) (cycled : machine.cycle = .ok after)
    (rest : Interleaved words after last) : Interleaved (word :: words) machine last

namespace Interleaved

theorem append {middle : Machine} (run : Interleaved words first middle)
    (more : Interleaved otherWords middle last) : Interleaved (words ++ otherWords) first last := by
  induction run with
  | nil machine => exact more
  | tick rest ih => exact .tick (ih more)
  | cycle fetched cycled rest ih => exact .cycle fetched cycled (ih more)

theorem keys_eq (run : Interleaved words first last) : last.keys = first.keys := by
  induction run with
  | nil machine => rfl
  | tick rest ih => exact ih
  | cycle fetched cycled rest ih => exact ih.trans (keys_of_cycle cycled)

/-- Without a cycle only the timers change. -/
theorem sameButTimers_of_nil (run : Interleaved [] first last) : first.SameButTimers last := by
  generalize none : [] = words at run
  induction run with
  | nil machine => exact machine.sameButTimers_refl
  | tick rest ih => exact (sameButTimers_tickTimers _).trans (ih none)
  | cycle fetched cycled rest ih => cases none

/-- Up to the first cycle only the timers change. -/
theorem exists_cycle (run : Interleaved (word :: words) first last) :
    ∃ machine after, first.SameButTimers machine ∧ machine.fetch = .ok word ∧
      machine.cycle = .ok after ∧ Interleaved words after last := by
  generalize some : word :: words = all at run
  induction run with
  | nil machine => cases some
  | tick rest ih =>
      rcases ih some with ⟨machine, after, same, cycles⟩
      exact ⟨machine, after, (sameButTimers_tickTimers _).trans same, cycles⟩
  | @cycle _ _ machine after _ fetched cycled rest ih =>
      cases some
      exact ⟨machine, after, machine.sameButTimers_refl, fetched, cycled, rest⟩

/-- Two runs with equally many cycles, from machines that differ in their timers alone, execute the
same words and end in machines that differ in their timers alone, if the first one does not read the
delay timer. -/
theorem agree (run : Interleaved words first last) (other : Interleaved otherWords second otherLast)
    (same : first.SameButTimers second) (length_eq : words.length = otherWords.length)
    (blind : ∀ word ∈ words, ¬word.ReadsDelay) :
    words = otherWords ∧ last.SameButTimers otherLast := by
  induction run generalizing second otherWords with
  | nil machine =>
      cases List.eq_nil_of_length_eq_zero length_eq.symm
      exact ⟨rfl, same.trans other.sameButTimers_of_nil⟩
  | tick rest ih =>
      exact ih other ((sameButTimers_tickTimers _).symm.trans same) length_eq blind
  | @cycle word words machine after last fetched cycled rest ih =>
      cases otherWords with
      | nil => cases length_eq
      | cons otherWord otherWords =>
          rcases other.exists_cycle with ⟨reached, otherAfter, waited, otherFetched, otherCycled, more⟩
          have met := same.trans waited
          cases fetched.symm.trans (met.fetch_eq.symm.trans otherFetched)
          rcases met.exists_cycle fetched (blind word List.mem_cons_self) cycled with
            ⟨_, alsoCycled, sameAfter⟩
          cases otherCycled.symm.trans alsoCycled
          have later : ∀ word ∈ words, ¬word.ReadsDelay :=
            fun next mem => blind next (List.mem_cons_of_mem word mem)
          rcases ih more sameAfter (Nat.succ.inj length_eq) later with ⟨rfl, sameLast⟩
          exact ⟨rfl, sameLast⟩

end Interleaved

end Machine

end Chip8
