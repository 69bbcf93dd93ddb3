import Chip8.Proofs.Emulator.Loading
import Chip8.Proofs.Emulator.Settings
import Chip8.Proofs.Lfsr.Running
import Chip8.Proofs.Memory.Contents

/-!
# A loaded program begins anew

A program is loaded completely or not at all, and the machine on which it begins is a matter of the
program and the seed alone. Of what the emulator did before only its settings remain: the frequency,
and the period and the cap of each schedule.
-/

namespace Chip8

namespace Machine

/-- Memory when a program begins: the font sprites, nothing up to `0x200`, the program, and nothing up
to the end. -/
def image (program : List UInt8) : List UInt8 :=
  fontSprites ++ List.replicate 0x1B0 0 ++ program ++ List.replicate (0xE00 - program.length) 0

/-- The machine on which a program begins with a seed: the register has taken sixteen steps from the low
bits of the seed. What is not named here is as in a machine that was never used. -/
def beginning (program : List UInt8) (seed : Int) : Machine :=
  { memory := ⟨(image program).toArray⟩, random := Lfsr.stepped^[16] ⟨seed % 0x10000⟩ }

theorem length_fontSprites : fontSprites.length = 80 := rfl

theorem toList_programMemory {program : List UInt8} {memory : Memory}
    (fits : programMemory program = .ok memory) : memory.bytes.toList = image program := by
  rcases bind_eq_ok_iff.mp fits with ⟨sprites, font, written⟩
  have drawn : sprites.bytes.toList = fontSprites ++ List.replicate 0xFB0 0 := by
    rw [Memory.toList_writeBlock font, map_ofInt_byteValues, byteValues, List.length_map,
      length_fontSprites, Memory.blank, Array.toList_replicate, List.drop_replicate]
    rfl
  have front : (fontSprites ++ List.replicate 0xFB0 0).take 0x200 =
      fontSprites ++ List.replicate 0x1B0 0 := by
    rw [List.take_append, length_fontSprites, List.take_replicate]
    rfl
  have behind : (fontSprites ++ List.replicate 0xFB0 0).drop (0x200 + program.length) =
      List.replicate (0xE00 - program.length) 0 := by
    have count : 0xFB0 - (0x200 + program.length - 80) = 0xE00 - program.length := by omega
    rw [List.drop_append, List.drop_eq_nil_of_le (by rw [length_fontSprites]; omega),
      length_fontSprites, List.drop_replicate, List.nil_append, count]
  rw [Memory.toList_writeBlock written, map_ofInt_byteValues, byteValues, List.length_map, drawn]
  rw [show (0x200 : Int).toNat = 0x200 from rfl, front, behind, image]

end Machine

namespace Emulator

variable {Time : Type} {emulator loaded : Emulator Time} {program : List UInt8} {seed : Option Int}
  {inUse : Int}

/-- A seed that is worked out from the program has bits. -/
theorem seedFor_none_ne_zero (program : List UInt8) : seedFor program none % 0x10000 ≠ 0 := by
  have small := (Checksum.ofBytes program).toNat_lt
  simp only [seedFor]
  split
  next => decide
  next nonzero => omega

/-- Why loading fails: the program does not fit, or else a seed is given that has no bits. -/
theorem outcome_load_eq_error_iff (emulator : Emulator Time) (program : List UInt8)
    (seed : Option Int) (fault : Fault) :
    (emulator.load program seed).2 = .error fault ↔
      0xE00 < program.length ∧ fault = .addressOutOfRange 0x1000 ∨
        program.length ≤ 0xE00 ∧ (∃ given, seed = some given ∧ given % 0x10000 = 0) ∧
          fault = .zeroSeed := by
  rcases memory : Machine.programMemory program with other | bytes
  · have refused := Machine.programMemory_eq_error_iff.mp memory
    have outcome : (emulator.load program seed).2 = .error other := by
      unfold load
      rw [memory]
    rw [outcome, Except.error.injEq]
    constructor
    · rintro rfl
      exact Or.inl refused
    · rintro (⟨_, rfl⟩ | ⟨fits, _⟩)
      · exact refused.2
      · omega
  · have fits : program.length ≤ 0xE00 := by
      by_contra tooLong
      have refused := Machine.programMemory_eq_error_iff.mpr ⟨Nat.lt_of_not_le tooLong, rfl⟩
      rw [memory] at refused
      cases refused
    have bitless : seedFor program seed % 0x10000 = 0 ↔
        ∃ given, seed = some given ∧ given % 0x10000 = 0 := by
      cases seed with
      | none =>
          constructor
          · intro bitless
            exact absurd bitless (seedFor_none_ne_zero program)
          · rintro ⟨_, isGiven, _⟩
            cases isGiven
      | some given =>
          constructor
          · intro bitless
            exact ⟨given, rfl, bitless⟩
          · rintro ⟨_, isGiven, bitless⟩
            cases isGiven
            exact bitless
    have outcome : (emulator.load program seed).2 = .error fault ↔
        Lfsr.seeded (seedFor program seed) = .error fault := by
      unfold load
      rw [memory]
      dsimp only
      rcases Lfsr.seeded (seedFor program seed) with other | random <;> simp
    rw [outcome, Lfsr.seeded_eq_error_iff, bitless]
    constructor
    · rintro ⟨isBitless, rfl⟩
      exact Or.inr ⟨fits, isBitless, rfl⟩
    · rintro (⟨tooLong, _⟩ | ⟨_, isBitless, rfl⟩)
      · omega
      · exact ⟨isBitless, rfl⟩

/-- When loading goes well: the program fits, and the seed has bits if one is given. -/
theorem exists_outcome_load_eq_ok_iff (emulator : Emulator Time) (program : List UInt8)
    (seed : Option Int) :
    (∃ inUse, (emulator.load program seed).2 = .ok inUse) ↔
      program.length ≤ 0xE00 ∧ ∀ given, seed = some given → given % 0x10000 ≠ 0 := by
  have failsIff (fault : Fault) := outcome_load_eq_error_iff emulator program seed fault
  constructor
  · rintro ⟨inUse, done⟩
    simp only [done, reduceCtorEq, false_iff] at failsIff
    have fits : program.length ≤ 0xE00 := by
      by_contra tooLong
      exact failsIff _ (Or.inl ⟨Nat.lt_of_not_le tooLong, rfl⟩)
    refine ⟨fits, ?_⟩
    intro given isGiven bitless
    exact failsIff _ (Or.inr ⟨fits, ⟨given, isGiven, bitless⟩, rfl⟩)
  · rintro ⟨fits, bits⟩
    rcases outcome : (emulator.load program seed).2 with fault | inUse
    · rcases (failsIff fault).mp outcome with ⟨tooLong, _⟩ | ⟨_, ⟨given, isGiven, bitless⟩, _⟩
      · omega
      · exact absurd bitless (bits given isGiven)
    · exact ⟨inUse, rfl⟩

/-- The seed in use is the one given, or else the checksum of the program unless that is zero. -/
theorem seedFor_eq (program : List UInt8) (seed : Option Int) :
    seedFor program seed = seed.getD (if Checksum.ofBytes program = 0 then 0xACE1
      else (Checksum.ofBytes program).toNat) := by
  cases seed with
  | none =>
      simp only [seedFor, Option.getD_none, ← UInt16.toNat_inj, UInt16.toNat_zero]
      split <;> rfl
  | some given => rfl

/-- The machine after loading is the one on which the program begins with its seed. -/
theorem machine_of_load (done : emulator.load program seed = (loaded, .ok inUse)) :
    loaded.machine = Machine.beginning program inUse := by
  rcases load_of_ok done with ⟨_, _, _, _, memory, random, fits, started, machine⟩
  have bytes : memory = ⟨(Machine.image program).toArray⟩ := by
    rw [← Machine.toList_programMemory fits]
  have register : random = Lfsr.stepped^[16] ⟨inUse % 0x10000⟩ := by
    simp only [Lfsr.seeded] at started
    split at started <;> cases started
    exact Lfsr.register_nextBits _ 16
  rw [machine, bytes, register, Machine.beginning]

/-- Whether loading goes well, and why not, is not a matter of the emulator. -/
theorem outcome_load_eq (emulator other : Emulator Time) (program : List UInt8)
    (seed : Option Int) : (emulator.load program seed).2 = (other.load program seed).2 := by
  unfold load
  rcases Machine.programMemory program with fault | memory
  · rfl
  · dsimp only
    rcases Lfsr.seeded (seedFor program seed) with fault | random <;> rfl

variable [ClockNumber Time]

/-- What is left of an emulator and its past when a program was loaded. -/
theorem eq_of_load {past : List (Call Time)}
    (done : (emulator.afterAll past).load program seed = (loaded, .ok inUse)) :
    loaded.machine = Machine.beginning program inUse ∧ loaded.seed = some inUse ∧
      loaded.cpuClock = emulator.cpuClock.reset ∧
      loaded.timerClock = emulator.timerClock.reset := by
  rcases load_of_ok done with ⟨_, usedSeed, cpuClock, timerClock, _⟩
  have alike := emulator.alike_afterAll past
  rw [alike.cpuClock.reset_eq] at cpuClock
  rw [alike.timerClock.reset_eq] at timerClock
  exact ⟨machine_of_load done, usedSeed, cpuClock, timerClock⟩

/-- A program is loaded completely or not at all, and nothing of the past is left. Loading fails
exactly if the program does not fit, or if it fits and a seed is given whose low sixteen bits are zero;
then nothing changes. Otherwise machine, seed and schedules are those that the program and the seed
determine, with the settings the emulator was made with, whatever was called before. -/
theorem load_begins_anew (emulator : Emulator Time) (past other : List (Call Time))
    (program : List UInt8) (seed : Option Int) :
    let before := emulator.afterAll past
    let after := (before.load program seed).1
    let outcome := (before.load program seed).2
    let elsewhere := ((emulator.afterAll other).load program seed).1
    (outcome = .error (.addressOutOfRange 0x1000) ↔ 0xE00 < program.length) ∧
    (outcome = .error .zeroSeed ↔
      program.length ≤ 0xE00 ∧ ∃ given, seed = some given ∧ given % 0x10000 = 0) ∧
    ((∃ inUse, outcome = .ok inUse) ↔
      program.length ≤ 0xE00 ∧ ∀ given, seed = some given → given % 0x10000 ≠ 0) ∧
    (∀ fault, outcome = .error fault → after = before) ∧
    ∀ inUse, outcome = .ok inUse →
      inUse = seed.getD (if Checksum.ofBytes program = 0 then 0xACE1
        else (Checksum.ofBytes program).toNat) ∧
      after.machine = Machine.beginning program inUse ∧
      after.seed = some inUse ∧
      after.cpuClock = { emulator.cpuClock with last := none, dropped := 0 } ∧
      after.timerClock = { emulator.timerClock with last := none, dropped := 0 } ∧
      ((emulator.afterAll other).load program seed).2 = .ok inUse ∧
      elsewhere.machine = after.machine ∧ elsewhere.seed = after.seed ∧
      elsewhere.cpuClock = after.cpuClock ∧ elsewhere.timerClock = after.timerClock := by
  have failsIff (fault : Fault) :=
    outcome_load_eq_error_iff (emulator.afterAll past) program seed fault
  have succeedsIff := exists_outcome_load_eq_ok_iff (emulator.afterAll past) program seed
  have sameOutcome := outcome_load_eq (emulator.afterAll past) (emulator.afterAll other) program seed
  dsimp only
  rcases loads : (emulator.afterAll past).load program seed with ⟨after, outcome⟩
  rcases alsoLoads : (emulator.afterAll other).load program seed with ⟨elsewhere, otherOutcome⟩
  rw [loads, alsoLoads] at sameOutcome
  rw [loads] at failsIff succeedsIff
  simp only at failsIff succeedsIff sameOutcome ⊢
  subst sameOutcome
  refine ⟨?_, ?_, succeedsIff, ?_, ?_⟩
  · rw [failsIff]
    simp
  · rw [failsIff]
    simp
  · rintro fault rfl
    exact load_of_error loads
  · rintro inUse rfl
    rcases eq_of_load loads with ⟨machine, usedSeed, cpuClock, timerClock⟩
    rcases eq_of_load alsoLoads with ⟨otherMachine, otherSeed, otherCpuClock, otherTimerClock⟩
    exact ⟨(load_of_ok loads).1.trans (seedFor_eq program seed), machine, usedSeed, cpuClock,
      timerClock, rfl, otherMachine.trans machine.symm, otherSeed.trans usedSeed.symm,
      otherCpuClock.trans cpuClock.symm, otherTimerClock.trans timerClock.symm⟩

end Emulator

end Chip8
