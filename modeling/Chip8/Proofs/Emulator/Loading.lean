import Chip8.Emulator
import Chip8.Proofs.Memory

/-!
# Loading a program

A program is refused if it does not fit behind the address at which programs begin, or if the seed in
use has no bits. A refused program leaves the emulator as it was; any other one starts the machine
anew, without a phase of its schedules.
-/

namespace Chip8

namespace Machine

theorem programMemory_eq_error_iff {program : List UInt8} {fault : Fault} :
    programMemory program = .error fault ↔
      0xE00 < program.length ∧ fault = .addressOutOfRange 0x1000 := by
  have sprites : fontSprites.length = 80 := rfl
  simp only [programMemory, bind_eq_error_iff, Memory.writeBlock_eq_error_iff (Int.le_refl 0),
    Memory.size_blank, byteValues, List.length_map, sprites]
  constructor
  · rintro (⟨⟨_, passes⟩, _⟩ | ⟨memory, font, refused⟩)
    · omega
    · rw [Memory.writeBlock_eq_error_iff (by decide), Memory.size_writeBlock font,
        Memory.size_blank, List.length_map] at refused
      rcases refused with ⟨⟨_, passes⟩, rfl⟩
      exact ⟨by omega, rfl⟩
  · rintro ⟨passes, rfl⟩
    right
    rcases font : (Memory.blank 0x1000).writeBlock 0 (byteValues fontSprites) with other | memory
    · rw [Memory.writeBlock_eq_error_iff (Int.le_refl 0), Memory.size_blank] at font
      simp only [byteValues, List.length_map, sprites] at font
      omega
    · refine ⟨memory, font, ?_⟩
      rw [Memory.writeBlock_eq_error_iff (by decide), Memory.size_writeBlock font,
        Memory.size_blank, List.length_map]
      exact ⟨by omega, rfl⟩

end Machine

namespace Lfsr

theorem seeded_eq_error_iff {seed : Int} {fault : Fault} :
    seeded seed = .error fault ↔ seed % 0x10000 = 0 ∧ fault = .zeroSeed := by
  simp only [seeded]
  split
  next zero => simp [zero, eq_comm]
  next nonzero => simp [nonzero]

end Lfsr

namespace Emulator

variable {Time : Type} {emulator loaded : Emulator Time} {program : List UInt8}
  {seed : Option Int}

/-- A refused program leaves the emulator as it was. -/
theorem load_of_error {fault : Fault} (refused : emulator.load program seed = (loaded, .error fault)) :
    loaded = emulator := by
  unfold load at refused
  split at refused
  next => cases refused; rfl
  next memory fits =>
    simp only at refused
    split at refused <;> cases refused
    rfl

/-- A loaded program is in memory, its seed is in use, and nothing else is left of what was before. -/
theorem load_of_ok {inUse : Int} (done : emulator.load program seed = (loaded, .ok inUse)) :
    inUse = seedFor program seed ∧ loaded.seed = some inUse ∧
      loaded.cpuClock = emulator.cpuClock.reset ∧ loaded.timerClock = emulator.timerClock.reset ∧
      ∃ memory random, Machine.programMemory program = .ok memory ∧
        Lfsr.seeded inUse = .ok random ∧ loaded.machine = { memory, random } := by
  unfold load at done
  split at done
  next => cases done
  next memory fits =>
    simp only at done
    split at done <;> cases done
    next random started => exact ⟨rfl, rfl, rfl, rfl, memory, random, fits, started, rfl⟩

/-- A program that fits is loaded with every seed that has bits. -/
theorem exists_load_eq_ok (emulator : Emulator Time) (fits : program.length ≤ 0xE00)
    (nonzero : seedFor program seed % 0x10000 ≠ 0) :
    ∃ loaded, emulator.load program seed = (loaded, .ok (seedFor program seed)) := by
  rcases memory : Machine.programMemory program with fault | bytes
  · rw [Machine.programMemory_eq_error_iff] at memory
    omega
  · rcases random : Lfsr.seeded (seedFor program seed) with fault | register
    · rw [Lfsr.seeded_eq_error_iff] at random
      exact absurd random.1 nonzero
    · have outcome : (emulator.load program seed).2 = .ok (seedFor program seed) := by
        unfold load
        rw [memory]
        dsimp only
        rw [random]
      exact ⟨(emulator.load program seed).1, by rw [← outcome]⟩

end Emulator

end Chip8
