import Chip8.Proofs.Checksum.Detection
import Chip8.Proofs.Emulator.Renewal

/-!
# Programs that end in their own checksum

A program without a seed of its own is started from its checksum, and zero starts nothing. The programs with
the checksum zero are those that end in the checksum of what stands before, high byte first, and they are
started from the fallback seed.
-/

namespace Chip8.Emulator

variable {Time : Type}

/-- A program that ends in the checksum of its body is loaded with the fallback seed, and any other with its
own checksum, which is then not zero. -/
theorem falls_back_on_own_checksum (emulator : Emulator Time) (body : List UInt8) (high low : UInt8) :
    let program := body ++ [high, low]
    let endsInOwn := 256 * high.toNat + low.toNat = (Checksum.ofBytes body).toNat
    (Checksum.ofBytes program = 0 ↔ endsInOwn) ∧
    (body.length ≤ 3582 → ∃ loaded inUse, emulator.load program none = (loaded, .ok inUse) ∧
      (endsInOwn → inUse = 0xACE1) ∧
      (¬endsInOwn → inUse = (Checksum.ofBytes program).toNat ∧ inUse ≠ 0) ∧
      loaded.seed = some inUse ∧ Lfsr.seeded inUse = .ok loaded.machine.random) := by
  intro program endsInOwn
  have zeroIff : Checksum.ofBytes program = 0 ↔ endsInOwn := by
    rw [Checksum.ofBytes, Checksum.updateAll_append, Checksum.updateAll_pair_eq_zero_iff]
    rfl
  refine ⟨zeroIff, ?_⟩
  intro short
  have fits : program.length ≤ 0xE00 := by
    rw [List.length_append]
    exact Nat.add_le_add_right short 2
  rcases emulator.exists_load_eq_ok fits (seedFor_none_ne_zero program) with ⟨loaded, done⟩
  rcases load_of_ok done with ⟨_, seed, _, _, _, random, _, started, machine⟩
  refine ⟨loaded, seedFor program none, done, ?_, ?_, seed, ?_⟩
  · intro own
    rw [seedFor_eq, if_pos (zeroIff.mpr own)]
    rfl
  · intro other
    have nonzero : Checksum.ofBytes program ≠ 0 := fun zero => other (zeroIff.mp zero)
    rw [seedFor_eq, if_neg nonzero]
    refine ⟨rfl, ?_⟩
    intro zero
    exact nonzero (UInt16.toNat_inj.mp (Int.ofNat_eq_zero.mp zero))
  · rw [started, machine]

/-- Four letters and their checksum are loaded with the fallback seed, and the letters with two zeros behind
them with their own. -/
theorem falls_back_on_own_checksum_of_letters :
    let emulator : Emulator Rat :=
      { frequency := 500, cpuClock := { period := 1 / 500 }, timerClock := { period := 1 / 60 } }
    (∃ loaded, emulator.load [0x50, 0x4F, 0x4E, 0x47, 0xD6, 0x87] none = (loaded, .ok 0xACE1)) ∧
    ∃ loaded, emulator.load [0x50, 0x4F, 0x4E, 0x47, 0x00, 0x00] none = (loaded, .ok 0x5EEE) := by
  intro emulator
  have short : [0x50, 0x4F, 0x4E, 0x47].length ≤ 3582 := by decide
  constructor
  · rcases (emulator.falls_back_on_own_checksum [0x50, 0x4F, 0x4E, 0x47] 0xD6 0x87).2 short with
      ⟨loaded, inUse, done, own, _⟩
    rw [own (by decide)] at done
    exact ⟨loaded, done⟩
  · rcases (emulator.falls_back_on_own_checksum [0x50, 0x4F, 0x4E, 0x47] 0x00 0x00).2 short with
      ⟨loaded, inUse, done, _, other, _⟩
    rw [(other (by decide)).1] at done
    exact ⟨loaded, done⟩

end Chip8.Emulator
