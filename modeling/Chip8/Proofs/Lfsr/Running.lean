import Chip8.Lfsr
import Mathlib.Logic.Function.Iterate

/-!
# The random register keeps running

Zero is the one state from which the register does not get on. A register that is started from a seed
has sixteen bits that are not all zero, and no step leads from such a state to zero: if the bits that
stay are all zero, only the lowest was set, and then the bit that is fed back is set.
-/

namespace Chip8.Lfsr

def stepped (register : Lfsr) : Lfsr := register.nextBit.1

/-- Many bits are drawn one step after another. -/
theorem register_nextBits (register : Lfsr) (count : Nat) :
    (register.nextBits count).1 = stepped^[count] register := by
  induction count generalizing register with
  | zero => rfl
  | succ count ih => exact ih _

/-- The register has sixteen bits, and not all of them are zero. -/
def Running (register : Lfsr) : Prop := 1 ≤ register.state ∧ register.state ≤ 0xFFFF

theorem shift_ne_zero {bits : Nat} (nonzero : bits ≠ 0) : shift bits ≠ 0 := by
  intro zero
  rcases Nat.or_eq_zero_iff.mp zero with ⟨shifted, fed⟩
  have lowest : bits = 1 := by
    rw [Nat.shiftRight_eq_div_pow] at shifted
    omega
  subst lowest
  exact absurd fed (by decide)

theorem running_nextBit {register : Lfsr} (running : register.Running) :
    register.nextBit.1.Running := by
  have inRange := register.state_nextBit_mem
  have nonzero : shift register.lowBits ≠ 0 := by
    apply shift_ne_zero
    rcases running with ⟨positive, small⟩
    unfold lowBits
    omega
  simp only [Running, nextBit] at inRange ⊢
  omega

theorem running_nextBits {register : Lfsr} (running : register.Running) (count : Nat) :
    (register.nextBits count).1.Running := by
  induction count generalizing register with
  | zero => exact running
  | succ count ih => exact ih (running_nextBit running)

theorem running_nextByte {register : Lfsr} (running : register.Running) :
    register.nextByte.1.Running :=
  running_nextBits running 8

/-- A register that a seed starts is running. -/
theorem running_of_seeded {seed : Int} {register : Lfsr} (started : seeded seed = .ok register) :
    register.Running := by
  simp only [seeded] at started
  split at started
  · cases started
  · cases started
    apply running_nextBits
    simp only [Running]
    omega

end Chip8.Lfsr
