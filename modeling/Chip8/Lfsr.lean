import Chip8.Fault

/-!
# Random register

A linear feedback shift register of sixteen bits with the polynomial `X^16 + X^15 + X^13 + X^4 + 1`.
The register is a value: drawing from it gives the register after the draw beside the result, so two
registers with one seed give the same bytes.

The state may be any integer. A step looks at its low seventeen bits only and leaves a state of
sixteen, and zero is the one state that a step does not leave.
-/

namespace Chip8

/-- A shift register that feeds the parity of four of its bits back at the top. -/
structure Lfsr where
  state : Int := 0
  deriving DecidableEq

namespace Lfsr

/-- Bits dropped after seeding, so that the first byte does not expose the seed. -/
def warmUpBits : Nat := 16

/-- The bit fed back: the parity of bits 0, 1, 3 and 12. -/
def feedback (bits : Nat) : Nat :=
  (bits ^^^ bits >>> 1 ^^^ bits >>> 3 ^^^ bits >>> 12) % 2

/-- The bits after a step: shifted down by one, with the feedback in bit 15. -/
def shift (bits : Nat) : Nat := bits >>> 1 ||| feedback bits <<< 15

/-- The low seventeen bits of the state, all that a step depends on. -/
def lowBits (register : Lfsr) : Nat := (register.state % 0x20000).toNat

/-- One step: the register after it and the bit it fed back. -/
def nextBit (register : Lfsr) : Lfsr × Bool :=
  (⟨shift register.lowBits⟩, feedback register.lowBits = 1)

/-- `count` steps: the register after them and their bits, first to last. -/
def nextBits (register : Lfsr) : Nat → Lfsr × List Bool
  | 0 => (register, [])
  | count + 1 =>
    let (next, bit) := register.nextBit
    let (last, bits) := nextBits next count
    (last, bit :: bits)

/-- The number whose binary digits are given, most significant first. -/
def ofBits (bits : List Bool) : Nat := bits.foldl (fun number bit => 2 * number + bit.toNat) 0

/-- Eight steps, read as a byte with the first bit on top. -/
def nextByte (register : Lfsr) : Lfsr × UInt8 :=
  let (next, bits) := register.nextBits 8
  (next, UInt8.ofNat (ofBits bits))

/-- `count` bytes in a row. -/
def nextBytes (register : Lfsr) : Nat → Lfsr × List UInt8
  | 0 => (register, [])
  | count + 1 =>
    let (next, byte) := register.nextByte
    let (last, bytes) := nextBytes next count
    (last, byte :: bytes)

/-- The register started from the low sixteen bits of a seed, which must not all be zero. -/
def seeded (seed : Int) : Except Fault Lfsr :=
  let state := seed % 0x10000
  if state = 0 then .error .zeroSeed else .ok (nextBits ⟨state⟩ warmUpBits).1

theorem feedback_lt (bits : Nat) : feedback bits < 2 := Nat.mod_lt _ (by decide)

theorem shift_lt {bits : Nat} (small : bits < 0x20000) : shift bits < 0x10000 := by
  have shifted : bits >>> 1 < 2 ^ 16 := by
    rw [Nat.shiftRight_eq_div_pow]
    omega
  have fed : feedback bits <<< 15 < 2 ^ 16 := by
    have := feedback_lt bits
    rw [Nat.shiftLeft_eq]
    omega
  exact Nat.or_lt_two_pow shifted fed

theorem state_nextBit_mem (register : Lfsr) :
    0 ≤ register.nextBit.1.state ∧ register.nextBit.1.state < 0x10000 := by
  have small : register.lowBits < 0x20000 := by
    unfold lowBits
    omega
  have := shift_lt small
  simp only [nextBit]
  omega

@[simp]
theorem length_nextBits (register : Lfsr) (count : Nat) :
    (register.nextBits count).2.length = count := by
  induction count generalizing register with
  | zero => rfl
  | succ count ih => simp [nextBits, ih]

end Lfsr

end Chip8
