import Chip8.Proofs.Checksum.Division
import Mathlib.Algebra.Polynomial.FieldDivision

/-!
# What the checksum tells apart

The generator and `X` have no factor in common, so it does not matter how far a difference is moved up: a
difference of fewer than seventeen bits leaves a remainder wherever it stands. Messages of one length that
differ within sixteen bits in a row have different checksums for this reason, and for the same reason a
message goes on to zero with two bytes exactly if these are its checksum.
-/

namespace Chip8.Checksum

open Polynomial

theorem isCoprime_generator_X : IsCoprime generator X := by
  refine ⟨1, X ^ 15 + X ^ 11 + X ^ 4, ?_⟩
  unfold generator
  linear_combination (X ^ 16 + X ^ 12 + X ^ 5) * two_eq_zero

/-- Sixteen coefficients in a row leave a remainder, unless all of them are zero. -/
theorem eq_zero_of_dvd_mul_X_pow {sum : (ZMod 2)[X]} {count : Nat} (low : sum.degree < 16)
    (divides : generator ∣ sum * X ^ count) : sum = 0 := by
  have dividesSum : generator ∣ sum := isCoprime_generator_X.pow_right.dvd_of_dvd_mul_right divides
  apply eq_zero_of_dvd_of_degree_lt dividesSum
  rwa [degree_generator]

section

variable {word other : List Bool} {start : Nat}

theorem ofBits_parts (word : List Bool) (start count : Nat) :
    ofBits word = ofBits (word.take start) * X ^ (word.length - start) +
      ofBits ((word.drop start).take count) * X ^ (word.length - (start + count)) +
        ofBits (word.drop (start + count)) := by
  have behind : ofBits (word.drop start) =
      ofBits ((word.drop start).take count) * X ^ (word.length - (start + count)) +
        ofBits (word.drop (start + count)) := by
    rw [← List.length_drop, ← List.drop_drop, ← ofBits_append, List.take_append_drop]
  rw [add_assoc, ← behind, ← List.length_drop, ← ofBits_append, List.take_append_drop]

/-- Words that differ in a window only have the difference of what they hold there. -/
theorem ofBits_sub_of_window {count : Nat} (length : word.length = other.length)
    (window : ∀ place, word[place]? ≠ other[place]? → start ≤ place ∧ place < start + count) :
    ofBits word - ofBits other =
      (ofBits ((word.drop start).take count) - ofBits ((other.drop start).take count)) *
        X ^ (word.length - (start + count)) := by
  have before : word.take start = other.take start := by
    apply List.ext_getElem?
    intro place
    rw [List.getElem?_take, List.getElem?_take]
    split
    next early =>
      by_contra differ
      exact Nat.not_le.mpr early (window place differ).1
    next => rfl
  have behind : word.drop (start + count) = other.drop (start + count) := by
    apply List.ext_getElem?
    intro place
    rw [List.getElem?_drop, List.getElem?_drop]
    by_contra differ
    have inside := (window _ differ).2
    omega
  rw [ofBits_parts word start count, ofBits_parts other start count, before, behind, length]
  ring

end

variable {checksum : Checksum} {first second : List UInt8}

/-- Messages of one length that bring a register to one value differ by a multiple of the generator. -/
theorem dvd_of_updateAll_eq (length : first.length = second.length)
    (same : checksum.updateAll first = checksum.updateAll second) :
    generator ∣ (message first - message second) * X ^ 16 := by
  rcases exists_quotient checksum first with ⟨quotients, divided⟩
  rcases exists_quotient checksum second with ⟨otherQuotients, otherDivided⟩
  rw [same, otherDivided, length] at divided
  refine ⟨otherQuotients - quotients, ?_⟩
  linear_combination -divided

/-- Two messages of one length that differ, and differ within sixteen bits in a row only, have different
checksums, wherever in the bytes these bits begin. -/
theorem burst_changes_checksum {start : Nat} (length : first.length = second.length)
    (differ : first ≠ second)
    (burst : ∀ place, (bits first)[place]? ≠ (bits second)[place]? → start ≤ place ∧ place < start + 16) :
    ofBytes first ≠ ofBytes second := by
  intro same
  have bitLength : (bits first).length = (bits second).length := by rw [length_bits, length_bits, length]
  have difference : message first - message second =
      (ofBits (((bits first).drop start).take 16) - ofBits (((bits second).drop start).take 16)) *
        X ^ ((bits first).length - (start + 16)) := ofBits_sub_of_window bitLength burst
  have low (word : List Bool) : (ofBits ((word.drop start).take 16)).degree < 16 := by
    apply lt_of_lt_of_le (degree_ofBits_lt _)
    exact_mod_cast List.length_take_le 16 (word.drop start)
  have nothing : ofBits (((bits first).drop start).take 16) -
      ofBits (((bits second).drop start).take 16) = 0 := by
    apply eq_zero_of_dvd_mul_X_pow (lt_of_le_of_lt (degree_sub_le _ _) (max_lt (low _) (low _)))
    rw [pow_add, ← mul_assoc, ← difference]
    exact dvd_of_updateAll_eq length same
  rw [nothing, zero_mul, sub_eq_zero] at difference
  exact differ (bits_injective (eq_of_ofBits_eq bitLength difference))

/-- A burst over three bytes, of which the first and the last bit are turned. -/
theorem burst_changes_checksum_of_straddling :
    (∀ place, (bits [0x12, 0x34, 0x56, 0x78])[place]? ≠ (bits [0x12, 0x24, 0x56, 0x58])[place]? →
      11 ≤ place ∧ place < 11 + 16) ∧
    ofBytes [0x12, 0x34, 0x56, 0x78] ≠ ofBytes [0x12, 0x24, 0x56, 0x58] := by
  have burst (place : Nat)
      (differ : (bits [0x12, 0x34, 0x56, 0x78])[place]? ≠ (bits [0x12, 0x24, 0x56, 0x58])[place]?) :
      11 ≤ place ∧ place < 11 + 16 := by
    have inside : place < 32 := by
      by_contra beyond
      apply differ
      rw [List.getElem?_eq_none (Nat.le_of_not_lt beyond), List.getElem?_eq_none (Nat.le_of_not_lt beyond)]
    have window : ∀ place < 32,
        (bits [0x12, 0x34, 0x56, 0x78])[place]? ≠ (bits [0x12, 0x24, 0x56, 0x58])[place]? →
          11 ≤ place ∧ place < 11 + 16 := by decide
    exact window place inside differ
  exact ⟨burst, burst_changes_checksum rfl (by decide) burst⟩

/-- Seventeen bits are too many: the bits of the generator itself leave nothing. -/
example : ofBytes [0x01, 0x10, 0x21] = ofBytes [0x00, 0x00, 0x00] := by decide

/-- Two bytes that are read as one number. -/
theorem message_pair (high low : UInt8) :
    message [high, low] = polynomial (256 * high.toNat + low.toNat) := by
  have lowest : (256 * high.toNat + low.toNat) % 2 ^ 8 = low.toNat := by
    have small := low.toNat_lt
    omega
  have highest : (256 * high.toNat + low.toNat) >>> 8 = high.toNat := by
    have small := low.toNat_lt
    rw [Nat.shiftRight_eq_div_pow]
    omega
  have parts := polynomial_mod_two_pow (256 * high.toNat + low.toNat) 8
  rw [lowest, highest] at parts
  rw [message_cons, message_cons, message_nil, parts]
  simp only [List.length_cons, List.length_nil]
  linear_combination polynomial high.toNat * X ^ 8 * two_eq_zero

/-- Two bytes bring a register to zero exactly if they are its value, high byte first. -/
theorem updateAll_pair_eq_zero_iff {high low : UInt8} :
    checksum.updateAll [high, low] = 0 ↔ 256 * high.toNat + low.toNat = checksum.toNat := by
  have small : 256 * high.toNat + low.toNat < 2 ^ 16 := by
    have highSmall := high.toNat_lt
    have lowSmall := low.toNat_lt
    omega
  have remainder := polynomial_updateAll checksum [high, low]
  have sum : message [high, low] * X ^ 16 + polynomial checksum.toNat * X ^ (8 * [high, low].length) =
      polynomial ((256 * high.toNat + low.toNat) ^^^ checksum.toNat) * X ^ 16 := by
    have places : 8 * [high, low].length = 16 := rfl
    rw [polynomial_xor, message_pair, places]
    ring
  rw [sum] at remainder
  constructor
  · intro zero
    rw [zero, UInt16.toNat_zero, polynomial_zero, eq_comm, modByMonic_eq_zero_iff_dvd monic_generator]
      at remainder
    have nothing := eq_zero_of_dvd_mul_X_pow
      (degree_polynomial_lt (Nat.xor_lt_two_pow small checksum.toNat_lt)) remainder
    rw [polynomial_xor, CharTwo.add_eq_zero] at nothing
    exact polynomial_injective nothing
  · intro own
    rw [own, Nat.xor_self, polynomial_zero, zero_mul, zero_modByMonic, ← polynomial_zero] at remainder
    exact UInt16.toNat_inj.mp (polynomial_injective remainder)

end Chip8.Checksum
