import Chip8.Proofs.Checksum.Polynomial
import Mathlib.Algebra.CharP.Two
import Mathlib.Algebra.Polynomial.Div
import Mathlib.Data.Nat.Bitwise
import Mathlib.Tactic.ComputeDegree
import Mathlib.Tactic.LinearCombination

/-!
# A checksum is a remainder

Taking in a byte moves the checksum up by eight places and adds the byte at `X ^ 16`. What then lies at
`X ^ 16` and above is divided off: the quotient is that part, corrected by its own high half, because `X ^ 12`
in the generator carries four of its bits over `X ^ 16` again. Byte by byte this is the long division of the
message, moved up by sixteen places, with the value before any byte in front of it. How the message is cut
into chunks does not matter.
-/

namespace Chip8.Checksum

open Polynomial

theorem two_eq_zero : (2 : (ZMod 2)[X]) = 0 := CharTwo.two_eq_zero

/-- The polynomial by which messages are divided. -/
noncomputable def generator : (ZMod 2)[X] := X ^ 16 + X ^ 12 + X ^ 5 + 1

theorem monic_generator : generator.Monic := by
  unfold generator
  monicity!

theorem degree_generator : generator.degree = 16 := by
  unfold generator
  compute_degree!

/-- What lies at `X ^ 16` and above when a byte is taken in. -/
def overflow (checksum : Checksum) (byte : UInt8) : Checksum := checksum >>> 8 ^^^ byte.toUInt16

/-- The multiple of the generator that is taken away for a byte. -/
def quotient (checksum : Checksum) (byte : UInt8) : Checksum :=
  overflow checksum byte ^^^ overflow checksum byte >>> 4

variable {checksum : Checksum} {byte : UInt8}

theorem overflow_lt : (overflow checksum byte).toNat < 2 ^ 8 := by
  have high : checksum.toNat >>> 8 < 2 ^ 8 := by
    have small := checksum.toNat_lt
    rw [Nat.shiftRight_eq_div_pow]
    omega
  simp only [overflow, UInt16.toNat_xor, UInt16.toNat_shiftRight]
  exact Nat.xor_lt_two_pow high byte.toNat_lt

theorem quotient_lt : (quotient checksum byte).toNat < 2 ^ 8 := by
  have small : (overflow checksum byte).toNat < 2 ^ 8 := overflow_lt
  have half : (overflow checksum byte).toNat >>> 4 < 2 ^ 8 := by
    rw [Nat.shiftRight_eq_div_pow]
    omega
  simp only [quotient, UInt16.toNat_xor, UInt16.toNat_shiftRight]
  exact Nat.xor_lt_two_pow small half

/-- The part of the checksum that moves over `X ^ 16`. -/
theorem polynomial_shiftRight_checksum (checksum : Checksum) (byte : UInt8) :
    polynomial (checksum.toNat >>> 8) =
      polynomial (overflow checksum byte).toNat + polynomial byte.toNat := by
  rw [← polynomial_xor]
  simp [overflow]

/-- The part of the quotient that moves over `X ^ 16` again. -/
theorem polynomial_shiftRight_quotient :
    polynomial ((quotient checksum byte).toNat >>> 4) =
      polynomial (overflow checksum byte).toNat + polynomial (quotient checksum byte).toNat := by
  have nothing : (overflow checksum byte).toNat >>> 8 = 0 := Nat.shiftRight_eq_zero _ 8 overflow_lt
  rw [← polynomial_xor]
  simp [quotient, Nat.shiftRight_xor_distrib, ← Nat.shiftRight_add, nothing]

/-- One byte of the long division. -/
theorem polynomial_update :
    polynomial (checksum.update byte).toNat =
      polynomial checksum.toNat * X ^ 8 + polynomial byte.toNat * X ^ 16 +
        polynomial (quotient checksum byte).toNat * generator := by
  have step : checksum.update byte = checksum <<< 8 ^^^ quotient checksum byte <<< 12 ^^^
      quotient checksum byte <<< 5 ^^^ quotient checksum byte := rfl
  have nothing : (quotient checksum byte).toNat >>> 11 = 0 :=
    Nat.shiftRight_eq_zero _ 11 (Nat.lt_trans quotient_lt (by decide))
  -- What the three shifts lose at `X ^ 16` is the byte, the quotient and, twice, the overflow.
  have upEight : polynomial (checksum <<< 8).toNat = polynomial checksum.toNat * X ^ 8 +
      polynomial (checksum.toNat >>> 8) * X ^ 16 := polynomial_shiftLeft_toNat (by decide)
  have upTwelve : polynomial (quotient checksum byte <<< 12).toNat =
      polynomial (quotient checksum byte).toNat * X ^ 12 +
        polynomial ((quotient checksum byte).toNat >>> 4) * X ^ 16 :=
    polynomial_shiftLeft_toNat (by decide)
  have upFive : polynomial (quotient checksum byte <<< 5).toNat =
      polynomial (quotient checksum byte).toNat * X ^ 5 +
        polynomial ((quotient checksum byte).toNat >>> 11) * X ^ 16 :=
    polynomial_shiftLeft_toNat (by decide)
  rw [polynomial_shiftRight_checksum checksum byte] at upEight
  rw [polynomial_shiftRight_quotient] at upTwelve
  rw [nothing, polynomial_zero] at upFive
  simp only [step, UInt16.toNat_xor, polynomial_xor, upEight, upTwelve, upFive, generator]
  linear_combination polynomial (overflow checksum byte).toNat * X ^ 16 * two_eq_zero

/-- The long division of a message. -/
theorem exists_quotient (checksum : Checksum) (bytes : List UInt8) :
    ∃ quotients, polynomial (checksum.updateAll bytes).toNat =
      message bytes * X ^ 16 + polynomial checksum.toNat * X ^ (8 * bytes.length) +
        quotients * generator := by
  induction bytes generalizing checksum with
  | nil =>
      refine ⟨0, ?_⟩
      simp [updateAll]
  | cons byte rest ih =>
      rcases ih (checksum.update byte) with ⟨quotients, divided⟩
      refine ⟨polynomial (quotient checksum byte).toNat * X ^ (8 * rest.length) + quotients, ?_⟩
      calc polynomial (checksum.updateAll (byte :: rest)).toNat
        _ = message rest * X ^ 16 + polynomial (checksum.update byte).toNat * X ^ (8 * rest.length) +
              quotients * generator := divided
        _ = _ := by
          rw [polynomial_update, message_cons, List.length_cons]
          ring

/-- What is left of a message is its remainder. -/
theorem polynomial_updateAll (checksum : Checksum) (bytes : List UInt8) :
    polynomial (checksum.updateAll bytes).toNat =
      (message bytes * X ^ 16 + polynomial checksum.toNat * X ^ (8 * bytes.length)) %ₘ generator := by
  rcases exists_quotient checksum bytes with ⟨quotients, divided⟩
  have low : (polynomial (checksum.updateAll bytes).toNat).degree < generator.degree := by
    rw [degree_generator]
    exact degree_polynomial_lt (checksum.updateAll bytes).toNat_lt
  symm
  refine (div_modByMonic_unique quotients _ monic_generator ⟨?_, low⟩).2
  rw [divided]
  linear_combination quotients * generator * two_eq_zero

theorem polynomial_initial : polynomial initial.toNat = ∑ power ∈ Finset.range 16, X ^ power := by
  ext power
  have ones : initial.toNat = 2 ^ 16 - 1 := rfl
  rw [coeff_polynomial, finsetSum_coeff, ones, Nat.testBit_two_pow_sub_one]
  simp [coeff_X_pow, digit]

theorem getLastD_afterEach (checksum : Checksum) (chunks : List (List UInt8)) :
    (afterEach checksum chunks).getLastD checksum = checksum.updateAll chunks.flatten := by
  induction chunks generalizing checksum with
  | nil => rfl
  | cons chunk rest ih =>
      rw [afterEach, List.getLastD_cons, ih, List.flatten_cons, updateAll_append]

/-- The checksum after chunks of bytes, however they are cut: the coefficients of the remainder of the
message moved up by sixteen places, with sixteen ones added to its first sixteen bits. -/
theorem digest_is_remainder (chunks : List (List UInt8)) :
    let bytes := chunks.flatten
    let digest := (afterEach initial chunks).getLastD initial
    let dividend := message bytes * X ^ 16 + (∑ power ∈ Finset.range 16, X ^ power) * X ^ (8 * bytes.length)
    (∀ power, (dividend %ₘ (X ^ 16 + X ^ 12 + X ^ 5 + 1)).coeff power =
      if digest.toNat.testBit power then 1 else 0) ∧
    digest = ofBytes bytes := by
  intro bytes digest dividend
  have same : digest = ofBytes bytes := getLastD_afterEach initial chunks
  refine ⟨?_, same⟩
  intro power
  have remainder : polynomial digest.toNat = dividend %ₘ generator := by
    rw [same, ofBytes, polynomial_updateAll, polynomial_initial]
  rw [← generator, ← remainder, coeff_polynomial, digit]

end Chip8.Checksum
