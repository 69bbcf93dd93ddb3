import Chip8.Checksum
import Mathlib.Algebra.Field.ZMod
import Mathlib.Algebra.Polynomial.Degree.Operations
import Mathlib.Data.Nat.Size
import Mathlib.Tactic.Ring

/-!
# Bits as polynomials

A checksum is worked out with polynomials over two elements, and bits are their coefficients. A list of
bits holds the highest coefficient first, as bits come in; the binary digits of a number hold the lowest in
place zero. For numbers, exclusive or adds polynomials and a shift multiplies by a power of `X`, except for
the bits that a register of limited width loses.
-/

namespace Chip8.Checksum

open Polynomial

/-- A bit as a coefficient. -/
def digit (bit : Bool) : ZMod 2 := if bit then 1 else 0

theorem digit_xor (bit other : Bool) : digit (bit ^^ other) = digit bit + digit other := by
  cases bit <;> cases other <;> decide

theorem digit_injective : Function.Injective digit := by decide

/-- The polynomial with the given coefficients, the highest first. -/
noncomputable def ofBits (bits : List Bool) : (ZMod 2)[X] :=
  bits.foldl (fun sum bit => sum * X + C (digit bit)) 0

section

variable {bits other : List Bool}

theorem ofBits_concat (bits : List Bool) (bit : Bool) :
    ofBits (bits ++ [bit]) = ofBits bits * X + C (digit bit) := by
  rw [ofBits, List.foldl_concat, ofBits]

theorem ofBits_append (bits rest : List Bool) :
    ofBits (bits ++ rest) = ofBits bits * X ^ rest.length + ofBits rest := by
  induction rest using List.reverseRecOn with
  | nil => simp [ofBits]
  | append_singleton rest bit ih =>
      rw [← List.append_assoc, ofBits_concat, ofBits_concat, ih, List.length_append, List.length_singleton]
      ring

theorem coeff_ofBits (bits : List Bool) (power : Nat) :
    (ofBits bits).coeff power = digit (bits.reverse[power]?.getD false) := by
  induction bits using List.reverseRecOn generalizing power with
  | nil => rfl
  | append_singleton bits bit ih =>
      rw [ofBits_concat, List.reverse_append]
      rcases power with _ | power
      · simp
      · simp [ih]

theorem degree_ofBits_lt (bits : List Bool) : (ofBits bits).degree < bits.length := by
  rw [degree_lt_iff_coeff_zero]
  intro power high
  rw [coeff_ofBits, List.getElem?_eq_none (by simpa using high)]
  rfl

theorem eq_of_ofBits_eq (length : bits.length = other.length) (same : ofBits bits = ofBits other) :
    bits = other := by
  apply List.reverse_injective
  apply List.ext_getElem
  · simpa using length
  · intro power inside otherInside
    have coefficients := congrArg (fun sum => sum.coeff power) same
    simp only [coeff_ofBits, List.getElem?_eq_getElem inside, List.getElem?_eq_getElem otherInside,
      Option.getD_some] at coefficients
    exact digit_injective coefficients

end

theorem testBit_of_lt {number width power : Nat} (small : number < 2 ^ width) (high : width ≤ power) :
    number.testBit power = false :=
  Nat.testBit_lt_two_pow (Nat.lt_of_lt_of_le small (Nat.pow_le_pow_right (by decide) high))

/-- The polynomial whose coefficients are the binary digits of a number. -/
noncomputable def polynomial (number : Nat) : (ZMod 2)[X] :=
  ∑ power ∈ Finset.range number.size, C (digit (number.testBit power)) * X ^ power

@[simp]
theorem coeff_polynomial (number power : Nat) :
    (polynomial number).coeff power = digit (number.testBit power) := by
  simp only [polynomial, finsetSum_coeff, coeff_C_mul, coeff_X_pow, mul_ite, mul_one, mul_zero,
    Finset.sum_ite_eq, Finset.mem_range]
  split
  next => rfl
  next high =>
    rw [testBit_of_lt (Nat.lt_size_self number) (Nat.le_of_not_lt high)]
    rfl

@[simp]
theorem polynomial_zero : polynomial 0 = 0 := by
  ext power
  simp [digit]

theorem polynomial_xor (number other : Nat) :
    polynomial (number ^^^ other) = polynomial number + polynomial other := by
  ext power
  simp [digit_xor]

theorem polynomial_injective : Function.Injective polynomial := by
  intro number other same
  apply Nat.eq_of_testBit_eq
  intro power
  have coefficients := congrArg (fun sum => sum.coeff power) same
  simp only [coeff_polynomial] at coefficients
  exact digit_injective coefficients

theorem degree_polynomial_lt {number width : Nat} (small : number < 2 ^ width) :
    (polynomial number).degree < width := by
  rw [degree_lt_iff_coeff_zero]
  intro power high
  rw [coeff_polynomial, testBit_of_lt small high]
  rfl

theorem polynomial_shiftLeft (number count : Nat) :
    polynomial (number <<< count) = polynomial number * X ^ count := by
  ext power
  rw [coeff_mul_X_pow']
  by_cases high : count ≤ power <;> simp [Nat.testBit_shiftLeft, high, digit]

/-- Cutting a number to a width takes away what is above it. -/
theorem polynomial_mod_two_pow (number width : Nat) :
    polynomial (number % 2 ^ width) =
      polynomial number + polynomial (number >>> width) * X ^ width := by
  have parts : number % 2 ^ width = number ^^^ (number >>> width) <<< width := by
    apply Nat.eq_of_testBit_eq
    intro power
    rw [Nat.testBit_mod_two_pow, Nat.testBit_xor, Nat.testBit_shiftLeft, Nat.testBit_shiftRight]
    by_cases low : power < width
    · simp [low, Nat.not_le.mpr low]
    · have high : width ≤ power := Nat.le_of_not_lt low
      simp [low, high]
  rw [parts, polynomial_xor, polynomial_shiftLeft]

/-- A register that is shifted up loses the bits that leave it at the top. -/
theorem polynomial_shiftLeft_toNat {register count : UInt16} (inside : count.toNat < 16) :
    polynomial (register <<< count).toNat = polynomial register.toNat * X ^ count.toNat +
      polynomial (register.toNat >>> (16 - count.toNat)) * X ^ 16 := by
  have lost : (register.toNat <<< count.toNat) >>> 16 = register.toNat >>> (16 - count.toNat) := by
    have width : 16 = count.toNat + (16 - count.toNat) := by omega
    rw [width, Nat.shiftRight_add, Nat.shiftLeft_shiftRight, ← width]
  rw [UInt16.toNat_shiftLeft, Nat.mod_eq_of_lt inside, polynomial_mod_two_pow, polynomial_shiftLeft, lost]

/-- The bits of bytes, the most significant of each byte first. -/
def bits (bytes : List UInt8) : List Bool :=
  bytes.flatMap fun byte => (List.range 8).reverse.map fun place => byte.toNat.testBit place

theorem bits_cons (byte : UInt8) (rest : List UInt8) : bits (byte :: rest) = bits [byte] ++ bits rest := by
  simp [bits]

@[simp]
theorem length_bits (bytes : List UInt8) : (bits bytes).length = 8 * bytes.length := by
  simp [bits, Nat.mul_comm]

theorem ofBits_byte (byte : UInt8) : ofBits (bits [byte]) = polynomial byte.toNat := by
  ext power
  rw [coeff_ofBits, coeff_polynomial]
  rcases Nat.lt_or_ge power 8 with low | high
  · simp [bits, low]
  · rw [List.getElem?_eq_none (by simpa using high), testBit_of_lt byte.toNat_lt high]
    rfl

theorem bits_injective : Function.Injective bits := by
  intro bytes other same
  have length : bytes.length = other.length := by
    have both := congrArg List.length same
    rw [length_bits, length_bits] at both
    omega
  induction bytes generalizing other with
  | nil => exact (List.eq_nil_of_length_eq_zero length.symm).symm
  | cons byte rest ih =>
      rcases other with _ | ⟨otherByte, otherRest⟩
      · cases length
      · rw [bits_cons, bits_cons otherByte] at same
        rcases List.append_inj same (by simp) with ⟨first, others⟩
        have polynomials := congrArg ofBits first
        rw [ofBits_byte, ofBits_byte] at polynomials
        have sameByte : byte = otherByte := UInt8.toNat_inj.mp (polynomial_injective polynomials)
        rw [sameByte, ih others (by simpa using length)]

/-- The polynomial of a message, read from its first bit on. -/
noncomputable def message (bytes : List UInt8) : (ZMod 2)[X] := ofBits (bits bytes)

@[simp]
theorem message_nil : message [] = 0 := rfl

theorem message_cons (byte : UInt8) (rest : List UInt8) :
    message (byte :: rest) = polynomial byte.toNat * X ^ (8 * rest.length) + message rest := by
  rw [message, bits_cons, ofBits_append, ofBits_byte, length_bits, message]

end Chip8.Checksum
