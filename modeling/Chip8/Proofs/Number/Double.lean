import Chip8.Number.Binary64
import Mathlib

/-!
# Doubles above zero

What is known of a double without working it out: whether it is a number, whether it is finite and
whether it is above zero. The sign and the kind of a quotient follow from those of its parts, as long as
the quotient is not so small that it is rounded to zero. A reciprocal never is.
-/

namespace Chip8.Double

open Float.Model (Format UnpackedFloat totalExponent)
open Float.Model.UnpackedFloat

/-- A double as its bits tell. -/
def kind (number : Float) : UnpackedFloat := number.toModel.unpack

/-- The outcome of an operation when it is put into sixty-four bits and read again. -/
def stored (outcome : UnpackedFloat) : UnpackedFloat :=
  unpack Format.binary64 (pack Format.binary64 outcome)

theorem kind_div (number divisor : Float) :
    kind (number / divisor) = stored (div Format.binary64 (kind number) (kind divisor)) := rfl

theorem kind_ofBits (bits : UInt64) :
    kind (Float.ofBits bits) = stored (unpack Format.binary64 bits.toBitVec) := rfl

/-- A double of a sign that is neither zero nor no number. -/
def Signed (sign : Sign) : UnpackedFloat → Prop
  | .infinity other | .finite other _ _ _ => other = sign
  | _ => False

section Fields

variable (sign : Sign) (exponent : BitVec 11) (fraction : BitVec 52) (bits : BitVec 64)

theorem toNat_unpackExponent :
    (@unpackExponent Format.binary64 bits).toNat = bits.toNat / 2 ^ 52 % 2 ^ 11 := by
  simp [unpackExponent, Nat.shiftRight_eq_div_pow]

/-- Fields that are not those of a zero and of no infinity are those of a finite double. -/
theorem signed_unpack_packComponents (below : exponent ≠ -1#_) (nonzero : exponent ≠ 0#_ ∨ fraction ≠ 0#_) :
    Signed sign (unpack Format.binary64 (packComponents Format.binary64 sign exponent fraction)) := by
  simp only [unpack, unpackExponent_packComponents, unpackMantissa_packComponents,
    unpackSign_packComponents, Sign.ofBitVec_toBitVec]
  rw [if_neg below]
  split
  next zero =>
    rw [dif_neg (nonzero.resolve_left (not_not_intro zero))]
    rfl
  next => rfl

end Fields

theorem stored_infinity (sign : Sign) : stored (.infinity sign) = .infinity sign := by
  cases sign <;> rfl

theorem stored_zero (sign : Sign) : stored (.zero sign) = .zero sign := unpack_packedZero

/-- A quotient by what is no number is none. -/
theorem kind_div_of_notANumber {divisor : Float} (isNaN : kind divisor = .notANumber) (number : Float) :
    kind (number / divisor) = .notANumber := by
  have outcome : div Format.binary64 (kind number) .notANumber = .notANumber := by
    cases kind number <;> rfl
  rw [kind_div, isNaN, outcome]
  rfl

/-- A finite number other than zero divided by an infinity is zero. -/
theorem kind_div_of_infinity {number divisor : Float} {sign other : Sign} {significand : Nat}
    {exponent : Int} {positive : 0 < significand}
    (isFinite : kind number = .finite sign significand exponent positive)
    (isInfinite : kind divisor = .infinity other) : kind (number / divisor) = .zero (sign / other) := by
  rw [kind_div, isFinite, isInfinite]
  exact stored_zero _

variable {sign : Sign} {significand : Nat} {exponent : Int} {positive : 0 < significand}

/-- A finite outcome that fits into a double keeps its sign when it is stored, and is not zero. -/
theorem signed_stored (small : significand < 2 ^ 53) (least : -1074 ≤ exponent) :
    Signed sign (stored (.finite sign significand exponent positive)) := by
  have bias : (Format.binary64.exponentBias : Int) = 1023 := rfl
  have length : significand.log2 < 53 := (Nat.log2_lt (Nat.ne_of_gt positive)).mpr small
  unfold stored pack
  simp only [bias]
  split
  next =>
    have same : unpack Format.binary64 (packedInfinity Format.binary64 sign) = .infinity sign :=
      stored_infinity sign
    rw [same]
    rfl
  next inRange =>
    split
    next normal =>
      apply signed_unpack_packComponents
      · intro full
        have field := congrArg BitVec.toNat full
        simp only [Int.cast_ofNat_Int, BitVec.toNat_ofNat, Nat.reducePow, BitVec.reduceNeg, Nat.mod_succ,
          Nat.not_le] at field inRange
        omega
      · left
        intro zero
        have field := congrArg BitVec.toNat zero
        simp only [Int.cast_ofNat_Int, BitVec.toNat_ofNat, Nat.reducePow, Nat.zero_mod,
          Nat.not_le] at field inRange
        omega
    next subnormal =>
      apply signed_unpack_packComponents
      · decide
      · right
        intro zero
        have field := congrArg BitVec.toNat zero
        simp only [BitVec.toNat_ofNat, Nat.reducePow, Nat.zero_mod, Format.mantissaBits, Nat.reduceAdd,
          Nat.reduceEqDiff] at field subnormal
        have tiny : significand < 2 ^ 52 := (Nat.log2_lt (Nat.ne_of_gt positive)).mp (by omega)
        omega

/-- What is read from the bits of a double fits into a double. -/
theorem bounds_of_unpack {bits : BitVec 64}
    (read : unpack Format.binary64 bits = .finite sign significand exponent positive) :
    significand < 2 ^ 53 ∧ -1074 ≤ exponent ∧ exponent ≤ 971 := by
  have bias : (Format.binary64.exponentBias : Int) = 1023 := rfl
  simp only [unpack, bias] at read
  split at read
  next => split at read <;> cases read
  next below =>
    have notFull : (@unpackExponent Format.binary64 bits).toNat ≠ 2047 := fun full =>
      below (BitVec.eq_of_toNat_eq full)
    have field : (@unpackExponent Format.binary64 bits).toNat < 2048 :=
      (@unpackExponent Format.binary64 bits).isLt
    split at read
    next zero =>
      split at read
      · cases read
      · have fraction : (@unpackMantissa Format.binary64 bits).toNat < 2 ^ 52 :=
          (@unpackMantissa Format.binary64 bits).isLt
        cases read
        rw [zero]
        exact ⟨by omega, by decide, by decide⟩
    next nonzero =>
      have notZero : (@unpackExponent Format.binary64 bits).toNat ≠ 0 := fun zero =>
        nonzero (BitVec.eq_of_toNat_eq zero)
      have small := (1#1 ++ @unpackMantissa Format.binary64 bits).isLt
      cases read
      exact ⟨small, by omega, by omega⟩

theorem mantissa_shiftRight (extended : ExtendedMantissa) (amount : Nat) :
    (extended >>> amount).mantissa = extended.mantissa / 2 ^ amount := by
  induction amount with
  | zero => exact (Nat.div_one _).symm
  | succ amount ih =>
      have step : (extended >>> (amount + 1)).mantissa = (extended >>> amount).mantissa / 2 := rfl
      rw [step, ih, Nat.div_div_eq_div_mul, Nat.pow_succ]

/-- As many bits are shifted out as leave fifty-three, but none below the least exponent, so a significand
above zero stays above zero. -/
theorem bounds_of_shift (positive : 0 < significand) (least : -1074 ≤ exponent) {amount : Nat}
    (wanted : amount =
      (Format.binary64.targetExponent (totalExponent significand exponent) - exponent).toNat) :
    0 < significand / 2 ^ amount ∧ significand / 2 ^ amount < 2 ^ 53 := by
  have target : Format.binary64.targetExponent (totalExponent significand exponent) =
      max (significand.log2 + 1 + exponent - 53) (-1074) := rfl
  rw [target] at wanted
  constructor
  · apply Nat.div_pos _ (Nat.two_pow_pos _)
    calc 2 ^ amount ≤ 2 ^ significand.log2 := Nat.pow_le_pow_right (Nat.succ_pos 1) (by omega)
      _ ≤ significand := Nat.log2_self_le (Nat.ne_of_gt positive)
  · apply Nat.div_lt_of_lt_mul
    calc significand < 2 ^ (significand.log2 + 1) := Nat.lt_log2_self
      _ ≤ 2 ^ (amount + 53) := Nat.pow_le_pow_right (Nat.succ_pos 1) (by omega)
      _ = 2 ^ amount * 2 ^ 53 := Nat.pow_add _ _ _

theorem le_roundedMantissa (extended : ExtendedMantissa) :
    extended.mantissa ≤ extended.roundedMantissa := by
  rcases extended with ⟨mantissa, _ | _, _ | _⟩ <;>
    simp only [ExtendedMantissa.roundedMantissa, ExtendedMantissa.accuracy, Accuracy.roundToNearestEven] <;>
    omega

/-- Rounding an outcome that is not below the least double leaves a finite one of its sign. -/
theorem exists_roundWithAccuracy (positive : 0 < significand) (least : -1074 ≤ exponent)
    (accuracy : Accuracy) :
    ∃ rounded reached above, rounded < 2 ^ 53 ∧ -1074 ≤ reached ∧
      roundWithAccuracy Format.binary64 sign significand exponent accuracy =
        .finite sign rounded reached above := by
  have mantissa (whole : Nat) (accuracy : Accuracy) :
      (ExtendedMantissa.ofMantissaAndAccuracy whole accuracy).mantissa = whole := by
    rcases accuracy with _ | _ | _ | _ <;> rfl
  have first := bounds_of_shift positive least rfl
  unfold roundWithAccuracy shiftToTargetExponent shiftToExponent
  simp only [mantissa_shiftRight, mantissa]
  generalize amount_eq : (Format.binary64.targetExponent (totalExponent significand exponent) -
    exponent).toNat = amount at first ⊢
  generalize rounded_eq : ExtendedMantissa.roundedMantissa _ = rounded
  have above : 0 < rounded := by
    have kept := le_roundedMantissa
      (ExtendedMantissa.ofMantissaAndAccuracy significand accuracy >>> amount)
    rw [rounded_eq, mantissa_shiftRight, mantissa] at kept
    omega
  -- The second shift only makes room for a carry of the rounding.
  have reached : -1074 ≤ exponent + amount := by omega
  have second := bounds_of_shift above reached rfl
  rw [dif_neg (Nat.ne_of_gt second.1)]
  exact ⟨_, _, second.1, second.2, by omega, rfl⟩

/-- The reciprocal of a finite double above zero is above zero: it is not rounded to zero. -/
theorem signed_reciprocal {one number : Float} {unit : 0 < 2 ^ 52}
    (isOne : kind one = .finite .positive (2 ^ 52) (-52) unit)
    (isFinite : kind number = .finite .positive significand exponent positive) :
    Signed .positive (kind (one / number)) := by
  rcases bounds_of_unpack isFinite with ⟨small, least, most⟩
  rw [kind_div, isOne, isFinite]
  have target : Format.binary64.targetExponent
      (totalExponent (2 ^ 52) (-52) - totalExponent significand exponent) =
        max (1 - (significand.log2 + 1 + exponent) - 53) (-1074) := by
    rw [show totalExponent (2 ^ 52) (-52) = 1 by decide]
    rfl
  simp only [div, divCore, target]
  generalize reached_eq : min (-52 - exponent) (max (1 - (significand.log2 + 1 + exponent) - 53) (-1074)) =
    reached
  have above : 0 < (2 ^ 52) <<< (-52 - exponent - reached).toNat / significand := by
    apply Nat.div_pos _ positive
    rw [Nat.shiftLeft_eq]
    calc significand ≤ 2 ^ 52 * 2 ^ 1 := by omega
      _ ≤ 2 ^ 52 * 2 ^ (-52 - exponent - reached).toNat :=
        Nat.mul_le_mul_left _ (Nat.pow_le_pow_right (Nat.succ_pos 1) (by omega))
  have notBelow : -1074 ≤ reached := by omega
  obtain ⟨rounded, last, nonzero, fits, lastNotBelow, outcome⟩ :=
    @exists_roundWithAccuracy (.positive / .positive) _ _ above notBelow (accuracyOfFraction _ _)
  rw [outcome]
  exact signed_stored fits lastNotBelow

section Comparisons

variable {number other zero : Float}

theorem le_iff : number ≤ other ↔ (kind number).le (kind other) = true := by
  change decide (number.toModel ≤ other.toModel) = true ↔ _
  rw [decide_eq_true_iff]
  rfl

theorem lt_iff : number < other ↔ (kind number).lt (kind other) = true := by
  change decide (number.toModel < other.toModel) = true ↔ _
  rw [decide_eq_true_iff]
  rfl

/-- What is not at most zero is above zero or no number. -/
theorem not_le_zero_iff (isZero : kind zero = .zero .positive) :
    ¬number ≤ zero ↔ kind number = .notANumber ∨ Signed .positive (kind number) := by
  rw [le_iff, isZero]
  rcases kind number with sign | _ | sign | ⟨sign, significand, exponent, positive⟩
  · cases sign <;> simp [UnpackedFloat.le, UnpackedFloat.compare, Signed]
  · simp [UnpackedFloat.le, UnpackedFloat.compare]
  · simp [UnpackedFloat.le, UnpackedFloat.compare, Signed]
  · cases sign <;> simp [UnpackedFloat.le, UnpackedFloat.compare, Signed]

theorem zero_lt_iff (isZero : kind zero = .zero .positive) :
    zero < number ↔ Signed .positive (kind number) := by
  rw [lt_iff, isZero]
  rcases kind number with sign | _ | sign | ⟨sign, significand, exponent, positive⟩
  · cases sign <;> simp [UnpackedFloat.lt, UnpackedFloat.compare, Signed]
  · simp [UnpackedFloat.lt, UnpackedFloat.compare, Signed]
  · simp [UnpackedFloat.lt, UnpackedFloat.compare, Signed]
  · cases sign <;> simp [UnpackedFloat.lt, UnpackedFloat.compare, Signed]

theorem beq_zero_iff (isZero : kind zero = .zero .positive) :
    (number == zero) = true ↔ ∃ sign, kind number = .zero sign := by
  change (kind number).beq (kind zero) = true ↔ _
  rw [beq_iff_ne_notANumber_and_eq, isZero]
  constructor
  · rintro ⟨-, -, same | ⟨same, -⟩ | ⟨same, -⟩⟩ <;> exact ⟨_, same⟩
  · rintro ⟨_ | _, same⟩ <;> simp [same]

end Comparisons

section Finite

variable {number : Float}

theorem exists_finite_iff :
    (∃ negative significand exponent, Binary64.ofFloat number = .finite negative significand exponent) ↔
      number.toBits.toNat / Binary64.hiddenBit % 2048 ≠ 2047 := by
  unfold Binary64.ofFloat
  by_cases full : number.toBits.toNat / Binary64.hiddenBit % 2048 = 2047
  · simp only [full, if_true]
    split <;> simp
  · simp only [full, if_false]
    split <;> simp [full]

theorem isFinite_iff :
    number.isFinite = true ↔ number.toBits.toNat / Binary64.hiddenBit % 2048 ≠ 2047 := by
  have field : @unpackExponent Format.binary64 number.toBits.toBitVec = -1#_ ↔
      number.toBits.toNat / Binary64.hiddenBit % 2048 = 2047 := by
    rw [← BitVec.toNat_inj, toNat_unpackExponent]
    rfl
  change (unpack Format.binary64 number.toBits.toBitVec).isFinite = true ↔ _
  unfold unpack
  by_cases full : @unpackExponent Format.binary64 number.toBits.toBitVec = -1#_
  · simp only [full, if_true, field.mp full]
    split <;> simp [UnpackedFloat.isFinite]
  · have notFull := mt field.mpr full
    simp only [full, if_false]
    split
    · split <;> simp [UnpackedFloat.isFinite, notFull]
    · simp [UnpackedFloat.isFinite, notFull]

/-- Exactly the finite doubles have an integer part. -/
theorem exists_ceil_iff : (∃ whole, Binary64.ceil number = .ok whole) ↔ number.isFinite = true := by
  rw [isFinite_iff, ← exists_finite_iff, Binary64.ceil]
  rcases Binary64.ofFloat number with _ | negative | ⟨negative, significand, exponent⟩ <;> simp

end Finite

/-- What is stored is zero only if the exponent field is. -/
theorem unpackExponent_of_stored_eq_zero {bits : BitVec 64}
    (zero : stored (unpack Format.binary64 bits) = .zero sign) :
    @unpackExponent Format.binary64 bits = 0 := by
  rcases read : unpack Format.binary64 bits with
    other | _ | other | ⟨other, significand, exponent, positive⟩
  · rw [read, stored_infinity] at zero
    cases zero
  · rw [read] at zero
    cases zero
  · simp only [unpack] at read
    split at read
    next => split at read <;> cases read
    next =>
      split at read
      next least => exact least
      next => cases read
  · rcases bounds_of_unpack read with ⟨small, least, _⟩
    have signed : Signed other (stored (.finite other significand exponent positive)) :=
      signed_stored small least
    rw [← read, zero] at signed
    cases signed

/-- The double nearest to a number from one on is not zero. -/
theorem kind_ofRatio_ne_zero {count : Nat} (counted : 0 < count) (sign : Sign) :
    kind (Binary64.ofRatio false count 1) ≠ .zero sign := by
  have least : -53 ≤ Binary64.exponentOf count 1 := by
    have none : Nat.log2 1 = 0 := by decide
    simp only [Binary64.exponentOf, none]
    split <;> omega
  rw [Binary64.ofRatio, if_neg (Nat.ne_of_gt counted)]
  simp only [Binary64.pack, Bool.false_eq_true, if_false]
  generalize magnitude_eq : min _ (2047 * Binary64.hiddenBit) = magnitude
  have above : 2 ^ 52 ≤ magnitude := by
    rw [← magnitude_eq]
    simp only [Binary64.hiddenBit, Binary64.leastExponent]
    omega
  have below : magnitude ≤ 2047 * 2 ^ 52 := by
    rw [← magnitude_eq]
    exact Nat.min_le_right _ _
  intro zero
  rw [kind_ofBits] at zero
  have field := toNat_unpackExponent (UInt64.ofNat magnitude).toBitVec
  rw [unpackExponent_of_stored_eq_zero zero] at field
  have whole : (UInt64.ofNat magnitude).toBitVec.toNat = magnitude := by
    simp only [UInt64.toBitVec_ofNat', BitVec.toNat_ofNat]
    omega
  rw [whole] at field
  change 0 = _ at field
  omega

end Chip8.Double
