import Chip8.Lfsr
import Mathlib.Algebra.Group.Nat.Defs
import Mathlib.Logic.Function.Iterate

/-!
# The random register is linear

A step shifts bits and feeds back the parity of some of them, so it respects exclusive or: the step of a
difference of two states is the difference of their steps. The same holds of any number of steps.

A step leads from each bit to the next lower one, so a linear map that commutes with the step is told by what
it makes of the highest bit. One number stands for as many steps as one likes, and with it far states can be
worked out without going through those before them.
-/

namespace Chip8.Lfsr

/-- A map on numbers of sixteen bits that respects exclusive or. -/
structure Linear (map : Nat → Nat) : Prop where
  map_lt {bits : Nat} (small : bits < 2 ^ 16) : map bits < 2 ^ 16
  map_xor {bits other : Nat} (small : bits < 2 ^ 16) (otherSmall : other < 2 ^ 16) :
    map (bits ^^^ other) = map bits ^^^ map other

theorem feedback_xor (bits other : Nat) : feedback (bits ^^^ other) = feedback bits ^^^ feedback other := by
  have parity (first second : Nat) : (first ^^^ second) % 2 = first % 2 ^^^ second % 2 :=
    Nat.xor_mod_two_pow (n := 1)
  simp only [feedback, Nat.shiftRight_xor_distrib, ← parity]
  ac_rfl

/-- The bit fed back goes to a place that the shift has left empty. -/
theorem shift_eq_xor {bits : Nat} (small : bits < 2 ^ 16) :
    shift bits = bits >>> 1 ^^^ feedback bits <<< 15 := by
  have half : bits >>> 1 < 2 ^ 15 := by
    rw [Nat.shiftRight_eq_div_pow]
    omega
  apply Nat.eq_of_testBit_eq
  intro position
  rcases Nat.lt_or_ge position 15 with low | high
  · have unfed : ¬15 ≤ position := Nat.not_le.mpr low
    simp [shift, Nat.testBit_shiftLeft, unfed]
  · have empty : (bits >>> 1).testBit position = false :=
      Nat.testBit_lt_two_pow (Nat.lt_of_lt_of_le half (Nat.pow_le_pow_right (by decide) high))
    simp only [shift, Nat.testBit_or, Nat.testBit_xor, empty, Bool.false_or, Bool.false_bne]

theorem linear_shift : Linear shift where
  map_lt small := shift_lt (by omega)
  map_xor small otherSmall := by
    rw [shift_eq_xor small, shift_eq_xor otherSmall, shift_eq_xor (Nat.xor_lt_two_pow small otherSmall),
      feedback_xor, Nat.shiftRight_xor_distrib, Nat.shiftLeft_xor_distrib]
    ac_rfl

namespace Linear

variable {map other : Nat → Nat}

theorem map_zero (linear : Linear map) : map 0 = 0 := by
  have twice : map (0 ^^^ 0) = map 0 ^^^ map 0 := linear.map_xor (by decide) (by decide)
  rwa [Nat.xor_self, Nat.xor_self] at twice

theorem iterate (linear : Linear map) (count : Nat) : Linear map^[count] := by
  induction count with
  | zero => exact ⟨id, fun _ _ => rfl⟩
  | succ count ih =>
      constructor
      · intro bits small
        exact ih.map_lt (linear.map_lt small)
      · intro bits other small otherSmall
        rw [Function.iterate_succ_apply, linear.map_xor small otherSmall]
        exact ih.map_xor (linear.map_lt small) (linear.map_lt otherSmall)

end Linear

/-- A linear map for which it makes no difference whether a step comes before it or after it. -/
structure Commuting (map : Nat → Nat) : Prop extends Linear map where
  map_shift {bits : Nat} (small : bits < 2 ^ 16) : map (shift bits) = shift (map bits)

theorem commuting_iterate (count : Nat) : Commuting shift^[count] where
  toLinear := linear_shift.iterate count
  map_shift _ := by rw [← Function.iterate_succ_apply, Function.iterate_succ_apply']

/-- What a map makes of the bits of a number up to a position, where it makes `image` of the bit at that
position and `top` of the highest bit of all. One step leads from a bit to the next lower one. -/
def imageUpTo (top bits : Nat) : Nat → Nat → Nat
  | 0, image => bits % 2 * image
  | position + 1, image =>
      bits >>> (position + 1) % 2 * image ^^^
        imageUpTo top bits position (shift image ^^^ feedback (2 ^ (position + 1)) * top)

/-- What a map makes of a number if it makes `top` of the highest bit. -/
def imageBy (top bits : Nat) : Nat := imageUpTo top bits 15 top

/-- A number is its highest bit and the bits below it. -/
theorem highestBit_xor (bits position : Nat) :
    (bits >>> position % 2) <<< position ^^^ bits % 2 ^ position = bits % 2 ^ (position + 1) := by
  apply Nat.eq_of_testBit_eq
  intro place
  rw [Nat.testBit_xor, Nat.testBit_shiftLeft, Nat.testBit_mod_two_pow, Nat.testBit_mod_two_pow]
  rcases Nat.lt_trichotomy place position with below | rfl | above
  · simp [below, Nat.lt_succ_of_lt below, Nat.not_le.mpr below]
  · simp [Nat.testBit_eq_decide_div_mod_eq, Nat.shiftRight_eq_div_pow]
  · rcases Nat.exists_eq_add_of_lt above with ⟨more, rfl⟩
    have single : (bits >>> position % 2).testBit (more + 1) = false := by
      rw [Nat.testBit_succ, Nat.div_eq_of_lt (Nat.mod_lt _ (by decide)), Nat.zero_testBit]
    have outside : ¬position + (more + 1) < position := Nat.not_lt.mpr (Nat.le_add_right _ _)
    simp [Nat.add_assoc, single, outside]

theorem digit_shiftLeft_lt {digit position : Nat} (single : digit < 2) (inside : position ≤ 15) :
    digit <<< position < 2 ^ 16 := by
  rw [Nat.shiftLeft_eq, Nat.pow_succ']
  exact Nat.mul_lt_mul_of_lt_of_le single (Nat.pow_le_pow_right (by decide) inside) (by decide)

namespace Commuting

variable {map : Nat → Nat} {bits position : Nat}

theorem map_digit (commuting : Commuting map) {digit : Nat} (single : digit < 2) (position : Nat) :
    map (digit <<< position) = digit * map (2 ^ position) := by
  rcases Nat.lt_succ_iff_lt_or_eq.mp single with zero | rfl
  · rw [Nat.lt_one_iff.mp zero, Nat.zero_shiftLeft, Nat.zero_mul, commuting.map_zero]
  · rw [Nat.one_shiftLeft, Nat.one_mul]

/-- The step moves a bit down, and where it feeds the bit back the highest bit is added. -/
theorem map_lower (commuting : Commuting map) (inside : position < 15) :
    shift (map (2 ^ (position + 1))) ^^^ feedback (2 ^ (position + 1)) * map (2 ^ 15) = map (2 ^ position) := by
  have small : 2 ^ (position + 1) < 2 ^ 16 := Nat.pow_lt_pow_right (by decide) (by omega)
  have lowerSmall : 2 ^ position < 2 ^ 16 := Nat.pow_lt_pow_right (by decide) (by omega)
  have lower : 2 ^ (position + 1) >>> 1 = 2 ^ position := by
    rw [Nat.shiftRight_one, Nat.pow_succ, Nat.mul_div_cancel _ (by decide)]
  have fedSmall := digit_shiftLeft_lt (feedback_lt (2 ^ (position + 1))) (Nat.le_refl 15)
  rw [← commuting.map_shift small, shift_eq_xor small, lower, commuting.map_xor lowerSmall fedSmall,
    commuting.map_digit (feedback_lt _), Nat.xor_assoc, Nat.xor_self, Nat.xor_zero]

theorem imageUpTo_eq (commuting : Commuting map) (bits : Nat) (inside : position ≤ 15) :
    imageUpTo (map (2 ^ 15)) bits position (map (2 ^ position)) = map (bits % 2 ^ (position + 1)) := by
  induction position with
  | zero =>
      rw [imageUpTo, ← commuting.map_digit (Nat.mod_lt _ (by decide)), Nat.shiftLeft_zero]
      rfl
  | succ position ih =>
      have digit : bits >>> (position + 1) % 2 < 2 := Nat.mod_lt _ (by decide)
      have belowSmall : bits % 2 ^ (position + 1) < 2 ^ 16 :=
        Nat.lt_of_lt_of_le (Nat.mod_lt _ (Nat.two_pow_pos _)) (Nat.pow_le_pow_right (by decide) (by omega))
      have digitSmall := digit_shiftLeft_lt digit inside
      rw [imageUpTo, commuting.map_lower inside, ih (Nat.le_of_succ_le inside), ← commuting.map_digit digit,
        ← commuting.map_xor digitSmall belowSmall, highestBit_xor]

/-- What a map makes of the highest bit tells all of it. -/
theorem imageBy_eq (commuting : Commuting map) (small : bits < 2 ^ 16) :
    imageBy (map (2 ^ 15)) bits = map bits := by
  rw [imageBy, commuting.imageUpTo_eq bits (Nat.le_refl 15), Nat.mod_eq_of_lt small]

end Commuting

end Chip8.Lfsr
