/-!
# Rounding quotients

A quotient of natural numbers rounded to the nearest natural number. Of two nearest ones the even
one is taken, which is what numbers kept in binary and numbers cut to decimal places share.
-/

namespace Chip8

/-- The natural number nearest to `numerator / denominator`, the even one of two. -/
def roundDiv (numerator denominator : Nat) : Nat :=
  let quotient := numerator / denominator
  let twice := 2 * (numerator % denominator)
  if denominator < twice ∨ denominator = twice ∧ quotient % 2 = 1 then quotient + 1 else quotient

end Chip8
