import Chip8.Number.Rounding

/-!
# Doubles as exact numbers

A double stands for a signed whole number times a power of two, or for no number. Everything here
works on that exact value: a quotient is rounded once, an integer part is taken without rounding, and
a conversion that has no result says why.
-/

namespace Chip8

/-- Why arithmetic on numbers of a clock has no result. -/
inductive NumberFault where
  | divisionByZero
  /-- Whole periods of length zero are counted. -/
  | floorDivisionByZero
  /-- An integer is divided by the integer zero. -/
  | ratioByZero
  | nanToInteger
  | infinityToInteger
  | integerTooLarge
  | ratioTooLarge
  deriving DecidableEq

namespace NumberFault

def message : NumberFault → String
  | divisionByZero => "float division by zero"
  | floorDivisionByZero => "float floor division by zero"
  | ratioByZero => "division by zero"
  | nanToInteger => "cannot convert float NaN to integer"
  | infinityToInteger => "cannot convert float infinity to integer"
  | integerTooLarge => "int too large to convert to float"
  | ratioTooLarge => "integer division result too large for a float"

end NumberFault

/-- What a double stands for. -/
inductive Binary64 where
  | nan
  | infinite (negative : Bool)
  /-- `significand * 2 ^ exponent`, negated if `negative`. -/
  | finite (negative : Bool) (significand : Nat) (exponent : Int)
  deriving DecidableEq

namespace Binary64

def signBit : Nat := 0x8000000000000000

/-- The highest bit of a significand, which is not written down: above its fifty-two others. -/
def hiddenBit : Nat := 0x10000000000000

/-- The least power of two beyond the range of doubles. -/
def beyondRange : Nat := 1 <<< 1024

/-- The least exponent of a double. -/
def leastExponent : Int := -1074

/-- Reads the sign, exponent and significand fields of a double. -/
def ofFloat (number : Float) : Binary64 :=
  let bits := number.toBits.toNat
  let negative := signBit ≤ bits
  let field : Nat := bits / hiddenBit % 2048
  let fraction := bits % hiddenBit
  if field = 2047 then
    if fraction = 0 then infinite negative else nan
  else if field = 0 then finite negative fraction leastExponent
  else finite negative (hiddenBit + fraction) (leastExponent + (field - 1 : Nat))

/-- The double with the given sign and magnitude fields. -/
def pack (negative : Bool) (magnitude : Nat) : Float :=
  Float.ofBits (UInt64.ofNat (if negative then signBit + magnitude else magnitude))

/-- The exponent that gives a positive quotient fifty-three significant bits, or the least one. -/
def exponentOf (numerator denominator : Nat) : Int :=
  let guess : Int := (numerator.log2 : Int) - denominator.log2 - 52
  let exact := if numerator <<< (-guess).toNat < denominator <<< guess.toNat * hiddenBit then
    guess - 1 else guess
  max exact leastExponent

/-- The double nearest to `numerator / denominator`, even on ties, with a sign. A quotient beyond the
range is infinite. -/
def ofRatio (negative : Bool) (numerator denominator : Nat) : Float :=
  if numerator = 0 then pack negative 0
  else
    let exponent := exponentOf numerator denominator
    let significand :=
      roundDiv (numerator <<< (-exponent).toNat) (denominator <<< exponent.toNat)
    pack negative (min ((exponent - leastExponent).toNat * hiddenBit + significand) (2047 * hiddenBit))

/-- The double nearest to an integer, unless it is beyond the range. -/
def ofInt (number : Int) : Except NumberFault Float :=
  let nearest := ofRatio (number < 0) number.natAbs 1
  match ofFloat nearest with
  | infinite _ => .error .integerTooLarge
  | _ => .ok nearest

theorem ofInt_eq_error {number : Int} (beyond : (ofInt number).toBool = false) :
    ofInt number = .error .integerTooLarge := by
  unfold ofInt at beyond ⊢
  dsimp only at beyond ⊢
  split at beyond
  next => rfl
  next => cases beyond

/-- The double nearest to a quotient of integers. A zero over a negative number is negative. -/
def ofQuotient (numerator denominator : Int) : Except NumberFault Float :=
  if denominator = 0 then .error .ratioByZero
  else
    let negative := decide (numerator < 0) != decide (denominator < 0)
    let nearest := ofRatio negative numerator.natAbs denominator.natAbs
    match ofFloat nearest with
    | infinite _ => .error .ratioTooLarge
    | _ => .ok nearest

/-- Numerator and denominator of a finite magnitude. -/
def ratio (significand : Nat) (exponent : Int) : Nat × Nat :=
  (significand <<< exponent.toNat, 1 <<< (-exponent).toNat)

/-- Numerator and denominator of the magnitude of a double; what is no finite number has none. -/
def fraction (number : Float) : Nat × Nat :=
  match ofFloat number with
  | finite _ significand exponent => ratio significand exponent
  | _ => (0, 1)

def floor (negative : Bool) (significand : Nat) (exponent : Int) : Int :=
  let (numerator, denominator) := ratio significand exponent
  (if negative then -(numerator : Int) else numerator) / denominator

/-- The integer towards zero. -/
def toInt (number : Float) : Except NumberFault Int :=
  match ofFloat number with
  | nan => .error .nanToInteger
  | infinite _ => .error .infinityToInteger
  | finite negative significand exponent =>
    let whole := floor false significand exponent
    .ok (if negative then -whole else whole)

def ceil (number : Float) : Except NumberFault Int :=
  match ofFloat number with
  | nan => .error .nanToInteger
  | infinite _ => .error .infinityToInteger
  | finite negative significand exponent => .ok (-floor (!negative) significand exponent)

/-- The floor as a double; what has no floor stays. -/
def floorFloat (number : Float) : Float :=
  match ofFloat number with
  | finite negative significand exponent =>
    let whole := floor negative significand exponent
    ofRatio negative whole.natAbs 1
  | _ => number

/-- What is left of `number` after whole multiples of `modulus` are taken off its magnitude; it has
the sign of `number` and is exact. -/
def remainder (number modulus : Float) : Float :=
  match ofFloat number, ofFloat modulus with
  | finite negative significand exponent, finite _ significand' exponent' =>
    let least := min exponent exponent'
    let whole := significand <<< (exponent - least).toNat
    let part := significand' <<< (exponent' - least).toNat
    let left := ratio (whole % part) least
    ofRatio negative left.1 left.2
  | finite .., infinite _ => number
  | _, _ => 0.0 / 0.0

def zeroLike (number : Float) : Float :=
  pack (signBit ≤ number.toBits.toNat) 0

/-- The floor of `number / modulus`, found from the exact remainder: what is left over is taken off
before the division, so the quotient of the doubles is within rounding of a whole number. -/
def floorDiv (number modulus : Float) : Except NumberFault Float :=
  if modulus == 0.0 then .error .floorDivisionByZero
  else
    let left := remainder number modulus
    let quotient := (number - left) / modulus
    let quotient := if left != 0.0 && (modulus < 0.0) != (left < 0.0) then quotient - 1.0 else quotient
    if quotient != 0.0 then
      let whole := floorFloat quotient
      .ok (if 0.5 < quotient - whole then whole + 1.0 else whole)
    else .ok (zeroLike (number / modulus))

/-- The quotient of doubles, unless the divisor is zero. -/
def div (number divisor : Float) : Except NumberFault Float :=
  if divisor == 0.0 then .error .divisionByZero else .ok (number / divisor)

end Binary64

end Chip8
