import Chip8.Number.Binary64

/-!
# Numbers of a clock

Periods, frequencies and timestamps are numbers that a clock adds, compares and counts in whole
periods. The machine runs on doubles. What its clocks promise over long runs is a matter of exact
arithmetic, so everything that keeps time is written for any such numbers, and the rational numbers
are the ones in which no rounding happens.

A loop over whole periods needs to know that it ends. `budget` bounds the number of periods that fit
between two timestamps: exactly for rational numbers, and by far more than can ever be run for
doubles.
-/

namespace Chip8

/-- Numbers in which a clock keeps time. -/
class ClockNumber (Time : Type) extends Add Time, Sub Time, Mul Time where
  ofNat : Nat → Time
  ofInt : Int → Except NumberFault Time
  ofQuotient : Int → Int → Except NumberFault Time
  div : Time → Time → Except NumberFault Time
  lt : Time → Time → Bool
  le : Time → Time → Bool
  ceil : Time → Except NumberFault Int
  /-- How many whole periods (second) fit into a span (first). -/
  wholePeriods : Time → Time → Except NumberFault Int
  times : Int → Time → Time
  /-- A bound on the periods (first) between two timestamps, and one more. -/
  budget : Time → Time → Time → Nat

namespace ClockNumber

/-- Doubles keep time as the machine runs. Comparisons with a value that is no number fail, and more
than `2 ^ 62` periods are never run. -/
instance : ClockNumber Float where
  ofNat number := Binary64.ofRatio false number 1
  ofInt := Binary64.ofInt
  ofQuotient := Binary64.ofQuotient
  div := Binary64.div
  lt first second := first < second
  le first second := first ≤ second
  ceil := Binary64.ceil
  wholePeriods span period := do Binary64.toInt (← Binary64.floorDiv span period)
  times count period := Binary64.ofRatio (count < 0) count.natAbs 1 * period
  budget _ _ _ := 0x4000000000000000

/-- Rational numbers keep time without rounding. -/
instance : ClockNumber Rat where
  ofNat number := number
  ofInt number := .ok number
  ofQuotient numerator denominator :=
    if denominator = 0 then .error .ratioByZero else .ok (numerator / denominator)
  div number divisor := if divisor = 0 then .error .divisionByZero else .ok (number / divisor)
  lt first second := first < second
  le first second := first ≤ second
  ceil number := .ok number.ceil
  wholePeriods span period :=
    if period = 0 then .error .floorDivisionByZero else .ok (span / period).floor
  times count period := count * period
  budget period last now := ((now - last) / period).floor.toNat + 1

end ClockNumber

end Chip8
