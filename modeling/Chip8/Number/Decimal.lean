import Chip8.Number.Binary64

/-!
# Doubles in decimal

Two ways of writing a double. The shortest text has the fewest digits that read back as the same
double, and of these the digits nearest to it. Text with fixed places has the exact value rounded to
so many digits after the point, the even digit on ties.

The shortest text is found on decimal grids: for one digit, two digits and so on up to seventeen, the
two points of the grid around the value are tried, and the first grid with a point that rounds to the
value wins.
-/

namespace Chip8.Decimal

/-- A positive decimal number: `0.d₁d₂… * 10 ^ point` for the digits `d₁d₂…` of `digits`. -/
structure Digits where
  /-- The digits as one number, without zeros at the end. -/
  digits : List Char
  /-- Position of the decimal point from before the first digit. -/
  point : Int

/-- Compares `first * 10 ^ exponent` with `numerator / denominator`. -/
def compareScaled (first : Nat) (exponent : Int) (numerator denominator : Nat) : Ordering :=
  compare (first * Nat.pow 10 exponent.toNat * denominator) (numerator * Nat.pow 10 (-exponent).toNat)

/-- The exponent of the leading decimal digit of a positive quotient. -/
def leadingExponent (numerator denominator : Nat) : Int :=
  let guess := ((numerator.log2 : Int) - denominator.log2) * 30103 / 100000
  if compareScaled 1 (guess + 1) numerator denominator != .gt then guess + 1
  else if compareScaled 1 guess numerator denominator == .gt then guess - 1
  else guess

/-- The values that round to a double: those between the middles to its neighbours, the middles
included if its significand is even. All bounds are in units of a quarter of its last bit. -/
structure Interval where
  /-- Lower end, in quarters of the last bit. -/
  lower : Nat
  /-- Upper end, in quarters of the last bit. -/
  upper : Nat
  closed : Bool

/-- The values that round to `significand * 2 ^ exponent`. The neighbour below a power of two is only
half as far away, except at the least exponent. -/
def intervalOf (significand : Nat) (exponent : Int) : Interval :=
  let below := if significand = Binary64.hiddenBit ∧ Binary64.leastExponent < exponent then 1 else 2
  ⟨4 * significand - below, 4 * significand + 2, significand % 2 = 0⟩

/-- Whether `candidate * 10 ^ scale` lies in the interval of a double with the given exponent. -/
def Interval.contains (interval : Interval) (exponent : Int) (candidate : Nat) (scale : Int) : Bool :=
  let lower := Binary64.ratio interval.lower (exponent - 2)
  let upper := Binary64.ratio interval.upper (exponent - 2)
  match compareScaled candidate scale lower.1 lower.2, compareScaled candidate scale upper.1 upper.2 with
  | .gt, .lt => true
  | .eq, _ => interval.closed
  | _, .eq => interval.closed
  | _, _ => false

/-- The grid point with `count` digits that reads back as `significand * 2 ^ exponent` and is nearest
to it, if there is one. Gives the point in units of `10 ^ scale`, and `scale`. -/
def onGrid? (significand : Nat) (exponent leading : Int) (count : Nat) : Option (Nat × Int) :=
  let scale := leading + 1 - count
  let value := Binary64.ratio significand exponent
  let numerator := value.1 * Nat.pow 10 (-scale).toNat
  let denominator := value.2 * Nat.pow 10 scale.toNat
  let interval := intervalOf significand exponent
  let below := numerator / denominator
  let nearest := roundDiv numerator denominator
  if interval.contains exponent nearest scale then some (nearest, scale)
  else if interval.contains exponent below scale then some (below, scale)
  else if interval.contains exponent (below + 1) scale then some (below + 1, scale)
  else none

def trimZeros (digits : List Char) : List Char := (digits.reverse.dropWhile (· = '0')).reverse

/-- The shortest digits of a positive double. Seventeen digits always read back. -/
def shortestDigits (significand : Nat) (exponent : Int) : Digits :=
  let value := Binary64.ratio significand exponent
  let leading := leadingExponent value.1 value.2
  match (List.range 17).findSome? fun count => onGrid? significand exponent leading (count + 1) with
  | none => ⟨[], 0⟩
  | some (point, scale) =>
    let digits := (toString point).toList
    ⟨trimZeros digits, digits.length + scale⟩

/-- An exponent with its sign and at least two digits. -/
def exponentText (exponent : Int) : String :=
  let digits := toString exponent.natAbs
  (if exponent < 0 then "-" else "+") ++ (if digits.length < 2 then "0" ++ digits else digits)

/-- Writes digits with a point: positionally when the point falls at most sixteen digits after or
three digits before the first digit, and with an exponent otherwise. -/
def Digits.text (decimal : Digits) : String :=
  let count : Int := decimal.digits.length
  if -4 < decimal.point ∧ decimal.point ≤ 16 then
    if decimal.point ≤ 0 then
      "0." ++ String.ofList (List.replicate (-decimal.point).toNat '0' ++ decimal.digits)
    else if count ≤ decimal.point then
      String.ofList (decimal.digits ++ List.replicate (decimal.point - count).toNat '0') ++ ".0"
    else
      String.ofList (decimal.digits.take decimal.point.toNat) ++ "." ++
        String.ofList (decimal.digits.drop decimal.point.toNat)
  else
    let tail := decimal.digits.drop 1
    String.ofList (decimal.digits.take 1) ++
      (if tail.isEmpty then "" else "." ++ String.ofList tail) ++
      "e" ++ exponentText (decimal.point - 1)

/-- The shortest text that reads back as the same double. -/
def shortest (number : Float) : String :=
  match Binary64.ofFloat number with
  | .nan => "nan"
  | .infinite negative => if negative then "-inf" else "inf"
  | .finite negative significand exponent =>
    let magnitude := if significand = 0 then "0.0" else (shortestDigits significand exponent).text
    if negative then "-" ++ magnitude else magnitude

/-- A natural number of units of `10 ^ -places`, with a point before its last `places` digits. -/
def placesText (places units : Nat) : String :=
  let whole := toString (units / Nat.pow 10 places)
  let part := toString (units % Nat.pow 10 places)
  if places = 0 then whole
  else whole ++ "." ++ String.ofList (List.replicate (places - part.length) '0') ++ part

/-- A double with a fixed number of places after the point. The sign stays when it rounds to zero. -/
def fixed (places : Nat) (number : Float) : String :=
  match Binary64.ofFloat number with
  | .nan => "nan"
  | .infinite negative => if negative then "-inf" else "inf"
  | .finite negative significand exponent =>
    let value := Binary64.ratio significand exponent
    let magnitude := placesText places (roundDiv (value.1 * Nat.pow 10 places) value.2)
    if negative then "-" ++ magnitude else magnitude

/-- Text moved to the right end of a field of `width` characters. -/
def alignRight (width : Nat) (text : String) : String :=
  String.ofList (List.replicate (width - text.length) ' ') ++ text

end Chip8.Decimal
