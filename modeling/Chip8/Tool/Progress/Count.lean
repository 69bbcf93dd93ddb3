import Chip8.Tool.Text.Reckoning

/-!
# Short texts of counts

How numbers are told where there is little room: with three digits where that is shorter than with all
of them, or with a letter for the power of a divisor that was taken out of them.
-/

namespace Chip8.Count

/-- A positive quotient, rounded to three digits. -/
def threeDigits (numerator denominator : Nat) : Decimal.Digits :=
  let scale := Decimal.leadingExponent numerator denominator - 2
  let units := roundDiv (numerator * Nat.pow 10 (-scale).toNat) (denominator * Nat.pow 10 scale.toNat)
  let digits := (toString units).toList
  ⟨Decimal.trimZeros digits, digits.length + scale⟩

/-- Writes at most three digits: without an exponent if the number is less than a thousand and has at
most three zeros behind the point in front of them. -/
def digitsText (decimal : Decimal.Digits) : String :=
  if -4 < decimal.point ∧ decimal.point ≤ 3 then
    let whole := decimal.digits.take decimal.point.toNat
    let part := List.replicate (-decimal.point).toNat '0' ++ decimal.digits.drop decimal.point.toNat
    let zeros := List.replicate (decimal.point.toNat - whole.length) '0'
    (if whole.isEmpty then "0" else String.ofList (whole ++ zeros)) ++
      (if part.isEmpty then "" else "." ++ String.ofList part)
  else
    let tail := decimal.digits.drop 1
    let exponent := decimal.point - 1
    String.ofList (decimal.digits.take 1) ++
      (if tail.isEmpty then "" else "." ++ String.ofList tail) ++
      (if exponent < 0 then "e-" else "e+") ++ toString exponent.natAbs

/-- A double with three digits. -/
def rounded (number : Float) : String :=
  match Binary64.ofFloat number with
  | .finite negative significand exponent =>
    let value := Binary64.ratio significand exponent
    let magnitude := if significand = 0 then "0" else digitsText (threeDigits value.1 value.2)
    if negative then "-" ++ magnitude else magnitude
  | _ => Decimal.shortest number

/-- A value, and if it is a number with three digits where that is shorter. A whole number has to be in
the range of doubles. -/
def text (value : Datum) : Except Misuse String := do
  match value.amount? with
  | none => return value.plain
  | some amount =>
    let short := rounded (← amount.toFloat.mapError .number)
    return if short.length < value.plain.length then short else value.plain

/-- A number with as many places as leave it three digits, if it is less than a thousand. -/
def placed? (amount : Amount) : Except Misuse (Option String) := do
  let lessThan (bound : Float) : Bool := amount.magnitude.lessThan (.real bound)
  if lessThan 999.5 then
    let number ← amount.toFloat.mapError .number
    let places := if lessThan 9.995 then 2 else if lessThan 99.95 then 1 else 0
    return some (Decimal.fixed places number)
  else return none

/-- A value with a letter for the power of a divisor, which is taken out once for each letter that is
not enough. -/
def sizedWith (divisor value : Datum) : List String → Except Misuse String
  | [] => do
    match value.amount? with
    | some amount => return Decimal.fixed 1 (← amount.toFloat.mapError .number) ++ "Y"
    | none => return value.plain
  | letter :: letters => do
    match value.amount? with
    | none => .error (.operand "abs()" value.typeName)
    | some amount =>
      match ← placed? amount with
      | some digits => return digits ++ letter
      | none => sizedWith divisor (← value.dividedBy divisor "/=") letters

/-- A value with a letter for the power of a divisor. -/
def sized (divisor value : Datum) : Except Misuse String :=
  sizedWith divisor value ["", "k", "M", "G", "T", "P", "E", "Z"]

end Chip8.Count
