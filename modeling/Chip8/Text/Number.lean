/-!
# Whole numbers as text

Hexadecimal text with a least width, bytes as pairs of hexadecimal digits, and decimal text with its
digits in groups of three.

A least width counts the sign: `-1` in four places is `-001`. Zeros go between the sign and the
digits, so the text reads back as the same number.
-/

namespace Chip8.Text

/-- The hexadecimal digits of a natural number, most significant first. -/
def hexDigits (uppercase : Bool) (number : Nat) : List Char :=
  let digits := Nat.toDigits 16 number
  if uppercase then digits.map Char.toUpper else digits

/-- Puts zeros before `digits` until a sign and they fill `width` places. -/
def padWithZeros (width : Nat) (negative : Bool) (digits : List Char) : String :=
  let sign := if negative then ['-'] else []
  String.ofList (sign ++ List.replicate (width - sign.length - digits.length) '0' ++ digits)

/-- Hexadecimal text of an integer in at least `width` places, the sign included. -/
def hex (width : Nat) (uppercase : Bool) (number : Int) : String :=
  padWithZeros width (number < 0) (hexDigits uppercase number.natAbs)

/-- The value of a hexadecimal digit. Any other character counts as zero. -/
def hexValue (digit : Char) : Nat := ("0123456789abcdef".toList.idxOf? digit.toLower).getD 0

/-- The bytes that pairs of hexadecimal digits stand for, without a last digit that is alone. -/
def bytesOfHex : List Char → List UInt8
  | high :: low :: rest => UInt8.ofNat (hexValue high * 16 + hexValue low) :: bytesOfHex rest
  | _ => []

/-- Puts a comma before every third digit from the right, except the first digit. -/
def groupThousands : List Char → List Char
  | [] => []
  | digit :: rest =>
    let grouped := groupThousands rest
    if rest.length % 3 = 0 ∧ rest ≠ [] then digit :: ',' :: grouped else digit :: grouped

/-- Decimal text of an integer with commas between groups of three digits. -/
def grouped (number : Int) : String :=
  let sign := if number < 0 then "-" else ""
  sign ++ String.ofList (groupThousands (toString number.natAbs).toList)

end Chip8.Text
