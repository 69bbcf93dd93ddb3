/-!
# Blanks around numbers

The characters that may stand around a number in text: the white space of the Unicode standard, of
which the first 128 characters hold the space, tab, line feed, vertical tab, form feed and carriage
return.
-/

namespace Chip8.Text

/-- Whether a character may stand around a number. -/
def isBlank (character : Char) : Bool :=
  let code := character.toNat
  code = 0x20 || (0x9 ≤ code && code ≤ 0xD) || code = 0x85 || code = 0xA0 || code = 0x1680 ||
    (0x2000 ≤ code && code ≤ 0x200A) || code = 0x2028 || code = 0x2029 || code = 0x202F ||
    code = 0x205F || code = 0x3000

def trimBlanks (text : List Char) : List Char :=
  ((text.dropWhile isBlank).reverse.dropWhile isBlank).reverse

end Chip8.Text
