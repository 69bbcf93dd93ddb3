/-!
# Capitals

The capitals of the letters whose capital is a letter of ASCII: those of ASCII, the dotless i and the
long s.
-/

namespace Chip8.Text

/-- The capital of a letter, if it is one of ASCII. Other letters stay. -/
def capital (letter : Char) : Char :=
  if letter = 'ı' then 'I' else if letter = 'ſ' then 'S' else letter.toUpper

end Chip8.Text
