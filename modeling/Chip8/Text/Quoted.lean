import Chip8.Text.Number
import Chip8.Text.Printable

/-!
# Quoted text

Text between quotes on one line. Single quotes are used unless the text holds a single quote and no
double quote. A backslash stands before the quote and before itself; line feed, carriage return and
tab have letters, and every other character that cannot be seen is written by its code.
-/

namespace Chip8.Text

/-- The code of a character after a backslash, in two, four or eight hexadecimal digits. -/
def codeEscape (code : Nat) : String :=
  if code < 0x100 then "\\x" ++ hex 2 false code
  else if code < 0x10000 then "\\u" ++ hex 4 false code
  else "\\U" ++ hex 8 false code

/-- How a character is written between quotes of the given kind. -/
def quotedChar (quote character : Char) : String :=
  if character = quote || character = '\\' then String.ofList ['\\', character]
  else if character = '\n' then "\\n"
  else if character = '\r' then "\\r"
  else if character = '\t' then "\\t"
  else if isPrintable character then String.singleton character
  else codeEscape character.toNat

/-- The quotes that fit a text. -/
def quoteFor (text : String) : Char :=
  if text.contains '\'' && !text.contains '"' then '"' else '\''

def quoted (text : String) : String :=
  let quote := quoteFor text
  String.singleton quote ++ String.join (text.toList.map (quotedChar quote)) ++ String.singleton quote

def quotedList (texts : List String) : String :=
  "[" ++ String.intercalate ", " (texts.map quoted) ++ "]"

end Chip8.Text
