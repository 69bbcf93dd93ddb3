import Chip8.Text.Digit

/-!
# Columns

How many columns a text takes where every character is as wide as one column or two. The wide ones are
those of version 14 of the Unicode standard that are wide or full width. A code that sets a colour,
which is an escape, a bracket, digits with semicolons between them and a letter, takes none.
-/

namespace Chip8.Text

/-- Ranges of code points that take two columns, ascending, each with its last member. There may be code
points without a character in them. -/
def wideRanges : List (Nat × Nat) :=
  [(0x1100, 0x115F), (0x231A, 0x231B), (0x2329, 0x232A), (0x23E9, 0x23EC), (0x23F0, 0x23F0),
   (0x23F3, 0x23F3), (0x25FD, 0x25FE), (0x2614, 0x2615), (0x2648, 0x2653), (0x267F, 0x267F),
   (0x2693, 0x2693), (0x26A1, 0x26A1), (0x26AA, 0x26AB), (0x26BD, 0x26BE), (0x26C4, 0x26C5),
   (0x26CE, 0x26CE), (0x26D4, 0x26D4), (0x26EA, 0x26EA), (0x26F2, 0x26F3), (0x26F5, 0x26F5),
   (0x26FA, 0x26FA), (0x26FD, 0x26FD), (0x2705, 0x2705), (0x270A, 0x270B), (0x2728, 0x2728),
   (0x274C, 0x274C), (0x274E, 0x274E), (0x2753, 0x2755), (0x2757, 0x2757), (0x2795, 0x2797),
   (0x27B0, 0x27B0), (0x27BF, 0x27BF), (0x2B1B, 0x2B1C), (0x2B50, 0x2B50), (0x2B55, 0x2B55),
   (0x2E80, 0x303E), (0x3041, 0x3247), (0x3250, 0x4DBF), (0x4E00, 0xA4C6), (0xA960, 0xA97C),
   (0xAC00, 0xD7A3), (0xF900, 0xFAD9), (0xFE10, 0xFE19), (0xFE30, 0xFE6B), (0xFF01, 0xFF60),
   (0xFFE0, 0xFFE6), (0x16FE0, 0x1B2FB), (0x1F004, 0x1F004), (0x1F0CF, 0x1F0CF), (0x1F18E, 0x1F18E),
   (0x1F191, 0x1F19A), (0x1F200, 0x1F320), (0x1F32D, 0x1F335), (0x1F337, 0x1F37C), (0x1F37E, 0x1F393),
   (0x1F3A0, 0x1F3CA), (0x1F3CF, 0x1F3D3), (0x1F3E0, 0x1F3F0), (0x1F3F4, 0x1F3F4), (0x1F3F8, 0x1F43E),
   (0x1F440, 0x1F440), (0x1F442, 0x1F4FC), (0x1F4FF, 0x1F53D), (0x1F54B, 0x1F54E), (0x1F550, 0x1F567),
   (0x1F57A, 0x1F57A), (0x1F595, 0x1F596), (0x1F5A4, 0x1F5A4), (0x1F5FB, 0x1F64F), (0x1F680, 0x1F6C5),
   (0x1F6CC, 0x1F6CC), (0x1F6D0, 0x1F6D2), (0x1F6D5, 0x1F6DF), (0x1F6EB, 0x1F6EC), (0x1F6F4, 0x1F6FC),
   (0x1F7E0, 0x1F7F0), (0x1F90C, 0x1F93A), (0x1F93C, 0x1F945), (0x1F947, 0x1F9FF), (0x1FA70, 0x1FAF6),
   (0x20000, 0x3134A)]

def columnsOf (character : Char) : Nat :=
  let code := character.toNat
  if code < 0x1100 then 1
  else if wideRanges.any fun (first, last) => first ≤ code && code ≤ last then 2
  else 1

/-- The number of characters of the code at the front, if there is one. -/
def codeLength? : List Char → Option Nat
  | '\x1b' :: '[' :: rest =>
    let (inner, left) := rest.span fun character =>
      character = ';' || (digitValue? character).isSome
    if left.head?.any Char.isAlpha then some (inner.length + 3) else none
  | _ => none

/-- The number of columns of a text after some that are counted. Some characters at the front may belong
to a code. -/
def columnsAfter (counted inCode : Nat) : List Char → Nat
  | [] => counted
  | first :: rest =>
    match inCode with
    | inCode + 1 => columnsAfter counted inCode rest
    | 0 =>
      match codeLength? (first :: rest) with
      | some length => columnsAfter counted (length - 1) rest
      | none => columnsAfter (counted + columnsOf first) 0 rest

def columns (text : String) : Nat := columnsAfter 0 0 text.toList

end Chip8.Text
