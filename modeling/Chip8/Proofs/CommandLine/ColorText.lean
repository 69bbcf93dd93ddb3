import Chip8.CommandLine.Options
import Chip8.Proofs.Number.Numeral

/-!
# Colours as text

A colour is given as a number sign and six digits of base sixteen, two for each of red, green and blue,
and every such text is read as these three bytes.

The reader asks for six characters after the number sign and reads them as one number. A number may be
written in more ways than with six digits, so more texts are read: those whose six characters are a
numeral of base sixteen with a sign, blanks, underscores, a mark, or digits of another script. Of such
a number the low three bytes are taken. Every other text is refused, and always for the same reason.
-/

namespace Chip8

open Number

/-- A colour as it is meant to be given, and its bytes. -/
inductive HexColor : List Char → Color → Prop where
  | of {red red' green green' blue blue' : Char × Nat} (isRed : red ∈ hexDigits)
    (isRed' : red' ∈ hexDigits) (isGreen : green ∈ hexDigits) (isGreen' : green' ∈ hexDigits)
    (isBlue : blue ∈ hexDigits) (isBlue' : blue' ∈ hexDigits) :
    HexColor ['#', red.1, red'.1, green.1, green'.1, blue.1, blue'.1]
      (.ofAmounts (16 * red.2 + red'.2) (16 * green.2 + green'.2) (16 * blue.2 + blue'.2))

/-- The colour of the low three bytes of a number. -/
def Color.ofNumber (number : Int) : Color :=
  .ofAmounts (number / 0x10000 % 0x100) (number / 0x100 % 0x100) (number % 0x100)

theorem Number.snd_lt_of_mem_hexDigits {digit : Char × Nat} (isDigit : digit ∈ hexDigits) :
    digit.2 < 16 :=
  (digitIn?_eq_some_iff.mp (digitIn?_sixteen_iff.mpr isDigit)).1

/-- Six digits of base sixteen are a numeral, and the bytes of the colour are those of its value. -/
theorem HexColor.exists_numeral {text : List Char} {color : Color} (hexColor : HexColor text color) :
    ∃ letters value, text = '#' :: letters ∧ letters.length = 6 ∧ Numeral 16 letters value ∧
      color = .ofNumber value := by
  rcases hexColor with @⟨red, red', green, green', blue, blue', isRed, isRed', isGreen, isGreen',
    isBlue, isBlue'⟩
  have plain : Plain 16 [red.1, red'.1, green.1, green'.1, blue.1, blue'.1]
      [red.2, red'.2, green.2, green'.2, blue.2, blue'.2] := by
    simp only [Plain, List.forall₂_cons, List.forall₂_nil_left_iff, digitIn?_sixteen_iff, and_true]
    exact ⟨isRed, isRed', isGreen, isGreen', isBlue, isBlue'⟩
  refine ⟨_, _, rfl, rfl, plain.numeral (by simp) (by simp), ?_⟩
  have := snd_lt_of_mem_hexDigits isRed
  have := snd_lt_of_mem_hexDigits isRed'
  have := snd_lt_of_mem_hexDigits isGreen
  have := snd_lt_of_mem_hexDigits isGreen'
  have := snd_lt_of_mem_hexDigits isBlue
  have := snd_lt_of_mem_hexDigits isBlue'
  simp only [Color.ofNumber, Color.ofAmounts, ofDigits, List.foldl_cons, List.foldl_nil,
    Color.mk.injEq, List.cons.injEq, and_true]
  omega

namespace OptionValue

/-- A text is read as a colour exactly if it is a number sign before a numeral of six characters. -/
theorem color_eq_ok_iff {text : String} {color : Color} :
    OptionValue.color text = .ok color ↔
      ∃ letters value, text.toList = '#' :: letters ∧ letters.length = 6 ∧ Numeral 16 letters value ∧
        color = .ofNumber value := by
  unfold OptionValue.color
  split
  next letters marked =>
    have reads (value : Int) :
        readInt 16 (String.ofList letters) = .ok value ↔ Numeral 16 letters value := by
      rw [readInt_eq_ok_iff (by decide), String.toList_ofList]
    constructor
    · intro read
      split at read
      next six =>
        split at read <;> cases read
        next value isRead => exact ⟨letters, value, marked, six, (reads value).mp isRead, rfl⟩
      next => cases read
    · rintro ⟨_, value, same, six, numeral, rfl⟩
      cases marked.symm.trans same
      rw [if_pos six, (reads value).mpr numeral]
      rfl
  next unmarked =>
    constructor
    · intro read
      cases read
    · rintro ⟨letters, _, marked, -⟩
      exact absurd marked (unmarked letters)

/-- There is one reason to refuse a colour. -/
theorem eq_malformedColor_of_color {text : String} {fault : ValueFault}
    (refused : OptionValue.color text = .error fault) : fault = .malformedColor text := by
  unfold OptionValue.color at refused
  split at refused
  next =>
    split at refused
    next => split at refused <;> cases refused; rfl
    next => cases refused; rfl
  next => cases refused; rfl

/-- What is read as a colour. A number sign and six digits of base sixteen are read as the three bytes
they denote. So are the low three bytes of every other numeral of six characters after a number sign.
Every other text is refused as malformed. -/
theorem color_reads_six_characters (text : String) :
    (∀ color, HexColor text.toList color → OptionValue.color text = .ok color) ∧
      (∀ color, OptionValue.color text = .ok color ↔
        ∃ letters value, text.toList = '#' :: letters ∧ letters.length = 6 ∧
          Numeral 16 letters value ∧ color = .ofNumber value) ∧
      ((¬∃ color, OptionValue.color text = .ok color) →
        OptionValue.color text = .error (.malformedColor text)) := by
  refine ⟨fun _ hexColor => color_eq_ok_iff.mpr hexColor.exists_numeral, fun _ => color_eq_ok_iff, ?_⟩
  intro unread
  rcases refused : OptionValue.color text with fault | color
  · rw [eq_malformedColor_of_color refused]
  · exact absurd ⟨color, refused⟩ unread

/-- A sign and five digits are read as a colour, and are not six digits. -/
theorem color_of_sign_and_five_digits :
    OptionValue.color "#+FFFFF" = .ok (.ofAmounts 15 255 255) ∧
      ¬∃ color, HexColor "#+FFFFF".toList color := by
  refine ⟨by decide, ?_⟩
  have letters : "#+FFFFF".toList = ['#', '+', 'F', 'F', 'F', 'F', 'F'] := by decide
  rintro ⟨_, hexColor⟩
  generalize "#+FFFFF".toList = text at letters hexColor
  rcases hexColor with @⟨red, _, _, _, _, _, isRed, -⟩
  have sign : red.1 = '+' := (List.cons.inj (List.cons.inj letters).2).1
  have noSign : ∀ digit ∈ hexDigits, digit.1 ≠ '+' := by decide
  exact noSign red isRed sign

end OptionValue

end Chip8
