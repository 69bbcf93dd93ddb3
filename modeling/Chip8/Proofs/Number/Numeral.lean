import Chip8.Number.Reader
import Mathlib.Data.List.Forall2
import Mathlib.Data.List.TakeWhile
import Mathlib.Tactic.IntervalCases

/-!
# Numerals

What a text has to look like to be read as a whole number, said without the reader: blanks, a sign, the
mark of base sixteen, digits with single underscores between them, and blanks. Digits of other scripts
count as those of ASCII, so the middle part is compared with what it is in plain characters.

A text is read exactly if it is a numeral, and it is read as the value of the numeral.
-/

namespace Chip8

namespace Text

theorem isBlank_iff {character : Char} :
    isBlank character = true ↔
      character.toNat = 0x20 ∨ (0x9 ≤ character.toNat ∧ character.toNat ≤ 0xD) ∨
        character.toNat = 0x85 ∨ character.toNat = 0xA0 ∨ character.toNat = 0x1680 ∨
        (0x2000 ≤ character.toNat ∧ character.toNat ≤ 0x200A) ∨ character.toNat = 0x2028 ∨
        character.toNat = 0x2029 ∨ character.toNat = 0x202F ∨ character.toNat = 0x205F ∨
        character.toNat = 0x3000 := by
  simp only [isBlank, Bool.or_eq_true, Bool.and_eq_true, decide_eq_true_eq]
  tauto

theorem digitValue?_eq_some {character : Char} {value : Nat}
    (isDigit : digitValue? character = some value) :
    value < 10 ∧ ∃ first ∈ digitZeros, character.toNat = first + value := by
  rcases Option.map_eq_some_iff.mp isDigit with ⟨first, found, rfl⟩
  have mem := List.mem_of_find?_eq_some found
  have inside := List.find?_some found
  simp only [Bool.and_eq_true, decide_eq_true_eq] at inside
  exact ⟨by omega, first, mem, by omega⟩

/-- A digit of any script is no blank. -/
theorem isBlank_of_digitValue? {character : Char} {value : Nat}
    (isDigit : digitValue? character = some value) : isBlank character = false := by
  rcases digitValue?_eq_some isDigit with ⟨small, first, mem, code⟩
  rw [Bool.eq_false_iff, Ne, isBlank_iff, code]
  simp only [digitZeros, List.mem_cons, List.not_mem_nil, or_false] at mem
  omega

end Text

namespace Number

open Text

/-! ### Characters of a number -/

theorem toNat_ofNat_digit {value : Nat} (small : value < 10) :
    (Char.ofNat (0x30 + value)).toNat = 0x30 + value := by
  interval_cases value <;> rfl

@[simp]
theorem isBlank_plainChar (character : Char) : isBlank (plainChar character) = isBlank character := by
  unfold plainChar
  split
  next value isDigit =>
    have small := (digitValue?_eq_some isDigit).1
    rw [isBlank_of_digitValue? isDigit, Bool.eq_false_iff, Ne, isBlank_iff, toNat_ofNat_digit small]
    omega
  next => rfl

theorem digitIn?_eq_some_iff {base : Nat} {character : Char} {digit : Nat} :
    digitIn? base character = some digit ↔
      digit < base ∧
        (character.toNat = 0x30 + digit ∧ digit ≤ 9 ∨
          (character.toNat = 0x57 + digit ∨ character.toNat = 0x37 + digit) ∧ 10 ≤ digit ∧ digit ≤ 15) := by
  unfold digitIn?
  dsimp only
  rw [Option.filter_eq_some_iff, decide_eq_true_eq, and_comm]
  refine and_congr_right fun _ => ?_
  simp only [Bool.and_eq_true, decide_eq_true_eq]
  split
  next => simp only [Option.some.injEq]; omega
  next =>
    split
    next => simp only [Option.some.injEq]; omega
    next =>
      split
      next => simp only [Option.some.injEq]; omega
      next => simp only [reduceCtorEq, false_iff]; omega

/-- The digits of base sixteen and their values. -/
def hexDigits : List (Char × Nat) :=
  [('0', 0), ('1', 1), ('2', 2), ('3', 3), ('4', 4), ('5', 5), ('6', 6), ('7', 7), ('8', 8), ('9', 9),
    ('a', 10), ('b', 11), ('c', 12), ('d', 13), ('e', 14), ('f', 15),
    ('A', 10), ('B', 11), ('C', 12), ('D', 13), ('E', 14), ('F', 15)]

theorem digitIn?_sixteen_iff {character : Char} {digit : Nat} :
    digitIn? 16 character = some digit ↔ (character, digit) ∈ hexDigits := by
  rw [digitIn?_eq_some_iff]
  constructor
  · rintro ⟨-, ⟨code, small⟩ | ⟨code | code, least, most⟩⟩ <;>
      rw [← Char.ofNat_toNat character, code] <;> interval_cases digit <;> decide
  · intro mem
    have all : ∀ pair ∈ hexDigits, pair.2 < 16 ∧
        (pair.1.toNat = 0x30 + pair.2 ∧ pair.2 ≤ 9 ∨
          (pair.1.toNat = 0x57 + pair.2 ∨ pair.1.toNat = 0x37 + pair.2) ∧ 10 ≤ pair.2 ∧
            pair.2 ≤ 15) := by decide
    exact all _ mem

/-! ### Digits in a row -/

/-- Digits of a base with single underscores between them, and their values. -/
inductive Grouped (base : Nat) : List Char → List Nat → Prop where
  | last {character : Char} {digit : Nat} (isDigit : digitIn? base character = some digit) :
    Grouped base [character] [digit]
  | next {character : Char} {digit : Nat} {rest : List Char} {digits : List Nat}
    (isDigit : digitIn? base character = some digit) (later : Grouped base rest digits) :
    Grouped base (character :: rest) (digit :: digits)
  /-- A digit, an underscore, and the digits after it. -/
  | spaced {character : Char} {digit : Nat} {rest : List Char} {digits : List Nat}
    (isDigit : digitIn? base character = some digit) (later : Grouped base rest digits) :
    Grouped base (character :: '_' :: rest) (digit :: digits)

variable {base : Nat} {front rest text : List Char} {digits : List Nat}

theorem ne_underscore_of_digitIn? {character : Char} {digit : Nat}
    (isDigit : digitIn? base character = some digit) : character ≠ '_' := by
  rintro rfl
  rw [digitIn?_eq_some_iff, show '_'.toNat = 0x5F from rfl] at isDigit
  omega

theorem Grouped.exists_head (grouped : Grouped base front digits) :
    ∃ character digit later, front = character :: later ∧ digitIn? base character = some digit := by
  cases grouped with
  | last isDigit | next isDigit _ | spaced isDigit _ => exact ⟨_, _, _, rfl, isDigit⟩

theorem Grouped.digits_ne_nil (grouped : Grouped base front digits) : digits ≠ [] := by
  cases grouped <;> simp

/-- Digits end where neither a digit nor an underscore follows. -/
def Ends (base : Nat) (rest : List Char) : Prop :=
  ∀ character ∈ rest.head?, character ≠ '_' ∧ digitIn? base character = none

theorem takeDigits_of_ends (ends : Ends base rest) (afterDigit : Bool) :
    takeDigits base afterDigit rest = some ([], rest) := by
  cases rest with
  | nil => rfl
  | cons character rest =>
      rcases ends character rfl with ⟨noUnderscore, noDigit⟩
      rw [takeDigits, if_neg noUnderscore, noDigit]

theorem takeDigits_cons {character : Char} {digit : Nat}
    (isDigit : digitIn? base character = some digit) (afterDigit : Bool) (rest : List Char) :
    takeDigits base afterDigit (character :: rest) =
      (takeDigits base true rest).map fun (digits, left) => (digit :: digits, left) := by
  rw [takeDigits, if_neg (ne_underscore_of_digitIn? isDigit), isDigit]

/-- Digits are taken as far as they are grouped. -/
theorem takeDigits_of_grouped (grouped : Grouped base front digits) (ends : Ends base rest)
    (afterDigit : Bool) : takeDigits base afterDigit (front ++ rest) = some (digits, rest) := by
  induction grouped generalizing afterDigit with
  | last isDigit =>
      rw [List.singleton_append, takeDigits_cons isDigit, takeDigits_of_ends ends]
      rfl
  | next isDigit later ih =>
      rw [List.cons_append, takeDigits_cons isDigit, ih]
      rfl
  | spaced isDigit later ih =>
      rcases later.exists_head with ⟨_, _, _, rfl, nextIsDigit⟩
      rw [List.cons_append, takeDigits_cons isDigit, List.cons_append, takeDigits, if_pos rfl]
      rw [List.cons_append] at ih ⊢
      rw [List.head?_cons, Option.bind_some, nextIsDigit, Option.isSome_some, Bool.and_true, if_pos rfl,
        ih]
      rfl

/-- What is taken is grouped. Right after a digit it may begin with an underscore. -/
theorem grouped_of_takeDigits {afterDigit : Bool}
    (taken : takeDigits base afterDigit text = some (digits, rest)) :
    digits = [] ∧ text = rest ∨
      (∃ front, text = front ++ rest ∧ Grouped base front digits) ∨
      afterDigit = true ∧ ∃ front, text = '_' :: front ++ rest ∧ Grouped base front digits := by
  fun_induction takeDigits base afterDigit text generalizing digits rest with
  | case1 afterDigit =>
      cases taken
      exact .inl ⟨rfl, rfl⟩
  | case2 afterDigit later follows ih =>
      rw [Bool.and_eq_true] at follows
      rcases ih taken with ⟨rfl, rfl⟩ | ⟨front, rfl, grouped⟩ | ⟨impossible, -⟩
      · -- The underscore is taken only before a digit, so some digit is taken as well.
        rcases later with _ | ⟨character, later⟩
        · cases follows.2
        · rcases Option.isSome_iff_exists.mp follows.2 with ⟨digit, isDigit⟩
          rw [takeDigits_cons isDigit, Option.map_eq_some_iff] at taken
          rcases taken with ⟨_, _, taken⟩
          cases taken
      · exact .inr (.inr ⟨follows.1, front, rfl, grouped⟩)
      · cases impossible
  | case3 => cases taken
  | case4 afterDigit character later noUnderscore digit isDigit ih =>
      rcases Option.map_eq_some_iff.mp taken with ⟨⟨others, left⟩, takenLater, same⟩
      cases same
      rcases ih takenLater with ⟨rfl, rfl⟩ | ⟨front, rfl, grouped⟩ | ⟨-, front, rfl, grouped⟩
      · exact .inr (.inl ⟨[character], rfl, .last isDigit⟩)
      · exact .inr (.inl ⟨character :: front, rfl, .next isDigit grouped⟩)
      · exact .inr (.inl ⟨character :: '_' :: front, rfl, .spaced isDigit grouped⟩)
  | case5 afterDigit character later noUnderscore noDigit =>
      cases taken
      exact .inl ⟨rfl, rfl⟩

/-! ### Signs and marks -/

/-- The signs of a number, and whether they negate it. -/
def signs : List (List Char × Bool) := [([], false), (['+'], false), (['-'], true)]

/-- What may stand between the sign and the digits of a number in a base. -/
def baseMarks (base : Nat) : List (List Char) :=
  if base = 16 then [[], ['0', 'x'], ['0', 'X'], ['0', 'x', '_'], ['0', 'X', '_']] else [[]]

theorem exists_sign (text : List Char) :
    ∃ sign, (sign, (takeSign text).1) ∈ signs ∧ text = sign ++ (takeSign text).2 := by
  unfold takeSign
  split
  next rest => exact ⟨['-'], by simp [signs], rfl⟩
  next rest => exact ⟨['+'], by simp [signs], rfl⟩
  next => exact ⟨[], by simp [signs], rfl⟩

theorem takeSign_append {sign : List Char} {negative : Bool} (isSign : (sign, negative) ∈ signs)
    (unsigned : ∀ character ∈ text.head?, character ≠ '-' ∧ character ≠ '+') :
    takeSign (sign ++ text) = (negative, text) := by
  simp only [signs, List.mem_cons, Prod.mk.injEq, List.not_mem_nil, or_false] at isSign
  rcases isSign with ⟨rfl, rfl⟩ | ⟨rfl, rfl⟩ | ⟨rfl, rfl⟩
  · cases text with
    | nil => rfl
    | cons character text =>
        rcases unsigned character rfl with ⟨noMinus, noPlus⟩
        unfold takeSign
        split
        next same => cases same; exact absurd rfl noMinus
        next same => cases same; exact absurd rfl noPlus
        next => rfl
  · rfl
  · rfl

theorem exists_baseMark (base : Nat) (text : List Char) :
    ∃ mark ∈ baseMarks base, text = mark ++ takeBaseMark base text := by
  unfold takeBaseMark
  split
  next => exact ⟨['0', 'x', '_'], by decide, rfl⟩
  next => exact ⟨['0', 'X', '_'], by decide, rfl⟩
  next => exact ⟨['0', 'x'], by decide, rfl⟩
  next => exact ⟨['0', 'X'], by decide, rfl⟩
  next => exact ⟨[], by unfold baseMarks; split <;> simp, rfl⟩

theorem takeBaseMark_of_unmarked (lower : ∀ later, text ≠ '0' :: 'x' :: later)
    (upper : ∀ later, text ≠ '0' :: 'X' :: later) : takeBaseMark base text = text := by
  unfold takeBaseMark
  split
  next => exact absurd rfl (lower _)
  next => exact absurd rfl (upper _)
  next => exact absurd rfl (lower _)
  next => exact absurd rfl (upper _)
  next => rfl

/-- No letter stands right after the first digit that is none itself. -/
theorem Grouped.append_ne (grouped : Grouped base front digits) {letter : Char}
    (noDigit : digitIn? base letter = none) (noUnderscore : letter ≠ '_')
    (apart : letter ∉ rest.head?) (first : Char) (later : List Char) :
    front ++ rest ≠ first :: letter :: later := by
  rintro same
  cases grouped with
  | last isDigit =>
      cases rest with
      | nil => cases same
      | cons character rest =>
          cases same
          exact apart rfl
  | next isDigit grouped =>
      rcases grouped.exists_head with ⟨_, _, _, rfl, nextIsDigit⟩
      cases same
      cases noDigit.symm.trans nextIsDigit
  | spaced isDigit grouped =>
      cases same
      exact noUnderscore rfl

theorem takeBaseMark_append {mark : List Char} (isMark : mark ∈ baseMarks base)
    (small : base ≤ 16) (grouped : Grouped base front digits)
    (apart : ∀ letter ∈ rest.head?, letter ≠ 'x' ∧ letter ≠ 'X') :
    takeBaseMark base (mark ++ (front ++ rest)) = front ++ rest := by
  have noDigit : digitIn? base 'x' = none ∧ digitIn? base 'X' = none := by
    simp only [Option.eq_none_iff_forall_ne_some, Ne, digitIn?_eq_some_iff,
      show 'x'.toNat = 0x78 from rfl, show 'X'.toNat = 0x58 from rfl]
    constructor <;> intro digit <;> omega
  have unmarked : takeBaseMark base (front ++ rest) = front ++ rest :=
    takeBaseMark_of_unmarked
      (grouped.append_ne noDigit.1 (by decide) (fun mem => (apart _ mem).1 rfl) _)
      (grouped.append_ne noDigit.2 (by decide) (fun mem => (apart _ mem).2 rfl) _)
  rcases grouped.exists_head with ⟨character, digit, later, rfl, isDigit⟩
  have noUnderscore := ne_underscore_of_digitIn? isDigit
  unfold baseMarks at isMark
  split at isMark
  next hexadecimal =>
    subst hexadecimal
    simp only [List.mem_cons, List.not_mem_nil, or_false] at isMark
    rcases isMark with rfl | rfl | rfl | rfl | rfl
    · exact unmarked
    · simp [takeBaseMark, noUnderscore]
    · simp [takeBaseMark, noUnderscore]
    · rfl
    · rfl
  next =>
    rw [List.mem_singleton] at isMark
    subst isMark
    exact unmarked

/-! ### Numerals -/

/-- A text that stands for a whole number in a base. The characters of its middle part are compared as
those of ASCII. -/
inductive Numeral (base : Nat) : List Char → Int → Prop where
  /-- Blanks, a sign, a mark, digits and blanks. -/
  | of {before written after sign mark body : List Char} {negative : Bool} {digits : List Nat}
    (blankBefore : ∀ character ∈ before, isBlank character)
    (plain : written.map plainChar = sign ++ mark ++ body)
    (isSign : (sign, negative) ∈ signs) (isMark : mark ∈ baseMarks base)
    (grouped : Grouped base body digits) (inLimit : base = 10 → digits.length ≤ digitLimit)
    (blankAfter : ∀ character ∈ after, isBlank character) :
    Numeral base (before ++ written ++ after)
      (if negative then -(ofDigits base digits : Int) else ofDigits base digits)

/-- What is read is a numeral, by its parts as the reader takes them off. -/
theorem numeral_of_readInt {text : String} {value : Int} (read : readInt base text = .ok value) :
    Numeral base text.toList value := by
  have split := List.takeWhile_append_dropWhile (p := isBlank) (l := text.toList)
  have blankBefore : ∀ character ∈ text.toList.takeWhile isBlank, isBlank character :=
    fun _ mem => List.mem_takeWhile_imp mem
  unfold readInt at read
  generalize text.toList.takeWhile isBlank = before at split blankBefore
  generalize text.toList.dropWhile isBlank = middle at split read
  rw [← split]
  rcases exists_sign (middle.map plainChar) with ⟨sign, isSign, signed⟩
  generalize takeSign (middle.map plainChar) = signless at isSign signed read
  rcases signless with ⟨negative, unsigned⟩
  rcases exists_baseMark base unsigned with ⟨mark, isMark, marked⟩
  dsimp only at isSign signed read
  generalize takeBaseMark base unsigned = digitText at marked read
  split at read
  next => cases read
  next digits rest taken =>
    split at read
    next => cases read
    next inLimit =>
      split at read
      next => cases read
      next ends =>
        cases read
        simp only [Bool.or_eq_true, List.isEmpty_iff, Bool.not_eq_true', not_or,
          Bool.not_eq_false, List.all_eq_true] at ends
        rcases grouped_of_takeDigits taken with ⟨none, -⟩ | ⟨body, rfl, grouped⟩ | ⟨impossible, -⟩
        · exact absurd none ends.1
        · rw [marked, ← List.append_assoc, ← List.append_assoc] at signed
          rcases List.map_eq_append_iff.mp signed with ⟨written, after, rfl, plain, blanks⟩
          rw [← List.append_assoc]
          refine .of blankBefore plain isSign isMark grouped (by omega) ?_
          intro character mem
          rw [← isBlank_plainChar]
          exact ends.2 _ (blanks ▸ List.mem_map_of_mem mem)
        · cases impossible

theorem isBlank_of_digitIn? {character : Char} {digit : Nat}
    (isDigit : digitIn? base character = some digit) : isBlank character = false := by
  rw [digitIn?_eq_some_iff] at isDigit
  rw [Bool.eq_false_iff, Ne, isBlank_iff]
  omega

theorem ends_of_blank (blank : ∀ character ∈ rest, isBlank character) : Ends base rest := by
  intro character mem
  have isBlank := blank character (List.mem_of_mem_head? mem)
  refine ⟨by rintro rfl; exact absurd isBlank (by decide), ?_⟩
  rw [Option.eq_none_iff_forall_ne_some]
  intro digit isDigit
  rw [isBlank_of_digitIn? isDigit] at isBlank
  cases isBlank

/-- The signed digits of a numeral begin with no blank. -/
theorem exists_nonblank_head {sign mark : List Char} {negative : Bool}
    (isSign : (sign, negative) ∈ signs) (isMark : mark ∈ baseMarks base)
    (grouped : Grouped base front digits) :
    ∃ character later, sign ++ mark ++ front = character :: later ∧ isBlank character = false := by
  rcases grouped.exists_head with ⟨first, digit, later, rfl, isDigit⟩
  have marks : ∀ mark ∈ baseMarks base, mark = [] ∨ ∃ later, mark = '0' :: later := by
    unfold baseMarks
    split <;> simp
  simp only [signs, List.mem_cons, Prod.mk.injEq, List.not_mem_nil, or_false] at isSign
  rcases isSign with ⟨rfl, -⟩ | ⟨rfl, -⟩ | ⟨rfl, -⟩
  · rcases marks mark isMark with rfl | ⟨marked, rfl⟩
    · exact ⟨first, later, rfl, isBlank_of_digitIn? isDigit⟩
    · exact ⟨'0', _, rfl, by decide⟩
  · exact ⟨'+', _, rfl, by decide⟩
  · exact ⟨'-', _, rfl, by decide⟩

/-- No sign stands between the sign of a numeral and its digits. -/
theorem unsigned_of_grouped {mark : List Char} (isMark : mark ∈ baseMarks base)
    (grouped : Grouped base front digits) :
    ∀ character ∈ (mark ++ (front ++ rest)).head?, character ≠ '-' ∧ character ≠ '+' := by
  rcases grouped.exists_head with ⟨first, digit, later, rfl, isDigit⟩
  have noSign : first ≠ '-' ∧ first ≠ '+' := by
    rw [digitIn?_eq_some_iff] at isDigit
    constructor <;> rintro rfl
    · rw [show '-'.toNat = 0x2D from rfl] at isDigit
      omega
    · rw [show '+'.toNat = 0x2B from rfl] at isDigit
      omega
  unfold baseMarks at isMark
  split at isMark <;> simp only [List.mem_cons, List.not_mem_nil, or_false] at isMark
  · rcases isMark with rfl | rfl | rfl | rfl | rfl <;> rintro character ⟨rfl⟩ <;>
      first | exact noSign | decide
  · rcases isMark with rfl
    rintro character ⟨rfl⟩
    exact noSign

theorem readInt_of_numeral (small : base ≤ 16) {text : String} {value : Int}
    (numeral : Numeral base text.toList value) : readInt base text = .ok value := by
  generalize letters : text.toList = characters at numeral
  rcases numeral with @⟨before, written, after, sign, mark, body, negative, digits, blankBefore, plain,
    isSign, isMark, grouped, inLimit, blankAfter⟩
  have blankRest : ∀ character ∈ after.map plainChar, isBlank character := by
    intro character mem
    rcases List.mem_map.mp mem with ⟨original, isAfter, rfl⟩
    rw [isBlank_plainChar]
    exact blankAfter original isAfter
  have ends : Ends base (after.map plainChar) := ends_of_blank blankRest
  have apart : ∀ letter ∈ (after.map plainChar).head?, letter ≠ 'x' ∧ letter ≠ 'X' := by
    intro letter mem
    have isBlank := blankRest letter (List.mem_of_mem_head? mem)
    constructor <;> rintro rfl <;> exact absurd isBlank (by decide)
  -- Blanks are taken off the text as it stands, and the rest is taken apart in plain characters.
  have stripped : (text.toList.dropWhile isBlank).map plainChar =
      sign ++ (mark ++ (body ++ after.map plainChar)) := by
    rcases exists_nonblank_head isSign isMark grouped with ⟨character, later, whole, nonblank⟩
    rcases written with _ | ⟨first, written⟩
    · rw [whole] at plain
      cases plain
    · have isFirst : isBlank first = false := by
        rw [whole] at plain
        rw [← isBlank_plainChar, (List.cons.inj plain).1, nonblank]
      rw [letters, List.append_assoc, List.dropWhile_append_of_pos blankBefore, List.cons_append,
        List.dropWhile_cons_of_neg (by rw [isFirst]; decide), ← List.cons_append, List.map_append, plain,
        List.append_assoc, List.append_assoc]
  have inLimit : ¬(base = 10 ∧ digitLimit < digits.length) := by
    rintro ⟨ten, long⟩
    exact absurd (inLimit ten) (by omega)
  have nonempty : digits.isEmpty = false := by
    rw [Bool.eq_false_iff, Ne, List.isEmpty_iff]
    exact grouped.digits_ne_nil
  have blanks : (after.map plainChar).all isBlank = true := List.all_eq_true.mpr blankRest
  unfold readInt
  rw [stripped, takeSign_append isSign (unsigned_of_grouped isMark grouped)]
  dsimp only
  rw [takeBaseMark_append isMark small grouped apart, takeDigits_of_grouped grouped ends]
  dsimp only
  rw [if_neg inLimit, nonempty, blanks]
  rfl

/-- A text is read exactly if it is a numeral, as the value of the numeral. -/
theorem readInt_eq_ok_iff (small : base ≤ 16) {text : String} {value : Int} :
    readInt base text = .ok value ↔ Numeral base text.toList value :=
  ⟨numeral_of_readInt, readInt_of_numeral small⟩

/-! ### Plain numerals -/

/-- Letters that are digits of a base in ASCII and nothing else, and their values. -/
abbrev Plain (base : Nat) (letters : List Char) (digits : List Nat) : Prop :=
  List.Forall₂ (fun letter digit => digitIn? base letter = some digit) letters digits

theorem plainChar_of_digitIn? {character : Char} {digit : Nat}
    (isDigit : digitIn? base character = some digit) : plainChar character = character := by
  rw [digitIn?_eq_some_iff] at isDigit
  have code : character = Char.ofNat character.toNat := (Char.ofNat_toNat character).symm
  rcases isDigit with ⟨-, ⟨isCode, most⟩ | ⟨isCode | isCode, least, most⟩⟩ <;>
    rw [code, isCode] <;> interval_cases digit <;> decide

theorem Plain.grouped (plain : Plain base text digits) (nonempty : text ≠ []) :
    Grouped base text digits := by
  induction plain with
  | nil => exact absurd rfl nonempty
  | @cons letter digit letters digits isDigit later ih =>
      rcases letters with _ | ⟨next, letters⟩
      · cases later
        exact .last isDigit
      · exact .next isDigit (ih (by simp))

theorem Plain.map_plainChar (plain : Plain base text digits) : text.map plainChar = text := by
  induction plain with
  | nil => rfl
  | cons isDigit later ih => rw [List.map_cons, plainChar_of_digitIn? isDigit, ih]

theorem Plain.numeral (plain : Plain base text digits) (nonempty : text ≠ [])
    (inLimit : base = 10 → text.length ≤ digitLimit) : Numeral base text (ofDigits base digits) := by
  have noMark : [] ∈ baseMarks base := by
    unfold baseMarks
    split <;> simp
  have whole := @Numeral.of base [] text [] [] [] text false digits (by simp) plain.map_plainChar
    (by simp [signs]) noMark (plain.grouped nonempty) (by rwa [← plain.length_eq]) (by simp)
  simpa using whole

end Number

end Chip8
