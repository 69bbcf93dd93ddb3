import Chip8.Proofs.Number.Numeral
import Mathlib.Data.Bool.AllAny

/-!
# Decimal texts

What a decimal number looks like: digits with at most one point before, between or after them, and then
nothing or a letter e with the digits of a power of ten, which may have a sign. The text stands for its
digits as one number times a power of ten.

Every such text, with or without a sign before it, is read as the double nearest to what it stands for.
-/

namespace Chip8.Number

open Text

/-- What may follow the digits of a decimal number, and the power of ten that it stands for. -/
inductive ExponentText : List Char → Int → Prop where
  | none : ExponentText [] 0
  | of {mark : Char} {sign letters : List Char} {negative : Bool} {digits : List Nat}
    (isMark : mark ∈ ['e', 'E']) (isSign : (sign, negative) ∈ signs) (plain : Plain 10 letters digits)
    (nonempty : letters ≠ []) :
    ExponentText (mark :: (sign ++ letters))
      (if negative then -(ofDigits 10 digits : Int) else ofDigits 10 digits)

/-- A decimal number without a sign, and what it stands for. -/
inductive DecimalText : List Char → Scaled → Prop where
  | whole {front back : List Char} {digits : List Nat} {exponent : Int} (plain : Plain 10 front digits)
    (nonempty : front ≠ []) (power : ExponentText back exponent) :
    DecimalText (front ++ back) ⟨ofDigits 10 digits, exponent⟩
  /-- Digits with a point. Each of them counts as one power of ten less behind the point. -/
  | pointed {front behind back : List Char} {digits places : List Nat} {exponent : Int}
    (plain : Plain 10 front digits) (plainBehind : Plain 10 behind places)
    (nonempty : front ≠ [] ∨ behind ≠ []) (power : ExponentText back exponent) :
    DecimalText (front ++ '.' :: (behind ++ back))
      ⟨ofDigits 10 (digits ++ places), exponent - places.length⟩

/-! ### Characters of a decimal text -/

/-- The digits of base ten. -/
def decimalDigits : List Char := ['0', '1', '2', '3', '4', '5', '6', '7', '8', '9']

/-- The characters of a decimal text with a sign. -/
def decimalLetters : List Char := decimalDigits ++ ['.', 'e', 'E', '+', '-']

variable {front letters text sign : List Char} {digits : List Nat} {exponent : Int} {scaled : Scaled}
  {negative : Bool}

theorem mem_decimalDigits {character : Char} {digit : Nat} (isDigit : digitIn? 10 character = some digit) :
    character ∈ decimalDigits ∧ character.isDigit ∧ character.toNat - 0x30 = digit := by
  rw [digitIn?_eq_some_iff] at isDigit
  rcases isDigit with ⟨small, ⟨code, -⟩ | ⟨-, least, -⟩⟩
  · rw [← Char.ofNat_toNat character, code]
    interval_cases digit <;> decide
  · omega

theorem Plain.subset_decimalLetters (plain : Plain 10 letters digits) : letters ⊆ decimalLetters := by
  induction plain with
  | nil => exact List.nil_subset _
  | cons isDigit later ih =>
      exact List.cons_subset.mpr ⟨List.mem_append_left _ (mem_decimalDigits isDigit).1, ih⟩

theorem subset_decimalLetters_of_sign (isSign : (sign, negative) ∈ signs) : sign ⊆ decimalLetters := by
  have all : ∀ pair ∈ signs, pair.1 ⊆ decimalLetters := by decide
  exact all _ isSign

theorem ExponentText.subset_decimalLetters (power : ExponentText text exponent) :
    text ⊆ decimalLetters := by
  cases power with
  | none => exact List.nil_subset _
  | of isMark isSign plain nonempty =>
      have marks : ['e', 'E'] ⊆ decimalLetters := by decide
      exact List.cons_subset.mpr ⟨marks isMark, List.append_subset.mpr
        ⟨subset_decimalLetters_of_sign isSign, plain.subset_decimalLetters⟩⟩

theorem DecimalText.subset_decimalLetters (decimal : DecimalText text scaled) : text ⊆ decimalLetters := by
  cases decimal with
  | whole plain nonempty power =>
      exact List.append_subset.mpr ⟨plain.subset_decimalLetters, power.subset_decimalLetters⟩
  | pointed plain plainBehind nonempty power =>
      exact List.append_subset.mpr ⟨plain.subset_decimalLetters, List.cons_subset.mpr
        ⟨by decide, List.append_subset.mpr
          ⟨plainBehind.subset_decimalLetters, power.subset_decimalLetters⟩⟩⟩

/-- A decimal number begins with a digit or a point. -/
theorem DecimalText.exists_head (decimal : DecimalText text scaled) :
    ∃ first later, text = first :: later ∧ first ∈ '.' :: decimalDigits := by
  have ofPlain {front : List Char} {digits : List Nat} (plain : Plain 10 front digits)
      (nonempty : front ≠ []) (back : List Char) :
      ∃ first later, front ++ back = first :: later ∧ first ∈ '.' :: decimalDigits := by
    cases plain with
    | nil => exact absurd rfl nonempty
    | cons isDigit later =>
        exact ⟨_, _, rfl, List.mem_cons_of_mem _ (mem_decimalDigits isDigit).1⟩
  cases decimal with
  | whole plain nonempty power => exact ofPlain plain nonempty _
  | @pointed front _ _ _ _ _ plain plainBehind nonempty power =>
      rcases front with _ | ⟨first, front⟩
      · exact ⟨_, _, rfl, List.mem_cons_self⟩
      · exact ofPlain plain (by simp) _

/-! ### The reader on these characters -/

theorem dropWhile_isBlank (blankless : ∀ character ∈ text, isBlank character = false) :
    text.dropWhile isBlank = text := by
  cases text with
  | nil => rfl
  | cons first later => rw [List.dropWhile_cons_of_neg (by simp [blankless])]

/-- A text in these characters is read as it stands. -/
theorem map_plainChar_trimBlanks (inLetters : text ⊆ decimalLetters) :
    (trimBlanks text).map plainChar = text := by
  have unchanged : ∀ letter ∈ decimalLetters, isBlank letter = false ∧ plainChar letter = letter :=
    List.all_iff_forall_prop.mp (by decide)
  have blankless (character : Char) (mem : character ∈ text) : isBlank character = false :=
    (unchanged _ (inLetters mem)).1
  have trimmed : trimBlanks text = text := by
    unfold trimBlanks
    rw [dropWhile_isBlank blankless, dropWhile_isBlank, List.reverse_reverse]
    intro character mem
    exact blankless character (List.mem_reverse.mp mem)
  rw [trimmed]
  calc text.map plainChar
      = text.map id := List.map_congr_left fun _ mem => (unchanged _ (inLetters mem)).2
    _ = text := List.map_id text

theorem underscoresBetweenDigits_of_none (none : '_' ∉ text) : underscoresBetweenDigits text = true := by
  fun_induction underscoresBetweenDigits text with
  | case1 => rfl
  | case2 | case3 | case4 => simp at none
  | case5 _ _ _ _ _ ih => exact ih fun mem => none (List.mem_cons_of_mem _ mem)

/-- Digits are taken as far as they go. -/
theorem spanDigits_append (plain : Plain 10 front digits)
    (ends : ∀ character ∈ text.head?, character.isDigit = false) :
    spanDigits (front ++ text) = (digits, text) := by
  induction plain with
  | nil =>
      rcases text with _ | ⟨first, later⟩
      · rfl
      · have isNone := ends first rfl
        simp [spanDigits, isNone]
  | cons isDigit later ih =>
      rcases mem_decimalDigits isDigit with ⟨-, isDigit, value⟩
      simp only [spanDigits, Prod.mk.injEq] at ih
      simp only [spanDigits, List.cons_append, List.takeWhile_cons_of_pos isDigit, List.map_cons, value,
        List.dropWhile_cons_of_pos isDigit, ih]

theorem spanDigits_of_plain (plain : Plain 10 front digits) : spanDigits front = (digits, []) := by
  have ended := @spanDigits_append front [] digits plain (by simp)
  rwa [List.append_nil] at ended

theorem Plain.digits_isEmpty (plain : Plain 10 letters digits) : digits.isEmpty = letters.isEmpty := by
  cases plain <;> rfl

theorem readExponent?_of_exponentText (power : ExponentText text exponent) :
    readExponent? text = some exponent := by
  cases power with
  | none => rfl
  | @of mark sign letters negative digits isMark isSign plain nonempty =>
      have marks : ∀ mark ∈ ['e', 'E'], (mark = 'e' || mark = 'E') = true :=
        List.all_iff_forall_prop.mp (by decide)
      have unsigned : takeSign (sign ++ letters) = (negative, letters) := by
        apply takeSign_append isSign
        cases plain with
        | nil => exact absurd rfl nonempty
        | cons isDigit later =>
            have noSign : ∀ digit ∈ decimalDigits, digit ≠ '-' ∧ digit ≠ '+' :=
              List.all_iff_forall_prop.mp (by decide)
            rintro character ⟨rfl⟩
            exact noSign _ (mem_decimalDigits isDigit).1
      have some : digits.isEmpty = false := by
        rw [plain.digits_isEmpty, List.isEmpty_eq_false_iff]
        exact nonempty
      rw [readExponent?, if_pos (marks mark isMark), unsigned]
      simp only [spanDigits_of_plain plain, some, List.isEmpty_nil]
      rfl

theorem ExponentText.ends (power : ExponentText text exponent) :
    ∀ character ∈ text.head?, character ≠ '.' ∧ character.isDigit = false := by
  cases power with
  | none => simp
  | of isMark isSign plain nonempty =>
      have marks : ∀ mark ∈ ['e', 'E'], mark ≠ '.' ∧ mark.isDigit = false :=
        List.all_iff_forall_prop.mp (by decide)
      rintro character ⟨rfl⟩
      exact marks _ isMark

theorem readScaled?_of_decimalText (decimal : DecimalText text scaled) : readScaled? text = some scaled := by
  cases decimal with
  | @whole front back digits exponent plain nonempty power =>
      have some : digits.isEmpty = false := by
        rw [plain.digits_isEmpty, List.isEmpty_eq_false_iff]
        exact nonempty
      unfold readScaled?
      rw [spanDigits_append plain fun character mem => (power.ends character mem).2]
      split
      next whole rest taken =>
        cases taken
        split
        next part left parted =>
          split at parted
          next rest => exact absurd rfl (power.ends '.' rfl).1
          next =>
            cases parted
            rw [some, readExponent?_of_exponentText power]
            simp
  | @pointed front behind back digits places exponent plain plainBehind nonempty power =>
      have some : (digits.isEmpty && places.isEmpty) = false := by
        rw [plain.digits_isEmpty, plainBehind.digits_isEmpty, Bool.and_eq_false_iff,
          List.isEmpty_eq_false_iff, List.isEmpty_eq_false_iff]
        exact nonempty
      have point : ∀ character ∈ ('.' :: (behind ++ back)).head?, character.isDigit = false := by
        rintro character ⟨rfl⟩
        decide
      unfold readScaled?
      rw [spanDigits_append plain point]
      split
      next whole rest taken =>
        cases taken
        split
        next part left parted =>
          split at parted
          next after pointed =>
            cases pointed
            rw [spanDigits_append plainBehind fun character mem => (power.ends character mem).2] at parted
            cases parted
            rw [some, readExponent?_of_exponentText power]
            rfl
          next unpointed => exact absurd rfl (unpointed _)

/-- A decimal number with a sign is read as the nearest double. -/
theorem readFloat_of_decimalText {word : String} (isSign : (sign, negative) ∈ signs)
    (decimal : DecimalText text scaled) (written : word.toList = sign ++ text) :
    readFloat word = .ok (scaled.toFloat negative) := by
  have inLetters : sign ++ text ⊆ decimalLetters :=
    List.append_subset.mpr ⟨subset_decimalLetters_of_sign isSign, decimal.subset_decimalLetters⟩
  have noUnderscore : '_' ∉ sign ++ text := by
    intro mem
    exact absurd (inLetters mem) (by decide)
  have unfiltered : (sign ++ text).filter (· ≠ '_') = sign ++ text := by
    rw [List.filter_eq_self]
    intro character mem
    simpa using ne_of_mem_of_not_mem mem noUnderscore
  rcases decimal.exists_head with ⟨first, later, begins, isFirst⟩
  have unsigned : takeSign (sign ++ text) = (negative, text) := by
    have noSign : ∀ letter ∈ '.' :: decimalDigits, letter ≠ '-' ∧ letter ≠ '+' :=
      List.all_iff_forall_prop.mp (by decide)
    apply takeSign_append isSign
    rw [begins]
    rintro character ⟨rfl⟩
    exact noSign _ isFirst
  have named (name : String) (letter : Char) (rest : List Char) (spelled : name.toList = letter :: rest)
      (other : ('.' :: decimalDigits).all (fun first => first.toLower ≠ letter) = true) :
      ¬String.ofList (text.map Char.toLower) = name := by
    rintro rfl
    rw [String.toList_ofList, begins, List.map_cons] at spelled
    exact List.all_iff_forall_prop.mp other first isFirst (List.cons.inj spelled).1
  unfold readFloat
  rw [written, map_plainChar_trimBlanks inLetters]
  simp only [underscoresBetweenDigits_of_none noUnderscore, unfiltered, unsigned,
    named "inf" 'i' ['n', 'f'] (by decide) (by decide),
    named "infinity" 'i' ['n', 'f', 'i', 'n', 'i', 't', 'y'] (by decide) (by decide),
    named "nan" 'n' ['a', 'n'] (by decide) (by decide), readScaled?_of_decimalText decimal]
  simp

end Chip8.Number
