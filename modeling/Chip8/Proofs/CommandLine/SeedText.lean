import Chip8.CommandLine.Options
import Chip8.Proofs.Number.Numeral

/-!
# Seeds as text

A seed is given as `0x` and digits of base sixteen, as many as one likes, whose value has at most sixteen
bits. Every such text is read as its value.

The reader takes the mark off and reads what is left as a number. A number may be written in more ways than
with digits alone, so more texts are read: those with a sign, blanks, underscores, a second mark, or digits
of another script after the mark, as long as the value has at most sixteen bits and is not below zero. Of
the texts with nothing but digits of base sixteen after the mark only those are read that are meant. Every
other text is refused, and always for the same reason.
-/

namespace Chip8

open Number

/-- A seed as it is meant to be given, and its value. -/
inductive HexSeed : List Char → Int → Prop where
  | of {digits : List (Char × Nat)} (areDigits : ∀ digit ∈ digits, digit ∈ hexDigits)
    (nonempty : digits ≠ []) (small : ofDigits 16 (digits.map Prod.snd) ≤ 0xFFFF) :
    HexSeed ('0' :: 'x' :: digits.map Prod.fst) (ofDigits 16 (digits.map Prod.snd))

namespace Number

/-- Digits of base sixteen alone are a numeral. -/
theorem numeral_of_hexDigits {digits : List (Char × Nat)}
    (areDigits : ∀ digit ∈ digits, digit ∈ hexDigits) (nonempty : digits ≠ []) :
    Numeral 16 (digits.map Prod.fst) (ofDigits 16 (digits.map Prod.snd)) := by
  have plain : Plain 16 (digits.map Prod.fst) (digits.map Prod.snd) := by
    simp only [Plain, List.forall₂_map_left_iff, List.forall₂_map_right_iff, List.forall₂_same]
    intro digit mem
    exact digitIn?_sixteen_iff.mpr (areDigits digit mem)
  apply plain.numeral
  · simpa using nonempty
  · intro ten
    cases ten

/-- Letters that are digits of base sixteen are the letters of a list of digits. -/
theorem exists_hexDigits {letters : List Char}
    (areDigits : ∀ letter ∈ letters, ∃ value, (letter, value) ∈ hexDigits) :
    ∃ digits : List (Char × Nat), letters = digits.map Prod.fst ∧ ∀ digit ∈ digits, digit ∈ hexDigits := by
  induction letters with
  | nil => exact ⟨[], rfl, by simp⟩
  | cons letter letters ih =>
      rcases areDigits letter (by simp) with ⟨value, isDigit⟩
      rcases ih (fun other mem => areDigits other (by simp [mem])) with ⟨digits, rfl, later⟩
      exact ⟨(letter, value) :: digits, rfl, by simpa [isDigit] using later⟩

namespace Numeral

variable {base : Nat} {text : List Char} {value other : Int}

theorem ne_nil (numeral : Numeral base text value) : text ≠ [] := by
  rcases numeral with ⟨-, plain, -, -, grouped, -, -⟩
  rcases grouped.exists_head with ⟨_, _, _, rfl, -⟩
  rintro empty
  simp only [List.append_eq_nil_iff] at empty
  rcases empty with ⟨⟨-, rfl⟩, -⟩
  simp at plain

/-- A text is a numeral of one number. -/
theorem unique (small : base ≤ 16) (numeral : Numeral base text value)
    (same : Numeral base text other) : value = other := by
  rw [← String.toList_ofList (l := text), ← readInt_eq_ok_iff small] at numeral same
  exact Except.ok.inj (numeral.symm.trans same)

end Numeral

end Number

/-- A seed as it is meant to be given is the mark before a numeral of nothing but digits. -/
theorem hexSeed_iff {text : List Char} {value : Int} :
    HexSeed text value ↔
      ∃ letters, text = '0' :: 'x' :: letters ∧ Numeral 16 letters value ∧ 0 ≤ value ∧
        value ≤ 0xFFFF ∧ ∀ letter ∈ letters, ∃ digit, (letter, digit) ∈ hexDigits := by
  constructor
  · rintro ⟨areDigits, nonempty, small⟩
    refine ⟨_, rfl, numeral_of_hexDigits areDigits nonempty, by omega, by omega, ?_⟩
    intro letter mem
    rcases List.mem_map.mp mem with ⟨digit, isDigit, rfl⟩
    exact ⟨digit.2, areDigits digit isDigit⟩
  · rintro ⟨letters, rfl, numeral, -, most, haveDigits⟩
    rcases exists_hexDigits haveDigits with ⟨digits, rfl, areDigits⟩
    have nonempty : digits ≠ [] := by
      rintro rfl
      exact numeral.ne_nil rfl
    -- The text is a numeral of its digits as well, so the value is theirs.
    obtain rfl := numeral.unique (by decide) (numeral_of_hexDigits areDigits nonempty)
    exact .of areDigits nonempty (by omega)

namespace OptionValue

variable {text : String} {value : Int}

theorem seed_of_numeral {letters : List Char} (written : text.toList = '0' :: 'x' :: letters)
    (numeral : Numeral 16 letters value) (inRange : 0 ≤ value ∧ value ≤ 0xFFFF) :
    seed text = .ok value := by
  have read : readInt 16 (String.ofList letters) = .ok value := by
    rw [readInt_eq_ok_iff (by decide), String.toList_ofList]
    exact numeral
  unfold seed
  split
  next digits marked =>
    cases marked.symm.trans written
    rw [read]
    exact if_pos inRange
  next unmarked => exact absurd written (unmarked _)

/-- What is read as a seed is the mark before a numeral of at most sixteen bits. -/
theorem seed_eq_ok_iff :
    seed text = .ok value ↔
      ∃ letters, text.toList = '0' :: 'x' :: letters ∧ Numeral 16 letters value ∧ 0 ≤ value ∧
        value ≤ 0xFFFF := by
  constructor
  · intro read
    unfold seed at read
    split at read
    next letters marked =>
      split at read
      next number isRead =>
        split at read <;> cases read
        next inRange =>
          rw [readInt_eq_ok_iff (by decide), String.toList_ofList] at isRead
          exact ⟨letters, marked, isRead, inRange⟩
      next => cases read
    next => cases read
  · rintro ⟨letters, written, numeral, inRange⟩
    exact seed_of_numeral written numeral inRange

/-- There is one reason to refuse a seed. -/
theorem eq_malformedSeed_of_seed {fault : ValueFault} (refused : seed text = .error fault) :
    fault = .malformedSeed text := by
  unfold seed at refused
  split at refused
  next =>
    split at refused
    next => split at refused <;> cases refused; rfl
    next => cases refused; rfl
  next => cases refused; rfl

/-- What is read as a seed: the mark before a numeral of at most sixteen bits, as the value of the numeral.
If only digits of base sixteen stand after the mark, these are the seeds as they are meant to be given.
Every other text is refused as malformed. -/
theorem seed_reads_numerals (text : String) :
    (∀ value, seed text = .ok value ↔
        ∃ letters, text.toList = '0' :: 'x' :: letters ∧ Numeral 16 letters value ∧ 0 ≤ value ∧
          value ≤ 0xFFFF) ∧
      (∀ value, HexSeed text.toList value ↔
        seed text = .ok value ∧
          ∀ letter ∈ text.toList.drop 2, ∃ digit, (letter, digit) ∈ hexDigits) ∧
      ((¬∃ value, seed text = .ok value) → seed text = .error (.malformedSeed text)) := by
  refine ⟨fun _ => seed_eq_ok_iff, ?_, ?_⟩
  · intro value
    rw [hexSeed_iff, seed_eq_ok_iff]
    constructor
    · rintro ⟨letters, marked, numeral, least, most, areDigits⟩
      refine ⟨⟨letters, marked, numeral, least, most⟩, ?_⟩
      simpa [marked] using areDigits
    · rintro ⟨⟨letters, marked, numeral, least, most⟩, areDigits⟩
      refine ⟨letters, marked, numeral, least, most, ?_⟩
      simpa [marked] using areDigits
  · intro unread
    rcases refused : seed text with fault | value
    · rw [eq_malformedSeed_of_seed refused]
    · exact absurd ⟨value, refused⟩ unread

/-- A sign and a digit after the mark are read as a seed, and are not digits alone. -/
theorem seed_of_sign_and_digit :
    seed "0x+5" = .ok 5 ∧ ¬∃ value, HexSeed "0x+5".toList value := by
  refine ⟨by decide, ?_⟩
  rintro ⟨value, hexSeed⟩
  rcases hexSeed_iff.mp hexSeed with ⟨letters, marked, -, -, -, areDigits⟩
  have written : "0x+5".toList = ['0', 'x', '+', '5'] := by decide
  rw [written] at marked
  cases marked
  rcases areDigits '+' (by simp) with ⟨digit, isDigit⟩
  have noSign : ∀ digit ∈ hexDigits, digit.1 ≠ '+' := by decide
  exact noSign _ isDigit rfl

end OptionValue

end Chip8
