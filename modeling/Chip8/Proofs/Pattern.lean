import Chip8.Instruction

/-!
# The documented patterns

An instruction set is written down as a list of patterns such as `8XY4`, in which digits are given
and letters are free. This file gives that list and proves that decoding agrees with it: the words
that match none of the patterns are the words that have no instruction, and each instruction is
found exactly on the words of its pattern, with its operands in the nibbles that the letters name.

Decoding first sorts words into groups and looks at the low nibbles of two of the groups afterwards,
so a word of a group need not match any pattern.
-/

namespace Chip8

/-- A form of words: some nibbles are given and the others are free. -/
structure Pattern where
  family : Option Nibble
  x : Option Nibble
  y : Option Nibble
  n : Option Nibble
  deriving DecidableEq

namespace Pattern

/-- A word has every nibble that is given. -/
def Matches (pattern : Pattern) (word : Word) : Prop :=
  (∀ digit ∈ pattern.family, word.family = digit) ∧ (∀ digit ∈ pattern.x, word.x = digit) ∧
    (∀ digit ∈ pattern.y, word.y = digit) ∧ (∀ digit ∈ pattern.n, word.n = digit)

instance (pattern : Pattern) (word : Word) : Decidable (pattern.Matches word) :=
  inferInstanceAs (Decidable (_ ∧ _ ∧ _ ∧ _))

/-- All four nibbles are given, as in `00E0`. -/
def whole (family x y n : Nibble) : Pattern := ⟨some family, some x, some y, some n⟩

/-- Only the top nibble is given, as in `1NNN`, `6XNN` and `DXYN`. -/
def led (family : Nibble) : Pattern := ⟨some family, none, none, none⟩

/-- The top and the low nibble are given, as in `8XY4`. -/
def framed (family n : Nibble) : Pattern := ⟨some family, none, none, some n⟩

/-- The top nibble and the low byte are given, as in `FX1E`. -/
def closed (family y n : Nibble) : Pattern := ⟨some family, none, some y, some n⟩

@[simp]
theorem matches_whole {family x y n : Nibble} {word : Word} :
    (whole family x y n).Matches word ↔ word = ⟨family, x, y, n⟩ := by
  rcases word with ⟨_, _, _, _⟩
  simp [Matches, whole]

@[simp]
theorem matches_led {family : Nibble} {word : Word} :
    (led family).Matches word ↔ word.family = family := by
  simp [Matches, led]

@[simp]
theorem matches_framed {family n : Nibble} {word : Word} :
    (framed family n).Matches word ↔ word.family = family ∧ word.n = n := by
  simp [Matches, framed]

@[simp]
theorem matches_closed {family y n : Nibble} {word : Word} :
    (closed family y n).Matches word ↔ word.family = family ∧ word.y = y ∧ word.n = n := by
  simp [Matches, closed]

/-- The thirty-five patterns of the instruction set. -/
def documented : List Pattern :=
  [whole 0x0 0x0 0x0 0x0, whole 0x0 0x0 0xE 0x0, whole 0x0 0x0 0xE 0xE,
   led 0x1, led 0x2, led 0x3, led 0x4, framed 0x5 0x0, led 0x6, led 0x7,
   framed 0x8 0x0, framed 0x8 0x1, framed 0x8 0x2, framed 0x8 0x3, framed 0x8 0x4,
   framed 0x8 0x5, framed 0x8 0x6, framed 0x8 0x7, framed 0x8 0xE, framed 0x9 0x0,
   led 0xA, led 0xB, led 0xC, led 0xD, closed 0xE 0x9 0xE, closed 0xE 0xA 0x1,
   closed 0xF 0x0 0x7, closed 0xF 0x0 0xA, closed 0xF 0x1 0x5, closed 0xF 0x1 0x8,
   closed 0xF 0x1 0xE, closed 0xF 0x2 0x9, closed 0xF 0x3 0x3, closed 0xF 0x5 0x5,
   closed 0xF 0x6 0x5]

end Pattern

/-- The pattern of the words of a group. -/
def Group.pattern : Group → Pattern
  | noOperation => .whole 0x0 0x0 0x0 0x0
  | clearScreen => .whole 0x0 0x0 0xE 0x0
  | endCall => .whole 0x0 0x0 0xE 0xE
  | jump => .led 0x1
  | call => .led 0x2
  | skipIfByte => .led 0x3
  | skipUnlessByte => .led 0x4
  | skipIfEqual => .framed 0x5 0x0
  | setByte => .led 0x6
  | addByte => .led 0x7
  | arithmetic => .led 0x8
  | skipUnlessEqual => .framed 0x9 0x0
  | setIndex => .led 0xA
  | jumpOffset => .led 0xB
  | random => .led 0xC
  | draw => .led 0xD
  | skipIfKey => .closed 0xE 0x9 0xE
  | skipUnlessKey => .closed 0xE 0xA 0x1
  | miscellaneous => .led 0xF

/-- The low nibble of the words of an operation. -/
def Operation.digit : Operation → Nibble
  | copy => 0x0
  | or => 0x1
  | and => 0x2
  | xor => 0x3
  | add => 0x4
  | subtract => 0x5
  | shiftRight => 0x6
  | subtractFrom => 0x7
  | shiftLeft => 0xE

namespace Instruction

/-- The pattern of the words of an instruction. -/
def pattern : Instruction → Pattern
  | noOperation => .whole 0x0 0x0 0x0 0x0
  | clearScreen => .whole 0x0 0x0 0xE 0x0
  | endCall => .whole 0x0 0x0 0xE 0xE
  | jump _ => .led 0x1
  | call _ => .led 0x2
  | skipIfByte _ _ => .led 0x3
  | skipUnlessByte _ _ => .led 0x4
  | skipIfEqual _ _ => .framed 0x5 0x0
  | setByte _ _ => .led 0x6
  | addByte _ _ => .led 0x7
  | combine operation _ _ => .framed 0x8 operation.digit
  | skipUnlessEqual _ _ => .framed 0x9 0x0
  | setIndex _ => .led 0xA
  | jumpOffset _ => .led 0xB
  | random _ _ => .led 0xC
  | draw _ _ _ => .led 0xD
  | skipIfKey _ => .closed 0xE 0x9 0xE
  | skipUnlessKey _ => .closed 0xE 0xA 0x1
  | readDelay _ => .closed 0xF 0x0 0x7
  | awaitKey _ => .closed 0xF 0x0 0xA
  | setDelay _ => .closed 0xF 0x1 0x5
  | setSound _ => .closed 0xF 0x1 0x8
  | addIndex _ => .closed 0xF 0x1 0xE
  | fontDigit _ => .closed 0xF 0x2 0x9
  | storeDigits _ => .closed 0xF 0x3 0x3
  | storeRegisters _ => .closed 0xF 0x5 0x5
  | loadRegisters _ => .closed 0xF 0x6 0x5

/-- The operands of an instruction stand in a word, in the nibbles that its pattern leaves free. -/
def OperandsIn (word : Word) : Instruction → Prop
  | noOperation | clearScreen | endCall => True
  | jump address | call address | setIndex address | jumpOffset address => address = word.address
  | skipIfByte x byte | skipUnlessByte x byte | setByte x byte | addByte x byte | random x byte =>
    x = word.x ∧ byte = word.byte
  | skipIfEqual x y | combine _ x y | skipUnlessEqual x y => x = word.x ∧ y = word.y
  | draw x y rows => x = word.x ∧ y = word.y ∧ rows = word.n
  | skipIfKey x | skipUnlessKey x | readDelay x | awaitKey x | setDelay x | setSound x | addIndex x
  | fontDigit x | storeDigits x | storeRegisters x | loadRegisters x => x = word.x

theorem pattern_mem_documented (instruction : Instruction) :
    instruction.pattern ∈ Pattern.documented := by
  cases instruction with
  | combine operation x y => cases operation <;> simp [pattern, Operation.digit, Pattern.documented]
  | _ => simp [pattern, Pattern.documented]

end Instruction

namespace Word

theorem group?_eq_some_iff {word : Word} {group : Group} :
    word.group? = some group ↔ group.pattern.Matches word := by
  constructor
  · intro found
    unfold group? at found
    split at found <;> cases found <;> simp [Group.pattern]
  · rcases word with ⟨family, x, y, n⟩
    intro fits
    cases group with
    | noOperation | clearScreen | endCall =>
        cases Pattern.matches_whole.mp fits
        rfl
    | skipIfEqual | skipUnlessEqual =>
        rcases Pattern.matches_framed.mp fits with ⟨rfl, rfl⟩
        rfl
    | skipIfKey | skipUnlessKey =>
        rcases Pattern.matches_closed.mp fits with ⟨rfl, rfl, rfl⟩
        rfl
    | _ =>
        cases Pattern.matches_led.mp fits
        rfl

theorem operation?_eq_some_iff {word : Word} {operation : Operation} :
    word.operation? = some operation ↔ word.n = operation.digit := by
  rcases word with ⟨family, x, y, n⟩
  constructor
  · intro found
    unfold operation? at found
    split at found <;> cases found <;> assumption
  · intro digit
    simp only at digit
    subst digit
    cases operation <;> rfl

theorem miscellaneous?_eq_some {word : Word} {instruction : Instruction} (family : word.family = 0xF)
    (found : word.miscellaneous? = some instruction) :
    instruction.pattern.Matches word ∧ instruction.OperandsIn word := by
  unfold miscellaneous? at found
  split at found <;> cases found <;>
    simp only [Instruction.pattern, Instruction.OperandsIn, Pattern.matches_closed, and_true] <;>
    exact ⟨family, by assumption, by assumption⟩

/-- A word has an instruction exactly if it matches the pattern and holds the operands. -/
theorem instruction?_eq_some_iff {word : Word} {instruction : Instruction} :
    word.instruction? = some instruction ↔
      instruction.pattern.Matches word ∧ instruction.OperandsIn word := by
  constructor
  · intro found
    simp only [instruction?, Option.bind_eq_some_iff, group?_eq_some_iff] at found
    rcases found with ⟨group, inGroup, found⟩
    cases group with
    | arithmetic =>
        simp only [instructionOf?, Option.map_eq_some_iff, operation?_eq_some_iff] at found
        rcases found with ⟨operation, digit, rfl⟩
        exact ⟨Pattern.matches_framed.mpr ⟨Pattern.matches_led.mp inGroup, digit⟩, rfl, rfl⟩
    | miscellaneous => exact miscellaneous?_eq_some (Pattern.matches_led.mp inGroup) found
    | _ =>
        cases found
        exact ⟨inGroup, by simp [Instruction.OperandsIn]⟩
  · rcases word with ⟨family, x, y, n⟩
    rintro ⟨fits, operands⟩
    cases instruction with
    | combine operation _ _ =>
        rcases Pattern.matches_framed.mp fits with ⟨rfl, rfl⟩
        rcases operands with ⟨rfl, rfl⟩
        cases operation <;> rfl
    | noOperation | clearScreen | endCall =>
        cases Pattern.matches_whole.mp fits
        rfl
    | jump _ | call _ | setIndex _ | jumpOffset _ =>
        cases Pattern.matches_led.mp fits
        cases operands
        rfl
    | skipIfByte _ _ | skipUnlessByte _ _ | setByte _ _ | addByte _ _ | random _ _ =>
        cases Pattern.matches_led.mp fits
        rcases operands with ⟨rfl, rfl⟩
        rfl
    | draw _ _ _ =>
        cases Pattern.matches_led.mp fits
        rcases operands with ⟨rfl, rfl, rfl⟩
        rfl
    | skipIfEqual _ _ | skipUnlessEqual _ _ =>
        rcases Pattern.matches_framed.mp fits with ⟨rfl, rfl⟩
        rcases operands with ⟨rfl, rfl⟩
        rfl
    | _ =>
        rcases Pattern.matches_closed.mp fits with ⟨rfl, rfl, rfl⟩
        cases operands
        rfl

theorem instruction_eq_ok_iff {word : Word} {instruction : Instruction} :
    word.instruction = .ok instruction ↔ word.instruction? = some instruction := by
  unfold Word.instruction
  split <;> simp_all

theorem instruction_eq_error_iff {word : Word} {fault : Fault} :
    word.instruction = .error fault ↔
      word.instruction? = none ∧ fault = .unknownOpcode word.toNat := by
  unfold Word.instruction
  split
  next found => simp [found]
  next unknown => simp [unknown, eq_comm]

/-- Every documented pattern is that of an instruction, whatever word the operands are taken from. -/
theorem exists_pattern_eq (word : Word) : ∀ pattern ∈ Pattern.documented,
    ∃ instruction : Instruction, instruction.pattern = pattern ∧ instruction.OperandsIn word := by
  simp only [Pattern.documented, List.forall_mem_cons, List.not_mem_nil, false_implies, implies_true,
    and_true]
  exact ⟨⟨.noOperation, rfl, trivial⟩, ⟨.clearScreen, rfl, trivial⟩, ⟨.endCall, rfl, trivial⟩,
    ⟨.jump _, rfl, rfl⟩, ⟨.call _, rfl, rfl⟩, ⟨.skipIfByte _ _, rfl, rfl, rfl⟩,
    ⟨.skipUnlessByte _ _, rfl, rfl, rfl⟩, ⟨.skipIfEqual _ _, rfl, rfl, rfl⟩,
    ⟨.setByte _ _, rfl, rfl, rfl⟩, ⟨.addByte _ _, rfl, rfl, rfl⟩,
    ⟨.combine .copy _ _, rfl, rfl, rfl⟩, ⟨.combine .or _ _, rfl, rfl, rfl⟩,
    ⟨.combine .and _ _, rfl, rfl, rfl⟩, ⟨.combine .xor _ _, rfl, rfl, rfl⟩,
    ⟨.combine .add _ _, rfl, rfl, rfl⟩, ⟨.combine .subtract _ _, rfl, rfl, rfl⟩,
    ⟨.combine .shiftRight _ _, rfl, rfl, rfl⟩, ⟨.combine .subtractFrom _ _, rfl, rfl, rfl⟩,
    ⟨.combine .shiftLeft _ _, rfl, rfl, rfl⟩, ⟨.skipUnlessEqual _ _, rfl, rfl, rfl⟩,
    ⟨.setIndex _, rfl, rfl⟩, ⟨.jumpOffset _, rfl, rfl⟩, ⟨.random _ _, rfl, rfl, rfl⟩,
    ⟨.draw _ _ _, rfl, rfl, rfl, rfl⟩, ⟨.skipIfKey _, rfl, rfl⟩, ⟨.skipUnlessKey _, rfl, rfl⟩,
    ⟨.readDelay _, rfl, rfl⟩, ⟨.awaitKey _, rfl, rfl⟩, ⟨.setDelay _, rfl, rfl⟩,
    ⟨.setSound _, rfl, rfl⟩, ⟨.addIndex _, rfl, rfl⟩, ⟨.fontDigit _, rfl, rfl⟩,
    ⟨.storeDigits _, rfl, rfl⟩, ⟨.storeRegisters _, rfl, rfl⟩, ⟨.loadRegisters _, rfl, rfl⟩⟩

/-- The words without an instruction are those that match no documented pattern. -/
theorem instruction?_eq_none_iff {word : Word} :
    word.instruction? = none ↔ ∀ pattern ∈ Pattern.documented, ¬pattern.Matches word := by
  constructor
  · intro unknown pattern documented fits
    rcases exists_pattern_eq word pattern documented with ⟨instruction, rfl, operands⟩
    have found := instruction?_eq_some_iff.mpr ⟨fits, operands⟩
    rw [unknown] at found
    cases found
  · intro unmatched
    rw [Option.eq_none_iff_forall_ne_some]
    intro instruction found
    exact unmatched _ instruction.pattern_mem_documented (instruction?_eq_some_iff.mp found).1

end Word

end Chip8
