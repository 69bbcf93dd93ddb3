/-!
# Instruction words

A word of sixteen bits, kept as the four nibbles that its fields are made of:

* `family` is the top nibble and groups the instructions;
* `x` and `y` name registers, `n` is a small number;
* `byte` is the low byte (`y`, `n`) and `address` the low twelve bits (`x`, `y`, `n`).
-/

namespace Chip8

/-- Four bits. It numbers a register, a key or a digit. -/
abbrev Nibble := Fin 16

/-- Numerals below sixteen are nibbles. -/
instance Nibble.neZero : @NeZero Nat Zero.ofOfNat0 16 := ⟨by decide⟩

/-- A word of sixteen bits. -/
structure Word where
  /-- Bits 12 to 15. -/
  family : Nibble
  /-- Bits 8 to 11. -/
  x : Nibble
  /-- Bits 4 to 7. -/
  y : Nibble
  /-- Bits 0 to 3. -/
  n : Nibble
  deriving DecidableEq

namespace Word

/-- The word of the low sixteen bits of a natural number. -/
def ofNat (number : Nat) : Word :=
  ⟨Fin.ofNat 16 (number / 0x1000), Fin.ofNat 16 (number / 0x100), Fin.ofNat 16 (number / 0x10),
    Fin.ofNat 16 number⟩

/-- The word of the low sixteen bits of an integer. -/
def ofInt (number : Int) : Word := ofNat (number % 0x10000).toNat

/-- The word with the given high and low byte. -/
def ofBytes (high low : UInt8) : Word := ofNat (high.toNat * 0x100 + low.toNat)

def toNat (word : Word) : Nat :=
  word.family * 0x1000 + word.x * 0x100 + word.y * 0x10 + word.n

def byte (word : Word) : UInt8 := UInt8.ofNat (word.y * 0x10 + word.n)

def address (word : Word) : Nat := word.x * 0x100 + word.y * 0x10 + word.n

def nibbles (word : Word) : List Nibble := [word.family, word.x, word.y, word.n]

end Word

end Chip8
