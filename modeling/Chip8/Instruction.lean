import Chip8.Fault
import Chip8.Word

/-!
# Instructions

The forms of instruction and the words that have them. A word is first put into a `Group` by its
family nibble, and by the nibbles below it where a family holds more than one group. The groups of
arithmetic and of miscellaneous instructions then look at the low nibble and at the low byte; a word
may belong to one of these two groups and still be no instruction.
-/

namespace Chip8

/-- An operation on two registers; its result goes to the first. -/
inductive Operation where
  | copy
  | or
  | and
  | xor
  | add
  | subtract
  | shiftRight
  | subtractFrom
  | shiftLeft
  deriving DecidableEq

/-- What a word tells the machine to do. -/
inductive Instruction where
  /-- `0000` does nothing. -/
  | noOperation
  /-- `00E0` turns every pixel off. -/
  | clearScreen
  /-- `00EE` returns from a subroutine. -/
  | endCall
  /-- `1NNN` goes on at an address. -/
  | jump (address : Nat)
  /-- `2NNN` calls the subroutine at an address. -/
  | call (address : Nat)
  /-- `3XNN` skips if a register holds a byte. -/
  | skipIfByte (x : Nibble) (byte : UInt8)
  /-- `4XNN` skips unless a register holds a byte. -/
  | skipUnlessByte (x : Nibble) (byte : UInt8)
  /-- `5XY0` skips if two registers are equal. -/
  | skipIfEqual (x y : Nibble)
  /-- `6XNN` puts a byte into a register. -/
  | setByte (x : Nibble) (byte : UInt8)
  /-- `7XNN` adds a byte to a register and leaves the flag alone. -/
  | addByte (x : Nibble) (byte : UInt8)
  /-- `8XYN` combines two registers. -/
  | combine (operation : Operation) (x y : Nibble)
  /-- `9XY0` skips unless two registers are equal. -/
  | skipUnlessEqual (x y : Nibble)
  /-- `ANNN` sets the index. -/
  | setIndex (address : Nat)
  /-- `BNNN` goes on at an address plus the first register. -/
  | jumpOffset (address : Nat)
  /-- `CXNN` puts a random byte under a mask into a register. -/
  | random (x : Nibble) (mask : UInt8)
  /-- `DXYN` draws the `rows` sprite rows at the index. -/
  | draw (x y rows : Nibble)
  /-- `EX9E` skips if the key that a register names is down. -/
  | skipIfKey (x : Nibble)
  /-- `EXA1` skips unless the key that a register names is down. -/
  | skipUnlessKey (x : Nibble)
  /-- `FX07` reads the delay timer. -/
  | readDelay (x : Nibble)
  /-- `FX0A` waits for a key and puts its number into a register. -/
  | awaitKey (x : Nibble)
  /-- `FX15` sets the delay timer. -/
  | setDelay (x : Nibble)
  /-- `FX18` sets the sound timer. -/
  | setSound (x : Nibble)
  /-- `FX1E` adds a register to the index. -/
  | addIndex (x : Nibble)
  /-- `FX29` points the index at the font sprite of a digit. -/
  | fontDigit (x : Nibble)
  /-- `FX33` stores the three decimal digits of a register at the index. -/
  | storeDigits (x : Nibble)
  /-- `FX55` stores the registers up to `x` at the index. -/
  | storeRegisters (x : Nibble)
  /-- `FX65` loads the registers up to `x` from the index. -/
  | loadRegisters (x : Nibble)
  deriving DecidableEq

/-- A set of words that are told apart by their family nibble, and where needed by lower nibbles. -/
inductive Group where
  | noOperation
  | clearScreen
  | endCall
  | jump
  | call
  | skipIfByte
  | skipUnlessByte
  | skipIfEqual
  | setByte
  | addByte
  | arithmetic
  | skipUnlessEqual
  | setIndex
  | jumpOffset
  | random
  | draw
  | skipIfKey
  | skipUnlessKey
  | miscellaneous
  deriving DecidableEq

namespace Word

/-- The group a word belongs to. -/
def group? (word : Word) : Option Group :=
  match word with
  | ⟨0x0, 0x0, 0x0, 0x0⟩ => some .noOperation
  | ⟨0x0, 0x0, 0xE, 0x0⟩ => some .clearScreen
  | ⟨0x0, 0x0, 0xE, 0xE⟩ => some .endCall
  | ⟨0x1, _, _, _⟩ => some .jump
  | ⟨0x2, _, _, _⟩ => some .call
  | ⟨0x3, _, _, _⟩ => some .skipIfByte
  | ⟨0x4, _, _, _⟩ => some .skipUnlessByte
  | ⟨0x5, _, _, 0x0⟩ => some .skipIfEqual
  | ⟨0x6, _, _, _⟩ => some .setByte
  | ⟨0x7, _, _, _⟩ => some .addByte
  | ⟨0x8, _, _, _⟩ => some .arithmetic
  | ⟨0x9, _, _, 0x0⟩ => some .skipUnlessEqual
  | ⟨0xA, _, _, _⟩ => some .setIndex
  | ⟨0xB, _, _, _⟩ => some .jumpOffset
  | ⟨0xC, _, _, _⟩ => some .random
  | ⟨0xD, _, _, _⟩ => some .draw
  | ⟨0xE, _, 0x9, 0xE⟩ => some .skipIfKey
  | ⟨0xE, _, 0xA, 0x1⟩ => some .skipUnlessKey
  | ⟨0xF, _, _, _⟩ => some .miscellaneous
  | _ => none

/-- The operation that the low nibble of an arithmetic word names. -/
def operation? (word : Word) : Option Operation :=
  match word.n with
  | 0x0 => some .copy
  | 0x1 => some .or
  | 0x2 => some .and
  | 0x3 => some .xor
  | 0x4 => some .add
  | 0x5 => some .subtract
  | 0x6 => some .shiftRight
  | 0x7 => some .subtractFrom
  | 0xE => some .shiftLeft
  | _ => none

/-- The instruction that the low byte of a miscellaneous word names. -/
def miscellaneous? (word : Word) : Option Instruction :=
  match word.y, word.n with
  | 0x0, 0x7 => some (.readDelay word.x)
  | 0x0, 0xA => some (.awaitKey word.x)
  | 0x1, 0x5 => some (.setDelay word.x)
  | 0x1, 0x8 => some (.setSound word.x)
  | 0x1, 0xE => some (.addIndex word.x)
  | 0x2, 0x9 => some (.fontDigit word.x)
  | 0x3, 0x3 => some (.storeDigits word.x)
  | 0x5, 0x5 => some (.storeRegisters word.x)
  | 0x6, 0x5 => some (.loadRegisters word.x)
  | _, _ => none

/-- The instruction of a word of a group. -/
def instructionOf? (word : Word) : Group → Option Instruction
  | .noOperation => some .noOperation
  | .clearScreen => some .clearScreen
  | .endCall => some .endCall
  | .jump => some (.jump word.address)
  | .call => some (.call word.address)
  | .skipIfByte => some (.skipIfByte word.x word.byte)
  | .skipUnlessByte => some (.skipUnlessByte word.x word.byte)
  | .skipIfEqual => some (.skipIfEqual word.x word.y)
  | .setByte => some (.setByte word.x word.byte)
  | .addByte => some (.addByte word.x word.byte)
  | .arithmetic => word.operation?.map fun operation => .combine operation word.x word.y
  | .skipUnlessEqual => some (.skipUnlessEqual word.x word.y)
  | .setIndex => some (.setIndex word.address)
  | .jumpOffset => some (.jumpOffset word.address)
  | .random => some (.random word.x word.byte)
  | .draw => some (.draw word.x word.y word.n)
  | .skipIfKey => some (.skipIfKey word.x)
  | .skipUnlessKey => some (.skipUnlessKey word.x)
  | .miscellaneous => word.miscellaneous?

def instruction? (word : Word) : Option Instruction := word.group?.bind word.instructionOf?

/-- The group of a word, or the fault that it has none. -/
def group (word : Word) : Except Fault Group :=
  match word.group? with
  | some group => .ok group
  | none => .error (.unknownOpcode word.toNat)

/-- The instruction of a word, or the fault that it has none. -/
def instruction (word : Word) : Except Fault Instruction :=
  match word.instruction? with
  | some instruction => .ok instruction
  | none => .error (.unknownOpcode word.toNat)

end Word

end Chip8
