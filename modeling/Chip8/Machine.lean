import Chip8.CallStack
import Chip8.Flow
import Chip8.Instruction
import Chip8.Keypad
import Chip8.Lfsr
import Chip8.Memory
import Chip8.Screen
import Chip8.Timer

/-!
# The machine

Registers, memory and what the host lends to them, and the meaning of each instruction.

`Machine.perform` does everything an instruction does except to move the program counter, and tells
where the program goes on. Checks come before effects: a machine that reports a fault is the machine
before the instruction.
-/

namespace Chip8

/-- The state that a program sees and changes. -/
structure Machine where
  /-- The sixteen registers. The last one is the flag. -/
  registers : Vector UInt8 16 := Vector.replicate 16 0
  /-- The index, an address for blocks of memory. -/
  index : Int := 0
  counter : Int := 0x200
  stack : CallStack := CallStack.empty
  fontBase : Int := 0
  memory : Memory := Memory.blank 0x1000
  random : Lfsr := {}
  delayTimer : Timer := {}
  soundTimer : Timer := {}
  /-- The screen, lent by the host. -/
  screen : Screen := Screen.blank 64 32
  /-- Which keys are down, lent by the host. -/
  keys : List Bool := Keypad.released

namespace Operation

/-- The result of an operation and the flag it sets, if it sets one. The flag of an addition is the
carry, of a subtraction the absence of a borrow, of a shift the bit shifted out. -/
def apply (operation : Operation) (first second : UInt8) : UInt8 × Option Bool :=
  match operation with
  | copy => (second, none)
  | or => (first ||| second, none)
  | and => (first &&& second, none)
  | xor => (first ^^^ second, none)
  | add => (first + second, some (0x100 ≤ first.toNat + second.toNat))
  | subtract => (first - second, some (second ≤ first))
  | shiftRight => (first >>> 1, some (first &&& 1 = 1))
  | subtractFrom => (second - first, some (first ≤ second))
  | shiftLeft => (first <<< 1, some (0x80 ≤ first))

end Operation

namespace Machine

/-- The register in which instructions leave a flag. -/
def flag : Nibble := 0xF

/-- The register with a number. A negative number counts from behind, so `-1` is the flag. -/
def numbered (number : Int) : Except Fault Nibble :=
  if -16 ≤ number ∧ number < 16 then .ok (Fin.ofNat 16 (number % 16).toNat)
  else if Integer64.holds number then .error (.registerOutOfRange number)
  else if 0 < number ∧ number < 0x10000000000000000 then .error .registerTooFar
  else .error .registerUncounted

def register (machine : Machine) (name : Nibble) : UInt8 := machine.registers[name]

def setRegister (machine : Machine) (name : Nibble) (byte : UInt8) : Machine :=
  { machine with registers := machine.registers.set name byte }

/-- Puts the low eight bits of values into numbered registers, up to the first number that no register
has. -/
def setRegisters (machine : Machine) : List (Int × Int) → Machine × Except Fault Unit
  | [] => (machine, .ok ())
  | (number, value) :: rest =>
    match numbered number with
    | .ok name => setRegisters (machine.setRegister name (UInt8.ofInt value)) rest
    | .error fault => (machine, .error fault)

@[simp]
theorem register_setRegister_self (machine : Machine) (name : Nibble) (byte : UInt8) :
    (machine.setRegister name byte).register name = byte := by
  simp [register, setRegister]

theorem register_setRegister_of_ne (machine : Machine) {name other : Nibble} (byte : UInt8)
    (different : other ≠ name) :
    (machine.setRegister name byte).register other = machine.register other := by
  have unequal : name.val ≠ other.val := fun equal => different (Fin.ext equal.symm)
  simp [register, setRegister, unequal]

/-- Puts one into the flag if the condition holds, and zero otherwise. -/
def setFlag (machine : Machine) (condition : Bool) : Machine :=
  machine.setRegister flag (if condition then 1 else 0)

/-- Combines two registers. The flag is written last, so it stays when it is also the result. -/
def combine (machine : Machine) (operation : Operation) (x y : Nibble) : Machine :=
  let (result, flag?) := operation.apply (machine.register x) (machine.register y)
  let machine := machine.setRegister x result
  match flag? with
  | none => machine
  | some condition => machine.setFlag condition

def keyDown (machine : Machine) (x : Nibble) : Except Fault Bool :=
  let key := (machine.register x).toNat
  if key < Keypad.size then
    match machine.keys[key]? with
    | some down => .ok down
    | none => .error .keyVectorTooShort
  else .error (.keyIndexOutOfRange key)

/-- Draws sprite rows one below the other. Gives the screen and whether any lit pixel went out. -/
def drawRows (screen : Screen) (x y : Int) : List UInt8 → Except Fault (Screen × Bool)
  | [] => .ok (screen, false)
  | row :: rest => do
    let (screen, collided) ← screen.draw x y row.toNat
    let (screen, collidedBelow) ← drawRows screen x (y + 1) rest
    .ok (screen, collided || collidedBelow)

/-- The decimal digits of a byte: hundreds, tens and ones. -/
def decimalDigits (byte : UInt8) : List Int :=
  let number := byte.toNat
  [number / 100, number / 10 % 10, number % 10]

def registersUpTo (machine : Machine) (x : Nibble) : List Int :=
  (machine.registers.toList.take (x + 1)).map fun byte => byte.toNat

/-- Puts bytes into the registers from the first on. -/
def loadBytes (registers : Vector UInt8 16) (bytes : List UInt8) : Vector UInt8 16 :=
  Vector.ofFn fun name => bytes.getD name registers[name]

/-- Does what an instruction does and tells where the program goes on; the counter stays. -/
def perform (machine : Machine) : Instruction → Except Fault (Machine × Flow)
  | .noOperation => .ok (machine, .next)
  | .clearScreen => .ok ({ machine with screen := machine.screen.clear }, .next)
  | .endCall => do
    let (stack, address) ← machine.stack.pop
    .ok ({ machine with stack }, .jump address.toNat)
  | .jump address => .ok (machine, .jump address)
  | .call address => do
    let stack ← machine.stack.push (machine.counter + 2)
    .ok ({ machine with stack }, .jump address)
  | .skipIfByte x byte => .ok (machine, .skipIf (machine.register x = byte))
  | .skipUnlessByte x byte => .ok (machine, .skipIf (machine.register x ≠ byte))
  | .skipIfEqual x y => .ok (machine, .skipIf (machine.register x = machine.register y))
  | .setByte x byte => .ok (machine.setRegister x byte, .next)
  | .addByte x byte => .ok (machine.setRegister x (machine.register x + byte), .next)
  | .combine operation x y => .ok (machine.combine operation x y, .next)
  | .skipUnlessEqual x y => .ok (machine, .skipIf (machine.register x ≠ machine.register y))
  | .setIndex address => .ok ({ machine with index := address }, .next)
  | .jumpOffset address => .ok (machine, .jump (address + (machine.register 0).toNat))
  | .random x mask =>
    let (random, byte) := machine.random.nextByte
    .ok ({ machine with random }.setRegister x (byte &&& mask), .next)
  | .draw x y rows => do
    let sprite ← machine.memory.readBlock machine.index (rows : Nat)
    let (screen, collided) ←
      drawRows machine.screen (machine.register x).toNat (machine.register y).toNat sprite
    .ok ({ machine with screen }.setFlag collided, .next)
  | .skipIfKey x => do
    let down ← machine.keyDown x
    .ok (machine, .skipIf down)
  | .skipUnlessKey x => do
    let down ← machine.keyDown x
    .ok (machine, .skipIf (!down))
  | .readDelay x => .ok (machine.setRegister x (UInt8.ofInt machine.delayTimer.value), .next)
  | .awaitKey x =>
    match machine.keys.idxOf? true with
    | some key => .ok (machine.setRegister x (UInt8.ofNat key), .next)
    | none => .ok (machine, .wait)
  | .setDelay x =>
    .ok ({ machine with delayTimer := machine.delayTimer.set (machine.register x).toNat }, .next)
  | .setSound x =>
    .ok ({ machine with soundTimer := machine.soundTimer.set (machine.register x).toNat }, .next)
  | .addIndex x =>
    .ok ({ machine with index := (machine.index + (machine.register x).toNat) % 0x10000 }, .next)
  | .fontDigit x =>
    .ok ({ machine with index := machine.fontBase + (machine.register x).toNat % 16 * 5 }, .next)
  | .storeDigits x => do
    let memory ← machine.memory.writeBlock machine.index (decimalDigits (machine.register x))
    .ok ({ machine with memory }, .next)
  | .storeRegisters x => do
    let memory ← machine.memory.writeBlock machine.index (machine.registersUpTo x)
    .ok ({ machine with memory }, .next)
  | .loadRegisters x => do
    let bytes ← machine.memory.readBlock machine.index (x + 1 : Nat)
    .ok ({ machine with registers := loadBytes machine.registers bytes }, .next)

/-- Performs the instruction of a word; the counter stays. -/
def dispatch (machine : Machine) (word : Word) : Except Fault (Machine × Flow) := do
  machine.perform (← word.instruction)

/-- Performs the instruction of a word as if it stood at the counter, and moves the counter. -/
def execute (machine : Machine) (word : Word) : Except Fault Machine := do
  let (after, flow) ← machine.dispatch word
  .ok { after with counter := flow.apply machine.counter }

/-- The word at the counter, high byte first. -/
def fetch (machine : Machine) : Except Fault Word := do
  let high ← machine.memory.read machine.counter
  let low ← machine.memory.read (machine.counter + 1)
  .ok (Word.ofBytes high low)

/-- Executes the word at the counter. -/
def cycle (machine : Machine) : Except Fault Machine := do
  machine.execute (← machine.fetch)

/-- The outcome of several instructions in a row. -/
structure Stretch where
  machine : Machine
  done : Nat
  outcome : Except Fault Unit

/-- Executes words one after the other, up to the first that fails; `done` were executed before. -/
def executeAll (machine : Machine) (done : Nat) : List Word → Stretch
  | [] => ⟨machine, done, .ok ()⟩
  | word :: rest =>
    match machine.execute word with
    | .error fault => ⟨machine, done, .error fault⟩
    | .ok after => executeAll after (done + 1) rest

/-- Executes `count` words at the counter, up to the first that fails; `done` were executed before. -/
def cycles (machine : Machine) (done : Nat) : Nat → Stretch
  | 0 => ⟨machine, done, .ok ()⟩
  | count + 1 =>
    match machine.cycle with
    | .error fault => ⟨machine, done, .error fault⟩
    | .ok after => cycles after (done + 1) count

def tickTimers (machine : Machine) : Machine :=
  { machine with delayTimer := machine.delayTimer.tick, soundTimer := machine.soundTimer.tick }

/-- The sprites of the sixteen digits, five rows each. -/
def fontSprites : List UInt8 :=
  [0xF0, 0x90, 0x90, 0x90, 0xF0,
   0x20, 0x60, 0x20, 0x20, 0x70,
   0xF0, 0x10, 0xF0, 0x80, 0xF0,
   0xF0, 0x10, 0xF0, 0x10, 0xF0,
   0x90, 0x90, 0xF0, 0x10, 0x10,
   0xF0, 0x80, 0xF0, 0x10, 0xF0,
   0xF0, 0x80, 0xF0, 0x90, 0xF0,
   0xF0, 0x10, 0x20, 0x40, 0x40,
   0xF0, 0x90, 0xF0, 0x90, 0xF0,
   0xF0, 0x90, 0xF0, 0x10, 0xF0,
   0xF0, 0x90, 0xF0, 0x90, 0x90,
   0xE0, 0x90, 0xE0, 0x90, 0xE0,
   0xF0, 0x80, 0x80, 0x80, 0xF0,
   0xE0, 0x90, 0x90, 0x90, 0xE0,
   0xF0, 0x80, 0xF0, 0x80, 0xF0,
   0xF0, 0x80, 0xF0, 0x80, 0x80]

/-- Values of bytes, for writing them to memory. -/
def byteValues (bytes : List UInt8) : List Int := bytes.map fun byte => byte.toNat

theorem map_ofInt_byteValues (bytes : List UInt8) : (byteValues bytes).map UInt8.ofInt = bytes := by
  have inverse : UInt8.ofInt ∘ (fun byte : UInt8 => (byte.toNat : Int)) = id := by
    funext byte
    have small := byte.toNat_lt
    apply UInt8.toNat_inj.mp
    simp only [Function.comp_apply, UInt8.ofInt, UInt8.toNat_ofNat', id]
    omega
  rw [byteValues, List.map_map, inverse, List.map_id]

/-- Memory with the font at zero and a program at `0x200`. -/
def programMemory (program : List UInt8) : Except Fault Memory := do
  let memory ← (Memory.blank 0x1000).writeBlock 0 (byteValues fontSprites)
  memory.writeBlock 0x200 (byteValues program)

end Machine

end Chip8
