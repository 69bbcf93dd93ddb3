import Chip8.Proofs.Machine.Bounds
import Chip8.Proofs.Machine.Calls
import Chip8.Proofs.Machine.Refusal
import Chip8.Proofs.Memory.Contents

/-!
# What an instruction may change

An instruction changes only a small part of the machine. The part is a footprint: the registers, the
addresses in memory and the cells of the stack that may be written, and whether each of the other
components may. This file reads the footprint of a word off its form and proves that everything outside
of it, the counter apart, is the same after the word as before.

The first step is the same for single instructions, whose footprints lie within those of their words.
-/

namespace Chip8

/-- What may be written of a machine. What is not named may not. -/
structure Footprint where
  registers : Nibble → Prop := fun _ => False
  addresses : Int → Prop := fun _ => False
  index : Prop := False
  cells : Nat → Prop := fun _ => False
  pointers : Nat → Prop := fun _ => False
  random : Prop := False
  delayTimer : Prop := False
  soundTimer : Prop := False
  screen : Prop := False

namespace Footprint

/-- A machine differs from the one before in nothing but the counter and what a footprint names. -/
structure Covers (footprint : Footprint) (machine after : Machine) : Prop where
  registers (name : Nibble) :
    after.register name = machine.register name ∨ footprint.registers name := by
      exact fun _ => .inl rfl
  memory (position : Nat) : after.memory.bytes[position]? = machine.memory.bytes[position]? ∨
    footprint.addresses position := by exact fun _ => .inl rfl
  index : after.index = machine.index ∨ footprint.index := by exact .inl rfl
  cells (cell : Nat) (inside : cell < 16) :
    after.stack.cells[cell] = machine.stack.cells[cell] ∨ footprint.cells cell := by
      exact fun _ _ => .inl rfl
  pointer : after.stack.pointer = machine.stack.pointer ∨
    footprint.pointers after.stack.pointer := by exact .inl rfl
  random : after.random = machine.random ∨ footprint.random := by exact .inl rfl
  delayTimer : after.delayTimer = machine.delayTimer ∨ footprint.delayTimer := by exact .inl rfl
  soundTimer : after.soundTimer = machine.soundTimer ∨ footprint.soundTimer := by exact .inl rfl
  screen : after.screen = machine.screen ∨ footprint.screen := by exact .inl rfl
  keys : after.keys = machine.keys := by rfl
  fontBase : after.fontBase = machine.fontBase := by rfl

/-- Whatever may be written by one footprint may be written by another one. -/
structure Within (footprint other : Footprint) : Prop where
  registers (name : Nibble) : footprint.registers name → other.registers name := by
    exact fun _ => False.elim
  addresses (address : Int) : footprint.addresses address → other.addresses address := by
    exact fun _ => False.elim
  index : footprint.index → other.index := by exact False.elim
  cells (cell : Nat) : footprint.cells cell → other.cells cell := by exact fun _ => False.elim
  pointers (pointer : Nat) : footprint.pointers pointer → other.pointers pointer := by
    exact fun _ => False.elim
  random : footprint.random → other.random := by exact False.elim
  delayTimer : footprint.delayTimer → other.delayTimer := by exact False.elim
  soundTimer : footprint.soundTimer → other.soundTimer := by exact False.elim
  screen : footprint.screen → other.screen := by exact False.elim

theorem Covers.mono {footprint other : Footprint} {machine after : Machine}
    (covers : footprint.Covers machine after) (within : footprint.Within other) :
    other.Covers machine after where
  registers name := (covers.registers name).imp_right (within.registers name)
  memory position := (covers.memory position).imp_right (within.addresses position)
  index := covers.index.imp_right within.index
  cells cell inside := (covers.cells cell inside).imp_right (within.cells cell)
  pointer := covers.pointer.imp_right (within.pointers _)
  random := covers.random.imp_right within.random
  delayTimer := covers.delayTimer.imp_right within.delayTimer
  soundTimer := covers.soundTimer.imp_right within.soundTimer
  screen := covers.screen.imp_right within.screen
  keys := covers.keys
  fontBase := covers.fontBase

end Footprint

/-- Whether an operation sets the flag besides its result. -/
def Operation.SetsFlag : Operation → Prop
  | copy | or | and | xor => False
  | add | subtract | shiftRight | subtractFrom | shiftLeft => True

/-- What an instruction may write. -/
def Instruction.footprint (machine : Machine) : Instruction → Footprint
  | clearScreen => { screen := True }
  | endCall =>
    { cells := fun cell => cell + 1 = machine.stack.pointer
      pointers := fun pointer => pointer + 1 = machine.stack.pointer }
  | call _ =>
    { cells := fun cell => cell = machine.stack.pointer
      pointers := fun pointer => pointer = machine.stack.pointer + 1 }
  | setByte x _ | addByte x _ | readDelay x => { registers := fun name => name = x }
  | combine operation x _ =>
    { registers := fun name => name = x ∨ operation.SetsFlag ∧ name = Machine.flag }
  | setIndex _ | addIndex _ | fontDigit _ => { index := True }
  | random x _ => { registers := fun name => name = x, random := True }
  | draw _ _ _ => { registers := fun name => name = Machine.flag, screen := True }
  | awaitKey x => { registers := fun name => name = x ∧ true ∈ machine.keys }
  | setDelay _ => { delayTimer := True }
  | setSound _ => { soundTimer := True }
  | storeDigits _ =>
    { addresses := fun address => machine.index ≤ address ∧ address ≤ machine.index + 2 }
  | storeRegisters x =>
    { addresses := fun address => machine.index ≤ address ∧ address ≤ machine.index + x.val }
  | loadRegisters x => { registers := fun name => name ≤ x }
  | _ => {}

namespace Word

/-- The registers that a word may write. -/
inductive WritesRegister (word : Word) (keys : List Bool) (name : Nibble) : Prop where
  /-- `6XNN`, `7XNN`, `8XY0` to `8XY3`, `CXNN` and `FX07` write `VX`. -/
  | operand {pattern : Pattern}
    (listed : pattern ∈ [.led 0x6, .led 0x7, .framed 0x8 0x0, .framed 0x8 0x1, .framed 0x8 0x2,
      .framed 0x8 0x3, .led 0xC, .closed 0xF 0x0 0x7])
    (fits : pattern.Matches word) (named : name = word.x)
  /-- `FX0A` writes `VX` if a key is down. -/
  | awaited (fits : (Pattern.closed 0xF 0x0 0xA).Matches word) (down : true ∈ keys)
    (named : name = word.x)
  /-- `8XY4` to `8XY7` and `8XYE` write `VX` and `VF`. -/
  | flagged {pattern : Pattern}
    (listed : pattern ∈ [.framed 0x8 0x4, .framed 0x8 0x5, .framed 0x8 0x6, .framed 0x8 0x7,
      .framed 0x8 0xE])
    (fits : pattern.Matches word) (named : name = word.x ∨ name = 0xF)
  /-- `DXYN` writes `VF`. -/
  | collision (fits : (Pattern.led 0xD).Matches word) (named : name = 0xF)
  /-- `FX65` writes `V0` to `VX`. -/
  | loaded (fits : (Pattern.closed 0xF 0x6 0x5).Matches word) (named : name ≤ word.x)

/-- What a word may write, as its form tells. -/
def footprint (word : Word) (machine : Machine) : Footprint where
  registers := word.WritesRegister machine.keys
  addresses address :=
    (Pattern.closed 0xF 0x3 0x3).Matches word ∧
        machine.index ≤ address ∧ address ≤ machine.index + 2 ∨
      (Pattern.closed 0xF 0x5 0x5).Matches word ∧
        machine.index ≤ address ∧ address ≤ machine.index + word.x.val
  index := (Pattern.led 0xA).Matches word ∨ (Pattern.closed 0xF 0x1 0xE).Matches word ∨
    (Pattern.closed 0xF 0x2 0x9).Matches word
  cells cell :=
    (Pattern.led 0x2).Matches word ∧ cell = machine.stack.pointer ∨
      (Pattern.whole 0x0 0x0 0xE 0xE).Matches word ∧ cell + 1 = machine.stack.pointer
  pointers pointer :=
    (Pattern.led 0x2).Matches word ∧ pointer = machine.stack.pointer + 1 ∨
      (Pattern.whole 0x0 0x0 0xE 0xE).Matches word ∧ pointer + 1 = machine.stack.pointer
  random := (Pattern.led 0xC).Matches word
  delayTimer := (Pattern.closed 0xF 0x1 0x5).Matches word
  soundTimer := (Pattern.closed 0xF 0x1 0x8).Matches word
  screen := (Pattern.whole 0x0 0x0 0xE 0x0).Matches word ∨ (Pattern.led 0xD).Matches word

variable {word : Word} {machine : Machine} {instruction : Instruction}

theorem writesRegister_of_combine {operation : Operation} {keys : List Bool} {name : Nibble}
    (fits : (Pattern.framed 0x8 operation.digit).Matches word)
    (named : name = word.x ∨ operation.SetsFlag ∧ name = Machine.flag) :
    word.WritesRegister keys name := by
  cases operation with
  | copy | or | and | xor =>
      exact .operand (by decide) fits (named.resolve_right fun flagged => flagged.1)
  | add | subtract | shiftRight | subtractFrom | shiftLeft =>
      exact .flagged (by decide) fits (named.imp_right fun flagged => flagged.2)

/-- What the instruction of a word may write is what its form tells. -/
theorem footprint_within (found : word.instruction? = some instruction) (machine : Machine) :
    (instruction.footprint machine).Within (word.footprint machine) := by
  rcases instruction?_eq_some_iff.mp found with ⟨fits, operands⟩
  cases instruction with
  | clearScreen => exact { screen := fun _ => .inl fits }
  | endCall =>
      exact {
        cells := fun _ written => .inr ⟨fits, written⟩
        pointers := fun _ moved => .inr ⟨fits, moved⟩ }
  | call address =>
      exact {
        cells := fun _ written => .inl ⟨fits, written⟩
        pointers := fun _ moved => .inl ⟨fits, moved⟩ }
  | setByte x byte | addByte x byte =>
      rcases operands with ⟨rfl, _⟩
      exact { registers := fun _ => .operand (by simp [Instruction.pattern]) fits }
  | random x mask =>
      rcases operands with ⟨rfl, _⟩
      exact {
        registers := fun _ => .operand (by simp [Instruction.pattern]) fits
        random := fun _ => fits }
  | readDelay x =>
      cases operands
      exact { registers := fun _ => .operand (by simp [Instruction.pattern]) fits }
  | combine operation x y =>
      rcases operands with ⟨rfl, _⟩
      exact { registers := fun _ => writesRegister_of_combine fits }
  | setIndex address => exact { index := fun _ => .inl fits }
  | addIndex x => exact { index := fun _ => .inr (.inl fits) }
  | fontDigit x => exact { index := fun _ => .inr (.inr fits) }
  | draw x y rows =>
      exact {
        registers := fun _ => .collision fits
        screen := fun _ => .inr fits }
  | awaitKey x =>
      cases operands
      exact { registers := fun _ written => .awaited fits written.2 written.1 }
  | setDelay x => exact { delayTimer := fun _ => fits }
  | setSound x => exact { soundTimer := fun _ => fits }
  | storeDigits x => exact { addresses := fun _ inside => .inl ⟨fits, inside⟩ }
  | storeRegisters x =>
      cases operands
      exact { addresses := fun _ inside => .inr ⟨fits, inside⟩ }
  | loadRegisters x =>
      cases operands
      exact { registers := fun _ => .loaded fits }
  | _ => exact {}

end Word

namespace Machine

variable {machine after : Machine} {word : Word} {instruction : Instruction} {flow : Flow}

theorem register_setRegister (machine : Machine) (name other : Nibble) (byte : UInt8) :
    (machine.setRegister name byte).register other = machine.register other ∨ other = name := by
  by_cases same : other = name
  · exact .inr same
  · exact .inl (machine.register_setRegister_of_ne byte same)

theorem register_combine (machine : Machine) (operation : Operation) (x y name : Nibble) :
    (machine.combine operation x y).register name = machine.register name ∨
      name = x ∨ operation.SetsFlag ∧ name = flag := by
  cases operation with
  | copy | or | and | xor => exact (machine.register_setRegister x name _).imp_right .inl
  | add | subtract | shiftRight | subtractFrom | shiftLeft =>
      -- The result is written first, and the flag over what it left.
      rcases register_setRegister (machine.setRegister x _) flag name _ with kept | isFlag
      · exact (machine.register_setRegister x name _).imp kept.trans .inl
      · exact .inr (.inr ⟨trivial, isFlag⟩)

theorem register_loadBytes {bytes : List UInt8} {x name : Nibble} (length : bytes.length = x + 1) :
    (loadBytes machine.registers bytes)[name] = machine.register name ∨ name ≤ x := by
  by_cases named : name ≤ x
  · exact .inr named
  · have beyond : bytes.length ≤ name := by
      rw [length]
      exact Nat.lt_of_not_le named
    left
    simp [loadBytes, register, List.getD_eq_getElem?_getD, List.getElem?_eq_none beyond]

theorem bytes_writeBlock {written : Memory} {values : List Int} {last : Int} (position : Nat)
    (done : machine.memory.writeBlock machine.index values = .ok written)
    (length : values.length = last + 1) :
    written.bytes[position]? = machine.memory.bytes[position]? ∨
      machine.index ≤ position ∧ position ≤ machine.index + last := by
  by_cases inside : machine.index ≤ position ∧ position ≤ machine.index + last
  · exact .inr inside
  · exact .inl (Memory.getElem?_writeBlock_of_outside done (by omega))

/-- An instruction changes nothing that its footprint does not cover. -/
theorem covers_of_perform (done : machine.perform instruction = .ok (after, flow)) :
    (instruction.footprint machine).Covers machine after := by
  cases instruction with
  | noOperation | jump _ | skipIfByte _ _ | skipUnlessByte _ _ | skipIfEqual _ _
  | skipUnlessEqual _ _ | jumpOffset _ =>
      cases done
      exact {}
  | clearScreen =>
      cases done
      exact { screen := .inr trivial }
  | endCall =>
      simp only [perform, bind_eq_ok_iff, Except.ok.injEq, Prod.mk.injEq] at done
      rcases done with ⟨⟨stack, address⟩, popped, rfl, rfl⟩
      have pointer := CallStack.pointer_pop popped
      exact {
        cells := fun cell inside =>
          (CallStack.cells_pop popped cell inside).imp_right fun cleared => by rwa [cleared]
        pointer := .inr pointer }
  | call address =>
      simp only [perform, bind_eq_ok_iff, Except.ok.injEq, Prod.mk.injEq] at done
      rcases done with ⟨stack, pushed, rfl, rfl⟩
      exact {
        cells := CallStack.cells_push pushed
        pointer := .inr (CallStack.pointer_push pushed) }
  | setByte x _ | addByte x _ | readDelay x =>
      cases done
      exact { registers := fun name => machine.register_setRegister x name _ }
  | combine operation x y =>
      cases done
      rcases machine.exists_combine_eq operation x y with ⟨registers, combined⟩
      have written := machine.register_combine operation x y
      rw [combined] at written ⊢
      exact { registers := written }
  | setIndex _ | addIndex _ | fontDigit _ =>
      cases done
      exact { index := .inr trivial }
  | random x mask =>
      cases done
      exact {
        registers := fun name => machine.register_setRegister x name _
        random := .inr trivial }
  | draw x y rows =>
      simp only [perform, bind_eq_ok_iff, Except.ok.injEq, Prod.mk.injEq] at done
      rcases done with ⟨_, _, ⟨screen, collided⟩, _, rfl, rfl⟩
      exact {
        registers := fun name => machine.register_setRegister flag name _
        screen := .inr trivial }
  | skipIfKey x | skipUnlessKey x =>
      simp only [perform, bind_eq_ok_iff, Except.ok.injEq, Prod.mk.injEq] at done
      rcases done with ⟨_, _, rfl, rfl⟩
      exact {}
  | awaitKey x =>
      simp only [perform] at done
      split at done <;> cases done
      next key found =>
        have down : true ∈ machine.keys := by
          by_contra released
          rw [List.idxOf?_eq_none_iff.mpr released] at found
          cases found
        exact {
          registers := fun name =>
            (machine.register_setRegister x name _).imp_right fun named => ⟨named, down⟩ }
      next => exact {}
  | setDelay _ =>
      cases done
      exact { delayTimer := .inr trivial }
  | setSound _ =>
      cases done
      exact { soundTimer := .inr trivial }
  | storeDigits x =>
      simp only [perform, bind_eq_ok_iff, Except.ok.injEq, Prod.mk.injEq] at done
      rcases done with ⟨memory, written, rfl, rfl⟩
      exact { memory := fun position => bytes_writeBlock position written rfl }
  | storeRegisters x =>
      simp only [perform, bind_eq_ok_iff, Except.ok.injEq, Prod.mk.injEq] at done
      rcases done with ⟨memory, written, rfl, rfl⟩
      have length : ((machine.registersUpTo x).length : Int) = x.val + 1 := by
        rw [machine.length_registersUpTo x]
        rfl
      exact { memory := fun position => bytes_writeBlock position written length }
  | loadRegisters x =>
      simp only [perform, bind_eq_ok_iff, Except.ok.injEq, Prod.mk.injEq] at done
      rcases done with ⟨bytes, read, rfl, rfl⟩
      have length := Memory.length_readBlock x.val.succ_pos read
      exact { registers := fun name => register_loadBytes length }

/-- A word changes nothing that its footprint does not cover. -/
theorem covers_of_execute (done : machine.execute word = .ok after) :
    (word.footprint machine).Covers machine after := by
  rcases execute_eq_ok_iff.mp done with ⟨instruction, performed, flow, found, performs, rfl⟩
  exact { (covers_of_perform performs).mono (Word.footprint_within found machine) with }

/-- No cycle changes which keys are down. -/
theorem keys_of_cycle (done : machine.cycle = .ok after) : after.keys = machine.keys := by
  rcases bind_eq_ok_iff.mp done with ⟨word, _, executed⟩
  exact (covers_of_execute executed).keys

/-- A word changes nothing that its footprint does not cover, and the pointer of the stack is moved by
every call and every return. -/
theorem execute_stays_in_footprint (done : machine.execute word = .ok after) :
    (word.footprint machine).Covers machine after ∧
      ((Pattern.led 0x2).Matches word → after.stack.pointer = machine.stack.pointer + 1) ∧
      ((Pattern.whole 0x0 0x0 0xE 0xE).Matches word →
        after.stack.pointer + 1 = machine.stack.pointer) := by
  refine ⟨covers_of_execute done, ?_⟩
  rcases execute_eq_ok_iff.mp done with ⟨instruction, performed, flow, found, performs, rfl⟩
  have restacks := restacks_of_perform performs
  constructor
  · intro calls
    have isCall : word.instruction? = some (.call word.address) :=
      Word.instruction?_eq_some_iff.mpr ⟨calls, rfl⟩
    cases isCall.symm.trans found
    exact CallStack.pointer_push restacks
  · intro returns
    have isReturn : word.instruction? = some .endCall :=
      Word.instruction?_eq_some_iff.mpr ⟨returns, trivial⟩
    cases isReturn.symm.trans found
    rcases restacks with ⟨address, popped, -⟩
    exact CallStack.pointer_pop popped

/-- `F255` with the index at `0x300` writes three bytes there and no others. -/
theorem execute_stays_in_footprint_of_store :
    let machine : Machine := { index := 0x300, registers := Vector.replicate 16 7 }
    ∃ after, machine.execute ⟨0xF, 0x2, 0x5, 0x5⟩ = .ok after ∧
      (Word.footprint ⟨0xF, 0x2, 0x5, 0x5⟩ machine).Covers machine after ∧
      ∀ position : Nat, position < 0x300 ∨ 0x303 ≤ position →
        after.memory.bytes[position]? = machine.memory.bytes[position]? := by
  intro machine
  have written : machine.memory.writeBlock 0x300 (machine.registersUpTo 2) =
      .ok ⟨Memory.store machine.memory.bytes 0x300 (machine.registersUpTo 2)⟩ :=
    (Memory.writeBlock_eq_ok_iff (by decide)).mpr
      ⟨⟨by decide, by simp [machine, length_registersUpTo]⟩, rfl⟩
  have performs : machine.dispatch ⟨0xF, 0x2, 0x5, 0x5⟩ = .ok (_, .next) :=
    bind_eq_ok_iff.mpr ⟨.storeRegisters 2, rfl, bind_eq_ok_iff.mpr ⟨_, written, rfl⟩⟩
  have done : machine.execute ⟨0xF, 0x2, 0x5, 0x5⟩ = .ok _ :=
    bind_eq_ok_iff.mpr ⟨_, performs, rfl⟩
  have covers := (execute_stays_in_footprint done).1
  refine ⟨_, done, covers, ?_⟩
  intro position outside
  apply (covers.memory position).resolve_right
  rintro (⟨digits, _⟩ | ⟨_, inside⟩)
  · exact absurd digits (by decide)
  · simp only [machine] at inside
    omega

end Machine

end Chip8
