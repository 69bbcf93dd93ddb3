import Chip8.Emulator
import Chip8.Proofs.CallStack
import Chip8.Proofs.Machine.Fetch
import Chip8.Proofs.Pattern
import Chip8.Proofs.Screen.InPlace

/-!
# When a cycle fails

This file says when a cycle of a regular machine fails, and with which fault: the counter is beyond
memory, the word is no instruction, the stack is full or empty, a register names no key, or the
operand of the word in memory passes its end. The conditions are read off the word and the state and
do not speak of decoding or of the order of checks.

The first step is the same for single instructions, `StoppedBy`. A cycle that fails leaves the machine
and what is on the screen of the host as they were; the screen is followed in place.
-/

namespace Chip8

/-- Why an instruction cannot be performed, if so. -/
def Instruction.StoppedBy (machine : Machine) (fault : Fault) : Instruction → Prop
  | .call _ => machine.stack.pointer = 16 ∧ fault = .stackOverflow (machine.counter + 2)
  | .endCall => machine.stack.pointer = 0 ∧ fault = .stackUnderflow
  | .skipIfKey x | .skipUnlessKey x =>
    16 ≤ (machine.register x).toNat ∧ fault = .keyIndexOutOfRange (machine.register x).toNat
  | .draw _ _ rows =>
    (0 < rows.val ∧ 0x1000 < machine.index + rows.val) ∧
      fault = .addressOutOfRange (max machine.index 0x1000)
  | .storeDigits _ =>
    0x1000 < machine.index + 3 ∧ fault = .addressOutOfRange (max machine.index 0x1000)
  | .storeRegisters x | .loadRegisters x =>
    0x1000 < machine.index + (x.val + 1) ∧ fault = .addressOutOfRange (max machine.index 0x1000)
  | _ => False

/-- The number of bytes in memory, from the index on, that a word reads or writes. -/
inductive Word.OperandLength (word : Word) : Nat → Prop where
  /-- `DXYN` reads `N` sprite rows. -/
  | sprite (pattern : (Pattern.led 0xD).Matches word) (rows : 0 < word.n.val) :
    OperandLength word word.n
  /-- `FX33` writes three digits. -/
  | digits (pattern : (Pattern.closed 0xF 0x3 0x3).Matches word) : OperandLength word 3
  /-- `FX55` writes the registers up to `X`. -/
  | stored (pattern : (Pattern.closed 0xF 0x5 0x5).Matches word) : OperandLength word (word.x + 1)
  /-- `FX65` reads the registers up to `X`. -/
  | loaded (pattern : (Pattern.closed 0xF 0x6 0x5).Matches word) : OperandLength word (word.x + 1)

namespace Machine

/-- The cases in which a cycle fails. -/
inductive Refuses (machine : Machine) : Fault → Prop where
  | counterOutside (outside : 0x1000 ≤ machine.counter) :
    Refuses machine (.addressOutOfRange machine.counter)
  /-- The counter is at the last byte, so that the second half of the word is beyond memory. -/
  | counterAtEnd (atEnd : machine.counter = 0xFFF) : Refuses machine (.addressOutOfRange 0x1000)
  | wordUnknown {word : Word} (faces : machine.Faces word)
    (unmatched : ∀ pattern ∈ Pattern.documented, ¬pattern.Matches word) :
    Refuses machine (.unknownOpcode word.toNat)
  /-- `2NNN` meets a full stack. -/
  | stackFull {word : Word} (faces : machine.Faces word) (pattern : (Pattern.led 0x2).Matches word)
    (full : machine.stack.pointer = 16) : Refuses machine (.stackOverflow (machine.counter + 2))
  /-- `00EE` meets an empty stack. -/
  | stackEmpty {word : Word} (faces : machine.Faces word)
    (pattern : (Pattern.whole 0x0 0x0 0xE 0xE).Matches word) (empty : machine.stack.pointer = 0) :
    Refuses machine .stackUnderflow
  /-- `EX9E` or `EXA1` asks for a key beyond the pad. -/
  | keyBeyond {word : Word} (faces : machine.Faces word)
    (pattern : (Pattern.closed 0xE 0x9 0xE).Matches word ∨ (Pattern.closed 0xE 0xA 0x1).Matches word)
    (beyond : 16 ≤ (machine.register word.x).toNat) :
    Refuses machine (.keyIndexOutOfRange (machine.register word.x).toNat)
  | operandOutside {word : Word} {length : Nat} (faces : machine.Faces word)
    (operand : word.OperandLength length) (outside : 0x1000 < machine.index + length) :
    Refuses machine (.addressOutOfRange (max machine.index 0x1000))

theorem keyDown_eq_error_iff {machine : Machine} {x : Nibble} {fault : Fault}
    (length : machine.keys.length = 16) :
    machine.keyDown x = .error fault ↔
      16 ≤ (machine.register x).toNat ∧ fault = .keyIndexOutOfRange (machine.register x).toNat := by
  unfold keyDown
  by_cases named : (machine.register x).toNat < 16
  · have present : (machine.register x).toNat < machine.keys.length := by omega
    simp only [Keypad.size, named, if_true, List.getElem?_eq_getElem present, reduceCtorEq, false_iff]
    omega
  · simp only [Keypad.size, named, if_false, Except.error.injEq, eq_comm (b := fault)]
    constructor
    · rintro rfl
      exact ⟨by omega, rfl⟩
    · rintro ⟨_, rfl⟩
      rfl

/-- A sprite is refused only for its place in memory. -/
theorem drawRows_ne_error {machine : Machine} (size : machine.screen.size = (64, 32)) (x : Nibble)
    (y : Int) (rows : List UInt8) (fault : Fault) :
    drawRows machine.screen (machine.register x).toNat y rows ≠ .error fault := by
  simp only [Screen.size, Prod.mk.injEq] at size
  have columns : 0 < machine.screen.width := by omega
  have height : 0 < machine.screen.height := by omega
  have fits : Integer64.holds (machine.register x).toNat := by
    have := (machine.register x).toNat_lt
    rw [Integer64.holds_iff]
    omega
  rcases exists_drawRows_eq_ok columns height fits y rows with ⟨drawn, collided, done⟩
  simp [done]

theorem length_registersUpTo (machine : Machine) (x : Nibble) :
    (machine.registersUpTo x).length = x.val + 1 := by
  simp only [registersUpTo, List.length_map, List.length_take, Vector.length_toList]
  omega

/-- An instruction fails exactly for the reason that stops it. -/
theorem perform_eq_error_iff {machine : Machine} (regular : machine.Regular)
    {instruction : Instruction} {fault : Fault} :
    machine.perform instruction = .error fault ↔ instruction.StoppedBy machine fault := by
  have nonneg := regular.index_mem.1
  have size := regular.size_memory
  cases instruction with
  | call address =>
      simp [perform, bind_eq_error_iff, CallStack.push_eq_error_iff, Instruction.StoppedBy]
  | endCall => simp [perform, bind_eq_error_iff, CallStack.pop_eq_error_iff, Instruction.StoppedBy]
  | skipIfKey x | skipUnlessKey x =>
      simp [perform, bind_eq_error_iff, keyDown_eq_error_iff regular.length_keys,
        Instruction.StoppedBy]
  | draw x y rows =>
      simp only [perform, bind_eq_error_iff, Memory.readBlock_eq_error_iff nonneg, size]
      simp [drawRows_ne_error regular.size_screen, Instruction.StoppedBy]
  | storeDigits x =>
      simp only [perform, bind_eq_error_iff, Memory.writeBlock_eq_error_iff nonneg, size]
      simp [decimalDigits, Instruction.StoppedBy]
  | storeRegisters x =>
      simp only [perform, bind_eq_error_iff, Memory.writeBlock_eq_error_iff nonneg, size,
        length_registersUpTo]
      simp [Instruction.StoppedBy]
  | loadRegisters x =>
      simp only [perform, bind_eq_error_iff, Memory.readBlock_eq_error_iff nonneg, size]
      simp [Instruction.StoppedBy]
  | awaitKey x =>
      simp only [perform, Instruction.StoppedBy, iff_false]
      split <;> simp
  | _ => simp [perform, Instruction.StoppedBy]

/-- A cycle fails if its word cannot be fetched, has no instruction, or has one that is stopped. -/
theorem cycle_eq_error_iff_stoppedBy {machine : Machine} (regular : machine.Regular)
    {fault : Fault} :
    machine.cycle = .error fault ↔
      machine.fetch = .error fault ∨
        ∃ word, machine.Faces word ∧
          (word.instruction? = none ∧ fault = .unknownOpcode word.toNat ∨
            ∃ instruction, word.instruction? = some instruction ∧
              instruction.StoppedBy machine fault) := by
  simp only [cycle, execute, dispatch, bind_eq_error_iff, reduceCtorEq, and_false, exists_false,
    or_false, fetch_eq_ok_iff regular.size_memory regular.counter_mem.1,
    Word.instruction_eq_ok_iff, Word.instruction_eq_error_iff, perform_eq_error_iff regular]

theorem refuses_of_stoppedBy {machine : Machine} {word : Word} {instruction : Instruction}
    {fault : Fault} (faces : machine.Faces word) (found : word.instruction? = some instruction)
    (stopped : instruction.StoppedBy machine fault) : machine.Refuses fault := by
  rcases Word.instruction?_eq_some_iff.mp found with ⟨pattern, operands⟩
  cases instruction with
  | call address =>
      rcases stopped with ⟨full, rfl⟩
      exact .stackFull faces pattern full
  | endCall =>
      rcases stopped with ⟨empty, rfl⟩
      exact .stackEmpty faces pattern empty
  | skipIfKey x =>
      cases operands
      rcases stopped with ⟨beyond, rfl⟩
      exact .keyBeyond faces (Or.inl pattern) beyond
  | skipUnlessKey x =>
      cases operands
      rcases stopped with ⟨beyond, rfl⟩
      exact .keyBeyond faces (Or.inr pattern) beyond
  | draw x y rows =>
      rcases operands with ⟨_, _, rfl⟩
      rcases stopped with ⟨⟨positive, outside⟩, rfl⟩
      exact .operandOutside faces (.sprite pattern positive) outside
  | storeDigits x =>
      rcases stopped with ⟨outside, rfl⟩
      exact .operandOutside faces (.digits pattern) outside
  | storeRegisters x =>
      cases operands
      rcases stopped with ⟨outside, rfl⟩
      exact .operandOutside faces (.stored pattern) outside
  | loadRegisters x =>
      cases operands
      rcases stopped with ⟨outside, rfl⟩
      exact .operandOutside faces (.loaded pattern) outside
  | _ => cases stopped

/-- The instruction of a word with an operand in memory is stopped if the operand passes the end. -/
theorem exists_stoppedBy_of_operand {machine : Machine} {word : Word} {length : Nat}
    (operand : word.OperandLength length) (outside : 0x1000 < machine.index + length) :
    ∃ instruction, word.instruction? = some instruction ∧
      instruction.StoppedBy machine (.addressOutOfRange (max machine.index 0x1000)) := by
  cases operand with
  | sprite pattern rows =>
      refine ⟨.draw word.x word.y word.n, Word.instruction?_eq_some_iff.mpr ⟨pattern, ?_⟩, ?_⟩
      · exact ⟨rfl, rfl, rfl⟩
      · exact ⟨⟨rows, outside⟩, rfl⟩
  | digits pattern =>
      exact ⟨.storeDigits word.x, Word.instruction?_eq_some_iff.mpr ⟨pattern, rfl⟩, outside, rfl⟩
  | stored pattern =>
      exact ⟨.storeRegisters word.x, Word.instruction?_eq_some_iff.mpr ⟨pattern, rfl⟩, outside, rfl⟩
  | loaded pattern =>
      exact ⟨.loadRegisters word.x, Word.instruction?_eq_some_iff.mpr ⟨pattern, rfl⟩, outside, rfl⟩

theorem cycle_eq_error_iff {machine : Machine} (regular : machine.Regular) {fault : Fault} :
    machine.cycle = .error fault ↔ machine.Refuses fault := by
  rw [cycle_eq_error_iff_stoppedBy regular,
    fetch_eq_error_iff regular.size_memory regular.counter_mem.1]
  constructor
  · rintro ((⟨outside, rfl⟩ | ⟨atEnd, rfl⟩) | ⟨word, faces, ⟨unknown, rfl⟩ | ⟨_, found, stopped⟩⟩)
    · exact .counterOutside outside
    · exact .counterAtEnd atEnd
    · exact .wordUnknown faces (Word.instruction?_eq_none_iff.mp unknown)
    · exact refuses_of_stoppedBy faces found stopped
  · intro refused
    cases refused with
    | counterOutside outside => exact Or.inl (Or.inl ⟨outside, rfl⟩)
    | counterAtEnd atEnd => exact Or.inl (Or.inr ⟨atEnd, rfl⟩)
    | wordUnknown faces unmatched =>
        exact Or.inr ⟨_, faces, Or.inl ⟨Word.instruction?_eq_none_iff.mpr unmatched, rfl⟩⟩
    | @stackFull word faces pattern full =>
        refine Or.inr ⟨word, faces, Or.inr ⟨.call word.address, ?_, full, rfl⟩⟩
        exact Word.instruction?_eq_some_iff.mpr ⟨pattern, rfl⟩
    | @stackEmpty word faces pattern empty =>
        refine Or.inr ⟨word, faces, Or.inr ⟨.endCall, ?_, empty, rfl⟩⟩
        exact Word.instruction?_eq_some_iff.mpr ⟨pattern, trivial⟩
    | @keyBeyond word faces pattern beyond =>
        refine Or.inr ⟨word, faces, Or.inr ?_⟩
        rcases pattern with ifDown | unlessDown
        · exact ⟨.skipIfKey word.x, Word.instruction?_eq_some_iff.mpr ⟨ifDown, rfl⟩, beyond, rfl⟩
        · exact ⟨.skipUnlessKey word.x, Word.instruction?_eq_some_iff.mpr ⟨unlessDown, rfl⟩,
            beyond, rfl⟩
    | operandOutside faces operand outside =>
        exact Or.inr ⟨_, faces, Or.inr (exists_stoppedBy_of_operand operand outside)⟩

/-- An instruction that is stopped leaves the screen of the host as it was: only drawing and clearing
touch it, and a sprite is read before its first row is drawn. -/
theorem screenLeftBy_of_error {machine : Machine} (size : machine.screen.size = (64, 32))
    {instruction : Instruction} {fault : Fault}
    (failed : machine.perform instruction = .error fault) :
    machine.screenLeftBy instruction = machine.screen := by
  cases instruction with
  | clearScreen => cases failed
  | draw x y rows =>
      simp only [perform, bind_eq_error_iff, drawRows_ne_error size, reduceCtorEq, and_false,
        exists_false, or_false] at failed
      simp only [screenLeftBy, failed]
  | _ => rfl

/-- An instruction that is performed leaves its screen with the host. -/
theorem screenLeftBy_of_ok {machine after : Machine} {instruction : Instruction} {flow : Flow}
    (done : machine.perform instruction = .ok (after, flow)) :
    machine.screenLeftBy instruction = after.screen := by
  cases instruction with
  | draw x y rows =>
      simp only [perform, bind_eq_ok_iff, Except.ok.injEq, Prod.mk.injEq] at done
      rcases done with ⟨sprite, read, ⟨drawn, collided⟩, rowsDone, rfl, rfl⟩
      simp only [screenLeftBy, read]
      exact leftByRows_of_drawRows rowsDone
  | combine operation x y =>
      cases done
      cases operation <;> rfl
  | awaitKey x =>
      simp only [perform] at done
      split at done <;> cases done <;> rfl
  | endCall | call _ | skipIfKey _ | skipUnlessKey _ | storeDigits _ | storeRegisters _
  | loadRegisters _ =>
      simp only [perform, bind_eq_ok_iff, Except.ok.injEq, Prod.mk.injEq] at done
      rcases done with ⟨_, _, rfl, rfl⟩
      rfl
  | _ =>
      cases done
      rfl

theorem screenLeft_of_error {machine : Machine} (size : machine.screen.size = (64, 32)) {fault : Fault}
    (failed : machine.cycle = .error fault) : machine.screenLeft = machine.screen := by
  unfold screenLeft
  split
  next => rfl
  next instruction found =>
    rcases bind_eq_ok_iff.mp found with ⟨word, fetched, found⟩
    simp only [cycle, execute, dispatch, bind_eq_error_iff, fetched, found, Except.ok.injEq,
      reduceCtorEq, exists_eq_left', false_or, and_false, exists_false, or_false] at failed
    exact screenLeftBy_of_error size failed

theorem screenLeft_of_ok {machine after : Machine} (done : machine.cycle = .ok after) :
    machine.screenLeft = after.screen := by
  simp only [cycle, execute, dispatch, bind_eq_ok_iff, Except.ok.injEq] at done
  rcases done with ⟨word, fetched, ⟨performed, flow⟩, ⟨instruction, found, done⟩, rfl⟩
  have decoded : machine.fetch >>= Word.instruction = .ok instruction :=
    bind_eq_ok_iff.mpr ⟨word, fetched, found⟩
  simp only [screenLeft, decoded]
  exact screenLeftBy_of_ok done

/-- A cycle of a regular machine fails exactly in the listed cases, with their faults, and succeeds in
all others. When it fails, the machine is the one before and nothing was drawn. -/
theorem cycle_fails_exactly {machine : Machine} (regular : machine.Regular) :
    (∀ fault, machine.cycle = .error fault ↔ machine.Refuses fault) ∧
      ((∃ after, machine.cycle = .ok after) ↔ ∀ fault, ¬machine.Refuses fault) ∧
      (∀ after, machine.cycle = .ok after → machine.screenLeft = after.screen) ∧
      ∀ fault, machine.Refuses fault →
        Emulator.cycleAction machine = (machine, .error fault) ∧
          machine.screenLeft = machine.screen := by
  refine ⟨fun fault => cycle_eq_error_iff regular, ?_, fun after => screenLeft_of_ok, ?_⟩
  · simp only [← cycle_eq_error_iff regular]
    cases machine.cycle <;> simp
  · intro fault refused
    have failed := (cycle_eq_error_iff regular).mpr refused
    exact ⟨by simp only [Emulator.cycleAction, failed], screenLeft_of_error regular.size_screen failed⟩

/-- Memory full of `D1` holds the word `D1D1`, which draws one row; here it is the first beyond memory. -/
theorem cycle_fails_exactly_on_row_beyond :
    let machine : Machine := { memory := ⟨Array.replicate 0x1000 0xD1⟩, index := 0x1000 }
    machine.Regular ∧ machine.cycle = .error (.addressOutOfRange 0x1000) ∧
      machine.screenLeft = machine.screen := by
  intro machine
  have regular : machine.Regular :=
    ⟨by simp [machine, Memory.size], by decide, by decide, rfl, rfl⟩
  have faces : machine.Faces ⟨0xD, 0x1, 0xD, 0x1⟩ := by
    have byte : ∀ address : Int, address < 0x1000 → machine.byteAt address = 0xD1 := by
      intro address inside
      simp only [byteAt, machine, Array.getD_eq_getD_getElem?, Array.getElem?_replicate]
      rw [if_pos (by omega)]
      rfl
    refine ⟨by decide, ?_⟩
    rw [byte _ (by decide), byte _ (by decide)]
    rfl
  have refused : machine.Refuses (.addressOutOfRange 0x1000) :=
    .operandOutside faces (.sprite (by decide) (by decide)) (by decide)
  rcases cycle_fails_exactly regular with ⟨failsIff, _, _, unchanged⟩
  exact ⟨regular, (failsIff _).mpr refused, (unchanged _ refused).2⟩

end Machine

end Chip8
