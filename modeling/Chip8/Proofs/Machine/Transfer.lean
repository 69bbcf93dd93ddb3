import Chip8.Proofs.Machine.Cycle
import Chip8.Proofs.Machine.Refusal
import Chip8.Proofs.Memory.Contents

/-!
# Registers stored and loaded

`FX55` writes the first registers to memory and `FX65` reads them from there. Each needs the same block of
memory, so one of them is performed where the other one is. What has been stored is loaded again into
whatever the registers have become, as long as the block and the index are left alone, and storing what has
just been loaded leaves memory as it is.
-/

namespace Chip8.Machine

section Registers

variable {registers : Vector UInt8 16} {bytes : List UInt8}

theorem map_ofInt_registersUpTo (machine : Machine) (x : Nibble) :
    (machine.registersUpTo x).map UInt8.ofInt = machine.registers.toList.take (x + 1) :=
  map_ofInt_byteValues _

theorem getElem_loadBytes {name : Nat} (isRegister : name < 16) :
    (loadBytes registers bytes)[name] = bytes.getD name registers[name] := by
  simp [loadBytes]

/-- As many registers as there are bytes hold the bytes, in order. -/
theorem take_toList_loadBytes (length : bytes.length ≤ 16) :
    (loadBytes registers bytes).toList.take bytes.length = bytes := by
  apply List.ext_getElem
  · simp only [List.length_take, Vector.length_toList]
    omega
  · intro position inside inBytes
    have isRegister : position < 16 := by omega
    have loaded := @getElem_loadBytes registers bytes position isRegister
    simp only [List.getElem_take, Vector.getElem_toList]
    simpa [inBytes] using loaded

/-- Loading the first registers of one machine into another one leaves the other registers there. -/
theorem getElem_loadBytes_take (registers other : Vector UInt8 16) (last : Nat) {name : Nat}
    (isRegister : name < 16) :
    (loadBytes registers (other.toList.take (last + 1)))[name] =
      if name ≤ last then other[name] else registers[name] := by
  rw [getElem_loadBytes isRegister]
  split
  next named =>
    have early : name < last + 1 := Nat.lt_succ_of_le named
    simp [early, isRegister]
  next beyond =>
    have late : (other.toList.take (last + 1)).length ≤ name := by
      simp only [List.length_take]
      omega
    rw [List.getD_eq_getElem?_getD, List.getElem?_eq_none late]
    rfl

end Registers

section Words

variable {machine after : Machine} {x : Nibble}

theorem execute_store_eq_ok_iff :
    machine.execute ⟨0xF, x, 0x5, 0x5⟩ = .ok after ↔
      ∃ memory, machine.memory.writeBlock machine.index (machine.registersUpTo x) = .ok memory ∧
        after = { machine with memory, counter := Flow.next.apply machine.counter } := by
  have found : Word.instruction? ⟨0xF, x, 0x5, 0x5⟩ = some (.storeRegisters x) := rfl
  rw [execute_eq_ok_iff_of_instruction found]
  constructor
  · rintro ⟨performed, flow, done, rfl⟩
    rcases bind_eq_ok_iff.mp done with ⟨memory, written, made⟩
    cases made
    exact ⟨memory, written, rfl⟩
  · rintro ⟨memory, written, rfl⟩
    exact ⟨_, _, bind_eq_ok_iff.mpr ⟨memory, written, rfl⟩, rfl⟩

theorem execute_load_eq_ok_iff :
    machine.execute ⟨0xF, x, 0x6, 0x5⟩ = .ok after ↔
      ∃ bytes, machine.memory.readBlock machine.index (x + 1 : Nat) = .ok bytes ∧
        after = { machine with registers := loadBytes machine.registers bytes
                               counter := Flow.next.apply machine.counter } := by
  have found : Word.instruction? ⟨0xF, x, 0x6, 0x5⟩ = some (.loadRegisters x) := rfl
  rw [execute_eq_ok_iff_of_instruction found]
  constructor
  · rintro ⟨performed, flow, done, rfl⟩
    rcases bind_eq_ok_iff.mp done with ⟨bytes, read, made⟩
    cases made
    exact ⟨bytes, read, rfl⟩
  · rintro ⟨bytes, read, rfl⟩
    exact ⟨_, _, bind_eq_ok_iff.mpr ⟨bytes, read, rfl⟩, rfl⟩

theorem exists_execute_store_iff :
    (∃ after, machine.execute ⟨0xF, x, 0x5, 0x5⟩ = .ok after) ↔
      0 ≤ machine.index ∧ machine.index + (x + 1 : Nat) ≤ machine.memory.size := by
  have length := machine.length_registersUpTo x
  have nonempty : 0 < (machine.registersUpTo x).length := by omega
  simp only [execute_store_eq_ok_iff, Memory.writeBlock_eq_ok_iff nonempty, length]
  constructor
  · rintro ⟨_, _, ⟨inside, _⟩, _⟩
    exact inside
  · intro inside
    exact ⟨_, _, ⟨inside, rfl⟩, rfl⟩

theorem exists_execute_load_iff :
    (∃ after, machine.execute ⟨0xF, x, 0x6, 0x5⟩ = .ok after) ↔
      0 ≤ machine.index ∧ machine.index + (x + 1 : Nat) ≤ machine.memory.size := by
  simp only [execute_load_eq_ok_iff, Memory.readBlock_eq_ok_iff (Nat.succ_pos x.val)]
  constructor
  · rintro ⟨_, _, ⟨inside, _⟩, _⟩
    exact inside
  · intro inside
    exact ⟨_, _, ⟨inside, rfl⟩, rfl⟩

end Words

/-- Storing and loading registers take each other back. Between a store and a load everything but the index
and memory may change. -/
theorem store_and_load_undo (machine : Machine) (x : Nibble) :
    ((∃ stored, machine.execute ⟨0xF, x, 0x5, 0x5⟩ = .ok stored) ↔
      ∃ loaded, machine.execute ⟨0xF, x, 0x6, 0x5⟩ = .ok loaded) ∧
    (∀ stored changed : Machine, machine.execute ⟨0xF, x, 0x5, 0x5⟩ = .ok stored →
      changed.index = stored.index → changed.memory = stored.memory →
        ∃ loaded, changed.execute ⟨0xF, x, 0x6, 0x5⟩ = .ok loaded ∧
          ∀ name, loaded.register name =
            if name ≤ x then machine.register name else changed.register name) ∧
    ∀ loaded, machine.execute ⟨0xF, x, 0x6, 0x5⟩ = .ok loaded →
      ∃ stored, loaded.execute ⟨0xF, x, 0x5, 0x5⟩ = .ok stored ∧ stored.memory = machine.memory := by
  have length := machine.length_registersUpTo x
  have nonempty : 0 < (machine.registersUpTo x).length := by omega
  refine ⟨exists_execute_store_iff.trans exists_execute_load_iff.symm, ?_, ?_⟩
  · intro stored changed done sameIndex sameMemory
    rcases execute_store_eq_ok_iff.mp done with ⟨memory, written, rfl⟩
    have read : changed.memory.readBlock changed.index (x + 1 : Nat) =
        .ok (machine.registers.toList.take (x + 1)) := by
      rw [sameIndex, sameMemory, ← map_ofInt_registersUpTo, ← length]
      exact Memory.readBlock_of_writeBlock nonempty written
    refine ⟨_, execute_load_eq_ok_iff.mpr ⟨_, read, rfl⟩, ?_⟩
    intro name
    exact getElem_loadBytes_take changed.registers machine.registers x name.isLt
  · intro loaded done
    rcases execute_load_eq_ok_iff.mp done with ⟨bytes, read, made⟩
    have count : bytes.length = x + 1 := Memory.length_readBlock (Nat.succ_pos x.val) read
    have held : (loaded.registersUpTo x).map UInt8.ofInt = bytes := by
      rw [map_ofInt_registersUpTo, made, ← count]
      exact take_toList_loadBytes (by omega)
    have written : loaded.memory.writeBlock loaded.index (loaded.registersUpTo x) =
        .ok machine.memory := by
      have sameMemory : loaded.memory = machine.memory := by rw [made]
      have sameIndex : loaded.index = machine.index := by rw [made]
      rw [sameMemory, sameIndex]
      exact Memory.writeBlock_of_readBlock (Nat.succ_pos x.val) read held
    exact ⟨_, execute_store_eq_ok_iff.mpr ⟨_, written, rfl⟩, rfl⟩

/-- Three registers and the last three bytes of memory. -/
theorem store_and_load_undo_of_last_block :
    let machine : Machine := { index := 0xFFD, registers := .ofFn fun name => .ofNat name }
    ∃ stored reloaded loaded restored, machine.execute ⟨0xF, 2, 0x5, 0x5⟩ = .ok stored ∧
      { stored with registers := .replicate 16 0x77 }.execute ⟨0xF, 2, 0x6, 0x5⟩ = .ok reloaded ∧
      reloaded.register 2 = 2 ∧ reloaded.register 3 = 0x77 ∧
      machine.execute ⟨0xF, 2, 0x6, 0x5⟩ = .ok loaded ∧
      loaded.execute ⟨0xF, 2, 0x5, 0x5⟩ = .ok restored ∧ restored.memory = machine.memory := by
  intro machine
  have size : machine.memory.size = 0x1000 := Memory.size_blank _
  have fits : 0 ≤ machine.index ∧ machine.index + ((2 : Nibble).val + 1 : Nat) ≤ machine.memory.size := by
    rw [size]
    decide
  rcases exists_execute_store_iff.mpr fits with ⟨stored, stores⟩
  rcases store_and_load_undo machine 2 with ⟨both, back, forth⟩
  rcases both.mp ⟨stored, stores⟩ with ⟨loaded, loads⟩
  rcases back stored { stored with registers := .replicate 16 0x77 } stores rfl rfl with
    ⟨reloaded, reloads, registers⟩
  rcases forth loaded loads with ⟨restored, restores, memory⟩
  exact ⟨stored, reloaded, loaded, restored, stores, reloads, registers 2, registers 3, loads,
    restores, memory⟩

end Chip8.Machine
