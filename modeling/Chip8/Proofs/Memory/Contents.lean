import Chip8.Proofs.Memory

/-!
# What a write leaves in memory

Seen as a list of bytes, memory after a block was written is what was in front of the block, the low
eight bits of its values, and what was behind it. So a block that was written is read back, and one that is
written where it was read changes nothing.
-/

namespace Chip8.Memory

theorem toList_store {bytes : Array UInt8} {position : Nat} {values : List Int}
    (room : position + values.length ≤ bytes.size) :
    (store bytes position values).toList =
      bytes.toList.take position ++ values.map UInt8.ofInt ++
        bytes.toList.drop (position + values.length) := by
  induction values generalizing bytes position with
  | nil => simp [store]
  | cons value rest ih =>
      simp only [List.length_cons] at room
      have inside : position < bytes.toList.length := by
        rw [Array.length_toList]
        omega
      have written : (bytes.toList.set position (UInt8.ofInt value)).take (position + 1) =
          bytes.toList.take position ++ [UInt8.ofInt value] := by
        rw [List.take_add_one, List.take_set_of_le (Nat.le_refl _), List.getElem?_set_self inside]
        rfl
      have behind : (bytes.toList.set position (UInt8.ofInt value)).drop
          (position + 1 + rest.length) = bytes.toList.drop (position + 1 + rest.length) :=
        List.drop_set_of_lt (by omega)
      rw [store, ih (by simp only [Array.size_setIfInBounds]; omega), Array.toList_setIfInBounds,
        written, behind]
      simp [Nat.add_assoc, Nat.add_comm 1]

theorem writeBlock_eq_ok_iff {memory written : Memory} {address : Int} {values : List Int}
    (nonempty : 0 < values.length) :
    memory.writeBlock address values = .ok written ↔
      (0 ≤ address ∧ address + values.length ≤ memory.size) ∧
        written = ⟨store memory.bytes address.toNat values⟩ := by
  cases values with
  | nil => cases nonempty
  | cons value rest =>
      simp only [writeBlock, bind_eq_ok_iff, blockPosition_eq_ok_iff nonempty, Except.ok.injEq]
      constructor
      · rintro ⟨start, ⟨rfl, fits⟩, rfl⟩
        exact ⟨by omega, rfl⟩
      · rintro ⟨⟨nonneg, fits⟩, rfl⟩
        exact ⟨address.toNat, ⟨by omega, by omega⟩, rfl⟩

/-- A block that was written stands in memory where it was put, and nothing else has changed. -/
theorem toList_writeBlock {memory written : Memory} {address : Int} {values : List Int}
    (done : memory.writeBlock address values = .ok written) :
    written.bytes.toList =
      memory.bytes.toList.take address.toNat ++ values.map UInt8.ofInt ++
        memory.bytes.toList.drop (address.toNat + values.length) := by
  rcases Nat.eq_zero_or_pos values.length with empty | nonempty
  · cases List.length_eq_zero_iff.mp empty
    cases done
    simp
  · rcases (writeBlock_eq_ok_iff nonempty).mp done with ⟨⟨_, fits⟩, rfl⟩
    apply toList_store
    simp only [Memory.size] at fits
    omega

/-- Positions outside of the values that are stored keep their bytes. -/
theorem getElem?_store_of_outside {bytes : Array UInt8} {start position : Nat} {values : List Int}
    (outside : position < start ∨ start + values.length ≤ position) :
    (store bytes start values)[position]? = bytes[position]? := by
  induction values generalizing bytes start with
  | nil => rfl
  | cons value rest ih =>
      simp only [List.length_cons] at outside
      have different : start ≠ position := by omega
      rw [store, ih (by omega), Array.getElem?_setIfInBounds_ne different]

/-- Positions outside of a block that was written keep their bytes. -/
theorem getElem?_writeBlock_of_outside {memory written : Memory} {address : Int} {values : List Int}
    {position : Nat} (done : memory.writeBlock address values = .ok written)
    (outside : position < address ∨ address + values.length ≤ position) :
    written.bytes[position]? = memory.bytes[position]? := by
  rcases Nat.eq_zero_or_pos values.length with empty | nonempty
  · cases List.length_eq_zero_iff.mp empty
    cases done
    rfl
  · rcases (writeBlock_eq_ok_iff nonempty).mp done with ⟨⟨_, _⟩, rfl⟩
    exact getElem?_store_of_outside (by omega)

theorem readBlock_of_pos {memory : Memory} {address : Int} {length : Nat} (positive : 0 < length) :
    memory.readBlock address length = memory.blockPosition address length >>= fun start =>
      .ok (memory.bytes.extract start (start + length)).toList := by
  rw [readBlock, if_pos (by omega), Int.toNat_natCast]

theorem readBlock_eq_ok_iff {memory : Memory} {address : Int} {length : Nat} {bytes : List UInt8}
    (positive : 0 < length) :
    memory.readBlock address length = .ok bytes ↔
      (0 ≤ address ∧ address + length ≤ memory.size) ∧
        bytes = (memory.bytes.toList.drop address.toNat).take length := by
  have block (start : Nat) : (memory.bytes.extract start (start + length)).toList =
      (memory.bytes.toList.drop start).take length := by
    rw [Array.toList_extract, List.extract_eq_take_drop, Nat.add_sub_cancel_left]
  simp only [readBlock_of_pos positive, bind_eq_ok_iff, blockPosition_eq_ok_iff positive, block,
    Except.ok.injEq]
  constructor
  · rintro ⟨start, ⟨rfl, fits⟩, rfl⟩
    exact ⟨by omega, rfl⟩
  · rintro ⟨⟨nonneg, fits⟩, rfl⟩
    exact ⟨address.toNat, ⟨by omega, by omega⟩, rfl⟩

/-- A block that memory has all of is read, and holds the bytes from its address on. -/
theorem readBlock_eq_ok {memory : Memory} {address : Int} {length : Nat}
    (inside : length = 0 ∨ 0 ≤ address ∧ address + length ≤ memory.size) :
    memory.readBlock address length =
      .ok ((List.range length).map fun offset : Nat =>
        memory.bytes.getD (address + (offset : Int)).toNat 0) := by
  rcases Nat.eq_zero_or_pos length with rfl | positive
  · simp [readBlock, slice]
  · have fits : 0 ≤ address ∧ address + length ≤ memory.size := inside.resolve_left (by omega)
    have enough : address.toNat + length ≤ memory.bytes.toList.length := by
      rw [Array.length_toList]
      simp only [Memory.size] at fits
      omega
    refine (readBlock_eq_ok_iff positive).mpr ⟨fits, ?_⟩
    apply List.ext_getElem
    · simp only [List.length_map, List.length_range, List.length_take, List.length_drop]
      omega
    · intro offset inBlock _
      simp only [List.length_map, List.length_range] at inBlock
      have shifted : (address + (offset : Int)).toNat = address.toNat + offset := by omega
      simp only [List.getElem_map, List.getElem_range, List.getElem_take, List.getElem_drop,
        Array.getElem_toList, shifted]
      rw [Array.getElem_eq_getD]

/-- A block that was read has the length that was asked for. -/
theorem length_readBlock {memory : Memory} {address : Int} {length : Nat} {bytes : List UInt8}
    (positive : 0 < length) (done : memory.readBlock address length = .ok bytes) :
    bytes.length = length := by
  rcases (readBlock_eq_ok_iff positive).mp done with ⟨fits, rfl⟩
  simp only [Memory.size] at fits
  simp only [List.length_take, List.length_drop, Array.length_toList]
  omega

/-- A block that was written is read back. -/
theorem readBlock_of_writeBlock {memory written : Memory} {address : Int} {values : List Int}
    (nonempty : 0 < values.length) (done : memory.writeBlock address values = .ok written) :
    written.readBlock address values.length = .ok (values.map UInt8.ofInt) := by
  rcases (writeBlock_eq_ok_iff nonempty).mp done with ⟨inside, _⟩
  have front : (memory.bytes.toList.take address.toNat).length = address.toNat := by
    rw [List.length_take, Array.length_toList]
    simp only [Memory.size] at inside
    omega
  rw [readBlock_eq_ok_iff nonempty, size_writeBlock done, toList_writeBlock done, List.append_assoc,
    List.drop_left' front, List.take_left' (List.length_map _)]
  exact ⟨inside, rfl⟩

/-- A block that is written where it was read changes nothing. -/
theorem writeBlock_of_readBlock {memory : Memory} {address : Int} {length : Nat} {bytes : List UInt8}
    {values : List Int} (positive : 0 < length)
    (done : memory.readBlock address length = .ok bytes) (same : values.map UInt8.ofInt = bytes) :
    memory.writeBlock address values = .ok memory := by
  rcases (readBlock_eq_ok_iff positive).mp done with ⟨inside, found⟩
  have count : values.length = length := by
    have counted := length_readBlock positive done
    rwa [← same, List.length_map] at counted
  rcases written : memory.writeBlock address values with fault | after
  · rw [writeBlock_eq_error_iff inside.1] at written
    omega
  · have kept : after.bytes.toList = memory.bytes.toList := by
      rw [toList_writeBlock written, same, found, count, ← List.drop_drop, List.append_assoc,
        List.take_append_drop, List.take_append_drop]
    exact congrArg (fun bytes => Except.ok (Memory.mk bytes)) (Array.toList_inj.mp kept)

end Chip8.Memory
