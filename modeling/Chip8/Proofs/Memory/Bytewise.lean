import Chip8.Proofs.Memory.Contents

/-!
# Blocks byte by byte

A block is checked once, before anything of it is read or written. This comes to the same as reading or
writing its bytes one after the other, each with a check of its own, except that a block of which some byte
is refused is refused as a whole: no memory comes out of it, and whoever holds the old one keeps it. The
fault is the one that the first refused byte gives.

Both follow from one equation for each kind of access: a block is its first byte and the block of the others.
-/

namespace Chip8.Memory

/-- Writes values as single bytes, one after the other from an address on, up to the first write that is
refused. -/
def writeEach (memory : Memory) (address : Int) : List Int → Except Fault Memory
  | [] => .ok memory
  | value :: rest => do
    let written ← memory.write address value
    writeEach written (address + 1) rest

/-- Reads so many single bytes, one after the other from an address on, up to the first read that is
refused. -/
def readEach (memory : Memory) (address : Int) : Nat → Except Fault (List UInt8)
  | 0 => .ok []
  | length + 1 => do
    let byte ← memory.read address
    let rest ← readEach memory (address + 1) length
    .ok (byte :: rest)

/-- The first of `length` addresses in a row that memory does not have. -/
structure FirstMissing (memory : Memory) (address : Int) (length : Nat) (missing : Int) : Prop where
  mem : address ≤ missing ∧ missing < address + length
  outside : missing < 0 ∨ memory.size ≤ missing
  before (earlier : Int) (begun : address ≤ earlier) (early : earlier < missing) :
    0 ≤ earlier ∧ earlier < memory.size

section Position

variable {memory written : Memory} {address missing other : Int} {length start : Nat} {fault : Fault}

theorem FirstMissing.unique (first : memory.FirstMissing address length missing)
    (same : memory.FirstMissing address length other) : other = missing := by
  rcases Int.lt_trichotomy other missing with early | equal | late
  · have inside := first.before other same.mem.1 early
    have outside := same.outside
    omega
  · exact equal
  · have inside := same.before missing first.mem.1 late
    have outside := first.outside
    omega

theorem exists_firstMissing (refused : memory.blockPosition address length = .error fault)
    (nonempty : 0 < length) :
    ∃ missing, memory.FirstMissing address length missing ∧ fault = .addressOutOfRange missing := by
  simp only [blockPosition, bind_eq_error_iff, position_eq_ok_iff, position_eq_error_iff] at refused
  rcases refused with ⟨outside, rfl⟩ | ⟨start, ⟨rfl, inside⟩, checked⟩
  · exact ⟨address, ⟨by omega, outside, by omega⟩, rfl⟩
  · split at checked
    next => cases checked
    next passes =>
      cases checked
      exact ⟨memory.size, ⟨by omega, .inr (Int.le_refl _), by omega⟩, rfl⟩

/-- A block is refused for the first of its addresses that memory does not have. -/
theorem blockPosition_eq_error_iff_firstMissing (nonempty : 0 < length) :
    memory.blockPosition address length = .error fault ↔
      ∃ missing, memory.FirstMissing address length missing ∧ fault = .addressOutOfRange missing := by
  constructor
  · intro refused
    exact exists_firstMissing refused nonempty
  · rintro ⟨missing, first, rfl⟩
    rcases located : memory.blockPosition address length with fault | start
    · rcases exists_firstMissing located nonempty with ⟨other, same, rfl⟩
      rw [first.unique same]
    · rcases (blockPosition_eq_ok_iff nonempty).mp located with ⟨rfl, fits⟩
      have inBlock := first.mem
      have outside := first.outside
      omega

theorem blockPosition_one : memory.blockPosition address 1 = memory.position address := by
  rcases located : memory.position address with fault | start
  · simp only [blockPosition, located, bind, Except.bind]
  · have inside := (position_eq_ok_iff.mp located).2
    simp only [blockPosition, located, bind, Except.bind]
    exact if_pos inside

theorem blockPosition_succ (more : 0 < length) :
    memory.blockPosition address (length + 1) =
      memory.position address >>= fun start =>
        memory.blockPosition (address + 1) length >>= fun _ => .ok start := by
  rcases located : memory.position address with fault | start
  · simp only [blockPosition, located, bind, Except.bind]
  · rcases position_eq_ok_iff.mp located with ⟨rfl, inside⟩
    by_cases next : start + 1 < memory.size
    · have found : memory.position (start + 1) = .ok (start + 1) :=
        position_eq_ok_iff.mpr ⟨rfl, next⟩
      simp only [blockPosition, located, found, bind, Except.bind]
      rw [show start + 1 + length = start + (length + 1) by omega]
      split <;> rfl
    · -- The second byte is the first one beyond the end, and the check of the block names the end.
      have atEnd : start + 1 = memory.size := by omega
      have missed : memory.position (start + 1) = .error (.addressOutOfRange memory.size) :=
        position_eq_error_iff.mpr ⟨by omega, by rw [← atEnd]; rfl⟩
      simp only [blockPosition, located, missed, bind, Except.bind]
      exact if_neg (by omega)

theorem blockPosition_eq_of_size_eq (size : written.size = memory.size) :
    written.blockPosition address length = memory.blockPosition address length := by
  simp only [blockPosition, position, size]

/-- The block behind the first byte starts right behind it. -/
theorem eq_succ_of_blockPosition {after : Nat} (located : memory.position address = .ok start)
    (behind : memory.blockPosition (address + 1) length = .ok after) (nonempty : 0 < length) :
    after = start + 1 := by
  rcases position_eq_ok_iff.mp located with ⟨rfl, _⟩
  rcases (blockPosition_eq_ok_iff nonempty).mp behind with ⟨follows, _⟩
  omega

end Position

section Write

variable {memory : Memory} {address : Int} {values : List Int} {fault : Fault}

/-- A block is written as its first byte is, and then the block of the others. -/
theorem writeBlock_cons (memory : Memory) (address value : Int) (rest : List Int) :
    memory.writeBlock address (value :: rest) =
      memory.write address value >>= fun written => written.writeBlock (address + 1) rest := by
  rcases located : memory.position address with fault | start
  · simp only [writeBlock, blockPosition, write, located, bind, Except.bind]
  · cases rest with
    | nil =>
        simp only [writeBlock, List.length_singleton, blockPosition_one, write, located, bind,
          Except.bind, store]
    | cons next others =>
        have nonempty : 0 < (next :: others).length := Nat.succ_pos _
        have size : (⟨memory.bytes.setIfInBounds start (UInt8.ofInt value)⟩ : Memory).size =
            memory.size := Array.size_setIfInBounds
        have whole : memory.blockPosition address (value :: next :: others).length = _ :=
          blockPosition_succ nonempty
        rw [located] at whole
        simp only [writeBlock, write, located, whole, blockPosition_eq_of_size_eq size, bind,
          Except.bind]
        rcases behind : memory.blockPosition (address + 1) (next :: others).length with fault | after
        · rfl
        · cases eq_succ_of_blockPosition located behind nonempty
          rfl

theorem writeBlock_eq_writeEach (memory : Memory) (address : Int) (values : List Int) :
    memory.writeBlock address values = memory.writeEach address values := by
  induction values generalizing memory address with
  | nil => rfl
  | cons value rest ih =>
      rw [writeBlock_cons, writeEach]
      apply bind_congr
      intro written
      exact ih written (address + 1)

theorem writeBlock_eq_error_iff_firstMissing :
    memory.writeBlock address values = .error fault ↔
      ∃ missing, memory.FirstMissing address values.length missing ∧
        fault = .addressOutOfRange missing := by
  cases values with
  | nil =>
      simp only [writeBlock, reduceCtorEq, false_iff]
      rintro ⟨missing, first, _⟩
      have inBlock := first.mem
      simp only [List.length_nil] at inBlock
      omega
  | cons value rest =>
      have nonempty : 0 < (value :: rest).length := Nat.succ_pos _
      rw [← blockPosition_eq_error_iff_firstMissing nonempty]
      simp [writeBlock, bind_eq_error_iff]

end Write

section Read

variable {memory : Memory} {address : Int} {length : Nat} {fault : Fault}

theorem toList_extract_of_lt {bytes : Array UInt8} {start last : Nat} (inside : start < bytes.size)
    (more : start < last) :
    (bytes.extract start last).toList =
      bytes.getD start 0 :: (bytes.extract (start + 1) last).toList := by
  have here : start < bytes.toList.length := by simpa using inside
  rw [Array.toList_extract, Array.toList_extract, List.extract_eq_take_drop,
    List.extract_eq_take_drop, List.drop_eq_getElem_cons here, Array.getElem_toList,
    Array.getElem_eq_getD 0, show last - start = last - (start + 1) + 1 by omega, List.take_succ_cons]

theorem readBlock_zero (memory : Memory) (address : Int) : memory.readBlock address 0 = .ok [] :=
  readBlock_eq_ok (.inl rfl)

/-- A block is read as its first byte is, and then the block of the others. -/
theorem readBlock_succ (memory : Memory) (address : Int) (length : Nat) :
    memory.readBlock address (length + 1 : Nat) =
      memory.read address >>= fun byte =>
        memory.readBlock (address + 1) length >>= fun rest => .ok (byte :: rest) := by
  rw [readBlock_of_pos (Nat.succ_pos length)]
  rcases located : memory.position address with fault | start
  · simp only [blockPosition, read, located, bind, Except.bind]
  · have inside : start < memory.bytes.size := (position_eq_ok_iff.mp located).2
    have parted := toList_extract_of_lt inside (show start < start + (length + 1) by omega)
    rcases Nat.eq_zero_or_pos length with rfl | positive
    · have nothing : (memory.bytes.extract (start + 1) (start + (0 + 1))).toList = [] := by simp
      rw [nothing] at parted
      simp only [blockPosition_one, read, located, Int.natCast_zero, readBlock_zero, parted, bind,
        Except.bind]
    · rw [readBlock_of_pos positive, blockPosition_succ positive]
      simp only [read, located, bind, Except.bind]
      rcases behind : memory.blockPosition (address + 1) length with fault | after
      · rfl
      · cases eq_succ_of_blockPosition located behind positive
        simp only [parted]
        rw [show start + 1 + length = start + (length + 1) by omega]

theorem readBlock_eq_readEach (memory : Memory) (address : Int) (length : Nat) :
    memory.readBlock address length = memory.readEach address length := by
  induction length generalizing address with
  | zero => exact readBlock_zero memory address
  | succ length ih => rw [readBlock_succ, readEach, ih]

theorem readBlock_eq_error_iff_firstMissing :
    memory.readBlock address length = .error fault ↔
      ∃ missing, memory.FirstMissing address length missing ∧
        fault = .addressOutOfRange missing := by
  rcases Nat.eq_zero_or_pos length with rfl | positive
  · rw [Int.natCast_zero, readBlock_zero]
    simp only [reduceCtorEq, false_iff]
    rintro ⟨missing, first, _⟩
    have inBlock := first.mem
    omega
  · rw [← blockPosition_eq_error_iff_firstMissing positive, readBlock_of_pos positive]
    simp [bind_eq_error_iff]

end Read

/-- Access to a block has the outcome of access to its bytes in a row: the same memory or the same bytes if
every byte is there, and otherwise only the fault of the first byte that is refused, which is the first
address that memory does not have. -/
theorem block_access_is_bytewise (memory : Memory) (address : Int) :
    (∀ values : List Int,
      memory.writeBlock address values = memory.writeEach address values ∧
        ∀ fault, memory.writeBlock address values = .error fault ↔
          ∃ missing, memory.FirstMissing address values.length missing ∧
            fault = .addressOutOfRange missing) ∧
      ∀ length : Nat,
        memory.readBlock address length = memory.readEach address length ∧
          ∀ fault, memory.readBlock address length = .error fault ↔
            ∃ missing, memory.FirstMissing address length missing ∧
              fault = .addressOutOfRange missing := by
  constructor
  · intro values
    exact ⟨writeBlock_eq_writeEach memory address values,
      fun _ => writeBlock_eq_error_iff_firstMissing⟩
  · intro length
    exact ⟨readBlock_eq_readEach memory address length,
      fun _ => readBlock_eq_error_iff_firstMissing⟩

end Chip8.Memory
