import Chip8.Memory
import Chip8.Proofs.Outcome

/-!
# When memory refuses an access

An access fails exactly if it needs an address that memory does not have, and the fault names the
first such address. From an address that is not negative this is the address itself if it is beyond
the end, and otherwise the end.
-/

namespace Chip8.Memory

theorem position_eq_ok_iff {memory : Memory} {address : Int} {position : Nat} :
    memory.position address = .ok position ↔ address = position ∧ position < memory.size := by
  unfold Memory.position
  split
  · simp only [Except.ok.injEq]
    omega
  · simp only [reduceCtorEq, false_iff]
    omega

theorem position_eq_error_iff {memory : Memory} {address : Int} {fault : Fault} :
    memory.position address = .error fault ↔
      (address < 0 ∨ memory.size ≤ address) ∧ fault = .addressOutOfRange address := by
  unfold Memory.position
  split
  · simp only [reduceCtorEq, false_iff]
    omega
  · simp only [Except.error.injEq]
    constructor
    · rintro rfl
      exact ⟨by omega, rfl⟩
    · rintro ⟨_, rfl⟩
      rfl

theorem read_eq_ok_iff {memory : Memory} {address : Int} {byte : UInt8} :
    memory.read address = .ok byte ↔
      (0 ≤ address ∧ address < memory.size) ∧ memory.bytes.getD address.toNat 0 = byte := by
  simp only [read, bind_eq_ok_iff, position_eq_ok_iff, Except.ok.injEq]
  constructor
  · rintro ⟨position, ⟨rfl, inside⟩, rfl⟩
    simp [inside]
  · rintro ⟨⟨nonneg, inside⟩, rfl⟩
    exact ⟨address.toNat, ⟨by omega, by omega⟩, rfl⟩

theorem read_eq_error_iff {memory : Memory} {address : Int} {fault : Fault} :
    memory.read address = .error fault ↔
      (address < 0 ∨ memory.size ≤ address) ∧ fault = .addressOutOfRange address := by
  simp [read, bind_eq_error_iff, position_eq_error_iff]

theorem blockPosition_eq_ok_iff {memory : Memory} {address : Int} {length start : Nat}
    (nonempty : 0 < length) :
    memory.blockPosition address length = .ok start ↔
      address = start ∧ start + length ≤ memory.size := by
  simp only [blockPosition, bind_eq_ok_iff, position_eq_ok_iff]
  constructor
  · rintro ⟨found, ⟨rfl, inside⟩, checked⟩
    split at checked
    next fits =>
      cases checked
      exact ⟨rfl, fits⟩
    next => cases checked
  · rintro ⟨rfl, fits⟩
    exact ⟨start, ⟨rfl, by omega⟩, if_pos fits⟩

theorem blockPosition_eq_error_iff {memory : Memory} {address : Int} {length : Nat} {fault : Fault}
    (nonneg : 0 ≤ address) (nonempty : 0 < length) :
    memory.blockPosition address length = .error fault ↔
      memory.size < address + length ∧ fault = .addressOutOfRange (max address memory.size) := by
  simp only [blockPosition, bind_eq_error_iff, position_eq_ok_iff, position_eq_error_iff]
  constructor
  · rintro (⟨outside, rfl⟩ | ⟨start, ⟨rfl, inside⟩, refused⟩)
    · refine ⟨by omega, ?_⟩
      rw [Int.max_eq_left (by omega)]
    · split at refused
      · cases refused
      · cases refused
        refine ⟨by omega, ?_⟩
        rw [Int.max_eq_right (by omega)]
  · rintro ⟨passes, rfl⟩
    by_cases outside : (memory.size : Int) ≤ address
    · left
      rw [Int.max_eq_left outside]
      exact ⟨Or.inr outside, rfl⟩
    · right
      refine ⟨address.toNat, ⟨by omega, by omega⟩, ?_⟩
      rw [if_neg (by omega), Int.max_eq_right (by omega)]

theorem readBlock_eq_error_iff {memory : Memory} {address : Int} {length : Nat} {fault : Fault}
    (nonneg : 0 ≤ address) :
    memory.readBlock address length = .error fault ↔
      (0 < length ∧ memory.size < address + length) ∧
        fault = .addressOutOfRange (max address memory.size) := by
  unfold readBlock
  split
  next positive =>
    simp only [bind_eq_error_iff, reduceCtorEq, and_false, exists_false, or_false,
      Int.toNat_natCast]
    rw [blockPosition_eq_error_iff nonneg (by omega)]
    simp only [show 0 < length by omega, true_and]
  next notPositive =>
    simp only [reduceCtorEq, false_iff]
    omega

theorem writeBlock_eq_error_iff {memory : Memory} {address : Int} {values : List Int} {fault : Fault}
    (nonneg : 0 ≤ address) :
    memory.writeBlock address values = .error fault ↔
      (0 < values.length ∧ memory.size < address + values.length) ∧
        fault = .addressOutOfRange (max address memory.size) := by
  cases values with
  | nil => simp [writeBlock]
  | cons value rest =>
      simp only [writeBlock, bind_eq_error_iff, reduceCtorEq, and_false, exists_false, or_false]
      rw [blockPosition_eq_error_iff nonneg (by simp)]
      simp

end Chip8.Memory
