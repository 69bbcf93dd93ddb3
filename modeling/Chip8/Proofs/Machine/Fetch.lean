import Chip8.Machine
import Chip8.Proofs.Memory

/-!
# Fetching

The word that a machine faces is read off memory as a number, high byte first. A cycle fetches
exactly this word, and it fails to fetch exactly if one of its two bytes is beyond the end of memory.
-/

namespace Chip8

namespace Word

theorem toNat_ofNat_of_lt {number : Nat} (small : number < 0x10000) :
    (ofNat number).toNat = number := by
  simp only [ofNat, toNat, Fin.ofNat]
  omega

@[simp]
theorem ofNat_toNat (word : Word) : ofNat word.toNat = word := by
  rcases word with ⟨family, x, y, n⟩
  simp only [ofNat, toNat, mk.injEq, Fin.ext_iff, Fin.ofNat]
  omega

theorem ofBytes_eq_iff {high low : UInt8} {word : Word} :
    ofBytes high low = word ↔ word.toNat = high.toNat * 0x100 + low.toNat := by
  have small : high.toNat * 0x100 + low.toNat < 0x10000 := by
    have := high.toNat_lt
    have := low.toNat_lt
    omega
  constructor
  · rintro rfl
    exact toNat_ofNat_of_lt small
  · intro equal
    rw [ofBytes, ← equal, ofNat_toNat]

end Word

namespace Machine

/-- The states in which a cycle is begun: all of memory is there, the index and the counter have
sixteen bits, and the host has lent a screen and a pad of the right size. -/
structure Regular (machine : Machine) : Prop where
  size_memory : machine.memory.size = 0x1000
  index_mem : 0 ≤ machine.index ∧ machine.index ≤ 0xFFFF
  counter_mem : 0 ≤ machine.counter ∧ machine.counter ≤ 0xFFFF
  size_screen : machine.screen.size = (64, 32)
  length_keys : machine.keys.length = 16

/-- The byte in memory at an address, and zero outside. -/
def byteAt (machine : Machine) (address : Int) : Nat := (machine.memory.bytes.getD address.toNat 0).toNat

/-- The word is in memory at the counter, with its high byte first. -/
def Faces (machine : Machine) (word : Word) : Prop :=
  machine.counter + 1 < 0x1000 ∧
    word.toNat = machine.byteAt machine.counter * 0x100 + machine.byteAt (machine.counter + 1)

/-- A word is fetched only from two addresses in memory. -/
theorem counter_mem_of_fetch {machine : Machine} {word : Word}
    (fetched : machine.fetch = .ok word) :
    0 ≤ machine.counter ∧ machine.counter + 1 < machine.memory.size := by
  simp only [fetch, bind_eq_ok_iff, Memory.read_eq_ok_iff] at fetched
  rcases fetched with ⟨_, ⟨inside, _⟩, _, ⟨nextInside, _⟩, _⟩
  exact ⟨inside.1, nextInside.2⟩

theorem fetch_eq_ok_iff {machine : Machine} (size : machine.memory.size = 0x1000)
    (nonneg : 0 ≤ machine.counter) {word : Word} :
    machine.fetch = .ok word ↔ machine.Faces word := by
  simp only [fetch, bind_eq_ok_iff, Memory.read_eq_ok_iff, size, Except.ok.injEq]
  constructor
  · rintro ⟨high, ⟨_, rfl⟩, low, ⟨inside, rfl⟩, made⟩
    exact ⟨inside.2, Word.ofBytes_eq_iff.mp made⟩
  · rintro ⟨inside, value⟩
    exact ⟨_, ⟨⟨nonneg, by omega⟩, rfl⟩, _, ⟨⟨by omega, inside⟩, rfl⟩,
      Word.ofBytes_eq_iff.mpr value⟩

theorem fetch_eq_error_iff {machine : Machine} (size : machine.memory.size = 0x1000)
    (nonneg : 0 ≤ machine.counter) {fault : Fault} :
    machine.fetch = .error fault ↔
      0x1000 ≤ machine.counter ∧ fault = .addressOutOfRange machine.counter ∨
        machine.counter = 0xFFF ∧ fault = .addressOutOfRange 0x1000 := by
  simp only [fetch, bind_eq_error_iff, Memory.read_eq_ok_iff, Memory.read_eq_error_iff, size,
    reduceCtorEq, and_false, exists_false, or_false]
  constructor
  · rintro (⟨outside, rfl⟩ | ⟨high, ⟨inside, _⟩, outside, rfl⟩)
    · left
      exact ⟨by omega, rfl⟩
    · right
      have atEnd : machine.counter = 0xFFF := by omega
      exact ⟨atEnd, by rw [atEnd]; rfl⟩
  · rintro (⟨outside, rfl⟩ | ⟨atEnd, rfl⟩)
    · left
      exact ⟨by omega, rfl⟩
    · right
      refine ⟨_, ⟨⟨nonneg, by omega⟩, rfl⟩, by omega, ?_⟩
      rw [atEnd]
      rfl

end Machine

end Chip8
