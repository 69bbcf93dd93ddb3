import Chip8.Proofs.Lfsr.Period
import Mathlib.Data.Nat.Bitwise

/-!
# Two bytes tell the seed

The bit that a step puts out is the bit that it feeds back, so what the register holds after sixteen steps is
what it has put out since, the first bit lowest. Two registers that put out the same sixteen bits have come to
the same state. Steps lose nothing, because they are linear and lead from no other state to zero. So these
registers were in the same state before, and they were started from seeds with the same low bits.
-/

namespace Chip8.Lfsr

open Function

section

variable {bits other : List Bool}

theorem ofBits_concat (bits : List Bool) (bit : Bool) :
    ofBits (bits ++ [bit]) = 2 * ofBits bits + bit.toNat := by
  rw [ofBits, List.foldl_concat, ofBits]

theorem ofBits_lt (bits : List Bool) : ofBits bits < 2 ^ bits.length := by
  induction bits using List.reverseRecOn with
  | nil => decide
  | append_singleton bits bit ih =>
      have digit := bit.toNat_lt
      rw [ofBits_concat, List.length_append, List.length_singleton, Nat.pow_succ]
      omega

theorem eq_of_ofBits_eq (length : bits.length = other.length) (same : ofBits bits = ofBits other) :
    bits = other := by
  induction bits using List.reverseRecOn generalizing other with
  | nil => exact (List.eq_nil_of_length_eq_zero length.symm).symm
  | append_singleton bits bit ih =>
      rcases List.eq_nil_or_concat other with rfl | ⟨rest, last, rfl⟩
      · simp at length
      · rw [ofBits_concat, List.concat_eq_append, ofBits_concat] at same
        have digit := bit.toNat_lt
        have lastDigit := last.toNat_lt
        have sameBits : bits = rest := by
          apply ih
          · simpa using length
          · omega
        have injective : Injective Bool.toNat := by decide
        have sameBit : bit = last := injective (by omega)
        rw [sameBits, sameBit, List.concat_eq_append]

end

theorem nextBits_add (register : Lfsr) (count more : Nat) :
    register.nextBits (count + more) =
      (((register.nextBits count).1.nextBits more).1,
        (register.nextBits count).2 ++ ((register.nextBits count).1.nextBits more).2) := by
  induction count generalizing register with
  | zero => simp [nextBits]
  | succ count ih => simp [nextBits, Nat.succ_add, ih]

theorem nextByte_eq_iff (first second : Lfsr) :
    first.nextByte.2 = second.nextByte.2 ↔ (first.nextBits 8).2 = (second.nextBits 8).2 := by
  have small := ofBits_lt (first.nextBits 8).2
  have otherSmall := ofBits_lt (second.nextBits 8).2
  rw [length_nextBits] at small otherSmall
  constructor
  · intro same
    apply eq_of_ofBits_eq
    · rw [length_nextBits, length_nextBits]
    · have numbers := congrArg UInt8.toNat same
      simp only [nextByte, UInt8.toNat_ofNat'] at numbers
      rwa [Nat.mod_eq_of_lt small, Nat.mod_eq_of_lt otherSmall] at numbers
  · intro same
    simp only [nextByte, same]

/-- Bytes are the same exactly if their bits are. -/
theorem nextBytes_eq_iff (first second : Lfsr) (count : Nat) :
    (first.nextBytes count).2 = (second.nextBytes count).2 ↔
      (first.nextBits (8 * count)).2 = (second.nextBits (8 * count)).2 := by
  induction count generalizing first second with
  | zero => simp [nextBytes, nextBits]
  | succ count ih =>
      have starts (register : Lfsr) : (register.nextBytes (count + 1)).2 =
          register.nextByte.2 :: ((register.nextBits 8).1.nextBytes count).2 := rfl
      have length : (first.nextBits 8).2.length = (second.nextBits 8).2.length := by
        rw [length_nextBits, length_nextBits]
      rw [starts, starts, List.cons.injEq, nextByte_eq_iff, ih, Nat.mul_succ, Nat.add_comm, nextBits_add,
        nextBits_add]
      constructor
      · rintro ⟨firstByte, rest⟩
        rw [firstByte, rest]
      · intro same
        exact List.append_inj same length

/-- A step moves the register down and puts the bit that is fed back on top. -/
theorem shift_eq_add {bits : Nat} (small : bits < 2 ^ 16) : shift bits = bits / 2 + 2 ^ 15 * feedback bits := by
  have half : bits >>> 1 < 2 ^ 15 := by
    rw [Nat.shiftRight_eq_div_pow]
    omega
  rw [shift, Nat.or_comm, ← Nat.shiftLeft_add_eq_or_of_lt half, Nat.shiftLeft_eq, Nat.shiftRight_eq_div_pow]
  omega

theorem nextBits_succ_natCast {bits : Nat} (small : bits < 2 ^ 16) (count : Nat) :
    nextBits ⟨bits⟩ (count + 1) =
      ((nextBits ⟨shift bits⟩ count).1, decide (feedback bits = 1) :: (nextBits ⟨shift bits⟩ count).2) := by
  simp only [nextBits, nextBit, lowBits_natCast small]

theorem toNat_fed (bits : Nat) : (decide (feedback bits = 1)).toNat = feedback bits := by
  rcases Nat.lt_succ_iff_lt_or_eq.mp (feedback_lt bits) with zero | one
  · have unfed : feedback bits = 0 := Nat.lt_one_iff.mp zero
    simp [unfed]
  · simp [one]

/-- After some steps the register holds what is left of it and above that what it has put out. -/
theorem register_nextBits_eq_add {bits count : Nat} (small : bits < 2 ^ 16) (inside : count ≤ 16) :
    (nextBits ⟨bits⟩ count).1 =
      ⟨(bits / 2 ^ count + 2 ^ (16 - count) * ofBits (nextBits ⟨bits⟩ count).2.reverse : Nat)⟩ := by
  -- The induction takes the first step off: its bit comes to lie below the bits of the steps that follow.
  induction count generalizing bits with
  | zero => simp [nextBits, ofBits]
  | succ count ih =>
      rcases Nat.exists_eq_add_of_le (show count ≤ 15 by omega) with ⟨above, places⟩
      have before : 2 ^ (16 - count) = 2 ^ above * 2 := by
        rw [show 16 - count = above + 1 by omega, Nat.pow_succ]
      have after : 16 - (count + 1) = above := by omega
      have down : shift bits / 2 ^ count = bits / 2 ^ (count + 1) + 2 ^ above * feedback bits := by
        rw [shift_eq_add small, places, Nat.pow_add, Nat.mul_assoc,
          Nat.add_mul_div_left _ _ (Nat.two_pow_pos count), Nat.div_div_eq_div_mul, Nat.pow_succ']
      rw [nextBits_succ_natCast small]
      dsimp only
      rw [ih (linear_shift.map_lt small) (Nat.le_of_succ_le inside), List.reverse_cons, ofBits_concat, toNat_fed,
        down, before, after, Nat.mul_add, Nat.mul_assoc]
      congr 2
      omega

/-- Steps lose nothing. -/
theorem injOn_iterate_shift (count : Nat) : Set.InjOn shift^[count] {bits | bits < 2 ^ 16} := by
  apply Set.InjOn.iterate
  · intro bits small other otherSmall same
    by_contra differ
    apply shift_ne_zero (fun zero => differ (Nat.eq_of_xor_eq_zero zero))
    rw [linear_shift.map_xor small otherSmall, same, Nat.xor_self]
  · intro bits small
    exact linear_shift.map_lt small

/-- Sixteen bits tell the state that they were put out from. -/
theorem eq_of_nextBits_eq {bits other : Nat} (small : bits < 2 ^ 16) (otherSmall : other < 2 ^ 16)
    (same : (nextBits ⟨bits⟩ 16).2 = (nextBits ⟨other⟩ 16).2) : bits = other := by
  have after : (nextBits ⟨bits⟩ 16).1 = (nextBits ⟨other⟩ 16).1 := by
    rw [register_nextBits_eq_add small (Nat.le_refl 16), register_nextBits_eq_add otherSmall (Nat.le_refl 16),
      Nat.div_eq_of_lt small, Nat.div_eq_of_lt otherSmall, same]
  rw [register_nextBits, register_nextBits, iterate_stepped_natCast small,
    iterate_stepped_natCast otherSmall, Lfsr.mk.injEq, Int.ofNat_inj] at after
  exact injOn_iterate_shift 16 small otherSmall after

/-- A seed with bits starts the register from them, sixteen steps on. -/
theorem exists_seeded_eq_ok {seed : Int} (nonzero : seed % 0x10000 ≠ 0) :
    ∃ bits < 2 ^ 16, seed % 0x10000 = (bits : Nat) ∧ seeded seed = .ok ⟨shift^[16] bits⟩ := by
  have small : (seed % 0x10000).toNat < 2 ^ 16 := by omega
  have number : seed % 0x10000 = ((seed % 0x10000).toNat : Nat) := by omega
  refine ⟨(seed % 0x10000).toNat, small, number, ?_⟩
  rw [seeded, if_neg nonzero, ← iterate_stepped_natCast small, ← register_nextBits, ← number, warmUpBits]

/-- Two seeds with bits start registers whose first two bytes are the same exactly if the low sixteen bits of
the seeds are. -/
theorem two_bytes_tell_seed (seed other : Int) (nonzero : seed % 0x10000 ≠ 0)
    (otherNonzero : other % 0x10000 ≠ 0) :
    ∃ first second, seeded seed = .ok first ∧ seeded other = .ok second ∧
      ((first.nextBytes 2).2 = (second.nextBytes 2).2 ↔ seed % 0x10000 = other % 0x10000) := by
  rcases exists_seeded_eq_ok nonzero with ⟨bits, small, number, first⟩
  rcases exists_seeded_eq_ok otherNonzero with ⟨otherBits, otherSmall, otherNumber, second⟩
  refine ⟨_, _, first, second, ?_⟩
  rw [number, otherNumber, nextBytes_eq_iff, Int.ofNat_inj]
  constructor
  · intro same
    have warm := (linear_shift.iterate 16).map_lt small
    have otherWarm := (linear_shift.iterate 16).map_lt otherSmall
    exact injOn_iterate_shift 16 small otherSmall (eq_of_nextBits_eq warm otherWarm same)
  · rintro rfl
    rfl

/-- Minus one and a number of seventeen bits start the same stream, and one below it starts another. -/
theorem two_bytes_tell_seed_of_minus_one :
    (∃ first second, seeded (-1) = .ok first ∧ seeded 0x1FFFF = .ok second ∧
      (first.nextBytes 2).2 = (second.nextBytes 2).2) ∧
    ∃ first second, seeded (-1) = .ok first ∧ seeded 0x1FFFE = .ok second ∧
      (first.nextBytes 2).2 ≠ (second.nextBytes 2).2 := by
  constructor
  · rcases two_bytes_tell_seed (-1) 0x1FFFF (by decide) (by decide) with ⟨first, second, started, other, same⟩
    exact ⟨first, second, started, other, same.mpr (by decide)⟩
  · rcases two_bytes_tell_seed (-1) 0x1FFFE (by decide) (by decide) with ⟨first, second, started, other, same⟩
    refine ⟨first, second, started, other, ?_⟩
    rw [ne_eq, same]
    decide

end Chip8.Lfsr
