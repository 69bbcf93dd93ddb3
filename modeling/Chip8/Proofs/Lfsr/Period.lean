import Chip8.Proofs.Lfsr.Linear
import Chip8.Proofs.Lfsr.Running
import Mathlib.Dynamics.PeriodicPts.Lemmas
import Mathlib.Data.Int.Interval
import Mathlib.Tactic.NormNum.Prime

/-!
# The random register has full period

From any state that is not zero the register runs through all 65535 of them before it comes back. The
number of steps is the product of 3, 5, 17 and 257, so it is enough to follow one state: it has come back
after 65535 steps and has not after a third, a fifth, a seventeenth or a 257th of them. What is on the way
of one state is then everything there is, and all states share its period.

A byte takes eight steps. Eight has no factor in common with the period, so bytes do not come back earlier
either.
-/

namespace Chip8.Lfsr

open Function

/-- As many strides as the lowest `digits` binary digits of `count` say. What a stride makes of the highest bit
is `top`, and from digit to digit the stride is doubled. -/
def leap : Nat → Nat → Nat → Nat → Nat
  | 0, _, _, bits => bits
  | digits + 1, count, top, bits =>
      leap digits (count / 2) (imageBy top top) (if count % 2 = 1 then imageBy top bits else bits)

theorem leap_eq {digits count bits : Nat} (stride : Nat) (inside : count < 2 ^ digits) (small : bits < 2 ^ 16) :
    leap digits count (shift^[stride] (2 ^ 15)) bits = shift^[stride * count] bits := by
  induction digits generalizing count bits stride with
  | zero =>
      rw [Nat.lt_one_iff.mp inside]
      rfl
  | succ digits ih =>
      have halfInside : count / 2 < 2 ^ digits := by omega
      have image {bits : Nat} (small : bits < 2 ^ 16) :
          imageBy (shift^[stride] (2 ^ 15)) bits = shift^[stride] bits :=
        (commuting_iterate stride).imageBy_eq small
      have topSmall : shift^[stride] (2 ^ 15) < 2 ^ 16 := (commuting_iterate stride).map_lt (by decide)
      have squared : imageBy (shift^[stride] (2 ^ 15)) (shift^[stride] (2 ^ 15)) =
          shift^[stride + stride] (2 ^ 15) := by
        rw [image topSmall, iterate_add_apply]
      have halves := Nat.div_add_mod count 2
      rw [leap, squared]
      rcases Nat.mod_two_eq_zero_or_one count with even | odd
      · have number : (stride + stride) * (count / 2) = stride * count := by
          rw [← Nat.two_mul, Nat.mul_assoc, Nat.mul_left_comm, ← Nat.add_zero (2 * _), ← even, halves]
        rw [even, if_neg (by decide), ih _ halfInside small, number]
      · have number : (stride + stride) * (count / 2) + stride = stride * count := by
          rw [← Nat.two_mul, Nat.mul_assoc, Nat.mul_left_comm, ← Nat.mul_succ, Nat.succ_eq_add_one, ← odd, halves]
        rw [if_pos odd, image small, ih _ halfInside ((commuting_iterate stride).map_lt small),
          ← iterate_add_apply, number]

/-- Up to 65535 steps, worked out by leaps. -/
def ahead (count bits : Nat) : Nat := leap 16 count (shift (2 ^ 15)) bits

theorem ahead_eq {count bits : Nat} (inside : count < 2 ^ 16) (small : bits < 2 ^ 16) :
    ahead count bits = shift^[count] bits := by
  calc ahead count bits = shift^[1 * count] bits := leap_eq 1 inside small
    _ = shift^[count] bits := by rw [Nat.one_mul]

theorem ahead_whole : ahead 65535 1 = 1 := by decide +kernel

theorem ahead_parts : ∀ factor ∈ [3, 5, 17, 257], ahead (65535 / factor) 1 ≠ 1 := by decide +kernel

/-- The lowest bit comes back after 65535 steps and not before. -/
theorem minimalPeriod_shift : minimalPeriod shift 1 = 65535 := by
  have periodic : IsPeriodicPt shift 65535 1 := (ahead_eq (by decide) (by decide)).symm.trans ahead_whole
  rcases periodic.minimalPeriod_dvd with ⟨cofactor, product⟩
  by_cases whole : cofactor = 1
  · rw [product, whole, mul_one]
  · -- Otherwise a prime factor of the number of steps could be left out.
    exfalso
    rcases Nat.exists_prime_and_dvd whole with ⟨factor, prime, rest, rfl⟩
    have divides : factor ∣ 3 * 5 * 17 * 257 := by
      rw [Nat.mul_left_comm] at product
      exact ⟨_, product⟩
    have listed : factor ∈ [3, 5, 17, 257] := by
      simp only [prime.dvd_mul, Nat.prime_dvd_prime_iff_eq prime (by norm_num : Nat.Prime 3),
        Nat.prime_dvd_prime_iff_eq prime (by norm_num : Nat.Prime 5),
        Nat.prime_dvd_prime_iff_eq prime (by norm_num : Nat.Prime 17),
        Nat.prime_dvd_prime_iff_eq prime (by norm_num : Nat.Prime 257)] at divides
      simpa [or_assoc] using divides
    have early : 65535 / factor = minimalPeriod shift 1 * rest := by
      rw [product, Nat.mul_left_comm, Nat.mul_div_cancel_left _ prime.pos]
    have inside : 65535 / factor < 2 ^ 16 := Nat.lt_of_le_of_lt (Nat.div_le_self _ _) (by decide)
    have back : IsPeriodicPt shift (65535 / factor) 1 := by
      rw [early]
      exact (isPeriodicPt_minimalPeriod shift 1).mul_const rest
    exact ahead_parts factor listed ((ahead_eq inside (by decide)).trans back)

theorem register_nextBytes (register : Lfsr) (count : Nat) :
    (register.nextBytes count).1 = (stepped^[8])^[count] register := by
  induction count generalizing register with
  | zero => rfl
  | succ count ih =>
      rw [iterate_succ_apply, ← register_nextBits register 8]
      exact ih _

theorem lowBits_natCast {bits : Nat} (small : bits < 2 ^ 16) : lowBits ⟨bits⟩ = bits := by
  simp only [lowBits]
  omega

/-- On numbers of sixteen bits a step is a shift. -/
theorem stepped_natCast {bits : Nat} (small : bits < 2 ^ 16) : stepped ⟨bits⟩ = ⟨shift bits⟩ := by
  simp only [stepped, nextBit, lowBits_natCast small]

theorem iterate_stepped_natCast {bits : Nat} (small : bits < 2 ^ 16) (count : Nat) :
    stepped^[count] ⟨bits⟩ = ⟨shift^[count] bits⟩ := by
  induction count generalizing bits with
  | zero => rfl
  | succ count ih =>
      rw [iterate_succ_apply, iterate_succ_apply, stepped_natCast small, ih (linear_shift.map_lt small)]

theorem running_stepped {register : Lfsr} (running : register.Running) : register.stepped.Running :=
  running_nextBit running

theorem running_iterate {register : Lfsr} (running : register.Running) (count : Nat) :
    (stepped^[count] register).Running := by
  rw [← register_nextBits]
  exact running_nextBits running count

/-- The register in which only the lowest bit is set. -/
def unit : Lfsr := ⟨1⟩

theorem running_unit : unit.Running := ⟨Int.le_refl 1, by decide⟩

theorem minimalPeriod_unit : minimalPeriod stepped unit = 65535 := by
  rw [← minimalPeriod_shift, minimalPeriod_eq_minimalPeriod_iff]
  intro count
  have followed : stepped^[count] unit = ⟨shift^[count] 1⟩ := iterate_stepped_natCast (by decide) count
  rw [IsPeriodicPt, IsFixedPt, followed, IsPeriodicPt, IsFixedPt, unit, Lfsr.mk.injEq]
  norm_cast

/-- A map that keeps the register running and takes 65535 rounds to come back to a state is at every other
state once on the way. -/
theorem existsUnique_on_way {map : Lfsr → Lfsr}
    (keeps : ∀ {register : Lfsr}, register.Running → (map register).Running)
    {start target : Lfsr} (running : start.Running) (period : minimalPeriod map start = 65535)
    (targetRunning : target.Running) : ∃! count, count < 65535 ∧ map^[count] start = target := by
  have injective : Set.InjOn (map^[·] start) (Set.Iio 65535) := period ▸ iterate_injOn_Iio_minimalPeriod
  have stays (count : Nat) : (map^[count] start).Running := by
    induction count with
    | zero => exact running
    | succ count ih =>
        rw [iterate_succ_apply']
        exact keeps ih
  have onto : Set.SurjOn (fun count => (map^[count] start).state) (Finset.range 65535)
      (Finset.Icc (1 : Int) 0xFFFF) := by
    apply Finset.surjOn_of_injOn_of_card_le
    · intro count _
      exact Finset.mem_coe.mpr (Finset.mem_Icc.mpr (stays count))
    · intro count inside other otherInside same
      rw [Finset.coe_range] at inside otherInside
      exact injective inside otherInside (congrArg Lfsr.mk same)
    · rw [Int.card_Icc, Finset.card_range]
      rfl
  rcases onto (Finset.mem_coe.mpr (Finset.mem_Icc.mpr targetRunning)) with ⟨count, inside, reached⟩
  rw [Finset.coe_range] at inside
  refine ⟨count, ⟨inside, congrArg Lfsr.mk reached⟩, ?_⟩
  rintro other ⟨otherInside, otherReached⟩
  exact injective otherInside inside (otherReached.trans (congrArg Lfsr.mk reached).symm)

/-- All states that are not zero have the same period. -/
theorem minimalPeriod_stepped {register : Lfsr} (running : register.Running) :
    minimalPeriod stepped register = 65535 := by
  have onTheWay := existsUnique_on_way running_stepped running_unit minimalPeriod_unit running
  rcases onTheWay.exists with ⟨count, _, rfl⟩
  have comesBack : unit ∈ periodicPts stepped := by
    rw [← minimalPeriod_pos_iff_mem_periodicPts, minimalPeriod_unit]
    decide
  rw [minimalPeriod_apply_iterate comesBack, minimalPeriod_unit]

/-- Eight steps at a time do not come back earlier, as eight and 65535 have no common factor. -/
theorem minimalPeriod_byte {register : Lfsr} (running : register.Running) :
    minimalPeriod (stepped^[8]) register = 65535 := by
  have coprime : Nat.gcd 65535 8 = 1 := by decide
  rw [minimalPeriod_iterate_eq_div_gcd (by decide), minimalPeriod_stepped running, coprime]

/-- The register has full period: it comes back to a state after the multiples of 65535 steps only. Its
states between bytes, from any seed that is accepted, are all states but zero before one repeats. -/
theorem full_period :
    (∀ register : Lfsr, register.Running →
      ∀ count, (register.nextBits count).1 = register ↔ 65535 ∣ count) ∧
    ∀ seed start, seeded seed = .ok start →
      (∀ target : Lfsr, target.Running → ∃! count, count < 65535 ∧ (start.nextBytes count).1 = target) ∧
      ∀ count, (start.nextBytes count).1 = start ↔ 65535 ∣ count := by
  constructor
  · intro register running count
    rw [register_nextBits, ← minimalPeriod_stepped running]
    exact isPeriodicPt_iff_minimalPeriod_dvd
  · intro seed start accepted
    have running := running_of_seeded accepted
    simp only [register_nextBytes]
    constructor
    · intro target targetRunning
      exact existsUnique_on_way (fun running => running_iterate running 8) running
        (minimalPeriod_byte running) targetRunning
    · intro count
      rw [← minimalPeriod_byte running]
      exact isPeriodicPt_iff_minimalPeriod_dvd

/-- The register that the seed `0xACE1` starts does not come back after 32768 bits, nor does it after 257
bytes, and it comes to its own seed. -/
theorem full_period_of_fallback :
    ((⟨0xACE1⟩ : Lfsr).nextBits 32768).1 ≠ ⟨0xACE1⟩ ∧
      ∃ start, seeded 0xACE1 = .ok start ∧ (start.nextBytes 257).1 ≠ start ∧
        ∃ count < 65535, (start.nextBytes count).1 = ⟨0xACE1⟩ := by
  have running : (⟨0xACE1⟩ : Lfsr).Running := ⟨by decide, by decide⟩
  rcases full_period with ⟨bits, bytes⟩
  refine ⟨?_, _, rfl, ?_, ?_⟩
  · rw [ne_eq, bits _ running]
    decide
  · rw [ne_eq, (bytes 0xACE1 _ rfl).2]
    decide
  · rcases ((bytes 0xACE1 _ rfl).1 _ running).exists with ⟨count, inside, reached⟩
    exact ⟨count, inside, reached⟩

end Chip8.Lfsr
