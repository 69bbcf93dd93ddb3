import Chip8.Extent
import Mathlib.Algebra.BigOperators.Group.List.Lemmas
import Mathlib.Algebra.Order.BigOperators.GroupWithZero.List
import Mathlib.Algebra.Order.Ring.Nat

/-!
# Arrays that are made

An array is made if its bytes can be counted and there is room for them. A direction without elements counts
as one, so that the others must be countable as well, but such an array needs no room.
-/

namespace Chip8

theorem Integer64.holds_natCast_iff {number : Nat} : holds number ↔ number < 0x8000000000000000 := by
  rw [holds_iff]
  omega

theorem ElementKind.size_pos (kind : ElementKind) : 0 < kind.size := by
  cases kind <;> decide

variable {room : Nat} {counts : List Nat} {kind : ElementKind}

theorem elements_filter_ne_zero (counts : List Nat) :
    elements (counts.filter (· ≠ 0)) = (counts.map (max 1)).prod := by
  rw [elements, ← List.prod_eq_foldl]
  induction counts with
  | nil => rfl
  | cons count counts ih => rcases count with _ | count <;> simp_all

/-- No direction alone has more elements than the whole array has bytes. -/
theorem le_bytes_of_mem {count : Nat} (mem : count ∈ counts) :
    count ≤ (counts.map (max 1)).prod * kind.size := by
  have positive : 0 < (counts.map (max 1)).prod := by
    apply List.prod_pos
    simp only [List.mem_map, forall_exists_index, and_imp]
    rintro _ other - rfl
    omega
  calc count
      ≤ max 1 count := le_max_right 1 count
    _ ≤ (counts.map (max 1)).prod := Nat.le_of_dvd positive (List.dvd_prod (List.mem_map_of_mem mem))
    _ ≤ (counts.map (max 1)).prod * kind.size := Nat.le_mul_of_pos_right _ kind.size_pos

/-- An array is made if all its bytes can be counted, and there is room for them if there are any. -/
theorem extents_natCast_eq_ok
    (bytes_hold : Integer64.holds ((counts.map (max 1)).prod * kind.size : Nat))
    (bytes_le : 0 ∈ counts ∨ (counts.map (max 1)).prod * kind.size ≤ room) :
    extents room (counts.map Nat.cast) kind = .ok counts := by
  have same : (counts.map (Nat.cast : Nat → Int)).map Int.toNat = counts := by
    simp [Function.comp_def]
  have held : (counts.map Nat.cast).any (fun number => !Integer64.holds number) = false := by
    rw [List.any_map, List.any_eq_false]
    intro count mem
    have small : Integer64.holds (count : Int) = true := by
      rw [Integer64.holds_natCast_iff] at bytes_hold ⊢
      exact lt_of_le_of_lt (le_bytes_of_mem mem) bytes_hold
    rw [Function.comp_apply, small]
    decide
  have natural : (counts.map (Nat.cast : Nat → Int)).any (· < 0) = false := by
    simp
  have kept : ¬(!counts.contains 0 && decide (room < (counts.map (max 1)).prod * kind.size)) = true := by
    simp only [Bool.and_eq_true, Bool.not_eq_true', List.contains_eq_mem, decide_eq_false_iff_not,
      decide_eq_true_eq]
    rintro ⟨full, large⟩
    rcases bytes_le with empty | small
    · exact full empty
    · exact absurd large (Nat.not_lt.mpr small)
  unfold extents
  dsimp only
  rw [held, natural, same, elements_filter_ne_zero, bytes_hold, if_neg (by decide), if_neg (by decide),
    if_neg (by decide), if_neg kept]

theorem checkExtents_eq_ok (bytes_hold : Integer64.holds ((counts.map (max 1)).prod * kind.size : Nat))
    (bytes_le : 0 ∈ counts ∨ (counts.map (max 1)).prod * kind.size ≤ room) :
    checkExtents room counts kind = .ok () := by
  rw [checkExtents, extents_natCast_eq_ok bytes_hold bytes_le]
  rfl

theorem exists_extents_of_checkExtents (checked : checkExtents room counts kind = .ok ()) :
    ∃ made, extents room (counts.map Nat.cast) kind = .ok made := by
  rcases found : extents room (counts.map Nat.cast) kind with fault | made
  · rw [checkExtents, found] at checked
    cases checked
  · exact ⟨made, rfl⟩

end Chip8
