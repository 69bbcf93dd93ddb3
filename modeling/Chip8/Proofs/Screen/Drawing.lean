import Chip8.Proofs.Screen.InPlace
import Mathlib

/-!
# Drawing as a flip of pixels

A screen is seen as the set of its lit pixels, and a sprite as the area of the pixels that it has bits on,
around both edges. Drawing makes of the one set its symmetric difference with the other, and tells whether
they have met. This is shown for a row first, on a screen that has room for it, so that no two bits fall on
one pixel. Rows that fall on different lines of the screen then add up.
-/

namespace Chip8

open scoped symmDiff

/-- Fewer steps than there are places around an edge lead to different places. -/
theorem emod_add_inj {size first second : Nat} {start : Int} (firstInside : first < size)
    (secondInside : second < size) (equal : (start + first) % size = (start + second) % size) :
    first = second := by
  have apart := Int.emod_eq_emod_iff_emod_sub_eq_zero.mp equal
  rw [show start + first - (start + second) = (first : Int) - second by omega] at apart
  have gone : (first : Int) - second = 0 :=
    Int.eq_zero_of_dvd_of_natAbs_lt_natAbs (Int.dvd_of_emod_eq_zero apart) (by omega)
  omega

/-- A place after the next step is a place from the next one on. -/
theorem add_natCast_succ (start : Int) (index : Nat) :
    start + ((index + 1 : Nat) : Int) = start + 1 + index := by
  omega

namespace Screen

def litPixels (screen : Screen) : Set (Nat × Nat) := {pixel | screen.lit pixel.1 pixel.2 = true}

/-- The pixels under the bits of a sprite row, around the edges of a screen. -/
def rowArea (width height : Nat) (x y : Int) (bits : List Bool) : Set (Nat × Nat) :=
  {pixel | ∃ index : Nat, bits[index]? = some true ∧ (pixel.1 : Int) = (x + index) % width ∧
    (pixel.2 : Int) = y % height}

/-- The pixels under the bits of sprite rows, one below the other. -/
def spriteArea (width height : Nat) (x y : Int) (rows : List (List Bool)) : Set (Nat × Nat) :=
  {pixel | ∃ (index : Nat) (bits : List Bool), rows[index]? = some bits ∧
    pixel ∈ rowArea width height x (y + index) bits}

/-- One screen is another one with the pixels of an area flipped, and it is told whether a lit pixel went
out. -/
structure Flips (area : Set (Nat × Nat)) (screen drawn : Screen) (collided : Bool) : Prop where
  size_eq : drawn.size = screen.size
  /-- Inside of the area the lit pixels go out and the others are lit. -/
  litPixels_eq : drawn.litPixels = screen.litPixels ∆ area
  collided_iff : collided = true ↔ (screen.litPixels ∩ area).Nonempty

theorem lit_eq_true_iff {screen : Screen} {x y : Nat} :
    screen.lit x y = true ↔
      ∃ (row : y < keptRows screen.width screen.height) (column : x < screen.width),
        screen.rows[y][x] = true := by
  rcases screen with ⟨width, height, rows⟩
  simp only [lit]
  by_cases row : y < keptRows width height
  · by_cases column : x < width
    · simp [row, column]
    · simp [row, column]
  · simp [row]

theorem keptRows_of_pos {width height : Nat} (columns : 0 < width) : keptRows width height = height := by
  cases width with
  | zero => cases columns
  | succ width => rfl

theorem lit_of_mem (screen : Screen) {x y : Nat} (rowOn : y < keptRows screen.width screen.height)
    (columnOn : x < screen.width) : screen.lit x y = screen.rows[y][x] := by
  rw [Bool.eq_iff_iff, lit_eq_true_iff]
  simp only [rowOn, columnOn, exists_true_left]

theorem lit_of_not_mem (screen : Screen) {x y : Nat}
    (off : ¬(y < keptRows screen.width screen.height ∧ x < screen.width)) :
    screen.lit x y = false := by
  rw [← Bool.not_eq_true, lit_eq_true_iff]
  rintro ⟨rowOn, columnOn, _⟩
  exact off ⟨rowOn, columnOn⟩

theorem lit_of_outside (screen : Screen) {x y : Nat}
    (outside : ¬(x < screen.width ∧ y < screen.height)) : screen.lit x y = false := by
  apply screen.lit_of_not_mem
  rintro ⟨inRows, inColumns⟩
  rw [keptRows_of_pos (Nat.zero_lt_of_lt inColumns)] at inRows
  exact outside ⟨inColumns, inRows⟩

theorem litPixels_blank (width height : Nat) : (blank width height).litPixels = ∅ := by
  ext ⟨x, y⟩
  simp only [litPixels, Set.mem_ofPred_eq, lit_eq_true_iff, Set.mem_empty_iff_false, iff_false]
  rintro ⟨row, column, set⟩
  rcases width with _ | width
  · cases column
  · rcases height with _ | height
    · cases row
    · change y < height + 1 at row
      change x < width + 1 at column
      change (Vector.replicate (height + 1) (Vector.replicate (width + 1) false))[y][x] = true at set
      simp at set

/-- A screen is told by its size and its lit pixels. -/
theorem eq_of_litPixels_eq {screen other : Screen} (size : screen.size = other.size)
    (lit : screen.litPixels = other.litPixels) : screen = other := by
  rcases screen with ⟨width, height, rows⟩
  rcases other with ⟨otherWidth, otherHeight, otherRows⟩
  simp only [Screen.size, Prod.mk.injEq, Int.natCast_inj] at size
  rcases size with ⟨rfl, rfl⟩
  congr
  apply Vector.ext
  intro y row
  apply Vector.ext
  intro x column
  have same := Set.ext_iff.mp lit (x, y)
  simp only [litPixels, Set.mem_ofPred_eq, lit_eq_true_iff, row, column, exists_true_left] at same
  exact Bool.eq_iff_iff.mpr same

namespace Flips

variable {screen drawn last : Screen} {area below : Set (Nat × Nat)} {collided collidedBelow : Bool}

theorem nothing (screen : Screen) : Flips ∅ screen screen false :=
  ⟨rfl, (symmDiff_bot _).symm, by simp⟩

/-- What a flip of an area leaves and tells is a matter of the screen and the area. -/
theorem unique {other : Screen} {otherCollided : Bool} (flips : Flips area screen drawn collided)
    (same : Flips area screen other otherCollided) : drawn = other ∧ collided = otherCollided := by
  constructor
  · exact eq_of_litPixels_eq (flips.size_eq.trans same.size_eq.symm)
      (flips.litPixels_eq.trans same.litPixels_eq.symm)
  · exact Bool.eq_iff_iff.mpr (flips.collided_iff.trans same.collided_iff.symm)

/-- Flips of areas that do not meet add up. -/
theorem append (first : Flips area screen drawn collided)
    (second : Flips below drawn last collidedBelow) (apart : Disjoint area below) :
    Flips (area ∪ below) screen last (collided || collidedBelow) where
  size_eq := second.size_eq.trans first.size_eq
  litPixels_eq := by
    have union : area ∪ below = area ∆ below := by
      rw [apart.symmDiff_eq_sup]
      rfl
    rw [second.litPixels_eq, first.litPixels_eq, symmDiff_assoc, union]
  collided_iff := by
    -- What the first flip changes lies outside of the second area.
    have untouched : drawn.litPixels ∩ below = screen.litPixels ∩ below := by
      rw [first.litPixels_eq]
      ext pixel
      have outside : pixel ∈ below → pixel ∉ area := fun inside inArea =>
        Set.disjoint_left.mp apart inArea inside
      simp only [Set.mem_inter_iff, Set.mem_symmDiff]
      tauto
    rw [Bool.or_eq_true, first.collided_iff, second.collided_iff, untouched, Set.inter_union_distrib_left,
      Set.union_nonempty]

/-- Flipping an area twice changes nothing, and the second flip puts out what the first one has lit. -/
theorem back (first : Flips area screen drawn collided)
    (second : Flips area drawn last collidedBelow) :
    last = screen ∧ (collidedBelow = true ↔ (area \ screen.litPixels).Nonempty) := by
  constructor
  · apply eq_of_litPixels_eq (second.size_eq.trans first.size_eq)
    rw [second.litPixels_eq, first.litPixels_eq, symmDiff_symmDiff_cancel_right]
  · have lit : drawn.litPixels ∩ area = area \ screen.litPixels := by
      rw [first.litPixels_eq]
      ext pixel
      simp only [Set.mem_inter_iff, Set.mem_symmDiff, Set.mem_sdiff]
      tauto
    rw [second.collided_iff, lit]

end Flips

section Row

variable {width : Nat} {old row : Vector Bool (width + 1)} {x : Int} {bits : List Bool}
  {column : Fin (width + 1)}

theorem columnAt_eq_iff (fits : Integer64.holds x) :
    columnAt width x = column ↔ (column.val : Int) = x % (width + 1 : Nat) := by
  have nonneg : 0 ≤ x % (width + 1 : Nat) := Int.emod_nonneg _ (by omega)
  have inside : x % (width + 1 : Nat) < (width + 1 : Nat) := Int.emod_lt_of_pos _ (by omega)
  have value : (columnAt width x).val = (x % (width + 1 : Nat)).toNat := by
    rw [columnAt, Integer64.wrap_of_holds fits, Fin.val_ofNat, Nat.mod_eq_of_lt (by omega)]
  rw [Fin.ext_iff, value]
  omega

/-- A column that no bit falls on stays as it is. -/
theorem getElem_flip_of_missed
    (missed : ∀ index < bits.length, columnAt width (x + index) ≠ column) :
    (flip old x bits row)[column] = row[column] := by
  induction bits generalizing x row with
  | nil => rfl
  | cons bit bits ih =>
      have head : columnAt width x ≠ column := by simpa using missed 0 (Nat.succ_pos _)
      have unequal : (columnAt width x).val ≠ column.val := fun equal => head (Fin.ext equal)
      have rest : ∀ index < bits.length, columnAt width (x + 1 + index) ≠ column := by
        intro index inside
        have later := missed (index + 1) (Nat.succ_lt_succ inside)
        rwa [add_natCast_succ] at later
      rw [flip, ih rest]
      simp [unequal]

/-- A column is left by the last bit that falls on it, which flips what was there before the row. -/
theorem getElem_flip_of_hit {index : Nat} (inside : index < bits.length)
    (hit : columnAt width (x + index) = column)
    (last : ∀ later < bits.length, index < later → columnAt width (x + later) ≠ column) :
    (flip old x bits row)[column] = (old[column] ^^ bits[index]) := by
  induction bits generalizing x row index with
  | nil => exact absurd inside (Nat.not_lt_zero index)
  | cons bit bits ih =>
      rw [flip]
      cases index with
      | zero =>
          have here : (columnAt width x).val = column.val := by simpa using congrArg Fin.val hit
          have missed : ∀ index < bits.length, columnAt width (x + 1 + index) ≠ column := by
            intro index inside
            rw [← add_natCast_succ]
            exact last (index + 1) (Nat.succ_lt_succ inside) (Nat.succ_pos _)
          rw [getElem_flip_of_missed missed]
          simp [here]
      | succ index =>
          rw [add_natCast_succ] at hit
          rw [ih (Nat.lt_of_succ_lt_succ inside) hit, List.getElem_cons_succ]
          intro later inside after
          rw [← add_natCast_succ]
          exact last (later + 1) (Nat.succ_lt_succ inside) (Nat.succ_lt_succ after)

theorem collides_eq_true_iff :
    collides old x bits = true ↔
      ∃ (index : Nat) (column : Fin (width + 1)), bits[index]? = some true ∧
        columnAt width (x + index) = column ∧ old[column] = true := by
  induction bits generalizing x with
  | nil => simp [collides]
  | cons bit bits ih =>
      simp only [collides, Bool.or_eq_true, Bool.and_eq_true, ih]
      constructor
      · rintro (⟨lit, set⟩ | ⟨index, column, set, hit, lit⟩)
        · exact ⟨0, _, by simp [set], by simp, lit⟩
        · exact ⟨index + 1, column, by simpa using set, by rwa [add_natCast_succ], lit⟩
      · rintro ⟨_ | index, column, set, hit, lit⟩
        · left
          simp only [List.getElem?_cons_zero, Option.some.injEq] at set
          have here : columnAt width x = column := by simpa using hit
          cases here
          exact ⟨lit, set⟩
        · right
          exact ⟨index, column, by simpa using set, by rwa [← add_natCast_succ], lit⟩

/-- On a screen with room for a row each column is flipped if a bit falls on it. -/
theorem getElem_flip_eq_true_iff (room : bits.length ≤ width + 1)
    (fits : ∀ index < bits.length, Integer64.holds (x + index)) :
    (flip old x bits old)[column] = true ↔
      Xor (old[column] = true)
        (∃ index : Nat, bits[index]? = some true ∧ columnAt width (x + index) = column) := by
  by_cases hit : ∃ index < bits.length, columnAt width (x + index) = column
  · rcases hit with ⟨index, inside, hit⟩
    have only : ∀ other < bits.length, columnAt width (x + other) = column → other = index := by
      intro other otherInside otherHit
      rw [columnAt_eq_iff (fits _ inside)] at hit
      rw [columnAt_eq_iff (fits _ otherInside)] at otherHit
      exact emod_add_inj (by omega) (by omega) (otherHit.symm.trans hit)
    rw [getElem_flip_of_hit inside hit fun later laterInside after laterHit =>
      absurd (only later laterInside laterHit) (Nat.ne_of_gt after)]
    have set_iff : (∃ index : Nat, bits[index]? = some true ∧ columnAt width (x + index) = column) ↔
        bits[index] = true := by
      constructor
      · rintro ⟨other, set, otherHit⟩
        rcases List.getElem?_eq_some_iff.mp set with ⟨otherInside, set⟩
        cases only other otherInside otherHit
        exact set
      · intro set
        exact ⟨index, by rw [List.getElem?_eq_getElem inside, set], hit⟩
    rw [set_iff]
    cases old[column] <;> cases bits[index] <;> simp [Xor]
  · have missed : ∀ index < bits.length, columnAt width (x + index) ≠ column :=
      fun index inside isHit => hit ⟨index, inside, isHit⟩
    have none : ¬∃ index : Nat, bits[index]? = some true ∧ columnAt width (x + index) = column := by
      rintro ⟨index, set, isHit⟩
      exact missed index (List.getElem?_eq_some_iff.mp set).1 isHit
    rw [getElem_flip_of_missed missed]
    simp [Xor, none]

end Row

section Grid

variable {width height : Nat} {rows : Vector (Vector Bool (width + 1)) (height + 1)} {x y : Int}
  {bits : List Bool}

theorem mem_litPixels_iff {column : Fin (width + 1)} {row : Fin (height + 1)} :
    (column.val, row.val) ∈ litPixels ⟨width + 1, height + 1, rows⟩ ↔ rows[row][column] = true := by
  constructor
  · intro lit
    rcases lit_eq_true_iff.mp lit with ⟨_, _, set⟩
    exact set
  · intro set
    exact lit_eq_true_iff.mpr ⟨row.isLt, column.isLt, set⟩

theorem mem_rowArea_iff {column : Fin (width + 1)} {row : Fin (height + 1)}
    (fits : ∀ index < bits.length, Integer64.holds (x + index)) :
    (column.val, row.val) ∈ rowArea (width + 1) (height + 1) x y bits ↔
      (row.val : Int) = y % (height + 1 : Nat) ∧
        ∃ index : Nat, bits[index]? = some true ∧ columnAt width (x + index) = column := by
  constructor
  · rintro ⟨index, set, hit, line⟩
    have inside := (List.getElem?_eq_some_iff.mp set).1
    exact ⟨line, index, set, (columnAt_eq_iff (fits index inside)).mpr hit⟩
  · rintro ⟨line, index, set, hit⟩
    have inside := (List.getElem?_eq_some_iff.mp set).1
    exact ⟨index, set, (columnAt_eq_iff (fits index inside)).mp hit, line⟩

theorem exists_fin_of_mem_litPixels {pixel : Nat × Nat}
    (lit : pixel ∈ litPixels ⟨width + 1, height + 1, rows⟩) :
    ∃ (column : Fin (width + 1)) (row : Fin (height + 1)), pixel = (column.val, row.val) := by
  rcases lit_eq_true_iff.mp lit with ⟨row, column, _⟩
  exact ⟨⟨pixel.1, column⟩, ⟨pixel.2, row⟩, rfl⟩

theorem exists_fin_of_mem_rowArea {pixel : Nat × Nat}
    (inArea : pixel ∈ rowArea (width + 1) (height + 1) x y bits) :
    ∃ (column : Fin (width + 1)) (row : Fin (height + 1)), pixel = (column.val, row.val) := by
  rcases inArea with ⟨index, _, column, row⟩
  have columnInside := Int.emod_lt_of_pos (x + index) (show (0 : Int) < (width + 1 : Nat) by omega)
  have rowInside := Int.emod_lt_of_pos y (show (0 : Int) < (height + 1 : Nat) by omega)
  rw [← column] at columnInside
  rw [← row] at rowInside
  exact ⟨⟨pixel.1, by omega⟩, ⟨pixel.2, by omega⟩, rfl⟩

/-- Flipping the columns of one row under bits flips the area of the bits. -/
theorem flips_set_flip {line : Fin (height + 1)} (line_eq : (line.val : Int) = y % (height + 1 : Nat))
    (room : bits.length ≤ width + 1) (fits : ∀ index < bits.length, Integer64.holds (x + index)) :
    Flips (rowArea (width + 1) (height + 1) x y bits) ⟨width + 1, height + 1, rows⟩
      ⟨width + 1, height + 1, rows.set line (flip rows[line] x bits rows[line])⟩
      (collides rows[line] x bits) where
  size_eq := rfl
  litPixels_eq := by
    -- Neither side has a pixel beyond the screen.
    have onScreen (column : Fin (width + 1)) (row : Fin (height + 1)) :
        (column.val, row.val) ∈ litPixels
            ⟨width + 1, height + 1, rows.set line (flip rows[line] x bits rows[line])⟩ ↔
          (column.val, row.val) ∈ litPixels ⟨width + 1, height + 1, rows⟩ ∆
            rowArea (width + 1) (height + 1) x y bits := by
      rw [Set.mem_symmDiff, mem_litPixels_iff, mem_litPixels_iff, mem_rowArea_iff fits]
      by_cases same : row = line
      · subst same
        have flipped : (flip rows[row] x bits rows[row])[column] = true ↔ _ :=
          getElem_flip_eq_true_iff room fits
        simpa [Xor, line_eq] using flipped
      · have unequal : line.val ≠ row.val := fun equal => same (Fin.ext equal.symm)
        have elsewhere : (row.val : Int) ≠ y % (height + 1 : Nat) := by omega
        have kept : (rows.set line (flip rows[line] x bits rows[line]))[row] = rows[row] := by
          simp [unequal]
        simp only [kept, elsewhere, false_and, not_false_eq_true, and_true, or_false]
    ext pixel
    constructor
    · intro lit
      rcases exists_fin_of_mem_litPixels lit with ⟨column, row, rfl⟩
      exact (onScreen column row).mp lit
    · intro flipped
      rcases id flipped with ⟨lit, _⟩ | ⟨inArea, _⟩
      · rcases exists_fin_of_mem_litPixels lit with ⟨column, row, rfl⟩
        exact (onScreen column row).mpr flipped
      · rcases exists_fin_of_mem_rowArea inArea with ⟨column, row, rfl⟩
        exact (onScreen column row).mpr flipped
  collided_iff := by
    rw [collides_eq_true_iff]
    constructor
    · rintro ⟨index, column, set, hit, lit⟩
      exact ⟨(column.val, line.val), mem_litPixels_iff.mpr lit,
        (mem_rowArea_iff fits).mpr ⟨line_eq, index, set, hit⟩⟩
    · rintro ⟨pixel, lit, inArea⟩
      rcases exists_fin_of_mem_litPixels lit with ⟨column, row, rfl⟩
      rcases (mem_rowArea_iff fits).mp inArea with ⟨row_eq, index, set, hit⟩
      have same : row = line := Fin.ext (by omega)
      rw [mem_litPixels_iff, same] at lit
      exact ⟨index, column, set, hit, lit⟩

end Grid

theorem getElem?_spriteRow_eq_some_true_iff {byte : UInt8} {column : Nat} :
    (spriteRow byte.toNat)[column]? = some true ↔
      column < 8 ∧ byte.toNat.testBit (7 - column) = true := by
  have small : ((byte.toNat : Int) % 0x100).toNat = byte.toNat := by
    have := byte.toNat_lt
    omega
  rw [spriteRow, small]
  by_cases inside : column < 8
  · simp [inside]
  · simp [inside]

/-- A sprite row flips the pixels under its bits. -/
theorem flips_draw {screen drawn : Screen} {x y value : Int} {collided : Bool}
    (room : 8 ≤ screen.width) (fits : ∀ index < 8, Integer64.holds (x + (index : Nat)))
    (done : screen.draw x y value = .ok (drawn, collided)) :
    Flips (rowArea screen.width screen.height x y (spriteRow value)) screen drawn collided := by
  unfold draw at done
  split at done
  · cases done
  · split at done
    · cases done
    · cases done
    next width height rows =>
      cases done
      apply flips_set_flip
      · have nonneg : 0 ≤ y % (height + 1 : Nat) := Int.emod_nonneg _ (by omega)
        have inside : y % (height + 1 : Nat) < (height + 1 : Nat) := Int.emod_lt_of_pos _ (by omega)
        rw [Fin.val_ofNat, Nat.mod_eq_of_lt (by omega)]
        omega
      · simpa using room
      · simpa using fits

theorem spriteArea_nil (width height : Nat) (x y : Int) : spriteArea width height x y [] = ∅ := by
  ext pixel
  simp [spriteArea]

theorem spriteArea_cons (width height : Nat) (x y : Int) (bits : List Bool) (rest : List (List Bool)) :
    spriteArea width height x y (bits :: rest) =
      rowArea width height x y bits ∪ spriteArea width height x (y + 1) rest := by
  ext pixel
  constructor
  · rintro ⟨_ | index, row, found, inRow⟩
    · cases found
      exact .inl (by simpa using inRow)
    · rw [add_natCast_succ] at inRow
      exact .inr ⟨index, row, found, inRow⟩
  · rintro (inRow | ⟨index, row, found, inRow⟩)
    · exact ⟨0, bits, rfl, by simpa using inRow⟩
    · exact ⟨index + 1, row, found, by rwa [add_natCast_succ]⟩

/-- A row and those below it do not meet if there are no more of them than the screen has. -/
theorem disjoint_rowArea_spriteArea {width height : Nat} {x y : Int} {bits : List Bool}
    {rest : List (List Bool)} (room : rest.length < height) :
    Disjoint (rowArea width height x y bits) (spriteArea width height x (y + 1) rest) := by
  rw [Set.disjoint_left]
  rintro pixel ⟨_, _, _, row⟩ ⟨index, _, found, _, _, _, rowBelow⟩
  have inside := (List.getElem?_eq_some_iff.mp found).1
  have same : (y + (0 : Nat)) % height = (y + (index + 1 : Nat)) % height := by
    rw [show y + ((0 : Nat) : Int) = y from Int.add_zero y,
      add_natCast_succ, ← row, ← rowBelow]
  have zero := emod_add_inj (by omega) (by omega) same
  omega

end Screen

namespace Machine

/-- A sprite flips the pixels under its bits, if the screen has room for it. -/
theorem flips_drawRows {screen drawn : Screen} {x y : Int} {rows : List UInt8} {collided : Bool}
    (room : 8 ≤ screen.width) (height : rows.length ≤ screen.height)
    (fits : ∀ index < 8, Integer64.holds (x + (index : Nat)))
    (done : drawRows screen x y rows = .ok (drawn, collided)) :
    Screen.Flips
      (Screen.spriteArea screen.width screen.height x y
        (rows.map fun row => Screen.spriteRow row.toNat))
      screen drawn collided := by
  induction rows generalizing screen y drawn collided with
  | nil =>
      cases done
      rw [List.map_nil, Screen.spriteArea_nil]
      exact .nothing screen
  | cons row rest ih =>
      simp only [drawRows, bind_eq_ok_iff] at done
      rcases done with ⟨⟨next, first⟩, firstDone, ⟨last, others⟩, othersDone, made⟩
      cases made
      have shorter : rest.length < screen.height := height
      have width_eq := Screen.width_draw firstDone
      have height_eq := Screen.height_draw firstDone
      have flips := Screen.flips_draw room fits firstDone
      have flipsBelow := ih (by rwa [width_eq]) (by rw [height_eq]; exact Nat.le_of_lt shorter) othersDone
      rw [width_eq, height_eq] at flipsBelow
      rw [List.map_cons, Screen.spriteArea_cons]
      exact flips.append flipsBelow (Screen.disjoint_rowArea_spriteArea (by simpa using shorter))

end Machine

end Chip8
