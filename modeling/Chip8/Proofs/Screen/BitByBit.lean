import Chip8.Proofs.Screen.Drawing

/-!
# Drawing bit by bit

A sprite row is drawn at once: all pixels under its bits are read, then all of them are written. A loop that
takes the bits one after the other, and looks at each pixel only when it comes to it, sees what it has drawn
itself. On a screen that is at least as wide as the row it never comes to a pixel twice, so it leaves the
same screen and tells the same collision.

The loop is followed by the area that it has drawn so far. A round adds one pixel to it, if the bit is set,
and no round before has touched this pixel.
-/

namespace Chip8.Screen

open scoped symmDiff

def flipPixel (screen : Screen) (column row : Nat) : Screen :=
  { screen with rows := .ofFn fun y => .ofFn fun x =>
      screen.rows[y][x] ^^ decide (x.val = column ∧ y.val = row) }

/-- One round of the loop. It looks at the pixel that a bit falls on, tells whether the bit puts it out, and
flips it if the bit is set. -/
def drawBit (x y : Int) (byte : UInt8) (state : Screen × Bool) (index : Nat) : Screen × Bool :=
  let (screen, collided) := state
  let column := ((x + index) % screen.width).toNat
  let row := (y % screen.height).toNat
  let bit := byte.toNat.testBit (7 - index)
  (if bit then screen.flipPixel column row else screen, collided || (screen.lit column row && bit))

/-- Draws the bits of a sprite row one after the other, from the left. -/
def drawBits (screen : Screen) (x y : Int) (byte : UInt8) : Screen × Bool :=
  (List.range 8).foldl (drawBit x y byte) (screen, false)

theorem lit_flipPixel {screen : Screen} {column row : Nat} (columnInside : column < screen.width)
    (rowInside : row < screen.height) (x y : Nat) :
    (screen.flipPixel column row).lit x y = (screen.lit x y ^^ decide (x = column ∧ y = row)) := by
  by_cases on : y < keptRows screen.width screen.height ∧ x < screen.width
  · rw [lit_of_mem screen on.1 on.2, lit_of_mem (screen.flipPixel column row) on.1 on.2]
    simp [flipPixel]
  · have elsewhere : ¬(x = column ∧ y = row) := by
      rintro ⟨rfl, rfl⟩
      rw [keptRows_of_pos (Nat.zero_lt_of_lt columnInside)] at on
      exact on ⟨rowInside, columnInside⟩
    rw [lit_of_not_mem screen on, lit_of_not_mem (screen.flipPixel column row) on]
    simp [elsewhere]

theorem flips_flipPixel {screen : Screen} {column row : Nat} (columnInside : column < screen.width)
    (rowInside : row < screen.height) :
    Flips {(column, row)} screen (screen.flipPixel column row) (screen.lit column row) where
  size_eq := rfl
  litPixels_eq := by
    ext ⟨x, y⟩
    simp only [Set.mem_symmDiff, Set.mem_singleton_iff, Prod.mk.injEq, litPixels, Set.mem_ofPred_eq,
      lit_flipPixel columnInside rowInside]
    by_cases here : x = column ∧ y = row
    · simp [here]
    · simp [here]
  collided_iff := by
    simp [litPixels, Set.Nonempty]

/-- The pixel under one bit of a sprite row, if the bit is set. -/
def bitArea (width height : Nat) (x y : Int) (byte : UInt8) (index : Nat) : Set (Nat × Nat) :=
  {pixel | byte.toNat.testBit (7 - index) = true ∧ (pixel.1 : Int) = (x + index) % width ∧
    (pixel.2 : Int) = y % height}

/-- The pixels under the first bits of a sprite row. -/
def bitsArea (width height : Nat) (x y : Int) (byte : UInt8) (count : Nat) : Set (Nat × Nat) :=
  {pixel | ∃ index < count, pixel ∈ bitArea width height x y byte index}

theorem bitsArea_succ (width height : Nat) (x y : Int) (byte : UInt8) (count : Nat) :
    bitsArea width height x y byte (count + 1) =
      bitsArea width height x y byte count ∪ bitArea width height x y byte count := by
  ext pixel
  simp only [bitsArea, Set.mem_union, Set.mem_ofPred_eq, Nat.lt_succ_iff_lt_or_eq]
  constructor
  · rintro ⟨index, inside | rfl, drawn⟩
    · exact .inl ⟨index, inside, drawn⟩
    · exact .inr drawn
  · rintro (⟨index, inside, drawn⟩ | drawn)
    · exact ⟨index, .inl inside, drawn⟩
    · exact ⟨count, .inr rfl, drawn⟩

theorem rowArea_spriteRow (width height : Nat) (x y : Int) (byte : UInt8) :
    rowArea width height x y (spriteRow byte.toNat) = bitsArea width height x y byte 8 := by
  ext pixel
  simp only [rowArea, bitsArea, bitArea, Set.mem_ofPred_eq, getElem?_spriteRow_eq_some_true_iff,
    and_assoc]

/-- No two bits of a row fall on one pixel if the screen has room for the row. -/
theorem disjoint_bitsArea_bitArea {width height : Nat} (x y : Int) (byte : UInt8) {count : Nat}
    (room : count < width) :
    Disjoint (bitsArea width height x y byte count) (bitArea width height x y byte count) := by
  rw [Set.disjoint_left]
  rintro pixel ⟨index, inside, _, column, _⟩ ⟨_, sameColumn, _⟩
  have same := emod_add_inj (Nat.lt_trans inside room) room (column.symm.trans sameColumn)
  omega

/-- A round draws the pixel of its bit. -/
theorem flips_drawBit (screen : Screen) (columns : 0 < screen.width) (rows : 0 < screen.height)
    (x y : Int) (byte : UInt8) (collided : Bool) (index : Nat) :
    ∃ hit, (drawBit x y byte (screen, collided) index).2 = (collided || hit) ∧
      Flips (bitArea screen.width screen.height x y byte index) screen
        (drawBit x y byte (screen, collided) index).1 hit := by
  have columnNonneg : 0 ≤ (x + index) % (screen.width : Int) := Int.emod_nonneg _ (by omega)
  have columnInside : (x + index) % (screen.width : Int) < screen.width := Int.emod_lt_of_pos _ (by omega)
  have rowNonneg : 0 ≤ y % (screen.height : Int) := Int.emod_nonneg _ (by omega)
  have rowInside : y % (screen.height : Int) < screen.height := Int.emod_lt_of_pos _ (by omega)
  refine ⟨_, rfl, ?_⟩
  simp only [drawBit]
  by_cases set : byte.toNat.testBit (7 - index) = true
  · have pixel : bitArea screen.width screen.height x y byte index =
        {(((x + index) % screen.width).toNat, (y % screen.height).toNat)} := by
      ext ⟨column, row⟩
      simp only [bitArea, set, true_and, Set.mem_ofPred_eq, Set.mem_singleton_iff, Prod.mk.injEq]
      omega
    rw [pixel, if_pos set, set, Bool.and_true]
    exact flips_flipPixel (by omega) (by omega)
  · have nothing : bitArea screen.width screen.height x y byte index = ∅ := by
      ext pixel
      simp [bitArea, set]
    rw [nothing, if_neg set, Bool.eq_false_iff.mpr set, Bool.and_false]
    exact .nothing screen

/-- After so many rounds the pixels under so many bits are drawn. -/
theorem flips_foldl_drawBit {screen : Screen} (rows : 0 < screen.height) (x y : Int) (byte : UInt8)
    {count : Nat} (room : count ≤ screen.width) :
    Flips (bitsArea screen.width screen.height x y byte count) screen
      ((List.range count).foldl (drawBit x y byte) (screen, false)).1
      ((List.range count).foldl (drawBit x y byte) (screen, false)).2 := by
  induction count with
  | zero =>
      have nothing : bitsArea screen.width screen.height x y byte 0 = ∅ := by
        ext pixel
        simp [bitsArea]
      rw [nothing]
      exact .nothing screen
  | succ count ih =>
      have before := ih (by omega)
      rw [List.range_succ, List.foldl_append, List.foldl_cons, List.foldl_nil]
      rcases drawn : (List.range count).foldl (drawBit x y byte) (screen, false) with ⟨left, collided⟩
      rw [drawn] at before
      have size := before.size_eq
      simp only [Screen.size, Prod.mk.injEq, Int.natCast_inj] at size
      rcases flips_drawBit left (by omega) (by omega) x y byte collided count with
        ⟨hit, told, round⟩
      rw [size.1, size.2] at round
      rw [bitsArea_succ, told]
      exact before.append round (disjoint_bitsArea_bitArea x y byte room)

/-- A sprite row drawn at once is the row drawn bit by bit, on every screen that has room for it and from every
column from which its columns can be counted. Both leave all pixels that are not under the row as they are. -/
theorem draw_eq_drawBits {screen : Screen} {x : Int} (room : 8 ≤ screen.width)
    (rows : 0 < screen.height) (first : Integer64.holds x) (last : Integer64.holds (x + 7)) (y : Int)
    (byte : UInt8) :
    screen.draw x y byte.toNat = .ok (screen.drawBits x y byte) ∧
      ∀ column row : Nat,
        (∀ index < 8, ¬((column : Int) = (x + (index : Nat)) % screen.width ∧
          (row : Int) = y % screen.height)) →
        (screen.drawBits x y byte).1.lit column row = screen.lit column row := by
  have fits : ∀ index < 8, Integer64.holds (x + (index : Nat)) := by
    intro index inside
    simp only [Integer64.holds_iff] at first last ⊢
    omega
  have bits : Flips _ screen (screen.drawBits x y byte).1 (screen.drawBits x y byte).2 :=
    flips_foldl_drawBit rows x y byte room
  rcases exists_draw_eq_ok (by omega) rows first y byte.toNat with ⟨drawn, collided, done⟩
  constructor
  · have atOnce := flips_draw room fits done
    rw [rowArea_spriteRow] at atOnce
    rcases atOnce.unique bits with ⟨rfl, rfl⟩
    exact done
  · intro column row missed
    have outside : (column, row) ∉ bitsArea screen.width screen.height x y byte 8 := by
      rintro ⟨index, inside, _, here⟩
      exact missed index inside here
    have lit := Set.ext_iff.mp bits.litPixels_eq (column, row)
    simp only [Set.mem_symmDiff, outside, not_false_eq_true, and_true, false_and, or_false] at lit
    exact Bool.eq_iff_iff.mpr lit

/-- The first and the last bit of a row meet on seven columns: at once the pixel is lit, bit by bit it is
lit and put out. -/
example : (((blank 7 1).draw 0 0 0x81).toOption.map fun drawn => drawn.1.lit 0 0) = some true ∧
    ((blank 7 1).drawBits 0 0 0x81).1.lit 0 0 = false := by
  decide

/-- A row around the right edge, from the least coordinate of thirty-two bits. One of its five bits puts out the
only pixel that was lit. -/
theorem draw_eq_drawBits_of_least_column :
    let screen := (blank 9 3).flipPixel 0 1
    let drawn := screen.drawBits (-0x80000000) 0x7FFFFFFF 0xB5
    screen.draw (-0x80000000) 0x7FFFFFFF (0xB5 : UInt8).toNat = .ok drawn ∧ drawn.2 = true ∧
      drawn.1.lit 7 1 = true ∧ drawn.1.lit 0 1 = false ∧ drawn.1.lit 6 1 = screen.lit 6 1 := by
  intro screen drawn
  rcases @draw_eq_drawBits screen (-0x80000000) (by decide) (by decide) (by decide) (by decide)
    0x7FFFFFFF 0xB5 with ⟨same, kept⟩
  refine ⟨same, by decide, by decide, by decide, kept 6 1 ?_⟩
  decide

end Chip8.Screen
