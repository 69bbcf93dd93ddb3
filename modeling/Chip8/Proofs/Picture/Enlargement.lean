import Chip8.Proofs.Extent
import Chip8.Proofs.Outcome
import Chip8.Proofs.Picture.Blocks
import Chip8.Proofs.Screen.Drawing

/-!
# Pictures in blocks

The enlarged picture of a screen has a block for each pixel of the screen. The colour of a block tells
whether its pixel is lit, so nothing is lost on the way if the two colours differ.

A picture is made whenever there is room for it. The arrays that come before it are no larger.
-/

namespace Chip8

open Raster

namespace Picture

/-! ### Room -/

/-- The bytes of pixels, so many in each, if each pixel becomes a block of a side. A direction without pixels
counts as one, since the bytes of the others must be countable as well. -/
def enlargedBytes (width height depth side : Nat) : Nat :=
  max 1 (height * side) * max 1 (width * side) * depth

/-- There is room for pixels of so many bytes, if each becomes a block of a side. -/
structure Roomy (room width height depth side : Nat) : Prop where
  side_holds : Integer64.holds side
  bytes_hold : Integer64.holds (enlargedBytes width height depth side)
  bytes_le : height = 0 ∨ width = 0 ∨ enlargedBytes width height depth side ≤ room

namespace Roomy

variable {room width height depth side : Nat}

/-- Less room is needed for fewer bytes in smaller blocks. -/
theorem of_le {fewer smaller : Nat} (roomy : Roomy room width height depth side) (shallow : fewer ≤ depth)
    (small : smaller ≤ side) : Roomy room width height fewer smaller := by
  have bytes : enlargedBytes width height fewer smaller ≤ enlargedBytes width height depth side := by
    unfold enlargedBytes
    gcongr
  refine ⟨?_, ?_, ?_⟩
  · have held := roomy.side_holds
    rw [Integer64.holds_natCast_iff] at held ⊢
    omega
  · have held := roomy.bytes_hold
    rw [Integer64.holds_natCast_iff] at held ⊢
    omega
  · rcases roomy.bytes_le with none | none | small
    · exact .inl none
    · exact .inr (.inl none)
    · exact .inr (.inr (bytes.trans small))

/-- An array is made that has no more bytes, and none if there are no pixels. -/
theorem checkExtents_eq_ok (roomy : Roomy room width height depth side) {counts : List Nat}
    {kind : ElementKind} (empty : height = 0 ∨ width = 0 → 0 ∈ counts)
    (fits : (counts.map (max 1)).prod * kind.size ≤ enlargedBytes width height depth side) :
    checkExtents room counts kind = .ok () := by
  apply Chip8.checkExtents_eq_ok
  · have held := roomy.bytes_hold
    rw [Integer64.holds_natCast_iff] at held ⊢
    omega
  · rcases roomy.bytes_le with none | none | small
    · exact .inl (empty (.inl none))
    · exact .inl (empty (.inr none))
    · exact .inr (fits.trans small)

/-- Neither direction alone has more elements than there are bytes. -/
theorem directions_hold (roomy : Roomy room width height depth side) (deep : 0 < depth) :
    Integer64.holds (height * side : Nat) ∧ Integer64.holds (width * side : Nat) := by
  have bytes_lt := Integer64.holds_natCast_iff.mp roomy.bytes_hold
  simp only [Integer64.holds_natCast_iff]
  refine ⟨lt_of_le_of_lt ?_ bytes_lt, lt_of_le_of_lt ?_ bytes_lt⟩
  · calc height * side
        ≤ max 1 (height * side) * 1 * 1 := by simp
      _ ≤ enlargedBytes width height depth side := by unfold enlargedBytes; gcongr; simp; omega
  · calc width * side
        ≤ 1 * max 1 (width * side) * 1 := by simp
      _ ≤ enlargedBytes width height depth side := by unfold enlargedBytes; gcongr; simp; omega

end Roomy

/-- What comes before an enlarged picture is made, and so is the picture. -/
theorem checkSide_of_roomy {room width height depth : Nat} {scale : Int} (deep : 0 < depth)
    (roomy : Roomy room width height depth scale.toNat) :
    checkSide room width height depth scale = .ok () := by
  unfold checkSide
  split
  next => rfl
  next large =>
    obtain ⟨side, rfl⟩ : ∃ side : Nat, scale = side := ⟨scale.toNat, by omega⟩
    rw [Int.toNat_natCast] at roomy
    rcases roomy.directions_hold deep with ⟨rows_hold, columns_hold⟩
    have made (columns : Nat) (columns_le : columns ≤ width * side) (empty : width = 0 → columns = 0) :
        ∃ counts, extents room [((height * side : Nat) : Int), (columns : Int), (depth : Int)] .byte =
          .ok counts := by
      apply @exists_extents_of_checkExtents room [height * side, columns, depth] .byte
      apply roomy.checkExtents_eq_ok
      · rintro (rfl | none)
        · simp
        · simp [empty none]
      · simp only [enlargedBytes, List.map_cons, List.map_nil, List.prod_cons, List.prod_nil,
          ElementKind.size, mul_one, ← mul_assoc]
        gcongr
        omega
    rcases made width (Nat.le_mul_of_pos_right _ (by omega)) id with ⟨_, wide⟩
    rcases made (width * side) le_rfl (by rintro rfl; simp) with ⟨_, enlarged⟩
    dsimp only
    rw [roomy.side_holds, ← Int.natCast_mul, ← Int.natCast_mul, Integer64.wrap_of_holds rows_hold,
      Integer64.wrap_of_holds columns_hold, wide, enlarged]
    rfl

/-! ### Colours -/

end Picture

/-- The colour of a pixel: three amounts of a byte each. -/
def Pixel.color (pixel : Pixel) : Color :=
  .ofAmounts pixel.red.toNat pixel.green.toNat pixel.blue.toNat

theorem Color.byteOf_toNat (byte : UInt8) : byteOf byte.toNat = .ok byte := by
  have inside : byte.toNat < 0x100 := byte.toNat_lt
  simp only [byteOf]
  rw [if_pos (by omega)]
  simp [UInt8.ofInt, Int.emod_eq_of_lt (Int.natCast_nonneg _) (by omega : (byte.toNat : Int) < 256)]

@[simp]
theorem Color.pixel_color (pixel : Pixel) (pixels : Nat) : pixel.color.pixel pixels = .ok pixel := by
  simp [Color.pixel, Pixel.color, Color.ofAmounts, byteOf_toNat, bind, Except.bind, pure, Except.pure]

namespace Picture

/-! ### The picture of a screen -/

variable {screen : Screen} {lit unlit : Pixel}

theorem rectangular_ofScreen (screen : Screen) (lit unlit : Pixel) :
    (ofScreen screen lit unlit).Rectangular where
  rows_size := by
    simp only [ofScreen, Screen.allRows, Array.size_map]
    split
    next => simp
    next columns => simp [Screen.keptRows_of_pos (Nat.pos_of_ne_zero columns)]
  row_size := by
    intro row mem
    simp only [ofScreen, Screen.allRows, Array.mem_map] at mem
    rcases mem with ⟨line, isLine, rfl⟩
    split at isLine
    next none => simp [(Array.mem_replicate.mp isLine).2, ofScreen, none]
    next =>
      rcases Array.mem_map.mp isLine with ⟨original, -, rfl⟩
      simp [ofScreen]

theorem pixelAt_ofScreen {row column : Nat} (inRows : row < screen.height)
    (inColumns : column < screen.width) :
    (ofScreen screen lit unlit).pixelAt row column = if screen.lit column row then lit else unlit := by
  have columns : 0 < screen.width := Nat.zero_lt_of_lt inColumns
  have kept : row < Screen.keptRows screen.width screen.height := by
    rwa [Screen.keptRows_of_pos columns]
  simp [pixelAt_eq_getElem?, ofScreen, Screen.allRows, Nat.ne_of_gt columns, kept, inColumns,
    screen.lit_of_mem kept inColumns]

/-- The enlarged picture of a screen has a block for each pixel of the screen. -/
theorem blocks_enlarge_ofScreen (screen : Screen) (lit unlit : Pixel) {scale : Int} (positive : 1 ≤ scale) :
    ((ofScreen screen lit unlit).enlarge scale).Blocks screen.width screen.height scale.toNat
      fun x y => if screen.lit x y then lit else unlit := by
  apply ((rectangular_ofScreen screen lit unlit).blocks_enlarge positive).congr
  intro x inColumns y inRows
  exact pixelAt_ofScreen inRows inColumns

variable {room : Nat}

/-- In two colours of bytes the picture of a screen is painted if there is room for it. -/
theorem paint_of_roomy (roomy : Roomy room screen.width screen.height 3 1) (lit unlit : Pixel) :
    paint room screen ⟨lit.color, unlit.color⟩ = .ok (ofScreen screen lit unlit) := by
  have copied : checkExtents room [screen.width, screen.height] .truth = .ok () := by
    apply roomy.checkExtents_eq_ok
    · rintro (none | none) <;> simp [none]
    · simp only [enlargedBytes, List.map_cons, List.map_nil, List.prod_cons, List.prod_nil,
        ElementKind.size, mul_one, Nat.mul_comm (max 1 screen.width)]
      omega
  have black : checkExtents room [screen.height, screen.width, 3] .byte = .ok () := by
    apply roomy.checkExtents_eq_ok
    · rintro (none | none) <;> simp [none]
    · simp [enlargedBytes, ElementKind.size, mul_assoc]
  have picked : checkExtents room [screen.height, screen.width] .truth = .ok () := by
    apply roomy.checkExtents_eq_ok
    · rintro (none | none) <;> simp [none]
    · simp only [enlargedBytes, List.map_cons, List.map_nil, List.prod_cons, List.prod_nil,
        ElementKind.size, mul_one]
      omega
  unfold paint
  rw [copied, black, picked, Color.pixel_color, Color.pixel_color]
  rfl

/-- In two colours of bytes a picture for which there is room is enlarged if the side of its blocks allows
it. -/
theorem render_color (roomy : Roomy room screen.width screen.height 3 1) (lit unlit : Pixel) (scale : Int) :
    render room screen scale ⟨lit.color, unlit.color⟩ =
      (checkSide room screen.width screen.height 3 scale).map fun _ =>
        (ofScreen screen lit unlit).enlarge scale := by
  unfold render
  rw [paint_of_roomy roomy]
  rfl

/-! ### The way back -/

/-- The screen whose pixels are lit where their block has a colour. -/
def recover (picture : Picture) (side : Nat) (lit : Pixel) : Screen where
  width := picture.width / side
  height := picture.height / side
  rows := Vector.ofFn fun row => Vector.ofFn fun column => picture.blockColor side column row = lit

theorem lit_recover {picture : Picture} {side x y : Nat} (inColumns : x < picture.width / side)
    (inRows : y < picture.height / side) :
    (recover picture side lit).lit x y = decide (picture.blockColor side x y = lit) := by
  have columns : 0 < (recover picture side lit).width := Nat.zero_lt_of_lt inColumns
  have kept : y < Screen.keptRows (recover picture side lit).width (recover picture side lit).height := by
    rwa [Screen.keptRows_of_pos columns]
  rw [Screen.lit_of_mem _ kept inColumns]
  simp [recover]

/-- Blocks in two different colours tell the screen that they show. -/
theorem recover_eq {picture : Picture} {side : Nat}
    (blocks : picture.Blocks screen.width screen.height side
      fun x y => if screen.lit x y then lit else unlit)
    (positive : 0 < side) (differ : lit ≠ unlit) : recover picture side lit = screen := by
  have width_eq : picture.width / side = screen.width := by
    simp [blocks.width_eq, positive]
  have height_eq : picture.height / side = screen.height := by
    simp [blocks.height_eq, positive]
  apply Screen.eq_of_litPixels_eq
  · simp [Screen.size, recover, width_eq, height_eq]
  · ext ⟨x, y⟩
    simp only [Screen.litPixels, Set.mem_ofPred_eq]
    by_cases inside : x < screen.width ∧ y < screen.height
    · rcases inside with ⟨inColumns, inRows⟩
      rw [lit_recover (by rwa [width_eq]) (by rwa [height_eq]),
        blocks.blockColor_eq positive inColumns inRows]
      cases screen.lit x y <;> simp [differ.symm]
    · have outside := screen.lit_of_outside inside
      have unrecovered : (recover picture side lit).lit x y = false := by
        apply Screen.lit_of_outside
        simpa [recover, width_eq, height_eq] using inside
      rw [outside, unrecovered]

end Picture

end Chip8
