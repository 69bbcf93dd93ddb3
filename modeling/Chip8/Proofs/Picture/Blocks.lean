import Chip8.Picture.Basic
import Mathlib.Algebra.BigOperators.Group.List.Basic
import Mathlib.Algebra.Order.Ring.Nat
import Mathlib.Tactic.GCongr

/-!
# Rows in blocks

Enlarged rows are made of blocks, one for each element. They are seen through the element in each row and
column: enlarging divides both by the side of the blocks. What is done to every element alike keeps the
blocks.
-/

namespace Chip8

namespace Raster

variable {Element Other : Type} {count : Nat}

/-! ### Rows -/

/-- There are as many rows as are told, and as many elements in each. -/
structure Rectangular (raster : Raster Element) : Prop where
  rows_size : raster.rows.size = raster.height
  row_size : ∀ row ∈ raster.rows, row.size = raster.width

@[simp]
theorem size_repeatEach (count : Nat) (elements : Array Element) :
    (repeatEach count elements).size = elements.size * count := by
  rcases elements with ⟨elements⟩
  simp [repeatEach]

theorem mem_of_mem_repeatEach {element : Element} {elements : Array Element}
    (mem : element ∈ repeatEach count elements) : element ∈ elements := by
  simp only [repeatEach, Array.mem_flatMap, Array.mem_replicate] at mem
  rcases mem with ⟨original, isElement, -, rfl⟩
  exact isElement

theorem getElem?_repeatEach (positive : 0 < count) (elements : Array Element) (index : Nat) :
    (repeatEach count elements)[index]? = elements[index / count]? := by
  rcases elements with ⟨elements⟩
  simp only [repeatEach, ← Array.getElem?_toList, Array.toList_flatMap, Array.toList_replicate]
  induction elements generalizing index with
  | nil => simp
  | cons element elements ih =>
      rw [List.flatMap_cons, List.getElem?_append, List.length_replicate]
      split
      next inside => simp [inside, Nat.div_eq_of_lt]
      next beyond =>
        obtain ⟨rest, rfl⟩ := Nat.exists_eq_add_of_le (Nat.le_of_not_lt beyond)
        simp [ih, Nat.add_div_left rest positive]

theorem blockSide_pos (scale : Int) : 0 < blockSide scale := by
  simp [blockSide]

theorem blockSide_of_positive {scale : Int} (positive : 1 ≤ scale) : blockSide scale = scale.toNat := by
  simp only [blockSide]
  omega

/-- Enlarging adds no elements that were not there. -/
theorem exists_mem_of_mem_enlarge {raster : Raster Element} {scale : Int} {row : Array Element}
    {element : Element} (isRow : row ∈ (raster.enlarge scale).rows) (isElement : element ∈ row) :
    ∃ original ∈ raster.rows, element ∈ original := by
  rcases Array.mem_map.mp (mem_of_mem_repeatEach isRow) with ⟨original, mem, rfl⟩
  exact ⟨original, mem, mem_of_mem_repeatEach isElement⟩

theorem Rectangular.enlarge {raster : Raster Element} (rectangular : raster.Rectangular) (scale : Int) :
    (raster.enlarge scale).Rectangular where
  rows_size := by simp [Raster.enlarge, rectangular.rows_size]
  row_size := by
    intro row mem
    simp only [Raster.enlarge] at mem ⊢
    rcases Array.mem_map.mp (mem_of_mem_repeatEach mem) with ⟨original, isRow, rfl⟩
    rw [size_repeatEach, rectangular.row_size original isRow]

theorem Rectangular.map {raster : Raster Element} (rectangular : raster.Rectangular)
    (change : Element → Other) : (raster.map change).Rectangular where
  rows_size := by simp [Raster.map, rectangular.rows_size]
  row_size := by
    intro row mem
    rcases Array.mem_map.mp mem with ⟨original, isRow, rfl⟩
    rw [Array.size_map, rectangular.row_size original isRow]
    rfl

/-! ### Blocks -/

variable [Inhabited Element] [Inhabited Other]

theorem pixelAt_eq_getElem? (raster : Raster Element) (row column : Nat) :
    raster.pixelAt row column = (raster.rows[row]? >>= fun elements => elements[column]?).getD default := by
  simp only [pixelAt, Array.getD_eq_getD_getElem?]
  cases raster.rows[row]? <;> simp

/-- An element of enlarged rows is the one that its block was. -/
theorem pixelAt_enlarge (raster : Raster Element) (scale : Int) (row column : Nat) :
    (raster.enlarge scale).pixelAt row column =
      raster.pixelAt (row / blockSide scale) (column / blockSide scale) := by
  simp only [pixelAt_eq_getElem?, enlarge, getElem?_repeatEach (blockSide_pos scale), Array.getElem?_map]
  cases raster.rows[row / blockSide scale]? with
  | none => rfl
  | some elements => simp [getElem?_repeatEach (blockSide_pos scale)]

theorem Rectangular.pixelAt_map {raster : Raster Element} (rectangular : raster.Rectangular)
    (change : Element → Other) {row column : Nat} (inRows : row < raster.height)
    (inColumns : column < raster.width) :
    (raster.map change).pixelAt row column = change (raster.pixelAt row column) := by
  have rows : row < raster.rows.size := by rwa [rectangular.rows_size]
  have columns : column < raster.rows[row].size := by
    rwa [rectangular.row_size _ (Array.getElem_mem rows)]
  simp [pixelAt_eq_getElem?, Raster.map, rows, columns]

/-- Rows are made of so many blocks of a side, in columns and rows, and each block of one element. -/
structure Blocks (raster : Raster Element) (width height side : Nat) (colorOf : Nat → Nat → Element) :
    Prop where
  rectangular : raster.Rectangular
  width_eq : raster.width = width * side
  height_eq : raster.height = height * side
  pixelAt_eq : ∀ row < raster.height, ∀ column < raster.width,
    raster.pixelAt row column = colorOf (column / side) (row / side)

/-- What a block is made of: its corner. -/
def blockColor (raster : Raster Element) (side x y : Nat) : Element :=
  raster.pixelAt (y * side) (x * side)

/-- Enlarging makes a block of every element. -/
theorem Rectangular.blocks_enlarge {raster : Raster Element} (rectangular : raster.Rectangular)
    {scale : Int} (positive : 1 ≤ scale) :
    (raster.enlarge scale).Blocks raster.width raster.height scale.toNat
      fun x y => raster.pixelAt y x where
  rectangular := rectangular.enlarge scale
  width_eq := by rw [← blockSide_of_positive positive]; rfl
  height_eq := by rw [← blockSide_of_positive positive]; rfl
  pixelAt_eq := by
    intro row _ column _
    rw [pixelAt_enlarge, blockSide_of_positive positive]

namespace Blocks

variable {raster : Raster Element} {width height side : Nat} {colorOf other : Nat → Nat → Element}

theorem congr (blocks : raster.Blocks width height side colorOf)
    (same : ∀ x < width, ∀ y < height, colorOf x y = other x y) :
    raster.Blocks width height side other where
  rectangular := blocks.rectangular
  width_eq := blocks.width_eq
  height_eq := blocks.height_eq
  pixelAt_eq := by
    intro row inRows column inColumns
    rw [blocks.pixelAt_eq row inRows column inColumns]
    rw [blocks.height_eq, Nat.mul_comm] at inRows
    rw [blocks.width_eq, Nat.mul_comm] at inColumns
    exact same _ (Nat.div_lt_of_lt_mul inColumns) _ (Nat.div_lt_of_lt_mul inRows)

theorem map (blocks : raster.Blocks width height side colorOf) (change : Element → Other) :
    (raster.map change).Blocks width height side fun x y => change (colorOf x y) where
  rectangular := blocks.rectangular.map change
  width_eq := blocks.width_eq
  height_eq := blocks.height_eq
  pixelAt_eq := by
    intro row inRows column inColumns
    rw [blocks.rectangular.pixelAt_map change inRows inColumns,
      blocks.pixelAt_eq row inRows column inColumns]

theorem blockColor_eq (blocks : raster.Blocks width height side colorOf) (positive : 0 < side) {x y : Nat}
    (inColumns : x < width) (inRows : y < height) : raster.blockColor side x y = colorOf x y := by
  have corner := blocks.pixelAt_eq (y * side) (by rw [blocks.height_eq]; gcongr) (x * side)
    (by rw [blocks.width_eq]; gcongr)
  rwa [Nat.mul_div_cancel _ positive, Nat.mul_div_cancel _ positive] at corner

theorem toBlockColor (blocks : raster.Blocks width height side colorOf) (positive : 0 < side) :
    raster.Blocks width height side (raster.blockColor side) := by
  apply blocks.congr
  intro x inColumns y inRows
  exact (blocks.blockColor_eq positive inColumns inRows).symm

end Blocks

end Raster

end Chip8
