import Chip8.Proofs.Picture.Blocks
import Chip8.Tool.Recorder

/-!
# What a recorder does

A recorder is counted on for frames of three amounts in each pixel, whose sides are above zero and fit into
thirty-two bits. The usual recorder does what it is counted on for.
-/

namespace Chip8.Recorder

/-- A frame of red, green and blue amounts that a recorder has room for. -/
structure Colored (frame : Frame) : Prop where
  rectangular : frame.Rectangular
  width_mem : 0 < frame.width ∧ frame.width < 0x80000000
  height_mem : 0 < frame.height ∧ frame.height < 0x80000000
  three : ∀ row ∈ frame.rows, ∀ pixel ∈ row, pixel.length = 3

/-- What a recorder is counted on for, at any rate and in any file. -/
structure Lawful (recorder : Recorder) : Prop where
  begins (file : String) (rate : Float) {width height : Int} (width_mem : 0 < width ∧ width < 0x80000000)
    (height_mem : 0 < height ∧ height < 0x80000000) : recorder.begin file rate (width, height) = .ok ()
  /-- Turning colours about is only that. -/
  turns {frame : Frame} (colored : Colored frame) : recorder.turn 3 frame = .ok (frame.map List.reverse)
  writes {frame : Frame} (colored : Colored frame) : recorder.write (frame.map List.reverse) = .ok ()

theorem blueFirst_eq_reverse {pixel : List UInt8} (three : pixel.length = 3) :
    blueFirst pixel = pixel.reverse := by
  unfold blueFirst
  split
  next => simp at three
  next => rw [List.take_of_length_le three.le]

theorem turned_three {frame : Frame} (colored : Colored frame) :
    turned 3 frame = .ok (frame.map List.reverse) := by
  have nonempty : frame.isEmpty = false := by
    simp [Raster.isEmpty, colored.width_mem.1.ne', colored.height_mem.1.ne']
  have same : frame.map blueFirst = frame.map List.reverse := by
    simp only [Raster.map, Raster.mk.injEq, true_and]
    apply Array.map_congr_left
    intro row isRow
    apply Array.map_congr_left
    intro pixel isPixel
    exact blueFirst_eq_reverse (colored.three row isRow pixel isPixel)
  have deep : ¬(3 = 0 ∨ greatestDepth < 3) := by decide
  unfold turned
  rw [if_neg deep, nonempty, same]
  rfl

theorem lawful_usual : usual.Lawful where
  begins _ _ _ _ _ _ := rfl
  turns colored := turned_three colored
  writes _ := rfl

end Chip8.Recorder
