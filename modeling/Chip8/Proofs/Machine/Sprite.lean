import Chip8.Proofs.Machine.Cycle
import Chip8.Proofs.Machine.Refusal
import Chip8.Proofs.Memory.Contents
import Chip8.Proofs.Screen.Drawing

/-!
# What a draw instruction does to the screen

`DXYN` flips the pixels of one area, which the registers, the index and memory before the instruction tell.
The flag is written after the last row, so an instruction that takes its place from the flag also draws the
whole sprite at one place. A second draw of the same sprite at the same place takes the first one back.
-/

namespace Chip8.Machine

open scoped symmDiff

variable {machine : Machine} {word : Word}

/-- The rows of the sprite that a word draws. -/
def spriteRows (machine : Machine) (word : Word) : List UInt8 :=
  (List.range word.n.val).map fun row : Nat =>
    machine.memory.bytes.getD (machine.index + (row : Int)).toNat 0

/-- The pixels under the bits of the sprite that a word draws, around both edges of the screen. -/
def spriteAt (machine : Machine) (word : Word) : Set (Nat × Nat) :=
  {pixel | ∃ row < word.n.val, ∃ column < 8,
    (machine.byteAt (machine.index + (row : Nat))).testBit (7 - column) = true ∧
      pixel = (((machine.register word.x).toNat + column) % 64,
        ((machine.register word.y).toNat + row) % 32)}

/-- The area of a sprite is that of its rows. -/
theorem spriteArea_spriteRows (machine : Machine) (word : Word) :
    Screen.spriteArea 64 32 (machine.register word.x).toNat (machine.register word.y).toNat
        ((machine.spriteRows word).map fun row => Screen.spriteRow row.toNat) =
      machine.spriteAt word := by
  ext ⟨pixelColumn, pixelRow⟩
  constructor
  · rintro ⟨row, bits, found, column, set, columnAt, rowAt⟩
    rw [List.getElem?_map, spriteRows, List.getElem?_map] at found
    rcases Option.map_eq_some_iff.mp found with ⟨byte, foundByte, rfl⟩
    rcases Option.map_eq_some_iff.mp foundByte with ⟨offset, foundRow, rfl⟩
    rcases List.getElem?_eq_some_iff.mp foundRow with ⟨inside, here⟩
    rw [List.getElem_range] at here
    cases here
    rcases Screen.getElem?_spriteRow_eq_some_true_iff.mp set with ⟨columnInside, set⟩
    refine ⟨row, by simpa using inside, column, columnInside, set, ?_⟩
    rw [Prod.mk.injEq]
    exact ⟨by omega, by omega⟩
  · rintro ⟨row, inside, column, columnInside, set, place⟩
    rw [Prod.mk.injEq] at place
    refine ⟨row, _, ?_, column, Screen.getElem?_spriteRow_eq_some_true_iff.mpr ⟨columnInside, set⟩, ?_, ?_⟩
    · simp [spriteRows, inside]
    · simp only [place.1]
      omega
    · simp only [place.2]
      omega

/-- A draw instruction whose sprite is in memory is performed. It flips the area of the sprite and tells
in the flag whether a lit pixel went out. -/
theorem exists_execute_draw (draws : (Pattern.led 0xD).Matches word)
    (size : machine.screen.size = (64, 32))
    (inside : word.n.val = 0 ∨
      0 ≤ machine.index ∧ machine.index + word.n.val ≤ machine.memory.size) :
    ∃ after collided, machine.execute word = .ok after ∧
      Screen.Flips (machine.spriteAt word) machine.screen after.screen collided ∧
      after.register flag = if collided then 1 else 0 := by
  have isDraw : word.instruction? = some (.draw word.x word.y word.n) :=
    Word.instruction?_eq_some_iff.mpr ⟨draws, rfl, rfl, rfl⟩
  have read : machine.memory.readBlock machine.index (word.n.val : Int) =
      .ok (machine.spriteRows word) := Memory.readBlock_eq_ok inside
  rcases drawn : drawRows machine.screen (machine.register word.x).toNat
      (machine.register word.y).toNat (machine.spriteRows word) with fault | ⟨screen, collided⟩
  · exact absurd drawn (drawRows_ne_error size _ _ _ fault)
  · have performs : machine.perform (.draw word.x word.y word.n) =
        .ok ({ machine with screen }.setFlag collided, .next) := by
      simp only [perform, read, bind, Except.bind, drawn]
    refine ⟨_, collided, execute_eq_ok_iff.mpr ⟨_, _, _, isDraw, performs, rfl⟩, ?_, ?_⟩
    · simp only [Screen.size, Prod.mk.injEq] at size
      have width : machine.screen.width = 64 := by omega
      have height : machine.screen.height = 32 := by omega
      have rowsFit : (machine.spriteRows word).length ≤ machine.screen.height := by
        rw [spriteRows, List.length_map, List.length_range, height]
        omega
      have fits : ∀ index < 8, Integer64.holds ((machine.register word.x).toNat + (index : Nat)) := by
        intro index small
        have := (machine.register word.x).toNat_lt
        rw [Integer64.holds_iff]
        omega
      have flips := flips_drawRows (by omega) rowsFit fits drawn
      rw [width, height, spriteArea_spriteRows] at flips
      exact flips
    · exact register_setRegister_self _ _ _

open Classical in
/-- A draw instruction draws its whole sprite as one flip of pixels. Drawn once more from the same
registers, index and memory, it takes itself back. -/
theorem execute_draw_flips (draws : (Pattern.led 0xD).Matches word)
    (size : machine.screen.size = (64, 32))
    (inside : word.n.val = 0 ∨
      0 ≤ machine.index ∧ machine.index + word.n.val ≤ machine.memory.size) :
    ∃ after, machine.execute word = .ok after ∧
      after.screen.size = (64, 32) ∧
      after.screen.litPixels = machine.screen.litPixels ∆ machine.spriteAt word ∧
      after.register flag =
        (if (machine.screen.litPixels ∩ machine.spriteAt word).Nonempty then 1 else 0) ∧
      ∀ again : Machine, again.register word.x = machine.register word.x →
        again.register word.y = machine.register word.y → again.index = machine.index →
        again.memory = machine.memory → again.screen = after.screen →
        ∃ restored, again.execute word = .ok restored ∧ restored.screen = machine.screen ∧
          restored.register flag =
            if (machine.spriteAt word \ machine.screen.litPixels).Nonempty then 1 else 0 := by
  rcases exists_execute_draw draws size inside with ⟨after, collided, done, flips, flagged⟩
  have sizeAfter : after.screen.size = (64, 32) := flips.size_eq.trans size
  refine ⟨after, done, sizeAfter, flips.litPixels_eq, ?_, ?_⟩
  · simp only [flagged, flips.collided_iff]
  · intro again sameX sameY sameIndex sameMemory sameScreen
    have sameSprite : again.spriteAt word = machine.spriteAt word := by
      simp only [spriteAt, byteAt, sameX, sameY, sameIndex, sameMemory]
    have sizeAgain : again.screen.size = (64, 32) := by rw [sameScreen, sizeAfter]
    have insideAgain : word.n.val = 0 ∨
        0 ≤ again.index ∧ again.index + word.n.val ≤ again.memory.size := by
      rw [sameIndex, sameMemory]
      exact inside
    rcases exists_execute_draw draws sizeAgain insideAgain with
      ⟨restored, collidedAgain, doneAgain, flipsBack, flaggedAgain⟩
    rw [sameSprite, sameScreen] at flipsBack
    rcases flips.back flipsBack with ⟨screen, unlit⟩
    refine ⟨restored, doneAgain, screen, ?_⟩
    simp only [flaggedAgain, unlit]

/-- Two rows of eight pixels at the lower right corner of a dark screen reach the other corners. The flag,
which tells the place, is zero then. Drawn again from the place, they leave the screen dark and the flag at
one. -/
theorem execute_draw_flips_of_corner :
    let machine : Machine :=
      { memory := ⟨Array.replicate 0x1000 0xFF⟩, index := 0xFFE, registers := .replicate 16 0x3F }
    ∃ after restored, machine.execute ⟨0xD, 0xF, 0xF, 2⟩ = .ok after ∧
      (0, 0) ∈ after.screen.litPixels ∧ after.register flag = 0 ∧
      { machine with screen := after.screen }.execute ⟨0xD, 0xF, 0xF, 2⟩ = .ok restored ∧
      restored.screen = machine.screen ∧ restored.register flag = 1 := by
  intro machine
  have dark : machine.screen.litPixels = ∅ := Screen.litPixels_blank 64 32
  have corner : (0, 0) ∈ machine.spriteAt ⟨0xD, 0xF, 0xF, 2⟩ := by
    have byte : machine.byteAt (machine.index + (1 : Nat)) = 0xFF := by
      simp [byteAt, machine, Array.getD_eq_getD_getElem?]
    refine ⟨1, by decide, 1, by decide, ?_, by decide⟩
    rw [byte]
    decide
  have size : machine.memory.size = 0x1000 := by simp [machine, Memory.size]
  rcases @execute_draw_flips machine ⟨0xD, 0xF, 0xF, 2⟩
    (Pattern.matches_led.mpr rfl) rfl (.inr ⟨by decide, by rw [size]; decide⟩) with
    ⟨after, done, _, lit, flagged, back⟩
  rcases back { machine with screen := after.screen } rfl rfl rfl rfl rfl with
    ⟨restored, doneAgain, screen, flaggedAgain⟩
  refine ⟨after, restored, done, ?_, ?_, doneAgain, screen, ?_⟩
  · rw [lit, dark]
    exact .inr ⟨corner, id⟩
  · rw [flagged, dark, Set.empty_inter, if_neg Set.not_nonempty_empty]
  · rw [flaggedAgain, dark, Set.sdiff_empty, if_pos ⟨_, corner⟩]

end Chip8.Machine
