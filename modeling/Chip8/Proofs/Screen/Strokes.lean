import Chip8.Proofs.Screen.Drawing

/-!
# Sprite rows in any order

What a sprite row flips is told by the size of the screen, and not by what is on it. This holds on narrow
screens too, where several bits of the row meet in one column: the last of them decides, whatever was there.
So a row flips the pixels that it lights on a dark screen, rows that are drawn one after the other flip a
sum of such areas, and the sum does not depend on their order. Added twice it is nothing.
-/

namespace Chip8

open scoped symmDiff

/-- A sprite row and where it is drawn. -/
structure Stroke where
  /-- The column of its first bit. -/
  x : Int
  y : Int
  value : Int

namespace Screen

/-- Draws strokes one after the other, up to the first that is refused. -/
def drawAll (screen : Screen) : List Stroke → Except Fault Screen
  | [] => .ok screen
  | stroke :: rest => do
    let (drawn, _) ← screen.draw stroke.x stroke.y stroke.value
    drawn.drawAll rest

/-- The pixels that a stroke lights on a dark screen. -/
def mark (width height : Nat) (stroke : Stroke) : Set (Nat × Nat) :=
  {pixel | ∃ drawn collided, (blank width height).draw stroke.x stroke.y stroke.value =
    .ok (drawn, collided) ∧ pixel ∈ drawn.litPixels}

/-- The pixels that strokes flip in all. -/
def marks (width height : Nat) (strokes : List Stroke) : Set (Nat × Nat) :=
  (strokes.map (mark width height)).foldr (· ∆ ·) ∅

theorem marks_perm {width height : Nat} {strokes reordered : List Stroke}
    (same : reordered.Perm strokes) : marks width height reordered = marks width height strokes :=
  (same.map _).foldr_eq _

/-- What the bits of a row leave is what was there, flipped where they leave a lit pixel on a dark row. -/
theorem getElem_flip_eq_xor {width column : Nat} {old row below : Vector Bool (width + 1)} {x : Int}
    {bits : List Bool} (inside : column < width + 1) (same : row[column] = (old[column] ^^ below[column])) :
    (flip old x bits row)[column] =
      (old[column] ^^ (flip (.replicate (width + 1) false) x bits below)[column]) := by
  induction bits generalizing x row below with
  | nil => exact same
  | cons bit bits ih =>
      rw [flip, flip]
      apply ih
      by_cases here : (columnAt width x).val = column
      · simp [here]
      · simpa [here] using same

/-- Drawing onto a row of any screen and onto the same row of a dark one. -/
theorem lit_set_flip {width height line : Nat} (rows : Vector (Vector Bool (width + 1)) (height + 1))
    (onScreen : line < height + 1) (x : Int) (bits : List Bool) (column row : Nat) :
    let dark : Vector (Vector Bool (width + 1)) (height + 1) := .replicate _ (.replicate _ false)
    lit ⟨width + 1, height + 1, rows.set line (flip rows[line] x bits rows[line])⟩ column row =
      (lit ⟨width + 1, height + 1, rows⟩ column row ^^
        lit ⟨width + 1, height + 1, dark.set line (flip dark[line] x bits dark[line])⟩ column row) := by
  intro dark
  by_cases on : row < height + 1 ∧ column < width + 1
  · rw [lit_of_mem _ on.1 on.2, lit_of_mem _ on.1 on.2, lit_of_mem _ on.1 on.2]
    rcases on with ⟨rowOn, columnOn⟩
    change (rows.set line (flip rows[line] x bits rows[line]))[row][column] =
      (rows[row][column] ^^ (dark.set line (flip dark[line] x bits dark[line]))[row][column])
    by_cases drawnOn : line = row
    · cases drawnOn
      have flipped : (flip rows[line] x bits rows[line])[column] =
          (rows[line][column] ^^ (flip (.replicate _ false) x bits (.replicate _ false))[column]) :=
        getElem_flip_eq_xor columnOn (by simp)
      simpa [dark] using flipped
    · simp [dark, drawnOn]
  · rw [lit_of_not_mem _ on, lit_of_not_mem _ on, lit_of_not_mem _ on]
    rfl

/-- What draws on a screen draws on a dark screen of its size, and flips what it lights there. -/
theorem exists_draw_blank {screen drawn : Screen} {x y value : Int} {collided : Bool}
    (done : screen.draw x y value = .ok (drawn, collided)) :
    ∃ stamped hit, (blank screen.width screen.height).draw x y value = .ok (stamped, hit) ∧
      ∀ column row, drawn.lit column row = (screen.lit column row ^^ stamped.lit column row) := by
  unfold draw at done
  split at done
  · cases done
  next fits =>
    split at done
    · cases done
    · cases done
    next width height rows =>
      cases done
      refine ⟨_, _, by simp only [draw, blank, if_neg fits]; rfl, ?_⟩
      intro column row
      exact lit_set_flip rows _ x (spriteRow value) column row

theorem litPixels_draw {screen drawn : Screen} {stroke : Stroke} {collided : Bool}
    (done : screen.draw stroke.x stroke.y stroke.value = .ok (drawn, collided)) :
    drawn.litPixels = screen.litPixels ∆ mark screen.width screen.height stroke := by
  rcases exists_draw_blank done with ⟨stamped, hit, stamps, flipped⟩
  have marked : mark screen.width screen.height stroke = stamped.litPixels := by
    ext pixel
    simp only [mark, stamps, Except.ok.injEq, Prod.mk.injEq, Set.mem_ofPred_eq]
    constructor
    · rintro ⟨_, _, ⟨rfl, _⟩, lit⟩
      exact lit
    · intro lit
      exact ⟨_, _, ⟨rfl, rfl⟩, lit⟩
  ext ⟨column, row⟩
  simp only [marked, Set.mem_symmDiff, litPixels, Set.mem_ofPred_eq, flipped]
  cases screen.lit column row <;> cases stamped.lit column row <;> simp

theorem litPixels_drawAll {screen drawn : Screen} {strokes : List Stroke}
    (done : screen.drawAll strokes = .ok drawn) :
    drawn.size = screen.size ∧
      drawn.litPixels = screen.litPixels ∆ marks screen.width screen.height strokes := by
  induction strokes generalizing screen with
  | nil =>
      cases done
      exact ⟨rfl, (symmDiff_bot _).symm⟩
  | cons stroke rest ih =>
      rcases bind_eq_ok_iff.mp done with ⟨⟨next, collided⟩, first, others⟩
      rcases ih others with ⟨size, lit⟩
      refine ⟨size.trans (size_draw first), ?_⟩
      rw [lit, litPixels_draw first, width_draw first, height_draw first, symmDiff_assoc]
      rfl

theorem exists_drawAll_eq_ok (screen : Screen) (columns : 0 < screen.width) (rows : 0 < screen.height)
    {strokes : List Stroke} (fits : ∀ stroke ∈ strokes, Integer64.holds stroke.x) :
    ∃ drawn, screen.drawAll strokes = .ok drawn := by
  induction strokes generalizing screen with
  | nil => exact ⟨screen, rfl⟩
  | cons stroke rest ih =>
      simp only [List.forall_mem_cons] at fits
      rcases exists_draw_eq_ok columns rows fits.1 stroke.y stroke.value with ⟨next, collided, first⟩
      rcases ih next (by rwa [width_draw first]) (by rwa [height_draw first]) fits.2 with ⟨drawn, others⟩
      exact ⟨drawn, bind_eq_ok_iff.mpr ⟨_, first, others⟩⟩

/-- Strokes leave the same screen in whatever order they are drawn, and drawn once more, in whatever order,
they leave the screen on which they began. -/
theorem strokes_commute_and_cancel {screen : Screen} (columns : 0 < screen.width)
    (rows : 0 < screen.height) {strokes : List Stroke}
    (fits : ∀ stroke ∈ strokes, Integer64.holds stroke.x) :
    ∃ drawn, ∀ reordered : List Stroke, reordered.Perm strokes →
      screen.drawAll reordered = .ok drawn ∧ drawn.drawAll reordered = .ok screen := by
  rcases exists_drawAll_eq_ok screen columns rows fits with ⟨drawn, done⟩
  rcases litPixels_drawAll done with ⟨size, lit⟩
  refine ⟨drawn, ?_⟩
  intro reordered same
  have refits : ∀ stroke ∈ reordered, Integer64.holds stroke.x :=
    fun stroke mem => fits stroke (same.mem_iff.mp mem)
  constructor
  · rcases exists_drawAll_eq_ok screen columns rows refits with ⟨other, otherDone⟩
    rcases litPixels_drawAll otherDone with ⟨otherSize, otherLit⟩
    rw [marks_perm same, ← lit] at otherLit
    rw [otherDone, eq_of_litPixels_eq (otherSize.trans size.symm) otherLit]
  · have sameSize := size
    simp only [Screen.size, Prod.mk.injEq, Int.natCast_inj] at sameSize
    rcases exists_drawAll_eq_ok drawn (by omega) (by omega) refits with ⟨last, lastDone⟩
    rcases litPixels_drawAll lastDone with ⟨lastSize, lastLit⟩
    rw [sameSize.1, sameSize.2, marks_perm same, lit, symmDiff_symmDiff_cancel_right] at lastLit
    rw [lastDone, eq_of_litPixels_eq (lastSize.trans size) lastLit]

/-- Three strokes on three columns, where each column has several bits of a stroke. -/
theorem strokes_commute_and_cancel_of_narrow :
    let screen : Screen := ⟨3, 2, #v[#v[true, false, false], #v[false, true, true]]⟩
    let strokes : List Stroke := [⟨-1, 0, 0xFF⟩, ⟨-0x80000000, 5, 0xA6⟩, ⟨1, 0x7FFFFFFF, 0x81⟩]
    ∃ drawn, screen.drawAll strokes = .ok drawn ∧ screen.drawAll strokes.reverse = .ok drawn ∧
      drawn.drawAll strokes.reverse = .ok screen ∧ drawn.lit 0 0 = false ∧ drawn.lit 0 1 = true := by
  intro screen strokes
  rcases @strokes_commute_and_cancel screen (by decide) (by decide) strokes (by decide) with
    ⟨drawn, anyOrder⟩
  have done := (anyOrder strokes (.refl strokes)).1
  have back := anyOrder strokes.reverse strokes.reverse_perm
  have pixels : (screen.drawAll strokes).toOption.map (fun drawn => (drawn.lit 0 0, drawn.lit 0 1)) =
      some (false, true) := by decide
  rw [done] at pixels
  simp only [Except.toOption, Option.map_some, Option.some.injEq, Prod.mk.injEq] at pixels
  exact ⟨drawn, done, back.1, back.2, pixels.1, pixels.2⟩

end Screen

end Chip8
