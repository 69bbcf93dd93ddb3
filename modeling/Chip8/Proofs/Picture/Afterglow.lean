import Chip8.Picture.Video
import Chip8.Proofs.Picture.Enlargement
import Chip8.Proofs.Tool.Recorder

/-!
# The history of a pixel

A frame of a video shows more than one screen: with persistence its pixels still glow from those before. But
what a pixel looks like is told by the history of this pixel alone, that is by whether it was lit on the
screens up to this one. Frames are therefore followed through the glow that a history leaves, one pixel at a
time, and two videos show the same where the histories are the same.

A video has a frame for every screen, as long as there are pixels to show, there is room for them, the
recorder takes frames of their size, and the amounts of the colours are in the range of numbers.
-/

namespace Chip8

open Picture Raster

namespace Video

/-! ### The glow of a pixel -/

/-- How much a pixel glows in a frame, after a glow. -/
def glowNext (persistence : Bool) (glow : Float32) (lit : Bool) : Float32 :=
  if persistence then glowAfter glow (light lit) else light lit

/-- How much a pixel glows at the end of a history. -/
def glowThrough (persistence : Bool) (glow : Float32) (history : List Bool) : Float32 :=
  history.foldl (glowNext persistence) glow

/-- Whether a pixel was lit on each screen. -/
def historyOf (screens : List Screen) (x y : Nat) : List Bool := screens.map fun screen => screen.lit x y

variable {width height : Nat} {glowOf other : Nat → Nat → Float32}

theorem standIn_of_lt {count place : Nat} (inside : place < count) : standIn count place = place := by
  unfold standIn
  split <;> omega

namespace Glow

@[simp]
theorem width_ofFn : (Glow.ofFn width height glowOf).width = width := rfl

@[simp]
theorem height_ofFn : (Glow.ofFn width height glowOf).height = height := rfl

theorem at_ofFn {row column : Nat} (inRows : row < height) (inColumns : column < width) :
    (Glow.ofFn width height glowOf).at row column = glowOf row column := by
  have standRow : standIn height row = row := standIn_of_lt inRows
  have standColumn : standIn width column = column := standIn_of_lt inColumns
  simp [Glow.at, Glow.ofFn, standRow, standColumn, inRows, inColumns]

theorem ofFn_congr (same : ∀ row < height, ∀ column < width, glowOf row column = other row column) :
    Glow.ofFn width height glowOf = .ofFn width height other := by
  have lines : (fun row : Fin height => Array.ofFn fun column : Fin width => glowOf row column) =
      fun row : Fin height => Array.ofFn fun column : Fin width => other row column := by
    funext row
    apply congrArg
    funext column
    exact same row row.isLt column column.isLt
  simp only [Glow.ofFn, lines]

/-- What a frame shows of each pixel comes from the glow and the light of this pixel. -/
theorem shown_ofFn {screen : Screen} (width_eq : screen.width = width) (height_eq : screen.height = height)
    (persistence : Bool) :
    (Glow.ofFn width height glowOf).shown persistence (some screen) =
      .ok (.ofFn width height fun row column =>
        glowNext persistence (glowOf row column) (screen.lit column row)) := by
  subst width_eq height_eq
  cases persistence with
  | false => rfl
  | true =>
      have together (count : Nat) : together? count count = some count := by simp [together?]
      simp only [Glow.shown, Glow.after, Glow.ofScreen, width_ofFn, height_ofFn, together]
      apply congrArg
      apply ofFn_congr
      intro row inRows column inColumns
      rw [at_ofFn inRows inColumns, at_ofFn inRows inColumns]
      rfl

end Glow

/-! ### Frames -/

/-- The frame of pixels that glow each after its own history, enlarged and turned about. -/
def framePast (scale : Int) (ends : List (Float32 × Float32)) (persistence : Bool) (width height : Nat)
    (glowOf : Nat → Nat → Float32) (past : List Screen) : Frame :=
  ((frame ends (.ofFn width height fun row column =>
    glowThrough persistence (glowOf row column) (historyOf past column row))).enlarge scale).map List.reverse

variable {scale : Int} {ends : List (Float32 × Float32)} {persistence : Bool}

theorem rectangular_frame : (frame ends (.ofFn width height glowOf)).Rectangular where
  rows_size := by simp [frame, Glow.ofFn]
  row_size := by
    intro row mem
    simp only [frame, Glow.ofFn, Array.mem_map, Array.mem_ofFn] at mem
    rcases mem with ⟨_, ⟨line, rfl⟩, rfl⟩
    simp [frame, Glow.ofFn]

theorem pixelAt_frame {row column : Nat} (inRows : row < height) (inColumns : column < width) :
    (frame ends (.ofFn width height glowOf)).pixelAt row column =
      ends.map (blendAmount (glowOf row column)) := by
  simp [pixelAt_eq_getElem?, frame, Glow.ofFn, inRows, inColumns]

theorem blocks_framePast (positive : 1 ≤ scale) (past : List Screen) :
    (framePast scale ends persistence width height glowOf past).Blocks width height scale.toNat
      fun x y =>
        (ends.map (blendAmount (glowThrough persistence (glowOf y x) (historyOf past x y)))).reverse := by
  apply ((rectangular_frame.blocks_enlarge positive).map List.reverse).congr
  intro x inColumns y inRows
  exact congrArg List.reverse (pixelAt_frame inRows inColumns)

/-- What a video needs of its frames: pixels, room for them in single precision and as bytes, and sides that
a recorder takes. -/
structure Takeable (room width height : Nat) (scale : Int) : Prop where
  positive : 1 ≤ scale
  columns : 0 < width
  rows : 0 < height
  /-- Three amounts of four bytes each, before a frame is enlarged. -/
  singles : Roomy room width height 12 1
  bytes : Roomy room width height 3 scale.toNat
  width_lt : width * scale < 0x80000000
  height_lt : height * scale < 0x80000000

namespace Takeable

variable {room : Nat}

theorem checkSingles_eq_ok (takeable : Takeable room width height scale) {counts : List Nat}
    (fits : (counts.map (max 1)).prod * 4 ≤ enlargedBytes width height 12 1) :
    checkSingles room counts = .ok () := by
  have empty : height = 0 ∨ width = 0 → 0 ∈ counts := by
    have columns := takeable.columns
    have rows := takeable.rows
    omega
  have checked : checkExtents room counts .single = .ok () :=
    takeable.singles.checkExtents_eq_ok empty fits
  rw [checkSingles, checked]
  rfl

/-- How much each pixel glows is made in single precision. -/
theorem checkSingles_glow (takeable : Takeable room width height scale) :
    checkSingles room [width, height] = .ok () := by
  apply takeable.checkSingles_eq_ok
  simp only [enlargedBytes, List.map_cons, List.map_nil, List.prod_cons, List.prod_nil, mul_one,
    Nat.mul_comm (max 1 width)]
  omega

theorem width_mem (takeable : Takeable room width height scale) :
    0 < width * scale ∧ width * scale < 0x80000000 :=
  ⟨Int.mul_pos (Int.natCast_pos.mpr takeable.columns) takeable.positive, takeable.width_lt⟩

theorem height_mem (takeable : Takeable room width height scale) :
    0 < height * scale ∧ height * scale < 0x80000000 :=
  ⟨Int.mul_pos (Int.natCast_pos.mpr takeable.rows) takeable.positive, takeable.height_lt⟩

theorem colored (takeable : Takeable room width height scale) (three : ends.length = 3) :
    Recorder.Colored ((frame ends (.ofFn width height glowOf)).enlarge scale) where
  rectangular := rectangular_frame.enlarge scale
  width_mem := by
    have inside := takeable.width_mem
    rw [(rectangular_frame.blocks_enlarge takeable.positive).width_eq]
    rw [← Int.toNat_of_nonneg (zero_le_one.trans takeable.positive)] at inside
    exact_mod_cast inside
  height_mem := by
    have inside := takeable.height_mem
    rw [(rectangular_frame.blocks_enlarge takeable.positive).height_eq]
    rw [← Int.toNat_of_nonneg (zero_le_one.trans takeable.positive)] at inside
    exact_mod_cast inside
  three := by
    intro row isRow pixel isPixel
    rcases exists_mem_of_mem_enlarge isRow isPixel with ⟨original, isOriginal, mem⟩
    simp only [frame, Array.mem_map] at isOriginal
    rcases isOriginal with ⟨line, -, rfl⟩
    rcases Array.mem_map.mp mem with ⟨glow, -, rfl⟩
    rw [List.length_map, three]

/-- A frame is taken as it is, but for the order of its colours. -/
theorem takenFrame_eq_ok (takeable : Takeable room width height scale) {recorder : Recorder}
    (lawful : recorder.Lawful) (three : ends.length = 3) :
    takenFrame room recorder scale ends (.ofFn width height glowOf) =
      .ok (((frame ends (.ofFn width height glowOf)).enlarge scale).map List.reverse) := by
  have singles : checkSingles room [height, width, 3] = .ok () := by
    apply takeable.checkSingles_eq_ok
    simp [enlargedBytes, mul_assoc]
  have bytes : checkExtents room [height, width, 3] .byte = .ok () := by
    have columns := takeable.columns
    have rows := takeable.rows
    apply (takeable.singles.of_le (by decide : 3 ≤ 12) le_rfl).checkExtents_eq_ok
    · omega
    · simp [enlargedBytes, ElementKind.size, mul_assoc]
  have side : checkSide room width height 3 scale = .ok () := checkSide_of_roomy (by decide) takeable.bytes
  have colored : Recorder.Colored ((frame ends (.ofFn width height glowOf)).enlarge scale) :=
    takeable.colored three
  unfold takenFrame
  dsimp only
  rw [three, Glow.width_ofFn, Glow.height_ofFn, singles, bytes, side, lawful.turns colored]
  simp only [bind, Except.bind, mapError_ok]
  rw [lawful.writes colored]
  rfl

end Takeable

/-- Without persistence only the last screen counts. -/
theorem glowThrough_of_forgotten {history : List Bool} (nonempty : history ≠ []) (glow other : Float32) :
    glowThrough false glow history = glowThrough false other history := by
  cases history with
  | nil => exact absurd rfl nonempty
  | cons lit history => simp [glowThrough, glowNext]

/-- A screen more in front of a history. -/
theorem framePast_cons {next : Nat → Nat → Float32} {screen : Screen} {past : List Screen}
    (nonempty : past ≠ [])
    (carried : ∀ row column, next row column =
      if persistence then glowNext persistence (glowOf row column) (screen.lit column row)
      else glowOf row column) :
    framePast scale ends persistence width height next past =
      framePast scale ends persistence width height glowOf (screen :: past) := by
  have glows : (Glow.ofFn width height fun row column =>
      glowThrough persistence (next row column) (historyOf past column row)) =
      .ofFn width height fun row column =>
        glowThrough persistence (glowOf row column) (historyOf (screen :: past) column row) := by
    apply Glow.ofFn_congr
    intro row _ column _
    have remembered : historyOf past column row ≠ [] := by simpa [historyOf] using nonempty
    cases persistence with
    | true => rw [carried]; rfl
    | false => exact glowThrough_of_forgotten remembered _ _
  simp only [framePast, glows]

variable {room : Nat} {recorder : Recorder}

/-- A frame is made in which each pixel glows after its own history. -/
theorem filmed_eq_ok (takeable : Takeable room width height scale) (lawful : recorder.Lawful)
    (three : ends.length = 3) {screen : Screen} (width_eq : screen.width = width)
    (height_eq : screen.height = height) :
    filmed room recorder scale ends persistence (.ofFn width height glowOf) (some screen) =
      .ok (.ofFn width height fun row column =>
          glowNext persistence (glowOf row column) (screen.lit column row),
        framePast scale ends persistence width height glowOf [screen]) := by
  have lights : checkLight room (some screen) = .ok () := by
    rw [checkLight, width_eq, height_eq, takeable.checkSingles_glow]
  have shows : shownIn room (.ofFn width height glowOf) persistence (some screen) =
      .ok (.ofFn width height fun row column =>
        glowNext persistence (glowOf row column) (screen.lit column row)) := by
    unfold shownIn
    rw [lights, Glow.shown_ofFn width_eq height_eq]
    exact congrArg (· >>= fun _ => Except.ok _) takeable.checkSingles_glow
  unfold filmed
  rw [shows]
  exact congrArg (· >>= fun taken => Except.ok (_, taken)) (takeable.takenFrame_eq_ok lawful three)

/-- Each frame shows the history of each of its pixels up to this frame. -/
theorem exists_framesFrom {screens : List Screen} (takeable : Takeable room width height scale)
    (lawful : recorder.Lawful) (three : ends.length = 3)
    (sizes : ∀ screen ∈ screens, screen.width = width ∧ screen.height = height) :
    ∃ frames, framesFrom room recorder scale ends persistence (.ofFn width height glowOf)
        (screens.map some) = (frames, .ok ()) ∧
      frames.length = screens.length ∧
      ∀ index < screens.length, frames[index]? =
        some (framePast scale ends persistence width height glowOf (screens.take (index + 1))) := by
  induction screens generalizing glowOf with
  | nil => exact ⟨[], rfl, rfl, by simp⟩
  | cons screen screens ih =>
      rcases sizes screen (by simp) with ⟨width_eq, height_eq⟩
      have later : ∀ screen ∈ screens, screen.width = width ∧ screen.height = height :=
        fun other mem => sizes other (by simp [mem])
      let next row column :=
        if persistence then glowNext persistence (glowOf row column) (screen.lit column row)
        else glowOf row column
      rcases @ih next later with ⟨frames, made, length, shows⟩
      refine ⟨framePast scale ends persistence width height glowOf [screen] :: frames, ?_, by simp [length], ?_⟩
      · have carried : (if persistence then Glow.ofFn width height fun row column =>
            glowNext persistence (glowOf row column) (screen.lit column row)
            else .ofFn width height glowOf) = .ofFn width height next := by
          cases persistence <;> rfl
        rw [List.map_cons, framesFrom, filmed_eq_ok takeable lawful three width_eq height_eq]
        dsimp only
        rw [carried, made]
      · intro index inside
        cases index with
        | zero => rfl
        | succ index =>
            rw [List.length_cons, Nat.succ_lt_succ_iff] at inside
            have nonempty : screens.take (index + 1) ≠ [] := by
              rw [Ne, List.take_eq_nil_iff]
              rintro (none | rfl)
              · omega
              · simp at inside
            rw [List.getElem?_cons_succ, shows index inside, List.take_succ_cons,
              framePast_cons nonempty fun _ _ => rfl]

/-! ### Videos -/

/-- Screens of one size, of which there is at least one. -/
structure Reel (screens : List Screen) (width height : Nat) : Prop where
  nonempty : screens ≠ []
  sizes : ∀ screen ∈ screens, screen.width = width ∧ screen.height = height

/-- A video has a frame for each screen, made of a block for each pixel. -/
structure Films (video : Video) (screens : List Screen) (width height side : Nat) : Prop where
  length_eq : video.frames.length = screens.length
  blocks : ∀ frame ∈ video.frames, frame.Blocks width height side (frame.blockColor side)

/-- A video shows in each block what the history of its pixel calls for. -/
structure Tells (video : Video) (colorOf : List Bool → List UInt8) (screens : List Screen)
    (width height side : Nat) : Prop where
  length_eq : video.frames.length = screens.length
  blocks : ∀ index < screens.length, ∃ frame, video.frames[index]? = some frame ∧
    frame.Blocks width height side fun x y => colorOf (historyOf (screens.take (index + 1)) x y)

namespace Tells

variable {video : Video} {colorOf : List Bool → List UInt8} {screens : List Screen} {side : Nat}

theorem films (tells : video.Tells colorOf screens width height side) (positive : 0 < side) :
    video.Films screens width height side where
  length_eq := tells.length_eq
  blocks := by
    intro frame mem
    obtain ⟨index, present⟩ := List.mem_iff_getElem?.mp mem
    have inside : index < screens.length := by
      rw [← tells.length_eq]
      exact (List.getElem?_eq_some_iff.mp present).1
    rcases tells.blocks index inside with ⟨_, shown, blocks⟩
    cases present.symm.trans shown
    exact blocks.toBlockColor positive

theorem blockColor_eq (tells : video.Tells colorOf screens width height side) (positive : 0 < side)
    {x y : Nat} (inColumns : x < width) (inRows : y < height) (index : Nat) :
    video.frames[index]?.map (blockColor · side x y) =
      screens[index]?.map fun _ => colorOf (historyOf (screens.take (index + 1)) x y) := by
  by_cases inside : index < screens.length
  · rcases tells.blocks index inside with ⟨frame, shown, blocks⟩
    rw [shown, List.getElem?_eq_getElem inside, Option.map_some, Option.map_some,
      blocks.blockColor_eq positive inColumns inRows]
  · have past := Nat.le_of_not_lt inside
    rw [List.getElem?_eq_none past, List.getElem?_eq_none (tells.length_eq.trans_le past)]
    rfl

end Tells

/-- A colour of three amounts in the range of numbers. -/
structure Blendable (color : Color) : Prop where
  three : color.amounts.length = 3
  inRange : ∀ amount ∈ color.amounts, ∃ nearest, Binary64.ofInt amount = .ok nearest

theorem Blendable.exists_amounts {color : Color} (blendable : Blendable color) :
    ∃ numbers, amountsOf color = .ok numbers ∧ numbers.length = 3 := by
  rcases color with ⟨amounts⟩
  rcases blendable with ⟨three, inRange⟩
  rw [← three]
  clear three
  simp only [amountsOf] at inRange ⊢
  induction amounts with
  | nil => exact ⟨[], rfl, rfl⟩
  | cons amount amounts ih =>
      rcases inRange amount (by simp) with ⟨nearest, held⟩
      rcases ih (fun other mem => inRange other (by simp [mem])) with ⟨numbers, made, length⟩
      refine ⟨nearest.toFloat32 :: numbers, ?_, by simp [length]⟩
      simp only [List.mapM_cons, held, made, bind, Except.bind]
      rfl

theorem blendable_color (pixel : Pixel) : Blendable pixel.color := by
  have bytes : ∀ byte : Fin 0x100, (Binary64.ofInt byte.val).toBool = true := by decide +kernel
  have inRange (byte : UInt8) : ∃ nearest, Binary64.ofInt byte.toNat = .ok nearest :=
    exists_eq_ok_of_toBool (bytes ⟨byte.toNat, byte.toNat_lt⟩)
  refine ⟨rfl, ?_⟩
  simp only [Pixel.color, Color.ofAmounts, List.forall_mem_cons]
  exact ⟨inRange _, inRange _, inRange _, by simp⟩

theorem exists_blends {lit unlit : List Float32} (litThree : lit.length = 3) (unlitThree : unlit.length = 3) :
    ∃ ends, blends lit unlit = .ok ends ∧ ends.length = 3 := by
  simp [blends, together?, litThree, unlitThree]

variable {palette : Palette}

/-- The colour of a block is told by the history of its pixel, whatever the screens are. -/
theorem exists_tells (lawful : recorder.Lawful) (takeable : Takeable room width height scale) (file : String)
    (rate : Float) (persistence : Bool) (lit : Blendable palette.lit) (unlit : Blendable palette.unlit) :
    ∃ colorOf : List Bool → List UInt8, ∀ screens : List Screen, Reel screens width height →
      ∃ video, ofFrames room recorder (screens.map some) file (.ok rate) scale palette persistence =
          ⟨some video, .ok ()⟩ ∧
        video.Tells colorOf screens width height scale.toNat := by
  rcases lit.exists_amounts with ⟨litAmounts, litMade, litThree⟩
  rcases unlit.exists_amounts with ⟨unlitAmounts, unlitMade, unlitThree⟩
  rcases exists_blends litThree unlitThree with ⟨ends, blended, three⟩
  refine ⟨fun history => (ends.map (blendAmount (glowThrough persistence 0.0 history))).reverse, ?_⟩
  rintro screens ⟨nonempty, sizes⟩
  rcases @exists_framesFrom _ _ (fun _ _ => 0.0) _ ends persistence _ _ screens takeable lawful three sizes
    with ⟨frames, made, length, shows⟩
  cases screens with
  | nil => exact absurd rfl nonempty
  | cons first later =>
      rcases sizes first (by simp) with ⟨width_eq, height_eq⟩
      have looks : looked ((first :: later).map some) (.ok rate) palette =
          .ok (first, litAmounts, unlitAmounts, rate) := by
        simp only [looked, List.map_cons, litMade, unlitMade, bind, Except.bind, mapError_ok]
      have begins : recorder.begin file rate (width * scale, height * scale) = .ok () :=
        lawful.begins file rate takeable.width_mem takeable.height_mem
      have films : framesIn room recorder ((first :: later).map some) litAmounts unlitAmounts scale
          persistence (.none width height) = (frames, .ok ()) := by
        rw [framesIn, blended]
        exact made
      refine ⟨⟨file, rate, (width * scale, height * scale), frames, true⟩, ?_, ⟨length, ?_⟩⟩
      · unfold ofFrames
        rw [looks]
        dsimp only
        rw [width_eq, height_eq, begins]
        dsimp only
        rw [takeable.checkSingles_glow]
        dsimp only
        rw [films]
      · intro index inside
        exact ⟨_, shows index inside, blocks_framePast takeable.positive _⟩

theorem historyOf_take_eq {first second : List Screen} {x y last : Nat}
    (agree : ∀ index ≤ last, first[index]?.map (Screen.lit · x y) = second[index]?.map (Screen.lit · x y)) :
    historyOf (first.take (last + 1)) x y = historyOf (second.take (last + 1)) x y := by
  apply List.ext_getElem?
  intro index
  simp only [historyOf, List.getElem?_map, List.getElem?_take, Nat.lt_succ_iff]
  split
  next inside => exact agree index inside
  next => rfl

/-- Two videos of screens of one size show the same in the block of a pixel as long as this pixel has been
the same, whatever the other pixels and the later screens are. Each has a frame for each screen, and each
block has one colour. -/
theorem ofFrames_shows_own_past (lawful : recorder.Lawful) (takeable : Takeable room width height scale)
    {first second : List Screen} (file : String) (rate : Float) (persistence : Bool)
    (lit : Blendable palette.lit) (unlit : Blendable palette.unlit) (firstReel : Reel first width height)
    (secondReel : Reel second width height) :
    ∃ video other : Video,
      ofFrames room recorder (first.map some) file (.ok rate) scale palette persistence =
        ⟨some video, .ok ()⟩ ∧
      ofFrames room recorder (second.map some) file (.ok rate) scale palette persistence =
        ⟨some other, .ok ()⟩ ∧
      video.Films first width height scale.toNat ∧ other.Films second width height scale.toNat ∧
      ∀ x < width, ∀ y < height, ∀ last : Nat,
        (∀ index ≤ last,
          first[index]?.map (Screen.lit · x y) = second[index]?.map (Screen.lit · x y)) →
        ∀ index ≤ last, video.frames[index]?.map (blockColor · scale.toNat x y) =
          other.frames[index]?.map (blockColor · scale.toNat x y) := by
  have side : 0 < scale.toNat := by
    have positive := takeable.positive
    omega
  rcases exists_tells lawful takeable file rate persistence lit unlit with ⟨colorOf, shows⟩
  rcases shows first firstReel with ⟨video, made, tells⟩
  rcases shows second secondReel with ⟨other, otherMade, otherTells⟩
  refine ⟨video, other, made, otherMade, tells.films side, otherTells.films side, ?_⟩
  intro x inColumns y inRows last agree index inside
  have past : historyOf (first.take (index + 1)) x y = historyOf (second.take (index + 1)) x y :=
    historyOf_take_eq fun earlier le => agree earlier (Nat.le_trans le inside)
  have present := congrArg (Option.map fun _ => colorOf (historyOf (first.take (index + 1)) x y))
    (agree index inside)
  rw [Option.map_map, Option.map_map] at present
  rw [tells.blockColor_eq side inColumns inRows, otherTells.blockColor_eq side inColumns inRows, ← past]
  exact present

/-- The left pixel is lit and goes out on both reels; the right one, and the third screen, differ. -/
theorem ofFrames_shows_own_past_of_left_pixel :
    ∃ video other : Video,
      ofFrames 24 .usual
        (([⟨2, 1, #v[#v[true, false]]⟩, ⟨2, 1, #v[#v[false, false]]⟩] : List Screen).map some)
        "first.mp4" (.ok 60.0) 2 (Scheme.palette .amber) true = ⟨some video, .ok ()⟩ ∧
      ofFrames 24 .usual
        (([⟨2, 1, #v[#v[true, true]]⟩, ⟨2, 1, #v[#v[false, true]]⟩,
          ⟨2, 1, #v[#v[true, true]]⟩] : List Screen).map some)
        "first.mp4" (.ok 60.0) 2 (Scheme.palette .amber) true = ⟨some other, .ok ()⟩ ∧
      video.frames.length = 2 ∧ other.frames.length = 3 ∧
      video.frames[1]?.map (blockColor · 2 0 0) = other.frames[1]?.map (blockColor · 2 0 0) := by
  have takeable : Takeable 24 2 1 2 :=
    { positive := by decide
      columns := by decide
      rows := by decide
      singles := ⟨by decide, by decide, .inr (.inr (by decide))⟩
      bytes := ⟨by decide, by decide, .inr (.inr (by decide))⟩
      width_lt := by decide
      height_lt := by decide }
  have lit : Blendable (Scheme.palette .amber).lit := blendable_color ⟨255, 176, 0⟩
  have unlit : Blendable (Scheme.palette .amber).unlit := blendable_color ⟨0, 0, 0⟩
  have firstReel : Reel [⟨2, 1, #v[#v[true, false]]⟩, ⟨2, 1, #v[#v[false, false]]⟩] 2 1 :=
    ⟨by simp, by simp⟩
  have secondReel : Reel [⟨2, 1, #v[#v[true, true]]⟩, ⟨2, 1, #v[#v[false, true]]⟩,
      ⟨2, 1, #v[#v[true, true]]⟩] 2 1 := ⟨by simp, by simp⟩
  rcases ofFrames_shows_own_past Recorder.lawful_usual takeable "first.mp4" 60.0 true lit unlit firstReel
    secondReel with ⟨video, other, made, otherMade, films, otherFilms, same⟩
  refine ⟨video, other, made, otherMade, films.length_eq, otherFilms.length_eq, ?_⟩
  apply same 0 (by decide) 0 (by decide) 1 _ 1 le_rfl
  intro index le
  interval_cases index <;> rfl

/-- A video of screens without columns has no frame, nor has one whose frames have more bytes than can be
counted or than there is room for. There is none in colours beyond the range of numbers, nor of a size that the
recorder does not begin. -/
theorem ofFrames_refuses :
    ofFrames (2 ^ 64) .usual [some ⟨0, 2, #v[]⟩] "v.mp4" (.ok 60.0) 3 (Scheme.palette .default) false =
      ⟨some ⟨"v.mp4", 60.0, (0, 6), [], true⟩, .error (.recorder Recorder.noPixels)⟩ ∧
    ofFrames (2 ^ 64) .usual [some ⟨1, 1, #v[#v[true]]⟩] "v.mp4" (.ok 60.0) 0x4000000000000000
        (Scheme.palette .default) true =
      ⟨some ⟨"v.mp4", 60.0, (0x4000000000000000, 0x4000000000000000), [], true⟩,
        .error (.side (.extent .tooMany))⟩ ∧
    ofFrames 11 .usual [some ⟨1, 1, #v[#v[true]]⟩] "v.mp4" (.ok 60.0) 1 (Scheme.palette .default) true =
      ⟨some ⟨"v.mp4", 60.0, (1, 1), [], true⟩, .error (.extent (.noRoom [1, 1, 3] .single))⟩ ∧
    ofFrames (2 ^ 64) .usual [some ⟨1, 1, #v[#v[true]]⟩] "v.mp4" (.ok 60.0) 1
        ⟨.ofAmounts (10 ^ 400) 0 0, .ofAmounts 10 20 30⟩ true =
      ⟨none, .error (.number .integerTooLarge)⟩ ∧
    ∀ fault, ofFrames (2 ^ 64) { Recorder.usual with begin := fun _ _ _ => .error fault }
        [some ⟨1, 1, #v[#v[true]]⟩] "v.mp4" (.ok 60.0) 0x80000000 (Scheme.palette .default) true =
      ⟨none, .error (.recorder fault)⟩ := by
  have outOfRange : Binary64.ofInt (10 ^ 400) = .error .integerTooLarge :=
    Binary64.ofInt_eq_error (by decide +kernel)
  have undrawn : amountsOf (.ofAmounts (10 ^ 400) 0 0) = .error (.number .integerTooLarge) := by
    rw [amountsOf, Color.ofAmounts, List.mapM_cons, outOfRange]
    rfl
  refine ⟨rfl, rfl, rfl, ?_, ?_⟩
  · rw [ofFrames, looked, undrawn]
    rfl
  · intro fault
    rfl

end Video

end Chip8
