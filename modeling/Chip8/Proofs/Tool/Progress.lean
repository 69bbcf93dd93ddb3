import Chip8.Proofs.Outcome
import Chip8.Tool.Usual
import Mathlib.Algebra.Order.Ring.Int

/-!
# A bar for frames

A run counts on its bar for every frame. The usual bar can be shown if the number of frames is in the range of
doubles, and in no other case: half a frame is added to the total before the first line is drawn, which makes
a double of it, and nothing that comes after this can fail.
-/

namespace Chip8

namespace Template

variable {look : String → Option Filling} {drawFigure : String → Except Misuse String}

/-- A name alone stands for what is known by it. -/
theorem lookUp_of_name {name : String} {letters : List Char} {filling : Filling}
    (found : look name = some filling) (isName : String.ofList letters = name)
    (unparted : (letters.span fun character => character ≠ '.' && character ≠ '[') = (letters, []))
    (noPlace : place? letters = .ok none) (nonempty : letters.isEmpty = false) :
    lookUp look letters = .ok filling := by
  unfold lookUp
  simp only [unparted, noPlace, mapError_ok, nonempty, isName, found]
  cases filling <;> rfl

/-- A field without a layout is filled with what is drawn for its name. -/
theorem fillFrom_field {depth bound : Nat} {filled drawn : Filled} {text left letters : List Char}
    {filling : Filling} (unbraced : text.head? ≠ some '\x7b')
    (taken : takeField text = .ok ({ name := letters }, left))
    (found : lookUp look letters = .ok filling) (draws : draw drawFigure filling "" = .ok drawn) :
    fillFrom look drawFigure (depth + 1) (bound + 1) filled ('\x7b' :: text) =
      fillFrom look drawFigure (depth + 1) bound
        { text := filled.text ++ drawn.text, figures := filled.figures + drawn.figures } left := by
  rcases text with _ | ⟨second, rest⟩
  · cases taken
  · have other : ¬second = '\x7b' := by simpa using unbraced
    have noLayout : String.ofList [] = "" := rfl
    rw [fillFrom.eq_def]
    simp only [other, taken, found, noLayout, draws, mapError_ok, bind, Except.bind, pure, Except.pure,
      if_false, true_or, if_true, Nat.add_zero, Bool.false_eq_true, Char.reduceEq]

/-- The usual template is filled with the front, the gauge and the end of a line. -/
theorem exists_fill_usualTemplate {front back drawn type : String} {members : List (String × Datum)}
    (isFront : look "l_bar" = some (.value (.text front)))
    (isGauge : look "bar" = some (.figure type members))
    (isBack : look "r_bar" = some (.value (.text back))) (draws : drawFigure "" = .ok drawn) :
    ∃ text, fill look drawFigure ProgressLine.usualTemplate = .ok { text, figures := 1 } := by
  have letters : ProgressLine.usualTemplate.toList =
      ['\x7b', 'l', '_', 'b', 'a', 'r', '\x7d', '\x7b', 'b', 'a', 'r', '\x7d', '\x7b', 'r', '_', 'b', 'a',
        'r', '\x7d'] := by decide
  have length : ProgressLine.usualTemplate.length = 19 := by decide
  have drawsGauge : draw drawFigure (.figure type members) "" = .ok { text := drawn, figures := 1 } := by
    simp only [draw, draws]
    rfl
  unfold fill
  rw [letters, length,
    fillFrom_field (by decide) rfl (lookUp_of_name isFront rfl rfl rfl rfl) rfl,
    fillFrom_field (by decide) rfl (lookUp_of_name isGauge rfl rfl rfl rfl) drawsGauge,
    fillFrom_field (by decide) rfl (lookUp_of_name isBack rfl rfl rfl rfl) rfl, fillFrom.eq_def]
  exact ⟨_, rfl⟩

end Template

/-- A gauge of which nothing is full yet. -/
def Gauge.atStart : Gauge :=
  { share := .real (Binary64.pack false 0), width := .whole 10, symbols := .text plainSymbols, paint := none }

theorem Gauge.exists_draw_atStart : ∃ drawn, atStart.draw "" = .ok drawn := ⟨_, rfl⟩

namespace ProgressLine

/-- The first line of a bar for which nothing is set. -/
def plain (total : Datum) (description unit : String) : ProgressLine :=
  { count := .whole 0, total, description, unit, columns := .absent, rows := .absent
    symbols := .flag true, scale := .flag false, divisor := .whole 1000, template := .absent
    remark := .absent, colour := .absent }

variable {total : Int} {description unit count whole : String}

theorem holds_whole (counted : 0 < total) : (Datum.whole total).holds = true :=
  decide_eq_true (Int.ne_of_gt counted)

/-- Nothing of a total above zero is done when nothing is done. -/
theorem whole_zero_dividedBy (counted : 0 < total) :
    (Datum.whole 0).dividedBy (.whole total) = .ok (.real (Binary64.pack false 0)) := by
  have share : Binary64.ofQuotient 0 total = .ok (Binary64.pack false 0) := by
    have unsigned : decide (total < 0) = false := decide_eq_false (Int.not_lt.mpr (Int.le_of_lt counted))
    have nearest : Binary64.ofRatio false 0 total.natAbs = Binary64.pack false 0 := if_pos rfl
    unfold Binary64.ofQuotient
    rw [if_neg (Int.ne_of_gt counted), unsigned]
    simp only [Int.lt_irrefl, decide_false, bne_self_eq_false, Int.natAbs_zero, nearest]
    rfl
  simp only [Datum.dividedBy, Datum.reckon, Datum.amount?, Amount.dividedBy, share]
  rfl

/-- A line is not drawn if its total is beyond the range of doubles. Otherwise the total may be left out
of it, and nothing else changes. -/
theorem withinTotal_plain (counted : 0 < total) :
    match Binary64.ofInt total with
    | .error fault => (plain (.whole total) description unit).withinTotal = .error (.number fault)
    | .ok _ =>
      (plain (.whole total) description unit).withinTotal = .ok (plain .absent description unit) ∨
        (plain (.whole total) description unit).withinTotal =
          .ok (plain (.whole total) description unit) := by
  unfold withinTotal
  simp only [plain, holds_whole counted, if_true, Datum.plus, Datum.reckon, Datum.amount?, Amount.plus,
    Amount.combine, Amount.toFloat]
  rcases Binary64.ofInt total with fault | nearest
  · rfl
  · simp only [Datum.atLeast, Datum.inOrder, Amount.toDatum, Datum.amount?, bind, Except.bind, pure,
      Except.pure]
    split
    · exact .inl rfl
    · exact .inr rfl

/-- A line without settings is filled in with a gauge of which nothing is full. -/
theorem exists_fillIn {line : ProgressLine} (unbound : line.columns = .absent)
    (uncoloured : line.colour = .absent) {fields : List (String × Filling)} {front back : String}
    (isFront : fields.lookup "l_bar" = some (.value (.text front)))
    (isBack : fields.lookup "r_bar" = some (.value (.text back))) :
    ∃ text, line.fillIn fields (.text usualTemplate) (.real (Binary64.pack false 0))
      (.text Gauge.plainSymbols) = .ok text := by
  rcases Gauge.exists_draw_atStart with ⟨drawn, draws⟩
  have width (rest : String) : line.gaugeWidth rest = .ok (.whole 10) := by
    rw [gaugeWidth, unbound]
    rfl
  have cut (text : String) : line.cut text = .ok text := by
    rw [cut, unbound]
    rfl
  have paint : Gauge.paintOf line.colour = .ok none := by
    rw [uncoloured]
    rfl
  let blank : Filling :=
    .figure "FormatReplace" [("replace", .text ""), ("format_called", .whole 0)]
  let gauge : Filling := .figure "Bar" Gauge.atStart.members
  have measured : ∃ text, Template.fill (fun name => if name = "bar" then some blank else
      fields.lookup name) (fun _ => .ok "") usualTemplate = .ok { text, figures := 1 } :=
    Template.exists_fill_usualTemplate isFront rfl isBack rfl
  have drawn : ∃ text, Template.fill (fun name => if name = "bar" then some gauge else
      fields.lookup name) Gauge.atStart.draw usualTemplate = .ok { text, figures := 1 } :=
    Template.exists_fill_usualTemplate isFront rfl isBack draws
  rcases measured with ⟨rest, measured⟩
  rcases drawn with ⟨text, drawn⟩
  refine ⟨text, ?_⟩
  simp only [fillIn]
  rw [measured]
  simp only [bind, Except.bind, width, paint]
  rw [if_neg Nat.one_ne_zero]
  exact (congrArg (· >>= fun filled : Template.Filled => line.cut filled.text) drawn).trans (cut text)

/-- A line without settings is drawn if its total is not passed. -/
theorem exists_ofCounts_whole (counted : 0 < total) :
    ∃ text, (plain (.whole total) description unit).ofCounts count whole = .ok text := by
  have percentage : (Amount.real (Binary64.pack false 0)).times (.whole 100) =
      .ok (.real (Binary64.pack false 0)) := rfl
  have bounded : Gauge.bounded (.real (Binary64.pack false 0)) = .real (Binary64.pack false 0) := rfl
  unfold ofCounts
  simp only [plain, holds_whole counted, whole_zero_dividedBy counted, Datum.amount?, percentage,
    Amount.toFloat, bounded, if_true, bind, Except.bind, mapError_ok]
  exact exists_fillIn rfl rfl rfl rfl

theorem exists_ofCounts_absent :
    ∃ text, (plain .absent description unit).ofCounts count whole = .ok text := ⟨_, rfl⟩

/-- A line without settings is written if its total is in the range of doubles. -/
theorem written_plain (counted : 0 < total) :
    (plain (.whole total) description unit).written.map (fun _ => ()) =
      match Binary64.ofInt total with
      | .error fault => .error (.number fault)
      | .ok _ => .ok () := by
  have scaled (total : Datum) :
      (plain total description unit).scaled = .ok (plain total description unit) := rfl
  have bounded := @withinTotal_plain total description unit counted
  unfold written
  rcases inRange : Binary64.ofInt total with fault | nearest
  · rw [inRange] at bounded
    rw [bounded]
    rfl
  · rw [inRange] at bounded
    rcases bounded with left | kept
    · rcases @exists_ofCounts_absent description unit "0" "?" with ⟨text, drawn⟩
      rw [left]
      simp only [bind, Except.bind, scaled]
      exact congrArg (Except.map fun _ => ()) drawn
    · rcases @exists_ofCounts_whole total description unit "0" (Datum.whole total).plain counted with
        ⟨text, drawn⟩
      rw [kept]
      simp only [bind, Except.bind, scaled]
      exact congrArg (Except.map fun _ => ()) drawn

end ProgressLine

namespace ProgressSettings

/-- A bar for which nothing is set writes its first line. -/
theorem draw_nil (bar : Progress) :
    draw [] bar =
      (ProgressLine.plain (.whole bar.total) bar.description bar.unit).written.map fun _ => () := by
  have soon : (value [] "delay" (.real 0.0)).atMost (.whole 0) = .ok true := rfl
  unfold draw
  rw [soon]
  simp only [bind, Except.bind]
  change drawAt [] (.whole 0) (ProgressLine.plain _ _ _) = _
  unfold drawAt
  rcases ProgressLine.written _ with fault | text <;> rfl

end ProgressSettings

namespace Progress

variable {total : Int} {description : String}

/-- A hidden bar is made for every number of frames, and one that is shown if the number is in the range of
doubles. -/
theorem barOf_eq (counted : 0 < total) (hidden : Bool) :
    barOf total description hidden =
      if hidden then .ok .calm
      else match Binary64.ofInt total with
        | .error fault => .error (Misuse.number fault).fault
        | .ok _ => .ok .calm := by
  cases hidden with
  | true => rfl
  | false =>
      have draws := ProgressSettings.draw_nil { total, description, unit := "frame" }
      rw [ProgressLine.written_plain counted] at draws
      simp only [barOf, draws]
      rcases Binary64.ofInt total with fault | nearest <;> rfl

end Progress

/-- What a bar says is told for a number of no more digits than the limit. -/
theorem ProgressBar.text?_eq_none_iff {frames : Int} :
    text? frames = none ↔ 10 ^ Number.digitLimit ≤ frames.natAbs := by
  have short : (Nat.toDigits 10 frames.natAbs).length ≤ Number.digitLimit ↔
      frames.natAbs < 10 ^ Number.digitLimit :=
    Nat.length_toDigits_le_iff (by decide) (by decide)
  rw [← Nat.not_lt, ← short, Nat.not_le, text?]
  split
  next long => simp only [long]
  next short => simp only [short, reduceCtorEq]

theorem ProgressBar.exists_text? {frames : Int} (counted : 0 < frames)
    (short : frames < 10 ^ Number.digitLimit) : ∃ text, text? frames = some text := by
  have told : frames.natAbs < 10 ^ Number.digitLimit := by
    rw [← Int.ofNat_lt, Int.natAbs_of_nonneg (Int.le_of_lt counted), Int.natCast_pow]
    exact short
  exact Option.ne_none_iff_exists'.mp (mt text?_eq_none_iff.mp (Nat.not_le.mpr told))

/-- A bar can be told of so many frames and be taken away at each of them. -/
structure ProgressBar.Counts (bar : ProgressBar) (frames : Int) : Prop where
  advance_eq_ok (done : Nat) (le : done ≤ frames) : bar.advance done = .ok ()
  close_eq_ok (done : Nat) (le : done ≤ frames) : bar.close done = .ok ()

theorem ProgressBar.counts_calm (frames : Int) : calm.Counts frames where
  advance_eq_ok _ _ := rfl
  close_eq_ok _ _ := rfl

namespace Tools

/-- What the bar of a run is counted on for: that it is made for so many frames, whatever it says, and can be
told of them. -/
structure Counts (tools : Tools) (frames : Int) (hidden : Bool) : Prop where
  exists_bar (description : String) :
    ∃ bar, tools.bar frames description hidden = .ok bar ∧ bar.Counts frames

variable {frames : Int} {hidden : Bool}

/-- The usual bar does what it is counted on for if it is hidden or the number of frames is in the range of
doubles. -/
theorem counts_usual (room : Nat) (newName? : String → Except FileFault (Option String))
    (counted : 0 < frames) (inRange : hidden = false → ∃ nearest, Binary64.ofInt frames = .ok nearest) :
    (usual room newName?).Counts frames hidden where
  exists_bar description := by
    have made : Progress.barOf frames description hidden = .ok .calm := by
      rw [Progress.barOf_eq counted]
      cases hidden with
      | true => rfl
      | false =>
          rcases inRange rfl with ⟨nearest, held⟩
          rw [held]
          rfl
    exact ⟨.calm, made, ProgressBar.counts_calm frames⟩

end Tools

end Chip8
