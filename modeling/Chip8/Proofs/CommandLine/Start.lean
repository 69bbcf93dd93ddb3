import Chip8.CommandLine.Options
import Chip8.Proofs.CommandLine.Walk
import Chip8.Proofs.Number.Double

/-!
# Which lines can be started

A line that is accepted has been looked at option by option: a frequency that is given is not at most
zero, and counts that are given are from one on. This leaves frequencies that are infinite or no number at
all, and counts and quotients beyond the range of doubles. They come up only when the emulator is made, and
then it is not made. An emulator that is made has a period above zero and caps from one on.
-/

namespace Chip8

open Double

/-- What has been looked at of the values that bear on the schedules. -/
structure Checked (frequency : Option (Given Float)) (cap : Option (Given Int)) (frameRate : Given Int) :
    Prop where
  frequency : ∀ value, frequency = some (.value value) → ¬value ≤ 0.0
  cap : ∀ value, cap = some (.value value) → 1 ≤ value
  frameRate : ∀ value, frameRate = .value value → 1 ≤ value

theorem OptionValue.positiveFloat_of_ok {text : String} {value : Float}
    (read : positiveFloat text = .ok value) : ¬value ≤ 0.0 := by
  unfold positiveFloat at read
  split at read
  · cases read
  · split at read <;> cases read
    assumption

theorem OptionValue.positiveInt_of_ok {text : String} {value : Int} (read : positiveInt text = .ok value) :
    1 ≤ value := by
  unfold positiveInt at read
  split at read
  · cases read
  · split at read <;> cases read
    omega

theorem OptionValue.eq_ok_of_ofType {Value : Type} {type text : String} {outcome : Except ValueFault Value}
    {value : Value} (read : ofType type text outcome = .ok value) : outcome = .ok value := by
  unfold ofType at read
  split at read <;> cases read
  rfl

theorem OptionName.keeps_checked :
    meaning.Keeps fun settings => Checked settings.frequency settings.cap settings.frameRate where
  flag := by
    intro name before after applied holds
    cases name <;> cases applied <;> exact ⟨holds.frequency, holds.cap, holds.frameRate⟩
  value := by
    intro name text before after applied holds
    have assigned : name.assign text before = .ok after := by
      simp only [meaning] at applied
      split at applied <;> cases applied
      assumption
    cases name with
    | frequency =>
        rcases bind_eq_ok_iff.mp assigned with ⟨read, isRead, made⟩
        cases made
        refine ⟨?_, holds.cap, holds.frameRate⟩
        rintro value ⟨⟩
        exact OptionValue.positiveFloat_of_ok (OptionValue.eq_ok_of_ofType isRead)
    | cap =>
        rcases bind_eq_ok_iff.mp assigned with ⟨read, isRead, made⟩
        cases made
        refine ⟨holds.frequency, ?_, holds.frameRate⟩
        rintro value ⟨⟩
        exact OptionValue.positiveInt_of_ok (OptionValue.eq_ok_of_ofType isRead)
    | frameRate =>
        rcases bind_eq_ok_iff.mp assigned with ⟨read, isRead, made⟩
        cases made
        refine ⟨holds.frequency, holds.cap, ?_⟩
        rintro value ⟨⟩
        exact OptionValue.positiveInt_of_ok (OptionValue.eq_ok_of_ofType isRead)
    | background | foreground | scheme | scale | seed | frames | logLevel =>
        rcases bind_eq_ok_iff.mp assigned with ⟨read, _, made⟩
        cases made
        exact ⟨holds.frequency, holds.cap, holds.frameRate⟩
    | record | screenshot | help | headless =>
        cases assigned
        exact ⟨holds.frequency, holds.cap, holds.frameRate⟩
  nothing := by
    intro name before holds
    cases name with
    | frequency => exact ⟨nofun, holds.cap, holds.frameRate⟩
    | cap => exact ⟨holds.frequency, nofun, holds.frameRate⟩
    | frameRate => exact ⟨holds.frequency, holds.cap, nofun⟩
    | _ => exact ⟨holds.frequency, holds.cap, holds.frameRate⟩

/-- Whatever the words of a line that is accepted, its options have been looked at. -/
theorem Options.checked_of_parse {dialect : CommandLine.Dialect} {words : List String} {options : Options}
    (accepted : parse dialect words = .ok options) :
    Checked options.frequency options.cap options.frameRate := by
  unfold parse at accepted
  split at accepted
  · rcases bind_eq_ok_iff.mp accepted with ⟨tokens, _, walked⟩
    rcases bind_eq_ok_iff.mp walked with ⟨found, done, made⟩
    have unset : Checked none none (.value 30) := ⟨nofun, nofun, by rintro value ⟨⟩; decide⟩
    have checked := CommandLine.walk_keeps OptionName.keeps_checked done unset
    split at made
    next => cases made
    next =>
      simp only [Settings.options] at made
      split at made <;> cases made
      exact checked
    next => cases made
  · cases accepted

section Schedules

variable {frequency : Float} {cap : Int}

theorem le_zero_iff {number : Float} :
    ClockNumber.le number (ClockNumber.ofNat 0) = true ↔ number ≤ 0.0 := by
  change decide (number ≤ ClockNumber.ofNat 0) = true ↔ _
  rw [decide_eq_true_iff, le_iff, le_iff]
  rfl

theorem div_of_nonzero {divisor : Float} (nonzero : ∀ sign, kind divisor ≠ .zero sign) (number : Float) :
    ClockNumber.div number divisor = .ok (number / divisor) := by
  have unequal : (divisor == 0.0) = false := by
    rw [Bool.eq_false_iff, Ne, beq_zero_iff rfl]
    rintro ⟨sign, isZero⟩
    exact nonzero sign isZero
  change Binary64.div number divisor = _
  rw [Binary64.div, unequal]
  rfl

/-- What is not at most zero can be divided by. -/
theorem div_of_not_le_zero {divisor : Float} (checked : ¬divisor ≤ 0.0) (number : Float) :
    ClockNumber.div number divisor = .ok (number / divisor) := by
  apply div_of_nonzero
  intro sign isZero
  rw [not_le_zero_iff rfl, isZero] at checked
  rcases checked with isNaN | above
  · cases isNaN
  · exact above

/-- A count from one on can be divided by. -/
theorem div_of_ofInt {count : Int} {divisor : Float} (counted : 1 ≤ count)
    (held : Binary64.ofInt count = .ok divisor) (number : Float) :
    ClockNumber.div number divisor = .ok (number / divisor) := by
  apply div_of_nonzero
  have notNegative : decide (count < 0) = false := decide_eq_false (by omega)
  unfold Binary64.ofInt at held
  rw [notNegative] at held
  dsimp only at held
  split at held <;> cases held
  exact kind_ofRatio_ne_zero (by omega)

/-- A schedule is made for a frequency that was looked at if a period is not at most zero. -/
theorem Scheduler.ofFrequency_of_checked (checked : ¬frequency ≤ 0.0) (room : 1 ≤ cap) :
    Scheduler.ofFrequency frequency (some cap) =
      if ClockNumber.ofNat 1 / frequency ≤ 0.0 then
        .error (.periodNotPositive (ClockNumber.ofNat 1 / frequency))
      else .ok { period := ClockNumber.ofNat 1 / frequency, cap := some cap } := by
  unfold ofFrequency ofPeriod
  rw [if_neg (mt le_zero_iff.mp checked), div_of_not_le_zero checked]
  simp only [le_zero_iff]
  split
  · rfl
  · rw [if_neg (by omega)]

/-- The period of a finite frequency that was looked at is above zero. -/
theorem zero_lt_period (checked : ¬frequency ≤ 0.0) (isFinite : frequency.isFinite = true) :
    0.0 < ClockNumber.ofNat 1 / frequency := by
  rw [zero_lt_iff rfl]
  have finite : (kind frequency).isFinite = true := isFinite
  rcases (not_le_zero_iff rfl).mp checked with isNaN | above
  · rw [isNaN] at finite
    cases finite
  · rcases reached : kind frequency with sign | _ | sign | ⟨sign, significand, exponent, positive⟩ <;>
      rw [reached] at finite above
    · cases finite
    · cases finite
    · cases above
    · cases above
      exact signed_reciprocal rfl reached

/-- A frequency is finite if its period is not at most zero and some quotient by it is finite: the period of
an infinite one is zero, and a quotient by what is no number is none. -/
theorem isFinite_of_period {number : Float} (checked : ¬frequency ≤ 0.0)
    (period : ¬ClockNumber.ofNat 1 / frequency ≤ 0.0) (quotient : (number / frequency).isFinite = true) :
    frequency.isFinite = true := by
  change (kind frequency).isFinite = true
  rcases reached : kind frequency with sign | _ | sign | ⟨sign, significand, exponent, positive⟩
  · have isZero : kind (ClockNumber.ofNat 1 / frequency) = .zero (.positive / sign) :=
      kind_div_of_infinity rfl reached
    rw [not_le_zero_iff rfl, isZero] at period
    rcases period with isNaN | above
    · cases isNaN
    · exact above.elim
  · change (kind (number / frequency)).isFinite = true at quotient
    rw [kind_div_of_notANumber reached] at quotient
    cases quotient
  · rw [not_le_zero_iff rfl, reached] at checked
    rcases checked with isNaN | above
    · cases isNaN
    · exact above.elim
  · rfl

/-- What the timers are capped at. -/
theorem timerCap_eq_ok_iff (checked : ¬frequency ≤ 0.0) {ticks : Int} :
    Emulator.timerCap frequency cap = .ok ticks ↔
      ∃ span whole, Binary64.ofInt cap = .ok span ∧
        Binary64.ceil (span * Emulator.timerFrequency / frequency) = .ok whole ∧ ticks = max 1 whole := by
  simp only [Emulator.timerCap, bind_eq_ok_iff, div_of_not_le_zero checked, Except.ok.injEq]
  constructor
  · rintro ⟨span, held, _, rfl, whole, rounded, rfl⟩
    exact ⟨span, whole, held, rounded, rfl⟩
  · rintro ⟨span, whole, held, rounded, rfl⟩
    exact ⟨span, held, _, rfl, whole, rounded, rfl⟩

/-- What two host frames are worth. -/
theorem defaultCap_eq_ok_iff {rate : Int} (counted : 1 ≤ rate) :
    Binary64.ofInt rate >>= Emulator.defaultCap frequency = .ok cap ↔
      ∃ frames cycles, Binary64.ofInt rate = .ok frames ∧
        Binary64.ceil (frequency * Emulator.catchUpFrames / frames) = .ok cycles ∧ cap = max 1 cycles := by
  simp only [Emulator.defaultCap, bind_eq_ok_iff, Except.ok.injEq]
  constructor
  · rintro ⟨frames, held, quotient, divided, cycles, rounded, rfl⟩
    rw [div_of_ofInt counted held] at divided
    cases divided
    exact ⟨frames, cycles, held, rounded, rfl⟩
  · rintro ⟨frames, cycles, held, rounded, rfl⟩
    exact ⟨frames, held, _, div_of_ofInt counted held _, cycles, rounded, rfl⟩

/-- An emulator is made for a frequency and a cap that were looked at exactly if the frequency is finite,
the cap is in the range of doubles, and so are the ticks that cover it. -/
theorem Emulator.create_eq_ok_iff_of_checked (checked : ¬frequency ≤ 0.0) (room : 1 ≤ cap) {log : Log}
    {emulator : Emulator Float} :
    create frequency (some cap) log = .ok emulator ↔
      frequency.isFinite = true ∧ ∃ span whole, Binary64.ofInt cap = .ok span ∧
        Binary64.ceil (span * timerFrequency / frequency) = .ok whole ∧
        emulator =
          { frequency
            cpuClock := { period := ClockNumber.ofNat 1 / frequency, cap := some cap }
            timerClock := { period := ClockNumber.ofNat 1 / timerFrequency, cap := some (max 1 whole) }
            log } := by
  have sixty : ¬(timerFrequency : Float) ≤ 0.0 := by decide +kernel
  have minute : ¬(ClockNumber.ofNat 1 / timerFrequency : Float) ≤ 0.0 := by decide +kernel
  have caps {ticks : Option Int} : timerCap? frequency (some cap) = .ok ticks ↔
      ∃ bound, timerCap frequency cap = .ok bound ∧ ticks = some bound := by
    rcases covered : timerCap frequency cap with fault | bound
    · simp [timerCap?, covered]
    · simp [timerCap?, covered, eq_comm]
  have timers (whole : Int) := Scheduler.ofFrequency_of_checked sixty (Int.le_max_left 1 whole)
  simp only [create, bind_eq_ok_iff, Scheduler.ofFrequency_of_checked checked room, caps,
    timerCap_eq_ok_iff checked]
  constructor
  · rintro ⟨cpuClock, made, _, ⟨_, ⟨span, whole, held, rounded, rfl⟩, rfl⟩, timerClock, ticking, created⟩
    rw [timers, if_neg minute] at ticking
    split at made
    next => cases made
    next period =>
      cases made
      cases ticking
      cases created
      have quotient := exists_ceil_iff.mp ⟨whole, rounded⟩
      exact ⟨isFinite_of_period checked period quotient, span, whole, held, rounded, rfl⟩
  · rintro ⟨isFinite, span, whole, held, rounded, rfl⟩
    have period : ¬ClockNumber.ofNat 1 / frequency ≤ 0.0 :=
      (not_le_zero_iff rfl).mpr (.inr ((zero_lt_iff rfl).mp (zero_lt_period checked isFinite)))
    refine ⟨_, if_neg period, _, ⟨_, ⟨span, whole, held, rounded, rfl⟩, rfl⟩, _, ?_, rfl⟩
    rw [timers, if_neg minute]

end Schedules

namespace Options

/-- The frequency of the processor: the one that is given, or the default. -/
def askedFrequency (options : Options) : Given Float :=
  options.frequency.getD (.value Emulator.defaultFrequency)

/-- The cap on cycles: the one that is given, or that which covers two host frames at a frequency. -/
def AsksCap (options : Options) (frequency : Float) (cap : Int) : Prop :=
  options.cap = some (.value cap) ∨
    options.cap = none ∧ ∃ rate frames cycles, options.frameRate = .value rate ∧
      Binary64.ofInt rate = .ok frames ∧
      Binary64.ceil (frequency * Emulator.catchUpFrames / frames) = .ok cycles ∧ cap = max 1 cycles

/-- The frequency of a line is finite, and its cap and the ticks that cover it are in the range of
doubles. -/
def Startable (options : Options) : Prop :=
  ∃ frequency cap span, options.askedFrequency = .value frequency ∧ frequency.isFinite = true ∧
    options.AsksCap frequency cap ∧ Binary64.ofInt cap = .ok span ∧
    (span * Emulator.timerFrequency / frequency).isFinite = true

variable {options : Options} {frequency : Float} {cap : Int}

theorem not_le_zero_of_askedFrequency
    (checked : Checked options.frequency options.cap options.frameRate)
    (asked : options.askedFrequency = .value frequency) : ¬frequency ≤ 0.0 := by
  rcases given : options.frequency with _ | value
  · rw [askedFrequency, given] at asked
    cases asked
    decide +kernel
  · rw [askedFrequency, given] at asked
    cases asked
    exact checked.frequency _ given

theorem one_le_of_asksCap (checked : Checked options.frequency options.cap options.frameRate)
    (asks : options.AsksCap frequency cap) : 1 ≤ cap := by
  rcases asks with given | ⟨_, _, _, cycles, _, _, _, rfl⟩
  · exact checked.cap cap given
  · exact Int.le_max_left 1 cycles

theorem wantedCap_eq_ok_iff (checked : Checked options.frequency options.cap options.frameRate)
    (asked : options.askedFrequency = .value frequency) :
    options.wantedCap = .ok (.value cap) ↔ options.AsksCap frequency cap := by
  rw [askedFrequency] at asked
  unfold wantedCap
  rw [asked]
  rcases caps : options.cap with _ | given
  · rcases rates : options.frameRate with rate | _
    · have covers := @defaultCap_eq_ok_iff frequency cap rate (checked.frameRate rate rates)
      simp only [AsksCap, caps, rates, reduceCtorEq, false_or, true_and, Given.value.injEq,
        exists_eq_left', exists_and_left]
      rcases covered : Binary64.ofInt rate >>= Emulator.defaultCap frequency with fault | bound
      · rw [covered] at covers
        simpa using covers
      · rw [covered] at covers
        simpa using covers
    · simp [AsksCap, caps, rates]
  · simp [AsksCap, caps]

theorem emulator_eq_ok_iff {log : Log} {emulator : Emulator Float} :
    options.emulator log = .ok emulator ↔
      ∃ frequency cap, options.askedFrequency = .value frequency ∧
        options.wantedCap = .ok (.value cap) ∧
        Emulator.create frequency (some cap) log = .ok emulator := by
  unfold Options.emulator
  rw [bind_eq_ok_iff]
  constructor
  · rintro ⟨given, wanted, made⟩
    split at made
    next => cases made
    next cap frequency asked =>
      rcases created : Emulator.create frequency (some cap) log with fault | same
      · rw [created] at made
        cases made
      · rw [created] at made
        cases made
        exact ⟨frequency, cap, asked, wanted, created⟩
    next => split at made <;> cases made
  · rintro ⟨frequency, cap, asked, wanted, created⟩
    rw [askedFrequency] at asked
    refine ⟨.value cap, wanted, ?_⟩
    rw [asked]
    simp only [created]
    rfl

/-- Of options that were looked at an emulator is made exactly if their numbers are in the range of
doubles. -/
theorem exists_emulator_eq_ok_iff (checked : Checked options.frequency options.cap options.frameRate)
    {log : Log} : (∃ emulator, options.emulator log = .ok emulator) ↔ options.Startable := by
  constructor
  · rintro ⟨emulator, made⟩
    rcases emulator_eq_ok_iff.mp made with ⟨frequency, cap, asked, wanted, created⟩
    have asks := (wantedCap_eq_ok_iff checked asked).mp wanted
    rcases (Emulator.create_eq_ok_iff_of_checked (not_le_zero_of_askedFrequency checked asked)
      (one_le_of_asksCap checked asks)).mp created with ⟨isFinite, span, whole, held, rounded, _⟩
    exact ⟨frequency, cap, span, asked, isFinite, asks, held, exists_ceil_iff.mp ⟨whole, rounded⟩⟩
  · rintro ⟨frequency, cap, span, asked, isFinite, asks, held, quotient⟩
    rcases exists_ceil_iff.mpr quotient with ⟨whole, rounded⟩
    have wanted := (wantedCap_eq_ok_iff checked asked).mpr asks
    exact ⟨_, emulator_eq_ok_iff.mpr ⟨frequency, cap, asked, wanted,
      (Emulator.create_eq_ok_iff_of_checked (not_le_zero_of_askedFrequency checked asked)
        (one_le_of_asksCap checked asks)).mpr ⟨isFinite, span, whole, held, rounded, rfl⟩⟩⟩

/-- The emulator that is made of options that were looked at has a period above zero, and its caps allow a
run. -/
theorem schedules_of_emulator (checked : Checked options.frequency options.cap options.frameRate)
    {log : Log} {emulator : Emulator Float} (made : options.emulator log = .ok emulator) :
    0.0 < emulator.cpuClock.period ∧
      (∃ cap, emulator.cpuClock.cap = some cap ∧ 1 ≤ cap) ∧
      ∃ ticks, emulator.timerClock.cap = some ticks ∧ 1 ≤ ticks := by
  rcases emulator_eq_ok_iff.mp made with ⟨frequency, cap, asked, wanted, created⟩
  have notBelow := not_le_zero_of_askedFrequency checked asked
  have room := one_le_of_asksCap checked ((wantedCap_eq_ok_iff checked asked).mp wanted)
  rcases (Emulator.create_eq_ok_iff_of_checked notBelow room).mp created with
    ⟨isFinite, span, whole, _, _, rfl⟩
  exact ⟨zero_lt_period notBelow isFinite, ⟨cap, rfl, room⟩, _, rfl, Int.le_max_left 1 whole⟩

/-- Of a line that is accepted an emulator is made exactly if its numbers are in the range of doubles. Its
period is then above zero and its caps are from one on. -/
theorem emulator_of_parse {dialect : CommandLine.Dialect} {words : List String}
    (accepted : parse dialect words = .ok options) (log : Log) :
    ((∃ emulator, options.emulator log = .ok emulator) ↔ options.Startable) ∧
      ∀ emulator, options.emulator log = .ok emulator →
        0.0 < emulator.cpuClock.period ∧
        (∃ cap, emulator.cpuClock.cap = some cap ∧ 1 ≤ cap) ∧
        ∃ ticks, emulator.timerClock.cap = some ticks ∧ 1 ≤ ticks := by
  have checked := checked_of_parse accepted
  exact ⟨exists_emulator_eq_ok_iff checked, fun _ made => schedules_of_emulator checked made⟩

/-- A line that names a program only is started. -/
theorem emulator_of_parse_of_plain :
    ∃ options emulator, parse .recent ["game.ch8"] = .ok options ∧ options.emulator {} = .ok emulator ∧
      0.0 < emulator.cpuClock.period := by
  have started : (match parse .recent ["game.ch8"] with
      | .error _ => false
      | .ok options => (options.emulator {}).isOk) = true := by decide +kernel
  split at started
  next => cases started
  next options accepted =>
    rcases made : options.emulator {} with fault | emulator
    · rw [made] at started
      cases started
    · exact ⟨options, emulator, accepted, made, ((emulator_of_parse accepted {}).2 emulator made).1⟩

/-- A frequency that is no number is accepted, although it is not above zero, and no emulator is made. -/
theorem emulator_of_nan :
    ∃ options, parse .recent ["game.ch8", "--freq", "nan"] = .ok options ∧
      options.emulator {} = .error (.schedule (.number .nanToInteger)) := by
  have refused : (match parse .recent ["game.ch8", "--freq", "nan"] with
      | .error _ => false
      | .ok options =>
        match options.emulator {} with
        | .error (.schedule (.number .nanToInteger)) => true
        | _ => false) = true := by decide +kernel
  split at refused
  next => cases refused
  next options accepted =>
    refine ⟨options, accepted, ?_⟩
    split at refused
    next made => exact made
    next => cases refused

end Options

end Chip8
