import Chip8.Proofs.CommandLine.ColorText
import Chip8.Proofs.CommandLine.SeedText
import Chip8.Proofs.CommandLine.Start
import Chip8.Proofs.Number.DecimalText

/-!
# What options are given

For every option the texts that it takes, and what it holds once it is given one: a colour that is a
number sign and six digits of base sixteen, a count above zero, a decimal frequency whose double is above
zero, a side of a block that is offered, a seed of at most sixteen bits, a scheme or a level by name, or a
path. No such text begins with a hyphen, so none of them can be taken for an option.

An option that is given such a text sets what it holds, and nothing else.
-/

namespace Chip8

open Number

/-- What an option holds. -/
inductive Held where
  | color (color : Option Color)
  | scheme (scheme : Given Scheme)
  | whole (number : Option (Given Int))
  | real (number : Option (Given Float))
  | flag (asked : Bool)
  | path (path : Option Path)
  | level (level : Given Level)

/-- What is held, or something else in place of a missing colour. -/
def Held.orColor : Held → Held → Held
  | .color none, usual => usual
  | held, _ => held

namespace OptionName

/-- The long spelling of an option. -/
def fullName : OptionName → String
  | help => "--help"
  | background => "--bg"
  | foreground => "--fg"
  | scheme => "--scheme"
  | frameRate => "--fps"
  | frequency => "--freq"
  | scale => "--scale"
  | seed => "--seed"
  | cap => "--max-catch-up"
  | headless => "--headless"
  | frames => "--frames"
  | record => "--record"
  | screenshot => "--screenshot"
  | logLevel => "--log-level"

/-- Whether an option has a value. -/
def hasValue : OptionName → Bool
  | help | headless => false
  | _ => true

/-- The texts that an option takes, and what it then holds. Digits alone are a numeral (`Plain.numeral`), in
base ten at most 4300 of them. A text after an option without a value is not looked at. -/
inductive Takes : OptionName → String → Held → Prop where
  | background {text : String} {color : Color} (hexColor : HexColor text.toList color) :
    Takes background text (.color (some color))
  | foreground {text : String} {color : Color} (hexColor : HexColor text.toList color) :
    Takes foreground text (.color (some color))
  | scheme (scheme : Scheme) : Takes .scheme scheme.name (.scheme (.value scheme))
  | frameRate {text : String} {rate : Int} (numeral : Numeral 10 text.toList rate) (positive : 0 < rate) :
    Takes frameRate text (.whole (some (.value rate)))
  | frequency {text : String} {sign letters : List Char} {scaled : Scaled}
    (unsigned : (sign, false) ∈ signs) (decimal : DecimalText letters scaled)
    (written : text.toList = sign ++ letters) (positive : 0.0 < scaled.toFloat false) :
    Takes frequency text (.real (some (.value (scaled.toFloat false))))
  | scale {text : String} {side : Int} (numeral : Numeral 10 text.toList side)
    (offered : side ∈ OptionValue.scales) : Takes scale text (.whole (some (.value side)))
  | seed {text : String} {letters : List Char} {seed : Int} (written : text.toList = '0' :: 'x' :: letters)
    (numeral : Numeral 16 letters seed) (inRange : 0 ≤ seed ∧ seed ≤ 0xFFFF) :
    Takes .seed text (.whole (some (.value seed)))
  | cap {text : String} {cap : Int} (numeral : Numeral 10 text.toList cap) (positive : 0 < cap) :
    Takes .cap text (.whole (some (.value cap)))
  | headless (text : String) : Takes headless text (.flag true)
  | frames {text : String} {count : Int} (numeral : Numeral 10 text.toList count) (positive : 0 < count) :
    Takes frames text (.whole (some (.value count)))
  | record {text : String} (unhyphened : ¬text.startsWith "-") :
    Takes record text (.path (some (Path.ofText text)))
  | screenshot {text : String} (unhyphened : ¬text.startsWith "-") :
    Takes screenshot text (.path (some (Path.ofText text)))
  | logLevel (level : Level) : Takes logLevel level.name (.level (.value level))

end OptionName

namespace Settings

/-- What settings hold for an option. Help is never held: it ends the reading. -/
def held (settings : Settings) : OptionName → Held
  | .help => .flag false
  | .background => .color settings.background
  | .foreground => .color settings.foreground
  | .scheme => .scheme settings.scheme
  | .frameRate => .whole (some settings.frameRate)
  | .frequency => .real settings.frequency
  | .scale => .whole (some settings.scale)
  | .seed => .whole settings.seed
  | .cap => .whole settings.cap
  | .headless => .flag settings.headless
  | .frames => .whole (some settings.frames)
  | .record => .path settings.record
  | .screenshot => .path settings.screenshot
  | .logLevel => .level settings.logLevel

/-- Settings are told by what they hold. -/
theorem held_injective : Function.Injective held := by
  intro settings other same
  have at' (name : OptionName) : settings.held name = other.held name := congrFun same name
  rcases settings with ⟨background, foreground, scheme, frameRate, frequency, scale, seed, cap, headless,
    frames, record, screenshot, logLevel⟩
  rcases other with ⟨_, _, _, _, _, _, _, _, _, _, _, _, _⟩
  cases at' .background
  cases at' .foreground
  cases at' .scheme
  cases at' .frameRate
  cases at' .frequency
  cases at' .scale
  cases at' .seed
  cases at' .cap
  cases at' .headless
  cases at' .frames
  cases at' .record
  cases at' .screenshot
  cases at' .logLevel
  rfl

end Settings

namespace Options

/-- What options hold for an option of the program. -/
def held (options : Options) : OptionName → Held
  | .help => .flag false
  | .background => .color (some options.palette.unlit)
  | .foreground => .color (some options.palette.lit)
  | .scheme => .scheme (.value options.scheme)
  | .frameRate => .whole (some options.frameRate)
  | .frequency => .real options.frequency
  | .scale => .whole (some options.scale)
  | .seed => .whole options.seed
  | .cap => .whole options.cap
  | .headless => .flag options.headless
  | .frames => .whole (some options.frames)
  | .record => .path options.record
  | .screenshot => .path options.screenshot
  | .logLevel => .level options.logLevel

/-- What options hold for an option that is not given: the colours are those of their scheme. -/
def usual (options : Options) : OptionName → Held
  | .help | .headless => .flag false
  | .background => .color (some options.scheme.palette.unlit)
  | .foreground => .color (some options.scheme.palette.lit)
  | .scheme => .scheme (.value .default)
  | .frameRate => .whole (some (.value 30))
  | .frequency => .real none
  | .scale => .whole (some (.value 8))
  | .seed | .cap => .whole none
  | .frames => .whole (some (.value 600))
  | .record | .screenshot => .path none
  | .logLevel => .level (.value .info)

/-- Options hold what the settings hold that they are made of, but for a colour that is missing there. -/
theorem held_eq {settings : Settings} {rom : Path} {options : Options}
    (made : settings.options rom = .ok options) (name : OptionName) :
    options.held name = (settings.held name).orColor (options.usual name) := by
  unfold Settings.options at made
  split at made <;> cases made
  next scheme chosen =>
    cases name with
    | background => rcases chosen : settings.background <;> simp [held, Settings.held, Held.orColor, usual,
        Settings.palette, chosen]
    | foreground => rcases chosen : settings.foreground <;> simp [held, Settings.held, Held.orColor, usual,
        Settings.palette, chosen]
    | scheme => simp [held, Settings.held, Held.orColor, chosen]
    | _ => rfl

/-- What settings hold to begin with. -/
theorem orColor_usual (options : Options) (name : OptionName) :
    (({} : Settings).held name).orColor (options.usual name) = options.usual name := by
  cases name <;> rfl

end Options

/-! ### Values as they are read -/

section Values

variable {text : String} {value : Int}

theorem startsWith_hyphen_iff : text.startsWith "-" = true ↔ '-' ∈ text.toList.head? := by
  rw [String.startsWith_string_iff, show "-".toList = ['-'] by decide]
  rcases text.toList with _ | ⟨first, later⟩
  · simp
  · simp [eq_comm]

/-- The text of a number above zero begins with no hyphen. -/
theorem Number.Numeral.unhyphened {base : Nat} {text : List Char} (numeral : Numeral base text value)
    (positive : 0 < value) : '-' ∉ text.head? := by
  rcases numeral with @⟨before, written, after, sign, mark, body, negative, digits, blankBefore, plain,
    isSign, isMark, grouped, inLimit, blankAfter⟩
  intro begins
  rcases before with _ | ⟨blank, before⟩
  · rcases exists_nonblank_head isSign isMark grouped with ⟨character, later, whole, -⟩
    rcases written with _ | ⟨first, written⟩
    · rw [whole] at plain
      cases plain
    · cases begins
      -- The hyphen is plain already, so it is the sign, and the number is at most zero.
      have hyphen : '-' ∈ (sign ++ mark ++ body).head? := by
        rw [← plain]
        rfl
      simp only [signs, List.mem_cons, Prod.mk.injEq, List.not_mem_nil, or_false] at isSign
      rcases isSign with ⟨rfl, -⟩ | ⟨rfl, -⟩ | ⟨-, rfl⟩
      · have unsigned := @unsigned_of_grouped base body [] digits mark isMark grouped
        rw [List.append_nil] at unsigned
        exact (unsigned _ hyphen).1 rfl
      · cases hyphen
      · rw [if_pos rfl] at positive
        omega
  · cases begins
    exact absurd (blankBefore '-' List.mem_cons_self) (by decide)

namespace OptionValue

theorem positiveInt_of_numeral (numeral : Numeral 10 text.toList value) (positive : 0 < value) :
    positiveInt text = .ok value := by
  unfold positiveInt
  rw [(readInt_eq_ok_iff (by decide)).mpr numeral]
  exact if_neg (by omega)

theorem scale_of_numeral (numeral : Numeral 10 text.toList value) (offered : value ∈ scales) :
    scale text = .ok value := by
  unfold scale
  rw [(readInt_eq_ok_iff (by decide)).mpr numeral]
  exact if_pos offered

theorem positiveFloat_of_read {number : Float} (read : readFloat text = .ok number)
    (positive : 0.0 < number) : positiveFloat text = .ok number := by
  have above : ¬number ≤ 0.0 := by
    rw [Double.not_le_zero_iff rfl]
    exact .inr ((Double.zero_lt_iff rfl).mp positive)
  unfold positiveFloat
  rw [read]
  exact if_neg above

end OptionValue

end Values

/-- Whatever text is assigned to an option, the others hold what they held. -/
theorem OptionName.held_of_assign {name other : OptionName} {text : String} {before after : Settings}
    (assigned : name.assign text before = .ok after) (apart : other ≠ name) :
    after.held other = before.held other := by
  cases name with
  | record | screenshot | help | headless =>
      cases assigned
      cases other <;> first | rfl | exact absurd rfl apart
  | _ =>
      rcases bind_eq_ok_iff.mp assigned with ⟨_, _, made⟩
      cases made
      cases other <;> first | rfl | exact absurd rfl apart

namespace OptionName.Takes

variable {name : OptionName} {text : String} {held : Held}

/-- A text that an option takes begins with no hyphen. -/
theorem unhyphened (takes : name.Takes text held) (hasValue : name.hasValue = true) :
    ¬text.startsWith "-" := by
  cases takes with
  | background hexColor | foreground hexColor =>
      rcases hexColor.exists_numeral with ⟨letters, _, written, -⟩
      rw [startsWith_hyphen_iff, written]
      simp
  | scheme scheme => cases scheme <;> (rw [startsWith_hyphen_iff]; decide)
  | logLevel level => cases level <;> (rw [startsWith_hyphen_iff]; decide)
  | frameRate numeral positive | cap numeral positive | frames numeral positive =>
      rw [startsWith_hyphen_iff]
      exact numeral.unhyphened positive
  | scale numeral offered =>
      have positive : ∀ side ∈ OptionValue.scales, 0 < side := by decide
      rw [startsWith_hyphen_iff]
      exact numeral.unhyphened (positive _ offered)
  | frequency unsigned decimal written positive =>
      have noHyphen : '-' ∉ '.' :: decimalDigits := by decide
      rcases decimal.exists_head with ⟨first, later, rfl, isFirst⟩
      simp only [signs, List.mem_cons, Prod.mk.injEq, List.not_mem_nil, or_false] at unsigned
      rw [startsWith_hyphen_iff, written]
      rcases unsigned with ⟨rfl, -⟩ | ⟨rfl, -⟩ | ⟨-, impossible⟩
      · rintro ⟨rfl⟩
        exact noHyphen isFirst
      · simp
      · cases impossible
  | seed written numeral inRange =>
      rw [startsWith_hyphen_iff, written]
      simp
  | headless => cases hasValue
  | record unhyphened | screenshot unhyphened => exact unhyphened

/-- What an option holds is no missing colour. -/
theorem orColor (takes : name.Takes text held) (usual : Held) : held.orColor usual = held := by
  cases takes <;> rfl

/-- A text that an option takes is assigned to it, and the option then holds what the text stands for. -/
theorem exists_assign (takes : name.Takes text held) (hasValue : name.hasValue = true)
    (settings : Settings) : ∃ after, name.assign text settings = .ok after ∧ after.held name = held := by
  cases takes with
  | background hexColor | foreground hexColor =>
      have read := OptionValue.color_eq_ok_iff.mpr hexColor.exists_numeral
      simp only [assign, read]
      exact ⟨_, rfl, rfl⟩
  | scheme scheme =>
      have read : OptionValue.choice Scheme.name Scheme.all scheme.name = .ok scheme := by
        cases scheme <;> rfl
      simp only [assign, read]
      exact ⟨_, rfl, rfl⟩
  | logLevel level =>
      have read : OptionValue.choice Level.name Level.all level.name = .ok level := by
        cases level <;> rfl
      simp only [assign, read]
      exact ⟨_, rfl, rfl⟩
  | frameRate numeral positive | cap numeral positive | frames numeral positive =>
      simp only [assign, OptionValue.positiveInt_of_numeral numeral positive]
      exact ⟨_, rfl, rfl⟩
  | scale numeral offered =>
      simp only [assign, OptionValue.scale_of_numeral numeral offered]
      exact ⟨_, rfl, rfl⟩
  | frequency unsigned decimal written positive =>
      have read := readFloat_of_decimalText unsigned decimal written
      simp only [assign, OptionValue.positiveFloat_of_read read positive]
      exact ⟨_, rfl, rfl⟩
  | seed written numeral inRange =>
      simp only [assign, OptionValue.seed_of_numeral written numeral inRange]
      exact ⟨_, rfl, rfl⟩
  | headless => cases hasValue
  | record unhyphened | screenshot unhyphened => exact ⟨_, rfl, rfl⟩

end OptionName.Takes

end Chip8
