import Chip8.Proofs.CommandLine.Choice
import Mathlib.Data.List.Perm.Basic
import Mathlib.Logic.Function.Basic

/-!
# The order of options

A line names some options in full, each at most once and each followed by a text that it takes, and the
program to run, which stands before, after or between them. Every such line is accepted. What comes of it
holds what each text stands for and is as usual otherwise, so the order does not matter: neither that of
the options, nor the place of the program, nor on which side of the scheme a colour stands.

Such a line is followed token by token. One option with its text is one step of a walk, and the step is an
update of what the settings hold at one place. Updates at different places can be exchanged.
-/

namespace Chip8

open CommandLine Number

/-- An option with a text that it takes, and what it then holds. -/
structure Choice where
  name : OptionName
  text : String
  held : Held
  takes : name.Takes text held

namespace Choice

/-- The words of a line for an option: its name in full, and the text if the option has a value. -/
def words (choice : Choice) : List String :=
  if choice.name.hasValue then [choice.name.fullName, choice.text] else [choice.name.fullName]

def tokens (choice : Choice) : List (Token OptionName) :=
  if choice.name.hasValue then [.option choice.name true, .operand choice.text]
  else [.option choice.name false]

/-- What is held once an option has been given its text. -/
def hold (held : OptionName → Held) (choice : Choice) : OptionName → Held :=
  Function.update held choice.name choice.held

end Choice

/-! ### Words and tokens -/

variable {dialect : Dialect}

/-- A word is one token. -/
def IsToken (dialect : Dialect) (word : String) (token : Token OptionName) : Prop :=
  (wordTokens dialect OptionName.spellings word : Except (UsageFault OptionName Refusal) _) = .ok [token]

/-- Words have these tokens. -/
def HaveTokens (dialect : Dialect) (words : List String) (found : List (Token OptionName)) : Prop :=
  (tokens dialect OptionName.spellings words : Except (UsageFault OptionName Refusal) _) = .ok found

section Words

variable {word : String} {token : Token OptionName} {rest : List String} {others : List (Token OptionName)}

theorem isToken_operand (unhyphened : ¬word.startsWith "-") : IsToken dialect word (.operand word) := by
  rw [Bool.not_eq_true] at unhyphened
  unfold IsToken wordTokens
  rw [unhyphened]
  rfl

theorem isToken_fullName (name : OptionName) : IsToken dialect name.fullName (.option name name.hasValue) := by
  have hyphened : name.fullName.startsWith "-" = true := by
    rw [startsWith_hyphen_iff]
    cases name <;> decide
  have spelled : spelled? OptionName.spellings name.fullName =
      some ⟨name.fullName, name, name.hasValue⟩ := by
    cases name <;> rfl
  unfold IsToken wordTokens
  rw [hyphened, spelled]
  rfl

theorem ne_separator_of_unhyphened (unhyphened : ¬word.startsWith "-") : word ≠ "--" := by
  rintro rfl
  exact unhyphened (startsWith_hyphen_iff.mpr (by decide))

theorem HaveTokens.cons (unseparated : word ≠ "--") (first : IsToken dialect word token)
    (later : HaveTokens dialect rest others) : HaveTokens dialect (word :: rest) (token :: others) := by
  unfold HaveTokens IsToken at *
  rw [tokens, if_neg unseparated, first, later]
  rfl

theorem Choice.haveTokens_append (choice : Choice) (later : HaveTokens dialect rest others) :
    HaveTokens dialect (choice.words ++ rest) (choice.tokens ++ others) := by
  have named : choice.name.fullName ≠ "--" := by cases choice.name <;> decide
  have first := @isToken_fullName dialect choice.name
  unfold Choice.words Choice.tokens
  split
  next hasValue =>
    have unhyphened := choice.takes.unhyphened hasValue
    rw [hasValue] at first
    exact .cons named first
      (.cons (ne_separator_of_unhyphened unhyphened) (isToken_operand unhyphened) later)
  next noValue =>
    rw [Bool.eq_false_of_not_eq_true noValue] at first
    exact .cons named first later

/-- The tokens of several options in a row are those of each in turn. -/
theorem haveTokens_flatMap_append (choices : List Choice) (later : HaveTokens dialect rest others) :
    HaveTokens dialect (choices.flatMap Choice.words ++ rest) (choices.flatMap Choice.tokens ++ others) := by
  induction choices with
  | nil => exact later
  | cons choice choices ih =>
      rw [List.flatMap_cons, List.flatMap_cons, List.append_assoc, List.append_assoc]
      exact choice.haveTokens_append ih

/-- The tokens of a line: its path is an operand among the options. -/
theorem haveTokens_line (before after : List Choice) {rom : String} (unhyphened : ¬rom.startsWith "-") :
    HaveTokens dialect (before.flatMap Choice.words ++ rom :: after.flatMap Choice.words)
      (before.flatMap Choice.tokens ++ .operand rom :: after.flatMap Choice.tokens) := by
  have ended := @haveTokens_flatMap_append dialect [] [] after rfl
  rw [List.append_nil, List.append_nil] at ended
  exact haveTokens_flatMap_append before
    (.cons (ne_separator_of_unhyphened unhyphened) (isToken_operand unhyphened) ended)

end Words

/-! ### The walk -/

section Walks

variable {rest : List (Token OptionName)}

/-- One option with its text is one step, which updates what is held at one place. -/
theorem Choice.exists_walk (choice : Choice) (state : Walk Settings) :
    ∃ settings : Settings, settings.held = choice.hold state.settings.held ∧
      ∀ rest, walk dialect OptionName.meaning state (choice.tokens ++ rest) =
        walk dialect OptionName.meaning { state with settings } rest := by
  unfold Choice.tokens Choice.hold
  split
  next hasValue =>
    rcases choice.takes.exists_assign hasValue state.settings with ⟨settings, assigned, held⟩
    refine ⟨settings, ?_, ?_⟩
    · rw [Function.eq_update_iff]
      exact ⟨held, fun other apart => OptionName.held_of_assign assigned apart⟩
    · intro rest
      have applied : OptionName.meaning.value choice.name choice.text state.settings = .ok settings := by
        simp only [OptionName.meaning, assigned]
      simp only [List.cons_append, List.nil_append, walk, applied]
      rfl
  next noValue =>
    rcases choice with ⟨name, text, held, takes⟩
    cases takes with
    | headless =>
        refine ⟨{ state.settings with headless := true }, ?_, fun rest => rfl⟩
        rw [Function.eq_update_iff]
        refine ⟨rfl, ?_⟩
        intro other apart
        cases other <;> first | rfl | exact absurd rfl apart
    | _ => exact absurd rfl noValue

/-- Several options in a row update what is held one after another. -/
theorem exists_walk_flatMap (choices : List Choice) (state : Walk Settings) :
    ∃ settings : Settings, settings.held = choices.foldl Choice.hold state.settings.held ∧
      ∀ rest, walk dialect OptionName.meaning state (choices.flatMap Choice.tokens ++ rest) =
        walk dialect OptionName.meaning { state with settings } rest := by
  induction choices generalizing state with
  | nil => exact ⟨state.settings, rfl, fun rest => rfl⟩
  | cons choice choices ih =>
      rcases choice.exists_walk state with ⟨middle, heldBetween, first⟩
      rcases ih { state with settings := middle } with ⟨settings, held, others⟩
      refine ⟨settings, ?_, ?_⟩
      · rw [held, heldBetween]
        rfl
      · intro rest
        rw [List.flatMap_cons, List.append_assoc, first, others]

/-- An operand is kept if no separator follows it. -/
theorem walk_operand (settings : Settings) (word : String)
    (unseparated : rest.head? ≠ some .separator) :
    walk dialect OptionName.meaning { settings } (.operand word :: rest) =
      walk dialect OptionName.meaning { settings, operand := some word } rest := by
  rw [walk]
  dsimp only
  split
  next => exact absurd rfl unseparated
  next => rfl

theorem head?_flatMap_tokens (choices : List Choice) :
    (choices.flatMap Choice.tokens).head? ≠ some .separator := by
  rcases choices with _ | ⟨choice, choices⟩
  · simp
  · rw [List.flatMap_cons, Choice.tokens]
    split <;> simp

end Walks

/-! ### Lines -/

section Lines

variable {before after : List Choice} {rom : String}

/-- The options of a line are made of what has been updated, one option after another. -/
theorem exists_parse_line (before after : List Choice) (unhyphened : ¬rom.startsWith "-") :
    ∃ settings : Settings, settings.held = (before ++ after).foldl Choice.hold ({} : Settings).held ∧
      Options.parse dialect (before.flatMap Choice.words ++ rom :: after.flatMap Choice.words) =
        (settings.options (Path.ofText rom)).mapError .lack := by
  have read := @haveTokens_line dialect before after rom unhyphened
  rcases exists_walk_flatMap before { settings := {} } with ⟨middle, heldBetween, first⟩
  rcases exists_walk_flatMap after { settings := middle, operand := some rom } with
    ⟨settings, held, second⟩
  have done := second []
  rw [List.append_nil] at done
  refine ⟨settings, ?_, ?_⟩
  · rw [held, heldBetween, List.foldl_append]
  · unfold HaveTokens at read
    unfold Options.parse
    rw [read]
    simp only [bind, Except.bind]
    rw [first, walk_operand middle rom (head?_flatMap_tokens after), done]
    rfl

/-- Updates at different places can be exchanged. -/
theorem foldl_hold_of_perm {choices others : List Choice} (perm : choices.Perm others)
    (once : (choices.map Choice.name).Nodup) (held : OptionName → Held) :
    choices.foldl Choice.hold held = others.foldl Choice.hold held := by
  apply perm.foldl_eq'
  intro choice mem other otherMem held
  rcases eq_or_ne choice other with rfl | different
  · rfl
  · have apart : choice.name ≠ other.name := fun same =>
      different (List.inj_on_of_nodup_map once mem otherMem same)
    exact Function.update_comm apart _ _ held

theorem foldl_hold_of_notMem {choices : List Choice} {name : OptionName}
    (unnamed : name ∉ choices.map Choice.name) (held : OptionName → Held) :
    choices.foldl Choice.hold held name = held name := by
  induction choices generalizing held with
  | nil => rfl
  | cons choice choices ih =>
      rw [List.map_cons, List.mem_cons, not_or] at unnamed
      rw [List.foldl_cons, ih unnamed.2, Choice.hold, Function.update_of_ne unnamed.1]

theorem foldl_hold_of_mem {choices : List Choice} (once : (choices.map Choice.name).Nodup)
    {choice : Choice} (mem : choice ∈ choices) (held : OptionName → Held) :
    choices.foldl Choice.hold held choice.name = choice.held := by
  induction choices generalizing held with
  | nil => cases mem
  | cons first choices ih =>
      rw [List.map_cons, List.nodup_cons] at once
      rw [List.foldl_cons]
      cases mem with
      | head => rw [foldl_hold_of_notMem once.1, Choice.hold, Function.update_self]
      | tail _ later => exact ih once.2 later _

/-- A scheme is held, whatever is chosen. -/
theorem exists_scheme {choices : List Choice} (once : (choices.map Choice.name).Nodup) {settings : Settings}
    (held : settings.held = choices.foldl Choice.hold ({} : Settings).held) :
    ∃ scheme, settings.scheme = .value scheme := by
  have atScheme := congrFun held .scheme
  by_cases named : .scheme ∈ choices.map Choice.name
  · rcases List.mem_map.mp named with ⟨choice, mem, isScheme⟩
    have chosen := foldl_hold_of_mem once mem ({} : Settings).held
    rcases choice with ⟨name, text, value, takes⟩
    dsimp only at isScheme chosen
    subst isScheme
    rw [chosen] at atScheme
    cases takes with
    | scheme scheme =>
        injection atScheme with same
        exact ⟨_, same⟩
  · rw [foldl_hold_of_notMem named] at atScheme
    injection atScheme with same
    exact ⟨_, same⟩

end Lines

end Chip8
