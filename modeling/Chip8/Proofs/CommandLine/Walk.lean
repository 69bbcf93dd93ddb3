import Chip8.CommandLine.Grammar
import Chip8.Proofs.Outcome

/-!
# What a walk keeps

A walk through the words of a command line changes its settings only where an option is applied. What every
application of an option keeps is therefore kept by every walk that comes to its end, whatever the words.
-/

namespace Chip8.CommandLine

variable {Name Settings Stop : Type}

/-- A property of settings is kept by every option that is applied. -/
structure Meaning.Keeps (meaning : Meaning Name Settings Stop) (property : Settings → Prop) : Prop where
  flag {name : Name} {before after : Settings} (applied : meaning.flag name before = .ok after)
    (holds : property before) : property after
  value {name : Name} {text : String} {before after : Settings}
    (applied : meaning.value name text before = .ok after) (holds : property before) : property after
  nothing (name : Name) {before : Settings} (holds : property before) :
    property (meaning.nothing name before)

/-- What all options keep is kept by a walk. -/
theorem walk_keeps {dialect : Dialect} {meaning : Meaning Name Settings Stop} {property : Settings → Prop}
    (keeps : meaning.Keeps property) {state found : Walk Settings} {tokens : List (Token Name)}
    (done : walk dialect meaning state tokens = .ok found) (holds : property state.settings) :
    property found.settings := by
  fun_induction walk with
  | case1 state =>
      cases done
      exact holds
  -- A word that is no option leaves the settings.
  | case2 _ _ _ _ _ ih | case3 _ _ _ _ _ ih | case4 _ _ _ _ _ _ ih | case5 _ _ _ _ ih
  | case6 _ _ _ ih | case7 _ _ _ ih => exact ih done holds
  | case8 state name rest ih =>
      rcases bind_eq_ok_iff.mp done with ⟨settings, applied, done⟩
      exact ih settings done (keeps.flag applied holds)
  | case9 state name value rest ih =>
      rcases bind_eq_ok_iff.mp done with ⟨settings, applied, done⟩
      exact ih settings done (keeps.value applied holds)
  | case10 => cases done
  | case11 state name value rest next given ih => exact ih _ done (keeps.nothing name holds)
  | case12 state name value rest next notNothing ih =>
      rcases bind_eq_ok_iff.mp done with ⟨settings, applied, done⟩
      exact ih settings done (keeps.value applied holds)
  | case13 => cases done

end Chip8.CommandLine
