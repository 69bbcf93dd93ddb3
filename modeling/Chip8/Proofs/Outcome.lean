/-!
# Outcomes of computations in a row

A computation that goes on with the value of another one succeeds if both do, and otherwise fails for
the first reason that comes up. Proofs take such computations apart with these facts.
-/

namespace Chip8

variable {Cause Value Result : Type}

theorem bind_eq_ok_iff {computation : Except Cause Value} {next : Value → Except Cause Result}
    {result : Result} :
    (computation >>= next) = .ok result ↔
      ∃ value, computation = .ok value ∧ next value = .ok result := by
  cases computation with
  | error cause => simp [bind, Except.bind]
  | ok value => simp [bind, Except.bind]

theorem bind_eq_error_iff {computation : Except Cause Value} {next : Value → Except Cause Result}
    {cause : Cause} :
    (computation >>= next) = .error cause ↔
      computation = .error cause ∨
        ∃ value, computation = .ok value ∧ next value = .error cause := by
  cases computation with
  | error other => simp [bind, Except.bind]
  | ok value => simp [bind, Except.bind]

theorem exists_eq_ok_of_toBool {outcome : Except Cause Value} (well : outcome.toBool = true) :
    ∃ value, outcome = .ok value := by
  cases outcome with
  | error cause => cases well
  | ok value => exact ⟨value, rfl⟩

theorem mapError_ok {Other : Type} (rename : Cause → Other) (value : Value) :
    (Except.ok value).mapError rename = .ok value := rfl

end Chip8
