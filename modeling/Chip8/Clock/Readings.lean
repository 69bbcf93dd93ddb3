/-!
# Readings of a clock

The values that a clock will show, given in advance. The last one stays.
-/

namespace Chip8

/-- Readings of a clock that are still to come. -/
structure Readings (Time : Type) where
  upcoming : List Time

namespace Readings

variable {Time : Type}

/-- The next reading, and those after it. A clock without readings shows `idle`. -/
def next (readings : Readings Time) (idle : Time) : Time × Readings Time :=
  match readings.upcoming with
  | [] => (idle, readings)
  | [last] => (last, readings)
  | first :: rest => (first, ⟨rest⟩)

end Readings

end Chip8
