/-!
# Integers of sixty-four bits

Positions in an array and the numbers that are put into one pass through integers of sixty-four bits
with a sign. A greater integer is refused when it comes in. A sum of two that fit may not fit; it
goes on from the other end of the range.
-/

namespace Chip8.Integer64

def holds : Int → Bool
  | .ofNat distance | .negSucc distance => distance < 0x8000000000000000

/-- The integer that fits and differs by a multiple of `2 ^ 64`. -/
def wrap (number : Int) : Int :=
  (number + 0x8000000000000000) % 0x10000000000000000 - 0x8000000000000000

def refusal : String := "Python int too large to convert to C long"

theorem holds_iff {number : Int} :
    holds number ↔ -0x8000000000000000 ≤ number ∧ number < 0x8000000000000000 := by
  cases number <;> simp only [holds, decide_eq_true_eq, Int.ofNat_eq_natCast] <;> omega

theorem wrap_of_holds {number : Int} (fits : holds number) : wrap number = number := by
  rw [holds_iff] at fits
  simp only [wrap]
  omega

end Chip8.Integer64
