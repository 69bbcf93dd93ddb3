/-!
# Timers

A timer counts down to zero and stays there. Setting it takes the low eight bits of a value.
-/

namespace Chip8

structure Timer where
  /-- Ticks left. -/
  value : Int := 0
  deriving DecidableEq

namespace Timer

/-- One tick: one less, but never less than zero. -/
def tick (timer : Timer) : Timer := ⟨max (timer.value - 1) 0⟩

/-- Starts the timer at the low eight bits of a value. -/
def set (_timer : Timer) (value : Int) : Timer := ⟨value % 0x100⟩

def isRunning (timer : Timer) : Bool := 0 < timer.value

def ticks (timer : Timer) (count : Nat) : Timer := Nat.repeat tick count timer

theorem value_tick_nonneg (timer : Timer) : 0 ≤ timer.tick.value := by
  simp only [tick]
  omega

theorem value_set_mem (timer : Timer) (value : Int) :
    0 ≤ (timer.set value).value ∧ (timer.set value).value < 0x100 := by
  simp only [set]
  omega

end Timer

end Chip8
