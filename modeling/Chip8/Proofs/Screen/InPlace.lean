import Chip8.Machine
import Chip8.Proofs.Outcome

/-!
# Drawing in place

A sprite is drawn onto the screen of the host row by row. If a row were refused, those above it would
stay drawn although the instruction failed. This file follows the rows in place and shows that a
screen with columns and rows refuses none, so what is left on the screen of the host is the result of
the whole sprite.
-/

namespace Chip8

namespace Screen

/-- What sprite rows leave on a screen that they are drawn onto one by one, up to a row that is
refused. -/
def leftByRows (screen : Screen) (x y : Int) : List UInt8 → Screen
  | [] => screen
  | row :: rest =>
    match screen.draw x y row.toNat with
    | .error _ => screen
    | .ok (drawn, _) => leftByRows drawn x (y + 1) rest

theorem exists_draw_eq_ok {screen : Screen} {x : Int} (columns : 0 < screen.width)
    (rows : 0 < screen.height) (fits : Integer64.holds x) (y value : Int) :
    ∃ drawn collided, screen.draw x y value = .ok (drawn, collided) := by
  rcases screen with ⟨_ | width, _ | height, pixels⟩
  · cases columns
  · cases columns
  · cases rows
  · exact ⟨_, _, by simp only [draw, fits]; rfl⟩

theorem width_draw {screen drawn : Screen} {x y value : Int} {collided : Bool}
    (done : screen.draw x y value = .ok (drawn, collided)) : drawn.width = screen.width := by
  have size := size_draw done
  simp only [Screen.size, Prod.mk.injEq] at size
  omega

theorem height_draw {screen drawn : Screen} {x y value : Int} {collided : Bool}
    (done : screen.draw x y value = .ok (drawn, collided)) : drawn.height = screen.height := by
  have size := size_draw done
  simp only [Screen.size, Prod.mk.injEq] at size
  omega

@[simp]
theorem size_blank (width height : Nat) : (blank width height).size = (↑width, ↑height) := by
  cases width with
  | zero => rfl
  | succ width => cases height <;> rfl

@[simp]
theorem size_clear (screen : Screen) : screen.clear.size = screen.size :=
  size_blank screen.width screen.height

theorem size_leftByRows (screen : Screen) (x y : Int) (rows : List UInt8) :
    (screen.leftByRows x y rows).size = screen.size := by
  induction rows generalizing screen y with
  | nil => rfl
  | cons row rest ih =>
      unfold leftByRows
      split
      next => rfl
      next drawn collided done => rw [ih, size_draw done]

end Screen

namespace Machine

theorem leftByRows_of_drawRows {screen drawn : Screen} {x y : Int} {rows : List UInt8}
    {collided : Bool} (done : drawRows screen x y rows = .ok (drawn, collided)) :
    screen.leftByRows x y rows = drawn := by
  induction rows generalizing screen y drawn collided with
  | nil =>
      cases done
      rfl
  | cons row rest ih =>
      simp only [drawRows, bind_eq_ok_iff] at done
      rcases done with ⟨⟨next, _⟩, first, ⟨last, _⟩, others, made⟩
      cases made
      simp only [Screen.leftByRows, first]
      exact ih others

/-- A screen with columns and rows takes every sprite. -/
theorem exists_drawRows_eq_ok {screen : Screen} {x : Int} (columns : 0 < screen.width)
    (height : 0 < screen.height) (fits : Integer64.holds x) (y : Int) (rows : List UInt8) :
    ∃ drawn collided, drawRows screen x y rows = .ok (drawn, collided) := by
  induction rows generalizing screen y with
  | nil => exact ⟨screen, false, rfl⟩
  | cons row rest ih =>
      rcases Screen.exists_draw_eq_ok columns height fits y row.toNat with ⟨next, first, drawn⟩
      rcases ih (by rwa [Screen.width_draw drawn]) (by rwa [Screen.height_draw drawn]) (y + 1) with
        ⟨last, others, done⟩
      exact ⟨last, first || others, by simp [drawRows, drawn, done, bind, Except.bind]⟩

/-- What an instruction leaves on the screen of the host, whether it is performed or fails. -/
def screenLeftBy (machine : Machine) : Instruction → Screen
  | .clearScreen => machine.screen.clear
  | .draw x y rows =>
    match machine.memory.readBlock machine.index (rows : Nat) with
    | .error _ => machine.screen
    | .ok sprite =>
      machine.screen.leftByRows (machine.register x).toNat (machine.register y).toNat sprite
  | _ => machine.screen

theorem size_screenLeftBy (machine : Machine) (instruction : Instruction) :
    (machine.screenLeftBy instruction).size = machine.screen.size := by
  cases instruction with
  | clearScreen => exact Screen.size_clear _
  | draw x y rows =>
      simp only [screenLeftBy]
      split
      next => rfl
      next sprite read => exact Screen.size_leftByRows ..
  | _ => rfl

/-- What a cycle leaves on the screen of the host, whether it is done or fails. -/
def screenLeft (machine : Machine) : Screen :=
  match machine.fetch >>= Word.instruction with
  | .error _ => machine.screen
  | .ok instruction => machine.screenLeftBy instruction

theorem size_screenLeft (machine : Machine) : machine.screenLeft.size = machine.screen.size := by
  unfold screenLeft
  split
  next => rfl
  next instruction found => exact machine.size_screenLeftBy instruction

end Machine

end Chip8
