import Chip8.Extent
import Chip8.Fault

/-!
# Screen

Pixels that are lit or not, in rows from the top and columns from the left. Drawing flips the pixels
under the bits of a sprite row, around both edges, and tells whether a lit pixel went out.

On a screen narrower than a sprite row several bits fall on one column. Each of them flips the pixel
as it was before the draw, and the last bit decides what is left.

Columns are counted in sixty-four bits before they are taken around the edges; rows are not.
-/

namespace Chip8

/-- Why rows make no screen. -/
inductive RowsFault where
  /-- Without rows there is no telling how many columns there are. -/
  | none
  | uneven (count : Nat)
  deriving DecidableEq

def RowsFault.message : RowsFault → String
  | none => "not enough values to unpack (expected 2, got 1)"
  | uneven count =>
    "setting an array element with a sequence. The requested array has an inhomogeneous shape " ++
      s!"after 1 dimensions. The detected shape was ({count},) + inhomogeneous part."

/-- The number of rows that are kept: none if there is nothing in them. -/
def Screen.keptRows : Nat → Nat → Nat
  | 0, _ => 0
  | _ + 1, height => height

/-- A grid of pixels. -/
structure Screen where
  width : Nat
  height : Nat
  /-- The rows from the top; a lit pixel is `true`. -/
  rows : Vector (Vector Bool width) (Screen.keptRows width height)

namespace Screen

def blank : Nat → Nat → Screen
  | 0, height => ⟨0, height, #v[]⟩
  | width + 1, 0 => ⟨width + 1, 0, #v[]⟩
  | width + 1, height + 1 =>
    ⟨width + 1, height + 1, .replicate (height + 1) (.replicate (width + 1) false)⟩

/-- A screen of the size that a host asks for, with every pixel off. -/
def ofSize (room : Nat) (width height : Int) : Except ExtentFault Screen := do
  match ← extents room [width, height] .truth with
  | [width, height] => return blank width height
  | _ => return blank 0 0

def size (screen : Screen) : Int × Int := (screen.width, screen.height)

/-- Whether the pixel in column `x` and row `y` is lit; outside the screen none is. -/
def lit (screen : Screen) (x y : Nat) : Bool :=
  screen.rows.toArray[y]?.any fun row => row.toArray.getD x false

/-- The rows from the top, also where there is nothing in them. -/
def allRows (screen : Screen) : Array (Array Bool) :=
  if screen.width = 0 then Array.replicate screen.height #[]
  else screen.rows.toArray.map fun row => row.toArray

def clear (screen : Screen) : Screen := blank screen.width screen.height

def litCount (screen : Screen) : Nat :=
  screen.rows.foldl (fun count row => count + row.toArray.count true) 0

/-- The rows that hold a lit pixel, with their numbers. -/
def litRows (screen : Screen) : List (Nat × List Bool) :=
  let rows := screen.rows.toList.map fun row => row.toList
  ((List.range rows.length).zip rows).filter fun (_, row) => row.contains true

/-- One line of text that names the size and the number of lit pixels. -/
def summary (screen : Screen) : String :=
  s!"PixelScreen({screen.width}x{screen.height}, lit={screen.litCount})"

/-- The eight pixels of a sprite row: the low eight bits of a value, most significant first. -/
def spriteRow (value : Int) : List Bool :=
  let byte := (value % 0x100).toNat
  (List.range 8).map fun column => byte.testBit (7 - column)

/-- The column of a screen that is not empty at which a column counted from `x` stands. -/
def columnAt (width : Nat) (x : Int) : Fin (width + 1) :=
  Fin.ofNat (width + 1) (Integer64.wrap x % (width + 1 : Nat)).toNat

/-- Flips, for each sprite pixel from column `x` on, the pixel of `old` it falls on, and writes the
result into `row`. -/
def flip {width : Nat} (old : Vector Bool (width + 1)) (x : Int) :
    List Bool → Vector Bool (width + 1) → Vector Bool (width + 1)
  | [], row => row
  | bit :: bits, row =>
    let column := columnAt width x
    flip old (x + 1) bits (row.set column (old[column] ^^ bit))

/-- Whether a sprite pixel that is set falls on a lit pixel. -/
def collides {width : Nat} (old : Vector Bool (width + 1)) (x : Int) : List Bool → Bool
  | [] => false
  | bit :: bits =>
    let column := columnAt width x
    (old[column] && bit) || collides old (x + 1) bits

/-- Draws the sprite row `value` at column `x` of row `y`, both taken around the edges. Gives the new
screen and whether a lit pixel went out. The column is looked at first. -/
def draw (screen : Screen) (x y value : Int) : Except Fault (Screen × Bool) :=
  if !Integer64.holds x then .error .columnTooFar
  else match screen with
  | ⟨_, 0, _⟩ => .error .screenWithoutRows
  | ⟨0, _ + 1, _⟩ => .error .screenWithoutColumns
  | ⟨width + 1, height + 1, rows⟩ =>
    let rows : Vector (Vector Bool (width + 1)) (height + 1) := rows
    let row := Fin.ofNat (height + 1) (y % (height + 1 : Nat)).toNat
    let old := rows[row]
    let bits := spriteRow value
    .ok (⟨width + 1, height + 1, rows.set row (flip old x bits old)⟩, collides old x bits)

/-- The screen of a grid of truth values, row by row from the top. -/
def ofRows (rows : List (List Bool)) : Except RowsFault Screen :=
  match rows with
  | [] => .error .none
  | first :: rest =>
    if rest.any fun row => row.length ≠ first.length then .error (.uneven rows.length)
    else
      .ok { width := first.length, height := rows.length
            rows := Vector.ofFn fun y => Vector.ofFn fun x => (rows.getD y []).getD x false }

@[simp]
theorem length_spriteRow (value : Int) : (spriteRow value).length = 8 := by
  simp [spriteRow]

theorem size_draw {screen drawn : Screen} {x y value : Int} {collided : Bool}
    (done : screen.draw x y value = .ok (drawn, collided)) : drawn.size = screen.size := by
  unfold draw at done
  split at done
  · cases done
  · split at done <;> cases done
    rfl

end Screen

end Chip8
