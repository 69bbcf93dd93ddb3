import Chip8.Tool.Picture.Webp.Chance
import Chip8.Tool.Picture.Webp.Steps

/-!
# The price of levels

The levels of a block are packed as decisions: whether any level is left that is not zero, whether the
next one is zero, whether it is one, and so on. The chance of a decision depends on the kind of the
block, on the band of waves and on the circumstance, which is the size of the level before, or at the
start the number of neighbouring blocks that are not empty. After a zero it is not asked whether any
level is left. The sign of a level and the digits of great levels have fixed prices.

From time to time the chances are renewed out of a tally of the decisions so far. A chance is only
renewed if that saves more than telling it costs.
-/

namespace Chip8.Webp

/-- What the levels of a block stand for. -/
inductive BlockKind where
  /-- Brightness without the lowest wave, which is kept elsewhere. -/
  | higher
  /-- The lowest waves of the brightness of sixteen blocks. -/
  | lowest
  /-- A difference of colour. -/
  | color
  /-- Brightness. -/
  | whole

namespace BlockKind

def place : BlockKind → Nat
  | higher => 0
  | lowest => 1
  | color => 2
  | whole => 3

/-- Where the levels of a block of this kind begin. -/
def start : BlockKind → Nat
  | higher => 1
  | _ => 0

/-- The band of waves that the level in a place belongs to. -/
def bands : Array Nat := #[0, 1, 2, 3, 6, 4, 5, 6, 6, 6, 6, 6, 6, 6, 6, 7]

/-- Where the chances of a level in a place and a circumstance begin. -/
def row (kind : BlockKind) (place circumstance : Nat) : Nat :=
  ((kind.place * 8 + bands.getD place 0) * 3 + circumstance) * decisionCount

end BlockKind

/-- The decisions that tell the size of a level, after those on whether there is one, up to the digits
of great levels. -/
def sizeDecisions (size : Nat) : List (Nat × Bool) :=
  if size = 0 then []
  else if size = 1 then [(2, false)]
  else if size = 2 then [(2, true), (3, false), (4, false)]
  else if size = 3 then [(2, true), (3, false), (4, true), (5, false)]
  else if size = 4 then [(2, true), (3, false), (4, true), (5, true)]
  else if size ≤ 6 then [(2, true), (3, true), (6, false), (7, false)]
  else if size ≤ 10 then [(2, true), (3, true), (6, false), (7, true)]
  else if size ≤ 18 then [(2, true), (3, true), (6, true), (8, false), (9, false)]
  else if size ≤ 34 then [(2, true), (3, true), (6, true), (8, false), (9, true)]
  else if size ≤ 66 then [(2, true), (3, true), (6, true), (8, true), (10, false)]
  else [(2, true), (3, true), (6, true), (8, true), (10, true)]

/-- The price of the binary digits of a number, from the highest, by the chance of each to be zero. -/
def digitsPrice (number : Nat) : List Nat → Nat
  | [] => 0
  | chance :: chances =>
    decisionPrice (number / 2 ^ chances.length % 2 = 1) chance + digitsPrice number chances

/-- The price of what is told of a level apart from its decisions. The last digit of nine and ten is
left out of account. -/
def fixedPrice (size : Nat) : Nat :=
  if size = 0 then 0
  else 256 +
    if size ≤ 4 then 0
    else if size ≤ 6 then digitsPrice (size - 5) [159]
    else if size ≤ 8 then digitsPrice (size - 7) [165, 145]
    else if size ≤ 10 then decisionPrice true 165
    else if size ≤ 18 then digitsPrice (size - 11) [173, 148, 140]
    else if size ≤ 34 then digitsPrice (size - 19) [176, 155, 140, 135]
    else if size ≤ 66 then digitsPrice (size - 35) [180, 157, 141, 134, 130]
    else digitsPrice (size - 67) [254, 254, 243, 230, 196, 177, 153, 140, 133, 130, 129]

/-- The fixed prices of all sizes. -/
def fixedPrices : Array Nat := Array.ofFn fun size : Fin 2048 => fixedPrice size

/-- The sizes of the levels of a block from where they begin, up to the last that is not zero. -/
def Levels.sizes (levels : Levels) (kind : BlockKind) : List Nat :=
  levels.foldr
    (fun level rest => if level = 0 && rest.isEmpty then [] else level.natAbs :: rest)
    [] levels.size kind.start

/-- Goes through the decisions on sizes of levels from a place on. It is told whether the first of them
is whether any level is left. -/
@[specialize]
def foldDecisions {State : Type} (decide : State → Nat → Bool → State) (kind : BlockKind) :
    List Nat → Nat → Nat → Bool → State → State
  | [], place, circumstance, _, state =>
    if place < 16 then decide state (kind.row place circumstance) false else state
  | size :: sizes, place, circumstance, asked, state =>
    let row := kind.row place circumstance
    let state := if asked then decide state row true else state
    let state := decide state (row + 1) (size ≠ 0)
    let state := (sizeDecisions size).foldl
      (fun state (decision, yes) => decide state (row + decision) yes) state
    foldDecisions decide kind sizes (place + 1) (min size 2) (size ≠ 0) state

/-- The price of the levels of a block in a circumstance. -/
def Levels.price (levels : Levels) (kind : BlockKind) (circumstance : Nat) (chances : Array Nat) :
    Nat :=
  let sizes := levels.sizes kind
  let fixed := sizes.foldl (fun sum size => sum + fixedPrices.getD size 0) 0
  foldDecisions (fun sum slot yes => sum + decisionPrice yes (chances.getD slot 0)) kind sizes
    kind.start circumstance true fixed

/-- How often each decision was taken, and how often it was yes. -/
structure Tally where
  counts : Array (Nat × Nat)

namespace Tally

def zero : Tally := ⟨Array.replicate firstChances.size (0, 0)⟩

/-- A count with one more decision. A count that is full is halved first. -/
def bump (yes : Bool) (count : Nat × Nat) : Nat × Nat :=
  let (agreed, taken) := if count.2 ≥ 65534 then ((count.1 + 1) / 2, count.2 / 2) else count
  (if yes then agreed + 1 else agreed, taken + 1)

/-- Counts the decisions on the levels of a block. The last decision of each circumstance is counted
with the one before it. -/
def add (tally : Tally) (levels : Levels) (kind : BlockKind) (circumstance : Nat) : Tally :=
  let decide (counts : Array (Nat × Nat)) (slot : Nat) (yes : Bool) : Array (Nat × Nat) :=
    counts.modify (if slot % decisionCount = decisionCount - 1 then slot - 1 else slot) (bump yes)
  ⟨foldDecisions decide kind (levels.sizes kind) kind.start circumstance true tally.counts⟩

/-- The chance of no after a count. -/
def chance (count : Nat × Nat) : Nat :=
  if count.1 = 0 then 255 else 255 - count.1 * 255 / count.2

/-- The price of all decisions of a count at one chance. -/
def countPrice (count : Nat × Nat) (chance : Nat) : Nat :=
  count.1 * decisionPrice true chance + (count.2 - count.1) * decisionPrice false chance

/-- The price of a new chance itself. -/
def chancePrice : Nat := 8 * 256

/-- The chances, where it pays renewed. -/
def chances (tally : Tally) : Array Nat :=
  Array.ofFn fun slot : Fin firstChances.size =>
    let count := tally.counts.getD slot (0, 0)
    let (first, renewal) := (firstChances.getD slot 0, renewalChances.getD slot 0)
    let keep := countPrice count first + decisionPrice false renewal
    let renew := countPrice count (chance count) + decisionPrice true renewal + chancePrice
    if keep > renew then chance count else first

end Tally

end Chip8.Webp
