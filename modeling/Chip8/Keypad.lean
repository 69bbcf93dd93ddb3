/-!
# Key pad

The sixteen keys are labelled by keys of a keyboard, in the layout of its left half:

```text
1 2 3 4        1 2 3 C
q w e r        4 5 6 D
a s d f        7 8 9 E
z x c v        A 0 B F
```
-/

namespace Chip8.Keypad

def size : Nat := 16

/-- The label of each key, in the order of the keys. -/
def labels : List String :=
  ["x", "1", "2", "3", "q", "w", "e", "a", "s", "d", "z", "c", "4", "r", "f", "v"]

/-- The key with a label, whose letter may be of either case. -/
def keyForLabel? (label : String) : Option Nat :=
  labels.idxOf? (label.map Char.toLower)

/-- The pad with no key down. -/
def released : List Bool := List.replicate size false

/-- The pad with some keys down. Numbers that no key has are passed over. -/
def pressing (keys : List Int) : List Bool :=
  (List.range size).map fun (key : Nat) => keys.contains (key : Int)

/-- The keys that are down. -/
def pressed (pad : List Bool) : List Nat :=
  (List.range pad.length).filter fun key => pad.getD key false

end Chip8.Keypad
