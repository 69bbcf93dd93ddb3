import Chip8.Extent
import Chip8.Text.Quoted

/-!
# Colours

A colour is a list of amounts of red, green and blue. A picture needs them to be three bytes; a colour
that a host makes up may hold other amounts, or more or fewer of them, and is refused when it is used.
A single amount stands for all three.

Schemes are named pairs of a colour for lit pixels and one for the others.
-/

namespace Chip8

/-- Amounts of red, green and blue. -/
structure Color where
  amounts : List Int
  deriving DecidableEq

structure Pixel where
  red : UInt8
  green : UInt8
  blue : UInt8
  deriving DecidableEq

/-- A pixel is black unless it is said what it is. -/
instance : Inhabited Pixel := ⟨⟨0, 0, 0⟩⟩

/-- The bytes of a pixel from red to blue. -/
def Pixel.rgb (pixel : Pixel) : List UInt8 := [pixel.red, pixel.green, pixel.blue]

/-- Why no picture can be made of a screen. -/
inductive PictureFault where
  | amountOutOfRange (amount : Int)
  | wrongCount (amounts pixels : Nat)
  /-- The side of the blocks that pixels are enlarged to does not fit into sixty-four bits. -/
  | sideTooLong
  | extent (fault : ExtentFault)
  deriving DecidableEq

def PictureFault.message : PictureFault → String
  | amountOutOfRange amount =>
    if Integer64.holds amount then s!"Python integer {amount} out of bounds for uint8"
    else Integer64.refusal
  | wrongCount amounts pixels =>
    s!"shape mismatch: value array of shape ({amounts},) could not be broadcast to indexing " ++
      s!"result of shape ({pixels},3)"
  | sideTooLong => Integer64.refusal
  | extent fault => fault.message

/-- The colours of lit pixels and of the others. -/
structure Palette where
  lit : Color
  unlit : Color
  deriving DecidableEq

inductive Scheme where
  | default
  | classic
  | amber
  | white
  | blue
  deriving DecidableEq

namespace Color

def ofAmounts (red green blue : Int) : Color := ⟨[red, green, blue]⟩

def byteOf (amount : Int) : Except PictureFault UInt8 :=
  if 0 ≤ amount ∧ amount < 0x100 then .ok (UInt8.ofInt amount)
  else .error (.amountOutOfRange amount)

/-- The pixel of a colour for so many pixels. The first amount that is no byte is named. -/
def pixel (color : Color) (pixels : Nat) : Except PictureFault Pixel := do
  match ← color.amounts.mapM byteOf with
  | [red, green, blue] => .ok ⟨red, green, blue⟩
  | [all] => .ok ⟨all, all, all⟩
  | amounts => .error (.wrongCount amounts.length pixels)

end Color

namespace Scheme

def all : List Scheme := [default, classic, amber, white, blue]

def name : Scheme → String
  | default => "default"
  | classic => "classic"
  | amber => "amber"
  | white => "white"
  | blue => "blue"

def palette : Scheme → Palette
  | default => ⟨.ofAmounts 0xD5 0xC4 0xA1, .ofAmounts 0x28 0x28 0x28⟩
  | classic => ⟨.ofAmounts 0 255 0, .ofAmounts 0 0 0⟩
  | amber => ⟨.ofAmounts 255 176 0, .ofAmounts 0 0 0⟩
  | white => ⟨.ofAmounts 255 255 255, .ofAmounts 0 0 0⟩
  | blue => ⟨.ofAmounts 0 255 255, .ofAmounts 0 0 64⟩

def ofName? (text : String) : Option Scheme := all.find? fun scheme => scheme.name = text

def unknownName (name : String) : String :=
  s!"Unknown color scheme '{name}'. Available: {Text.quotedList (all.map Scheme.name)}"

end Scheme

end Chip8
