import Chip8.Number.Reader
import Chip8.Picture.Basic

/-!
# Pictures behind lines of text

A kind of picture file begins with lines of text, each with a key, a colon and a value. They are filled
up with zeros to a fixed length, and a mark stands at the end. Then come the rows of the picture from
the bottom, each with the reds, the greens and the blues of its pixels.

One of the lines is a label, the name of the file. The name is put there as it is: characters that end
a line make more lines of it, and the mark in it, at the start of a line, ends the text before the size
of the picture was told. So a file may be read as another picture than the one that was written, or as
none. Lines that a label makes may tell numbers, the type of the pixels, or that a table comes before
the rows. That they tell another type that there is, is not looked at.
-/

namespace Chip8.Labelled

def textLength : Nat := 512

def endMark : Char := '\x1a'

def longestLabel : Nat := 92

/-- The label for a file: the last component of its name, cut in front of the extension. -/
def labelOf (file : String) : List Char :=
  let component := (file.toList.reverse.takeWhile (· ≠ '/')).reverse
  let extension := '.' :: (component.reverse.takeWhile (· ≠ '.')).reverse
  let stem := component.take (component.length - extension.length)
  stem.take (longestLabel - extension.length) ++ extension

/-- What a line begins with: a key, a colon and a blank. -/
def opening (key : String) : List Char := key.toList ++ [':', ' ']

/-- The key of the line for the label. -/
def labelKey : String := "Name"

/-- The key of the line for the width and height. -/
def sizeKey : String := "Image size (x*y)"

/-- The key of the line for the type of the pixels. -/
def typeKey : String := "Image type"

/-- The key of the line for the number of pictures. -/
def framesKey : String := "File size (no of images)"

def lines (file : String) (width height : Nat) : List (List Char) :=
  [opening typeKey ++ "RGB image".toList, opening labelKey ++ labelOf file,
    opening sizeKey ++ s!"{width}*{height}".toList, opening framesKey ++ ['1']]

def text (file : String) (width height : Nat) : List Char :=
  let told := (lines file width height).flatMap (· ++ ['\r', '\n'])
  told ++ List.replicate (textLength - 1 - told.length) '\x00' ++ [endMark]

/-- The characters of the label that are the first in a row outside of ASCII, each with its place in
the line. The text has no room for them. -/
def foreign (file : String) : List (Nat × Char) :=
  let line := opening labelKey ++ labelOf file
  let isForeign (entry : Nat × Char) : Bool := 0x80 ≤ entry.2.toNat
  (((List.range line.length).zip line).dropWhile fun entry => !isForeign entry).takeWhile isForeign

/-- Whether a key can begin with a character. -/
def beginsKey (character : Char) : Bool :=
  'a' ≤ character && character ≤ 'z' || 'A' ≤ character && character ≤ 'Z'

/-- The key and the value of a line without its end. Blanks in front of the value are left out. -/
def entry? (line : List Char) : Option (String × String) :=
  let isBlank (character : Char) : Bool := character = ' ' || character = '\t'
  match line.head?.filter beginsKey, line.dropWhile (· ≠ ':') with
  | some _, _ :: value =>
    some (String.ofList (line.takeWhile (· ≠ ':')), String.ofList (value.dropWhile isBlank))
  | _, _ => none

/-- The keys of the lines whose values are numbers. -/
def numberKeys : List String := [sizeKey, framesKey, "Scale (x,y)"]

/-- The numbers of a value with stars or commas between them. Those that are not whole have to be
numbers all the same, but which ones is forgotten. -/
def numbers (value : String) : Except Number.ReadFault (List (Option Int)) :=
  ((value.replace "*" ",").splitOn ",").mapM fun part =>
    match Number.readInt 10 part with
    | .ok number => .ok (some number)
    | .error _ => do
      let _ ← Number.readFloat part
      return none

/-- What lines of text tell of a picture. -/
structure Header where
  size : List (Option Int) := [some 512, some 512]
  type : Option String := none
  hasTable : Bool := false

/-- The types of pixels that there are, apart from those that are told with a number. -/
def knownTypes : List String :=
  ["Greyscale", "Grayscale", "RGB", "RLB", "RYB", "B1", "B2", "B4", "RGB3", "RYB3", "LA", "PA", "RGBA",
    "RGBX", "CMYK", "YCC", "0 1", "X 24"]

/-- The types of pixels that are told with one of these numbers after a letter and a blank or a star. -/
def numberedTypes : List String :=
  ["1", "32 S", "32 F", "8", "8S", "16", "16S", "32", "32F", "16L", "16B", "32S"]

/-- Whether there is a type of pixels. -/
def isType (value : String) : Bool :=
  let all := knownTypes ++ numberedTypes.map ("L " ++ ·) ++ (numberedTypes.drop 3).map ("L*" ++ ·) ++
    (List.range 31).map fun depth => s!"L*{depth + 2}"
  all.any fun type => value = type ++ " image"

namespace Header

/-- The width and the height, if both are told and neither is zero or less. -/
def sides? (header : Header) : Option (Nat × Nat) :=
  match header.size with
  | [some width, some height] =>
    if 0 < width ∧ 0 < height then some (width.toNat, height.toNat) else none
  | _ => none

/-- What is told after a line with a key and a value. -/
def afterEntry (header : Header) (key value : String) : Except Number.ReadFault Header := do
  if numberKeys.contains key then
    let told ← numbers value
    return if key = sizeKey then { header with size := told } else header
  else if key = typeKey then return { header with type := some value }
  else if key = "Lut" then return { header with hasTable := true }
  else return header

end Header

/-- Why lines of text tell nothing of a picture. -/
inductive HeaderFault where
  | senseless
  | unreadable (fault : Number.ReadFault)

/-- A line without the characters that end it. -/
def withoutEnd (line : List Char) : List Char :=
  if line.getLast? = some '\r' then line.dropLast else line

/-- What comes after the end of a line. -/
def afterLine (text : List Char) : List Char := (text.dropWhile (· ≠ '\n')).drop 1

theorem length_afterLine_le (text : List Char) : (afterLine text).length ≤ text.length := by
  have := (List.dropWhile_suffix (· ≠ '\n') (l := text)).length_le
  simp only [afterLine, List.length_drop]
  omega

/-- Reads lines up to the mark, or up to the zeros and over them. Gives what is told, and what is left
after the mark. -/
def readHeader (header : Header) : List Char → Except HeaderFault (Header × List Char)
  | [] => .error .senseless
  | first :: rest =>
    if first = '\r' then readHeader header rest
    else if first = endMark then .ok (header, rest)
    else if first = '\x00' then .ok (header, (rest.dropWhile (· ≠ endMark)).drop 1)
    else
      match entry? (withoutEnd (first :: rest.takeWhile (· ≠ '\n'))) with
      | none => .error .senseless
      | some (key, value) =>
        match header.afterEntry key value with
        | .error fault => .error (.unreadable fault)
        | .ok header => readHeader header (afterLine rest)
  termination_by text => text.length
  decreasing_by
    · simp
    · exact Nat.lt_succ_of_le (length_afterLine_le rest)

def tableSize : Nat := 256

/-- Whether bytes are enough for a table of reds, greens and blues. An entry is looked at until two of
its amounts differ. -/
def coverTable (bytes : Array UInt8) : Bool :=
  (List.range tableSize).all fun entry =>
    let green := entry + tableSize
    green < bytes.size &&
      (bytes.getD entry 0 ≠ bytes.getD green 0 || green + tableSize < bytes.size)

/-- The amounts of the pixels of a picture in the order of the file. -/
def amounts (picture : Picture) : Array UInt8 :=
  picture.rows.toList.reverse.toArray.flatMap fun row =>
    row.map Pixel.red ++ row.map Pixel.green ++ row.map Pixel.blue

/-- The picture of a size that amounts in the order of the file make. -/
def ofAmounts (width height : Nat) (amounts : Array UInt8) : Picture where
  width
  height
  rows := Array.ofFn fun row : Fin height => Array.ofFn fun column : Fin width =>
    let place := (height - 1 - row) * (3 * width) + column
    ⟨amounts.getD place 0, amounts.getD (place + width) 0, amounts.getD (place + 2 * width) 0⟩

/-- What becomes of a picture in a file. -/
inductive Reading where
  | read (picture : Picture)
  | senseless
  | unreadable (fault : Number.ReadFault)
  | unknownType
  /-- There are not enough rows: so many bytes are left that do not make a row. -/
  | cut (left : Nat)

/-- Reads the rows of a picture of a size. -/
def readRows (width height : Nat) (bytes : Array UInt8) : Reading :=
  if bytes.size < 3 * width * height then .cut (bytes.size % (3 * width))
  else .read (ofAmounts width height bytes)

/-- Reads a picture again that was written to a file. -/
def reread (file : String) (picture : Picture) : Reading :=
  match readHeader {} (text file picture.width picture.height) with
  | .error .senseless => .senseless
  | .error (.unreadable fault) => .unreadable fault
  | .ok (header, left) =>
    let bytes := (left.map fun character => UInt8.ofNat character.toNat).toArray ++ amounts picture
    match header.sides? with
    | none => .senseless
    | some (width, height) =>
      if header.hasTable && !coverTable bytes then .senseless
      else if !header.type.all isType then .unknownType
      else readRows width height (if header.hasTable then bytes.drop (3 * tableSize) else bytes)

end Chip8.Labelled
