import Chip8.Text.Quoted

/-!
# Paths

The normal form of a path in a file system: components between single slashes, without empty ones and
without the one that means "here". The component that means "up" stays, since what it leads to
depends on the file system. A path that starts with exactly two slashes keeps both.
-/

namespace Chip8

/-- A path in normal form. -/
structure Path where
  /-- The slashes at the start: none, one or two. -/
  root : Nat
  parts : List String
  deriving DecidableEq

namespace Path

/-- Number of slashes that are kept of those a path starts with. -/
def rootOf (text : String) : Nat :=
  match (text.toList.takeWhile (· = '/')).length with
  | 0 => 0
  | 2 => 2
  | _ => 1

def ofText (text : String) : Path where
  root := rootOf text
  parts := (text.splitOn "/").filter fun part => part ≠ "" ∧ part ≠ "."

/-- The text of a path. The path without components means "here". -/
def toText (path : Path) : String :=
  let text := String.ofList (List.replicate path.root '/') ++ String.intercalate "/" path.parts
  if text.isEmpty then "." else text

def name (path : Path) : String := path.parts.getLastD ""

end Path

/-- Why a file cannot be read or written. -/
inductive FileFault where
  | noSuchFile (path : String)
  /-- A file stands where the path needs a directory. -/
  | notDirectory (path : String)
  | isDirectory (path : String)
  | nameTooLong (path : String)
  /-- The path holds the character that ends a path for the system. -/
  | embeddedZero
  deriving DecidableEq

namespace FileFault

def name : FileFault → String
  | noSuchFile _ => "FileNotFoundError"
  | notDirectory _ => "NotADirectoryError"
  | isDirectory _ => "IsADirectoryError"
  | nameTooLong _ => "OSError"
  | embeddedZero => "ValueError"

/-- What the system says of a path: a number, a reason and the path. -/
def report (number : Nat) (reason path : String) : String :=
  s!"[Errno {number}] {reason}: {Text.quoted path}"

def message : FileFault → String
  | noSuchFile path => report 2 "No such file or directory" path
  | notDirectory path => report 20 "Not a directory" path
  | isDirectory path => report 21 "Is a directory" path
  | nameTooLong path => report 36 "File name too long" path
  | embeddedZero => "embedded null byte"

end FileFault

/-- The files of one directory that holds no other directory. -/
structure Folder (Content : Type) where
  files : List (String × Content)

namespace Folder

variable {Content : Type}

/-- The most bytes of a component, and of a whole path with its end mark. -/
def longestName : Nat := 255

/-- The most bytes of a path with its end mark. -/
def longestPath : Nat := 4096

/-- What a path leads to. -/
inductive Target (Content : Type) where
  | file (content : Content)
  | directory
  /-- A name that nothing has, in the folder or outside of it. -/
  | free (inside : Bool) (name : String)

/-- Follows components from the folder, or from a directory above it, whose other contents are not
known and taken to be none. -/
def follow (folder : Folder Content) (text : String) (inside : Bool) :
    List String → Except FileFault (Target Content)
  | [] => .ok .directory
  | part :: rest =>
    if longestName < part.utf8ByteSize then .error (.nameTooLong text)
    else if part = ".." then follow folder text false rest
    else match (if inside then folder.files.lookup part else none), rest with
      | some content, [] => .ok (.file content)
      | some _, _ :: _ => .error (.notDirectory text)
      | none, [] => .ok (.free inside part)
      | none, _ :: _ => .error (.noSuchFile text)

/-- What the text of a path leads to from the folder. -/
def resolve (folder : Folder Content) (text : String) : Except FileFault (Target Content) :=
  let path := Path.ofText text
  if text.contains '\x00' then .error .embeddedZero
  else if longestPath ≤ text.utf8ByteSize then .error (.nameTooLong text)
  else follow folder text (path.root = 0) path.parts

/-- The content of the file that a path leads to. -/
def read (folder : Folder Content) (text : String) : Except FileFault Content := do
  match ← folder.resolve text with
  | .file content => .ok content
  | .directory => .error (.isDirectory text)
  | .free .. => .error (.noSuchFile text)

/-- The name of the file that is new in the folder once a file is written where a path leads, if one
is. -/
def newName? (folder : Folder Content) (text : String) : Except FileFault (Option String) := do
  match ← folder.resolve text with
  | .directory => .error (.isDirectory text)
  | .free true name => .ok (some name)
  | _ => .ok none

end Folder

end Chip8
