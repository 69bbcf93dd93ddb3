import Chip8.Tool.Picture.Format
import Chip8.Tool.Progress
import Chip8.Tool.Recorder

/-!
# The usual tools

The tools that a run has in a directory where the names of new files are known.
-/

namespace Chip8

/-- Tools that draw a bar, write videos and put pictures into files, with room for so many bytes. -/
def Tools.usual (room : Nat) (newName? : String → Except FileFault (Option String)) : Tools where
  room
  bar := Progress.barOf
  recorder := .usual
  coder path picture := do
    let _ ← PictureFile.store newName? path picture

end Chip8
