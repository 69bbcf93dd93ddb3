import Chip8.CommandLine.Given
import Chip8.Picture.Video
import Chip8.Window

/-!
# Runs

What a run of the emulator leaves, with a window or without one: the emulator and the host, videos and
pictures, and why it ended before its time, if it did.
-/

namespace Chip8

/-- A picture that was written to a file. -/
structure SavedPicture where
  file : String
  picture : Picture

inductive RunFault where
  | poll (fault : PollFault Fault)
  | number (fault : NumberFault)
  /-- The number of frames has too many digits to be told. -/
  | untold
  | tool (fault : ToolFault)
  | video (fault : VideoFault)
  | picture (fault : PictureFault)
  | file (fault : FileFault)
  | lack (lack : Lack)
  | schedule (fault : ScheduleFault Float)
  | window (fault : OpenFault)

/-- The outcome of a run: emulator and host after it, what it saved, and whether it ended well. -/
structure Run (Time : Type) where
  emulator : Emulator Time
  host : Host
  videos : List Video := []
  pictures : List SavedPicture := []
  outcome : Except RunFault Unit

namespace RunFault

def message : RunFault → String
  | poll (.action fault) => fault.message
  | poll (.number fault) => fault.message
  | poll .endless => "more periods are due than can be run"
  | number fault => fault.message
  | untold => Number.untold
  | tool fault => fault.message
  | video fault => fault.message
  | picture fault => fault.message
  | file fault => fault.message
  | lack use => use.message
  | schedule fault => fault.message
  | window fault => fault.message

end RunFault

end Chip8
