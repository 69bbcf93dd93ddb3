import Chip8.Log.Console
import Chip8.Session

/-!
# The program

Reads the command line and the program to emulate, runs a session and shows its log. The tools are the
simplest there are: no bar is shown, and pictures and videos are written to their files as plain rows of
pixels.

There is no display: without `--headless` the window is closed as soon as it has shown a frame.
-/

namespace Chip8.Program

/-- The bytes of rows of elements, row by row. -/
def rasterBytes {Element : Type} (bytesOf : Element → List UInt8) (raster : Raster Element) : ByteArray :=
  raster.rows.foldl (fun bytes row =>
    row.foldl (fun bytes element => (bytesOf element).foldl ByteArray.push bytes) bytes)
    ByteArray.empty

/-- Tools that comply with every call. Each array is made whose bytes can be counted. -/
def tools : Tools where
  room := 0x7FFFFFFFFFFFFFFF
  bar _ _ _ := .ok .calm
  recorder := ⟨fun _ _ _ => .ok (), fun _ frame => .ok (frame.map List.reverse), fun _ => .ok ()⟩
  coder _ _ := .ok ()

/-- A desktop without a sound device. -/
def desktop : Desktop where
  surface width height := .ok (Picture.filled width.toNat height.toNat default)
  silence := some "no audio device"

/-- Why a file could not be used, as far as the system says. -/
def fileFault (path : String) : IO.Error → FileFault
  | .inappropriateType .. => .isDirectory path
  | .resourceExhausted .. => .nameTooLong path
  | _ => .noSuchFile path

def readProgram (path : String) : IO (Except FileFault (List UInt8)) := do
  try
    return .ok (← IO.FS.readBinFile path).toList
  catch fault => return .error (fileFault path fault)

/-- Shows lines as they would have been written now. -/
def showLog (log : Log) : IO Unit := do
  let now := Float.ofNat (← IO.monoMsNow) / 1000.0
  for line in Console.timedLines log ⟨[now]⟩ do
    IO.println line

def writeFiles (report : Report) : IO Unit := do
  for saved in report.pictures do
    IO.FS.writeBinFile saved.file (rasterBytes Pixel.rgb saved.picture)
  for video in report.videos do
    IO.FS.writeBinFile video.file
      (video.frames.foldl (fun bytes frame => bytes ++ rasterBytes id frame) ByteArray.empty)

/-- Says why a session could not go on. -/
def complain (text : String) : IO Unit := do (← IO.getStderr).putStrLn text

def runSession (options : Options) : IO UInt32 := do
  let program ← readProgram options.rom.toText
  let report := Session.run options program { events := [.quit], tools, desktop }
  showLog report.log
  writeFiles report
  match report.ending with
  | .exit code => return code.toUInt32
  | .fault fault => complain fault.message; return 1

end Chip8.Program

open Chip8 Program in
def main (words : List String) : IO UInt32 := do
  match Options.parse .recent words with
  | .ok options => runSession options
  | .error .help => IO.println "usage: chip8 [options] rom"; return 0
  | .error (.usage fault) => complain ("error: " ++ fault.message); return 2
  | .error (.lack lack) => complain lack.message; return 1
