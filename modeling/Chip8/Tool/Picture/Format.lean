import Chip8.Tool.Picture.Avif
import Chip8.Tool.Picture.Icon
import Chip8.Tool.Picture.Jpeg
import Chip8.Tool.Picture.Labelled
import Chip8.Tool.Picture.Webp
import Chip8.Path
import Chip8.Text.Quoted
import Chip8.Tool
import Chip8.Tool.Text.SmallLetter

/-!
# Picture formats

What is done with a picture file follows from the extension of its name: what comes after the last
point of the last component, in small letters, if something comes before that point. Some kinds of
files are known and cannot be written: nothing writes them, or what writes them is missing, or they
have no room for colours in each pixel.

A picture that was written may not be what is read again: some formats lose a little of it, icons have
sides of their own, one format is led astray by the name of the file, and there are files that are only
for printing. Some formats have no room for pictures that are very wide or high.
-/

namespace Chip8

/-- The formats in which a picture is kept. -/
inductive PictureFormat where
  | avif
  | bmp
  | dds
  | dib
  | eps
  | gif
  | icns
  | ico
  | im
  | jpeg
  | jpeg2000
  | pcx
  | pdf
  | png
  | ppm
  | qoi
  | sgi
  | tga
  | tiff
  | webp
  deriving DecidableEq

/-- What becomes of a picture in a file of a kind. -/
inductive FileKind where
  | kept (format : PictureFormat)
  | readOnly (kind : String)
  | colorless (kind : String)
  | tabled (kind : String)
  | unsupported (kind : String)
  deriving DecidableEq

/-- Why a picture cannot be kept in a file. -/
inductive FormatFault where
  | unknownExtension (extension : String)
  | readOnly (kind : String)
  | colorless (kind : String)
  | tabled (kind : String)
  | unsupported (kind : String)
  | empty (format : PictureFormat)
  | noIconSize
  | sideTooLong (format : PictureFormat)
  /-- Characters of the name of the file, of which these are the first and the last place, are not
  characters of ASCII, as the format needs them to be. This is the first of them. -/
  | foreignLabel (first last : Nat) (character : Char)
  deriving DecidableEq

/-- Why a file that was written cannot be read again as a picture. -/
inductive RereadFault where
  /-- What draws the file is missing. -/
  | noInterpreter
  | unrecognized (file : String)
  | unreadable (fault : Number.ReadFault)
  | unknownType
  /-- The file ends within a row, of which it has so many bytes. -/
  | cut (left : Nat)
  deriving DecidableEq

def RereadFault.message : RereadFault → String
  | noInterpreter => "Unable to locate Ghostscript on paths"
  | unrecognized file => s!"cannot identify image file {Text.quoted file}"
  | unreadable fault => fault.message
  | unknownType => "unrecognized image mode"
  | cut left => s!"image file is truncated ({left} bytes not processed)"

namespace PictureFormat

def name : PictureFormat → String
  | avif => "AVIF"
  | bmp => "BMP"
  | dds => "DDS"
  | dib => "DIB"
  | eps => "EPS"
  | gif => "GIF"
  | icns => "ICNS"
  | ico => "ICO"
  | im => "IM"
  | jpeg => "JPEG"
  | jpeg2000 => "JPEG2000"
  | pcx => "PCX"
  | pdf => "PDF"
  | png => "PNG"
  | ppm => "PPM"
  | qoi => "QOI"
  | sgi => "SGI"
  | tga => "TGA"
  | tiff => "TIFF"
  | webp => "WEBP"

/-- How a file of a format keeps its colours: as a table that pixels point into, or in each pixel,
perhaps with an amount of cover. -/
def mode : PictureFormat → String
  | gif => "P"
  | icns => "RGBA"
  | _ => "RGB"

/-- The most pixels in a row and in a column of a file. One format keeps the length of a row in whole
pairs of pixels. A format without a bound has room for all pictures that can be made. -/
def longestSides? : PictureFormat → Option (Nat × Nat)
  | webp => some (16383, 16383)
  | jpeg | pdf => some (65500, 65500)
  | gif | sgi | tga => some (65535, 65535)
  | pcx => some (65534, 65535)
  | _ => none

/-- Whether a format has room for the sides of a picture. -/
def hasRoom (format : PictureFormat) (picture : Picture) : Bool :=
  match longestSides? format with
  | none => true
  | some (width, height) => picture.width ≤ width && picture.height ≤ height

/-- Whether the name of a file can be told in it. -/
def checkLabel (format : PictureFormat) (file : String) : Except FormatFault Unit :=
  match format, Labelled.foreign file with
  | im, (place, character) :: rest =>
    .error (.foreignLabel place (place + rest.length) character)
  | _, _ => .ok ()

/-- The picture that is put into a file of a format. The name of the file is looked at first. -/
def written (format : PictureFormat) (file : String) (picture : Picture) :
    Except FormatFault Picture := do
  format.checkLabel file
  match format with
  | icns => .ok (Icon.stretched picture)
  | _ =>
    if picture.isEmpty ∧ format ≠ sgi then .error (.empty format)
    else if format = ico then
      match Icon.greatest? picture with
      | some icon => .ok icon
      | none => .error .noIconSize
    else if !format.hasRoom picture then .error (.sideTooLong format)
    else .ok picture

/-- A picture that was put into a file, read again. The formats without loss give it back as it was. -/
def reread (format : PictureFormat) (file : String) (picture : Picture) :
    Except RereadFault Picture :=
  match format with
  | eps => .error .noInterpreter
  | pdf => .error (.unrecognized file)
  | jpeg => .ok (Jpeg.reread picture)
  | _ =>
    if picture.isEmpty then .error (.unrecognized file)
    else
      match format with
      | avif => .ok (Avif.reread picture)
      | im =>
        match Labelled.reread file picture with
        | .read picture => .ok picture
        | .senseless => .error (.unrecognized file)
        | .unreadable fault => .error (.unreadable fault)
        | .unknownType => .error .unknownType
        | .cut left => .error (.cut left)
      | webp => .ok (Webp.reread picture)
      | _ => .ok picture

end PictureFormat

namespace FileKind

open PictureFormat

/-- The extensions of each format. -/
def keptExtensions : List (PictureFormat × List String) :=
  [(avif, [".avif", ".avifs"]), (bmp, [".bmp"]), (dds, [".dds"]), (dib, [".dib"]),
   (eps, [".eps", ".ps"]), (gif, [".gif"]), (icns, [".icns"]), (ico, [".ico"]), (im, [".im"]),
   (jpeg, [".jpg", ".jpeg", ".jpe", ".jfif", ".mpo"]),
   (jpeg2000, [".jp2", ".j2k", ".jpc", ".jpf", ".jpx", ".j2c"]), (pcx, [".pcx"]),
   (pdf, [".pdf"]), (png, [".png", ".apng"]), (ppm, [".ppm", ".pgm", ".pbm", ".pnm", ".pfm"]),
   (qoi, [".qoi"]), (sgi, [".sgi", ".rgb", ".rgba", ".bw"]), (tga, [".tga", ".icb", ".vda", ".vst"]),
   (tiff, [".tif", ".tiff"]), (webp, [".webp"])]

/-- The extensions of files that are only read, and their kinds. -/
def readOnlyExtensions : List (String × String) :=
  [(".cur", "CUR"), (".dcx", "DCX"), (".fit", "FITS"), (".fits", "FITS"), (".fli", "FLI"),
   (".flc", "FLI"), (".ftc", "FTEX"), (".ftu", "FTEX"), (".gbr", "GBR"), (".iim", "IPTC"),
   (".mpg", "MPEG"), (".mpeg", "MPEG"), (".pcd", "PCD"), (".pxr", "PIXAR"), (".psd", "PSD"),
   (".ras", "SUN"), (".xpm", "XPM")]

/-- The extensions of files without colours in each pixel, and their kinds. -/
def colorlessExtensions : List (String × String) :=
  [(".msp", "MSP"), (".palm", "Palm"), (".xbm", "XBM")]

/-- The extensions of files that need a table of colours, and their kinds. -/
def tabledExtensions : List (String × String) := [(".blp", "BLP")]

/-- The extensions of files that an addition writes, and their kinds. -/
def unsupportedExtensions : List (String × String) :=
  [(".bufr", "BUFR"), (".grib", "GRIB"), (".h5", "HDF5"), (".hdf", "HDF5"), (".wmf", "WMF"),
   (".emf", "WMF")]

def extensions : List (String × FileKind) :=
  keptExtensions.flatMap (fun (format, texts) => texts.map fun text => (text, kept format)) ++
    readOnlyExtensions.map (fun (text, kind) => (text, readOnly kind)) ++
    colorlessExtensions.map (fun (text, kind) => (text, colorless kind)) ++
    tabledExtensions.map (fun (text, kind) => (text, tabled kind)) ++
    unsupportedExtensions.map (fun (text, kind) => (text, unsupported kind))

/-- The extension of a file name, with its point and in small letters; empty if there is none. -/
def extensionOf (file : String) : String :=
  let component := (file.toList.reverse.takeWhile (· ≠ '/')).reverse.dropWhile (· = '.')
  if component.contains '.' then
    String.ofList (Text.small ('.' :: (component.reverse.takeWhile (· ≠ '.')).reverse))
  else ""

def ofFile? (file : String) : Option FileKind := extensions.lookup (extensionOf file)

/-- The kind of a file that something writes. This is looked at before the file is opened. -/
def writable (file : String) : Except FormatFault FileKind :=
  match ofFile? file with
  | none => .error (.unknownExtension (extensionOf file))
  | some (readOnly kind) => .error (.readOnly kind)
  | some kind => .ok kind

/-- The format of a file that was opened, and the picture that is put into it. -/
def write (kind : FileKind) (file : String) (picture : Picture) :
    Except FormatFault (PictureFormat × Picture) :=
  match kind with
  | kept format => do return (format, ← format.written file picture)
  | readOnly kind => .error (.readOnly kind)
  | colorless kind => .error (.colorless kind)
  | tabled kind => .error (.tabled kind)
  | unsupported kind => .error (.unsupported kind)

end FileKind

def FormatFault.message : FormatFault → String
  | unknownExtension extension => s!"unknown file extension: {extension}"
  | readOnly kind => kind
  | colorless kind => s!"cannot write mode RGB as {kind}"
  | tabled kind => s!"Unsupported {kind} image mode"
  | unsupported kind => s!"{kind} save handler not installed"
  | empty .avif => "invalid canvas dimensions"
  | empty .pcx => "Cannot write empty image as PCX"
  | empty .qoi => "Size must be positive"
  | empty .webp => "can't allocate picture frame"
  | empty _ => "cannot write empty image"
  | noIconSize => "All sizes too large for image"
  | sideTooLong .webp => "encoding error 5: Image size exceeds WebP limit of 16383 pixels"
  | sideTooLong .jpeg | sideTooLong .pdf => "broken data stream when writing image file"
  | sideTooLong .sgi => "'H' format requires 0 <= number <= 65535"
  | sideTooLong _ => "int too big to convert"
  | foreignLabel first last character =>
    let place :=
      if first = last then s!"character '{Text.codeEscape character.toNat}' in position {first}"
      else s!"characters in position {first}-{last}"
    s!"'ascii' codec can't encode {place}: ordinal not in range(128)"

def FormatFault.name : FormatFault → String
  | empty .webp => "MemoryError"
  | readOnly _ => "KeyError"
  | colorless _ | unsupported _ | sideTooLong .jpeg | sideTooLong .pdf => "OSError"
  | sideTooLong .sgi => "error"
  | sideTooLong .webp => "ValueError"
  | sideTooLong _ => "OverflowError"
  | foreignLabel .. => "UnicodeEncodeError"
  | _ => "ValueError"

/-- A file that a picture was put into. -/
structure PictureFile where
  name : String
  format : PictureFormat
  picture : Picture

namespace PictureFile

/-- The picture that is read from the file again. -/
def reread (file : PictureFile) : Except RereadFault Picture := file.format.reread file.name file.picture

/-- Puts a picture where a path leads, and gives the file if it is new. What writes the file is looked at
first, then whether the file can be opened, then whether the picture can be written into it. -/
def store (newName? : String → Except FileFault (Option String)) (path : String) (picture : Picture) :
    Except ToolFault (Option PictureFile) := do
  let formatFault (fault : FormatFault) : ToolFault := ⟨fault.name, fault.message⟩
  let kind ← (FileKind.writable path).mapError formatFault
  let name? ← (newName? path).mapError fun fault => ⟨fault.name, fault.message⟩
  let (format, picture) ← (kind.write path picture).mapError formatFault
  .ok (name?.map fun name => { name, format, picture })

end PictureFile

end Chip8
