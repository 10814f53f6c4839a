import Darkroom.Admission
import Darkroom.Bmp
import Darkroom.Bomb
import Darkroom.Exif
import Darkroom.Gif
import Darkroom.Jpeg.Image
import Darkroom.Png.Image
/-!
# Image containers

A file is told by its signature and opened without looking at its pixels (`Container.ofFile`);
`Container.load` then makes the raster.
-/

namespace Darkroom

inductive Container
  | png (p : Png.OpenPng)
  | gif (g : Gif.OpenGif)
  | jpeg (j : Jpeg.OpenJpeg)
  | bmp (b : Bmp.OpenBmp)

namespace Container

private def bmpSignature : Bytes := [0x42, 0x4D]

private def opened (file : Bytes) : Except Failure Container :=
  match Format.detect file with
  | .png => (Png.openFile file).map png
  | .gif => (Gif.openFile file).map gif
  | .jpeg => (Jpeg.openFile file).map jpeg
  | .unknown =>
    if bmpSignature.isPrefixOf file then (Bmp.openFile file).map bmp
    else .error ⟨.system, "cannot identify image file"⟩

def width : Container → Nat
  | png p => p.reading.width
  | gif g => g.width
  | jpeg j => j.width
  | bmp b => b.width

def height : Container → Nat
  | png p => p.reading.height
  | gif g => g.height
  | jpeg j => j.height
  | bmp b => b.height

/-- Bitmaps are opened but have no name here. -/
def format : Container → Format
  | png _ => .png
  | gif _ => .gif
  | jpeg _ => .jpeg
  | bmp _ => .unknown

/-- The orientation that an EXIF block tells. A text in its place is no block. -/
def orientation? : Container → Except Failure (Option Int)
  | png p =>
    match p.reading.exif with
    | some (.block b) => Exif.read (some b)
    | some (.text s) =>
      if s.isEmpty then .ok none else .error ⟨.type, "a text is no EXIF block"⟩
    | none => .ok none
  | jpeg j => Exif.read j.info.exif
  | gif _ | bmp _ => .ok none

/-- What a file announces, if it is not more than this library is ready to make. -/
def ofFile (file : Bytes) : Except Failure Container := do
  let c ← opened file
  refuseBomb c.width c.height
  return c

def header (c : Container) : Except Failure Header := do
  return ⟨⟨c.width, c.height⟩, c.format, ← c.orientation?⟩

def load : Container → Except Failure Raster
  | png p => p.load
  | gif g => g.load
  | jpeg j => j.load
  | bmp b => b.load

end Container

end Darkroom
