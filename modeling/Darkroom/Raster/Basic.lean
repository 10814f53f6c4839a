import Darkroom.Raster.Grid
import Darkroom.Raster.Mode
/-!
# Rasters

A decoded image: a grid of pixels in a mode, the palette its pixels may refer to, and what the
container said beside the pixels.
-/

namespace Darkroom

/-- What a container says shows through. -/
inductive Transparency
  /-- One gray value or one palette entry. -/
  | single (value : Int)
  | color (red green blue : Int)
  /-- An opacity for each palette entry from the first on. -/
  | entries (alphas : Bytes)
  /-- A text under that name, which no mode knows how to read. -/
  | text (s : String)
deriving DecidableEq, Repr

/-- A single transparent entry among opaque ones is told by its number; a closing 0x0A is
overlooked. -/
def Transparency.ofAlphas (alphas : Bytes) : Transparency :=
  match alphas.dropWhile (· == 255) with
  | 0 :: rest =>
    match rest.dropWhile (· == 255) with
    | [] | [0x0A] => .single (alphas.takeWhile (· == 255)).length
    | _ => .entries alphas
  | _ => .entries alphas

/-- What travels with the pixels. -/
structure ImageInfo where
  transparency : Option Transparency := none
  comment : Option Bytes := none
  icc : Option Bytes := none
  exif : Option Bytes := none
deriving DecidableEq, Repr, Inhabited

structure Raster where
  mode : Mode
  grid : Grid Pixel
  /-- Triples of red, green and blue. -/
  palette : Array (UInt8 × UInt8 × UInt8) := #[]
  info : ImageInfo := {}

namespace Raster

def width (r : Raster) : Nat := r.grid.width

def height (r : Raster) : Nat := r.grid.height

def isEmpty (r : Raster) : Bool := r.width == 0 || r.height == 0

/-! ## Raw rows -/

/-- Eight bilevel pixels a byte, the first in the highest bit; the last byte is filled with zeros. -/
def packBits : List Bool → Bytes
  | [] => []
  | bits@(_ :: _) =>
    let byte := (bits.take 8 ++ List.replicate (8 - bits.length) false).foldl
      (fun (n : Nat) b => 2 * n + b.toNat) 0
    byte.toUInt8 :: packBits (bits.drop 8)
termination_by bits => bits.length

def unpackBits (b : UInt8) : List Bool :=
  (List.range 8).map fun i => b.toNat.testBit (7 - i)

def rowBytes (mode : Mode) (row : List Pixel) : Bytes :=
  match mode with
  | .bilevel => packBits (row.map (·.a != 0))
  | mode => row.flatMap (·.bytes mode.width)

/-- The rows one after the other. -/
def rawBytes (r : Raster) : Bytes := r.grid.rows.flatMap (rowBytes r.mode)

private def pixelsOf (mode : Mode) (width : Nat) : Nat → Bytes → Array Pixel → Array Pixel
  | 0, _, acc => acc
  | rows + 1, data, acc =>
    let stride := if mode = .bilevel then (width + 7) / 8 else width * mode.width
    let row := data.take stride
    let pixels : List Pixel := match mode with
      | .bilevel => ((row.flatMap unpackBits).take width).map fun b =>
          { a := if b then 255 else 0 }
      | mode => (List.range width).map fun x =>
          Pixel.ofBytes ((row.drop (x * mode.width)).take mode.width)
    pixelsOf mode width rows (data.drop stride) (acc ++ pixels.toArray)

/-- Reads raw rows; where they end too early the rest is zero. -/
def gridOfBytes (mode : Mode) (width height : Nat) (data : Bytes) : Grid Pixel :=
  let cells := pixelsOf mode width height data #[]
  Grid.ofFn width height fun x y => cells.getD (y.val * width + x.val) {}

end Raster

end Darkroom
