import Darkroom.Power
import Darkroom.Raster.Basic
/-!
# Rows of a PNG image

How samples are laid out in a row, how the row filters are undone, and where the rows of the
seven interlaced passes go.
-/

namespace Darkroom

namespace Png

inductive Layout
  /-- Gray samples of less than a byte; one bit makes a bilevel image. -/
  | smallGray (bits : Nat)
  | gray8
  | gray16
  | rgb8
  | rgb16
  | indexed (bits : Nat)
  | grayAlpha8
  | grayAlpha16
  | rgba8
  | rgba16
deriving DecidableEq, Repr

namespace Layout

def ofHeader? (depth color : UInt8) : Option Layout :=
  match depth.toNat, color.toNat with
  | 1, 0 => some (smallGray 1)
  | 2, 0 => some (smallGray 2)
  | 4, 0 => some (smallGray 4)
  | 8, 0 => some gray8
  | 16, 0 => some gray16
  | 8, 2 => some rgb8
  | 16, 2 => some rgb16
  | 1, 3 => some (indexed 1)
  | 2, 3 => some (indexed 2)
  | 4, 3 => some (indexed 4)
  | 8, 3 => some (indexed 8)
  | 8, 4 => some grayAlpha8
  | 16, 4 => some grayAlpha16
  | 8, 6 => some rgba8
  | 16, 6 => some rgba16
  | _, _ => none

/-- Gray with opacity in sixteen bits is widened to colour. -/
def mode : Layout → Mode
  | smallGray 1 => .bilevel
  | smallGray _ | gray8 => .gray
  | gray16 => .gray16
  | rgb8 | rgb16 => .rgb
  | indexed _ => .palette
  | grayAlpha8 => .grayAlpha
  | grayAlpha16 | rgba8 | rgba16 => .rgba

def bits : Layout → Nat
  | smallGray n | indexed n => n
  | gray8 => 8
  | gray16 | grayAlpha8 => 16
  | rgb8 => 24
  | rgb16 => 48
  | grayAlpha16 | rgba8 => 32
  | rgba16 => 64

/-- A gray sample of few bits spread over a whole byte. -/
def spread (bits value : Nat) : UInt8 :=
  match bits with
  | 1 => (value * 255).toUInt8
  | 2 => (value * 85).toUInt8
  | _ => (value * 17).toUInt8

/-- The pixel made of one sample group; sixteen-bit colours keep their high byte. -/
def pixel (l : Layout) (bs : Bytes) : Pixel :=
  let at_ (i : Nat) : UInt8 := bs.getD i 0
  match l with
  | smallGray n => { a := spread n (at_ 0).toNat }
  | gray8 | indexed _ => { a := at_ 0 }
  | gray16 => { a := at_ 1, b := at_ 0 }
  | rgb8 => ⟨at_ 0, at_ 1, at_ 2, 0⟩
  | rgb16 => ⟨at_ 0, at_ 2, at_ 4, 0⟩
  | grayAlpha8 => ⟨at_ 0, at_ 1, 0, 0⟩
  | grayAlpha16 => ⟨at_ 0, at_ 0, at_ 0, at_ 2⟩
  | rgba8 => ⟨at_ 0, at_ 1, at_ 2, at_ 3⟩
  | rgba16 => ⟨at_ 0, at_ 2, at_ 4, at_ 6⟩

/-- The sample group at place `i` of a row. -/
def sample (l : Layout) (row : Array UInt8) (i : Nat) : Bytes :=
  if l.bits < 8 then
    let start := i * l.bits
    let byte := (row.getD (start / 8) 0).toNat
    [(byte / twoPow (8 - l.bits - start % 8) % twoPow l.bits).toUInt8]
  else
    let size := l.bits / 8
    (row.extract (i * size) ((i + 1) * size)).toList

/-- The bytes of a row of so many pixels, without the filter's byte. -/
def rowSize (l : Layout) (width : Nat) : Nat := (l.bits * width + 7) / 8

/-- How far back the row filters look. -/
def filterStep (l : Layout) : Nat := (l.bits + 7) / 8

end Layout

/-! ## Row filters -/

/-- The neighbour nearest to left plus above less upper left. -/
def paeth (a b c : Nat) : Nat :=
  let pa := max b c - min b c
  let pb := max a c - min a c
  let sum : Int := (a : Int) + b - 2 * c
  let pc := sum.natAbs
  if pa ≤ pb ∧ pa ≤ pc then a else if pb ≤ pc then b else c

/-- What a filter adds to a byte, from its left, upper and upper left neighbours. -/
def predicted? (filter : UInt8) : Option (Nat → Nat → Nat → Nat) :=
  match filter.toNat with
  | 0 => some fun _ _ _ => 0
  | 1 => some fun a _ _ => a
  | 2 => some fun _ b _ => b
  | 3 => some fun a b _ => (a + b) / 2
  | 4 => some paeth
  | _ => none

/-- A row without its filter, whose number stands in front. -/
def unfiltered? (step : Nat) (previous : Array UInt8) (row : Bytes) : Option (Array UInt8) :=
  match row with
  | [] => some #[]
  | filter :: bytes =>
    (predicted? filter).map fun predict =>
      bytes.foldl (fun done b =>
        let i := done.size
        let back (line : Array UInt8) : Nat :=
          if i < step then 0 else (line.getD (i - step) 0).toNat
        done.push (b + (predict (back done) (previous.getD i 0).toNat (back previous)).toUInt8)) #[]

/-! ## Where rows go -/

/-- A row of the stream: the image row it fills, the first column and the distance to the next,
the number of its pixels, and whether it opens a pass. -/
structure RowPlan where
  y : Nat
  column : Nat
  step : Nat
  pixels : Nat
  opensPass : Bool
deriving Repr

/-- The first column and row of each pass and the steps between its columns and rows. -/
def passes : List (Nat × Nat × Nat × Nat) :=
  [(0, 0, 8, 8), (4, 0, 8, 8), (0, 4, 4, 8), (2, 0, 4, 4), (0, 2, 2, 4), (1, 0, 2, 2), (0, 1, 1, 2)]

/-- Rows from `y` down in steps. -/
private def rowsOfPass (width height : Nat) (pass : Nat × Nat × Nat × Nat) : List RowPlan :=
  let (column, row, across, down) := pass
  let pixels := (width - column + across - 1) / across
  let count := (height - row + down - 1) / down
  if pixels = 0 then []
  else (List.range count).map fun i => ⟨row + i * down, column, across, pixels, i == 0⟩

/-- The rows of a stream for a rectangle at an offset. Interlaced rows ignore the offset. -/
def rowPlans (interlaced : Bool) (left upper width height : Nat) : List RowPlan :=
  if interlaced then passes.flatMap (rowsOfPass width height)
  else (List.range height).map fun y => ⟨upper + y, left, 1, width, y == 0⟩

end Png

end Darkroom
