import Darkroom.Binary64.Basic
import Darkroom.Power
import Darkroom.Raster.Basic
/-!
# Resampling

A filter gives each pixel of the result a weighted mean of the source pixels around its place,
first along the rows and then along the columns. The weights are found in floating point and
rounded to units of `2 ^ -22`, so they need not be the same on both sides of a line. Nearest
neighbour takes one source pixel, at a place found by repeated addition in floating point.
-/

namespace Darkroom

inductive ResampleFilter
  | lanczos
  | bicubic
  | bilinear
  | nearest
deriving DecidableEq, Repr, Inhabited

namespace ResampleFilter

def name : ResampleFilter → String
  | lanczos => "lanczos"
  | bicubic => "bicubic"
  | bilinear => "bilinear"
  | nearest => "nearest"

def ofName? (s : String) : Option ResampleFilter :=
  [lanczos, bicubic, bilinear, nearest].find? (·.name == s)

/-- How far a filter reaches, in pixels of the coarser grid. -/
def reach : ResampleFilter → Nat
  | lanczos => 3
  | bicubic => 2
  | bilinear => 1
  | nearest => 0

/-! ## Sines -/

/-- Precision of the sines before they are rounded, in bits. -/
def sinePrecision : Nat := 160

/-- The circle number in units of `2 ^ -160`. -/
def piFixed : Nat := 4591442807048218921384805199743311128454155024418

/-- The sine of an angle of at most a quarter turn, both in units of `2 ^ -160`. -/
def sineSeries (t : Int) : Int :=
  let square := (t * t) >>> sinePrecision
  ((List.range 24).foldl (fun (sum, term) (k : Nat) =>
    (sum + term, -((term * square) >>> sinePrecision) / ((2 * k + 2) * (2 * k + 3)))) ((0 : Int), t)).1

/-- The sine of an angle, both in units of `2 ^ -160`. -/
def sineFixed (angle : Nat) : Int :=
  let rest := angle % piFixed
  let sine := sineSeries (min rest (piFixed - rest))
  if angle / piFixed % 2 = 0 then sine else -sine

/-- The value nearest to the sine, for angles of a few turns. -/
def sine : Binary64 → Binary64
  | .finite negative m q =>
    let unit := q + sinePrecision
    let height := sineFixed (m * twoPow unit.toNat / twoPow (-unit).toNat)
    .ofQuotient (negative != decide (height < 0)) height.natAbs (twoPow sinePrecision)
  | _ => .nan

/-! ## Shapes -/

/-- The value nearest to the circle number. -/
def pi : Binary64 := .finite false 7074237752028440 (-51)

def sinc (x : Binary64) : Binary64 :=
  if x.isZero then .ofInt 1
  else
    let angle := x.mul pi
    (sine angle).div angle

/-- What a filter makes of a pixel at a distance, every operation rounded on its own. -/
def shape (f : ResampleFilter) (x : Binary64) : Binary64 :=
  match f with
  | nearest => .zero
  | bilinear => if x.abs.less (.ofInt 1) then (Binary64.ofInt 1).sub x.abs else .zero
  | bicubic =>
    let x := x.abs
    if x.less (.ofInt 1) then
      (((((Binary64.ofQuotient false 3 2).mul x).sub (.ofQuotient false 5 2)).mul x).mul x).add (.ofInt 1)
    else if x.less (.ofInt 2) then
      (((((x.sub (.ofInt 5)).mul x).add (.ofInt 8)).mul x).sub (.ofInt 4)).mul Binary64.half.neg
    else .zero
  | lanczos =>
    if x.less (.ofInt (-3)) || !x.less (.ofInt 3) then .zero
    else (sinc x).mul (sinc (x.div (.ofInt 3)))

/-! ## Weights -/

/-- The bits behind the point of a weight. -/
def weightBits : Nat := 22

/-- A weight in units of `2 ^ -22`, to the nearest and away from zero on a tie. -/
def weight (x : Binary64) : Int :=
  let half := if x.less .zero then Binary64.half.neg else .half
  (((x.mul (.ofInt (twoPow weightBits))).add half).truncate?).getD 0

section
variable (f : ResampleFilter) (source target x : Nat)

/-- The source pixels for each pixel of the result. -/
def scale : Binary64 := .ofQuotient false source target

/-- The same, but no less than one. -/
def stretch : Binary64 :=
  if (scale source target).less (.ofInt 1) then .ofInt 1 else scale source target

/-- The middle of place `x` of the result. -/
def middle : Binary64 := (Binary64.ofQuotient false (2 * x + 1) 2).mul (scale source target)

/-- How far the filter looks to either side of the middle. -/
def support : Binary64 := (Binary64.ofInt f.reach).mul (stretch source target)

/-- The first source place that is looked at. -/
def firstPlace : Nat :=
  let edge := ((middle source target x).sub (f.support source target)).add .half
  (edge.truncate?.getD 0).toNat

/-- The first source place that is not looked at any more. -/
def endPlace : Nat :=
  let edge := ((middle source target x).add (f.support source target)).add .half
  min source (edge.truncate?.getD 0).toNat

/-- What the filter makes of a source place. -/
def pull (place : Nat) : Binary64 :=
  let distance := ((Binary64.ofInt place).sub (middle source target x)).add .half
  f.shape (distance.mul ((Binary64.ofInt 1).div (stretch source target)))

/-- The source places and weights for place `x` of a line of `target` made from one of `source`.
The weights are brought to a sum of one before they are rounded for good. -/
def taps : List (Nat × Int) :=
  let first := f.firstPlace source target x
  let raw := (List.range' first (f.endPlace source target x - first)).map fun place =>
    (place, f.pull source target x place)
  let total := raw.foldl (fun sum (_, w) => sum.add w) .zero
  raw.map fun (place, w) => (place, weight (if total.isZero then w else w.div total))

end

end ResampleFilter

/-! ## Filtered lines -/

def clampByte (n : Int) : UInt8 :=
  if n < 0 then 0 else if 255 < n then 255 else n.toNat.toUInt8

/-- The weighted mean of bytes, rounded. -/
def weightedByte (taps : List (Nat × Int)) (value : Nat → UInt8) : UInt8 :=
  clampByte ((taps.foldl (fun sum (place, w) => sum + w * (value place).toNat)
    (twoPow (ResampleFilter.weightBits - 1) : Int)) >>> ResampleFilter.weightBits)

def weightedPixel (taps : List (Nat × Int)) (pixel : Nat → Pixel) : Pixel where
  a := weightedByte taps fun i => (pixel i).a
  b := weightedByte taps fun i => (pixel i).b
  c := weightedByte taps fun i => (pixel i).c
  d := weightedByte taps fun i => (pixel i).d

namespace Grid

/-- A pixel, or zero outside the grid. -/
def pixelAt (g : Grid Pixel) (x y : Nat) : Pixel := (g.at? x y).getD {}

/-- Every row resampled to a width. -/
def filterRows (f : ResampleFilter) (width : Nat) (g : Grid Pixel) : Grid Pixel :=
  if width = g.width then g
  else
    let table := (Array.range width).map fun x => f.taps g.width width x
    ofFn width g.height fun x y =>
      weightedPixel (table.getD x.val []) fun i => g.pixelAt i y.val

/-- Every column resampled to a height. -/
def filterColumns (f : ResampleFilter) (height : Nat) (g : Grid Pixel) : Grid Pixel :=
  if height = g.height then g
  else
    let table := (Array.range height).map fun y => f.taps g.height height y
    ofFn g.width height fun x y =>
      weightedPixel (table.getD y.val []) fun i => g.pixelAt x.val i

end Grid

/-! ## Nearest neighbour -/

/-- For each place of a line of `target` pixels the place it is taken from in one of `source`:
half a step in, and then one rounded step on at a time. -/
def nearestPlaces (source target : Nat) : Array Int :=
  let step := Binary64.ofQuotient false source target
  let start := Binary64.ofQuotient false source (2 * target)
  ((List.range target).foldl (fun ((places : Array Int), at_) _ =>
    (places.push ((Binary64.floor? at_).getD 0), at_.add step)) (#[], start)).1

def Grid.takeNearest (g : Grid Pixel) (width height : Nat) : Grid Pixel :=
  let across := nearestPlaces g.width width
  let down := nearestPlaces g.height height
  Grid.ofFn width height fun x y =>
    (g.at? (across.getD x.val 0) (down.getD y.val 0)).getD {}

def Grid.resampled (g : Grid Pixel) (f : ResampleFilter) (width height : Nat) : Grid Pixel :=
  match f with
  | .nearest => g.takeNearest width height
  | f => (g.filterRows f width).filterColumns f height

end Darkroom
