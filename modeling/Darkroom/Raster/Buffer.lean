import Darkroom.Raster.Encoded
/-!
# Pixel buffers

A raster that can be released: its pixels are then gone and only what is known about it remains.
-/

namespace Darkroom

/-! ## Resampling in a mode -/

/-- Bilevel images and palettes take single pixels whatever the filter. -/
def Mode.filter (mode : Mode) (f : ResampleFilter) : ResampleFilter :=
  match mode with
  | .bilevel | .palette => .nearest
  | _ => f

namespace Grid

/-- Work on pixels into whose colours the opacities are multiplied meanwhile. -/
def throughOpacity (g : Grid Pixel) (mode : Mode) (work : Grid Pixel → Grid Pixel) : Grid Pixel :=
  if mode.hasAlpha then (work (g.map (·.premultiplied mode))).map (·.unpremultiplied mode) else work g

def resampledIn (g : Grid Pixel) (mode : Mode) (f : ResampleFilter) (width height : Nat) : Grid Pixel :=
  match mode.filter f with
  | .nearest => g.takeNearest width height
  | f => g.throughOpacity mode (·.resampled f width height)

end Grid

/-! ## Buffers -/

structure Buffer where
  raster : Raster
  released : Bool := false

namespace Buffer

private def releasedFailure : Failure := .value "Operation on closed image"

/-- The raster, while there is one. -/
def live (b : Buffer) : Except Failure Raster :=
  if b.released then .error releasedFailure else .ok b.raster

def release (b : Buffer) : Buffer := { b with released := true }

def hasTransparency (b : Buffer) : Except Failure Bool :=
  if b.raster.mode.hasAlpha then b.live.bind (·.hasTransparency) else b.raster.hasTransparency

def transform (b : Buffer) (t : Transform) : Except Failure Raster := do
  let r ← b.live
  return { r with grid := r.grid.transformed t }

/-- Turns by any number of degrees that is no multiple of a right angle are unknown, which shows
only once there is something to turn. -/
def transformByDegrees (b : Buffer) (degrees : Int) (flip : Bool) : Except Failure Raster :=
  match Turn.ofDegrees? degrees with
  | some turn => b.transform ⟨turn, flip⟩
  | none => do
    if flip then let _ ← b.live
    .error ⟨.key, s!"{degrees}"⟩

def resize (b : Buffer) (filter : ResampleFilter) (width height : Int) : Except Failure Raster := do
  let r ← b.live
  if width = r.width ∧ height = r.height then return r
  if width < 1 ∨ height < 1 then .error (.value "height and width must be > 0")
  return { r with grid := r.grid.resampledIn r.mode filter width.toNat height.toNat }

/-- What lies outside the image is zero. -/
def crop (b : Buffer) (box : CropBox) : Except Failure Raster := do
  if box.right < box.left then .error (.value "Coordinate 'right' is less than 'left'")
  if box.lower < box.upper then .error (.value "Coordinate 'lower' is less than 'upper'")
  let r ← b.live
  return { r with grid := r.grid.cut box.left box.upper box.width.toNat box.height.toNat {} }

def toNative (b : Buffer) : Except Failure Raster := do
  let r ← b.live
  r.toNative

/-- An image that can be written without transparency as it is stays itself. -/
def flattened (b : Buffer) : Except Failure Buffer :=
  match b.raster.mode with
  | .gray | .rgb | .cmyk => .ok b
  | _ => do
    let r ← (← b.live).flattened
    return { raster := r }

/-- Flattening can be made to fail from outside. -/
def encode (b : Buffer) (options : WritingOptions) (format : Format)
    (flattening : Option Failure := none) : Except Failure Encoded :=
  let written : Except Failure Encoded := match format with
    | .jpeg => do
      if let some f := flattening then .error f
      let flat ← b.flattened
      (← flat.live).writeJpeg options
    | .png => do (← b.live).writePng
    | other => .error (.encoding s!"Unsupported output format: {other.name}")
  written.mapError (Raster.writingFailure format)

end Buffer

end Darkroom
