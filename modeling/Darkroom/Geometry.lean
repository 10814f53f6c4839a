import Darkroom.Dimensions
import Darkroom.Failure
import Darkroom.Log
/-!
# Thumbnail and crop geometry

Scales are exact fractions, so both axes round the same way, and the only rounding is the last
step to whole pixels (`roundHalfUp`). A thumbnail fits inside its box or fills it; a crop is
centred. Neither is ever larger than its source. What is said of a request tells its numbers, so a
request with a number that is too long to be written is refused where anything is said.
-/

namespace Darkroom

/-! ## Requests that make no sense -/

/-- The sizes a request can get wrong, by the names they are reported under. -/
inductive Extent
  | sourceWidth
  | sourceHeight
  | boundWidth
  | boundHeight
  | targetWidth
  | targetHeight
deriving DecidableEq, Repr

def Extent.label : Extent → String
  | sourceWidth => "src_w"
  | sourceHeight => "src_h"
  | boundWidth => "max_w"
  | boundHeight => "max_h"
  | targetWidth => "target_w"
  | targetHeight => "target_h"

inductive GeometryError
  | belowOne (extent : Extent) (value : Int)
  | belowZero (extent : Extent) (value : Int)
  /-- What should be said has a number with more digits than the limit. -/
  | unwritable (limit : Text.DigitLimit)
deriving DecidableEq, Repr

namespace GeometryError

def message : GeometryError → String
  | belowOne e v => s!"{e.label} must be a positive integer, got {v}"
  | belowZero e v => s!"{e.label} must be a non-negative integer, got {v}"
  | unwritable limit => limit.complaint

def failure (e : GeometryError) : Failure := .value e.message

end GeometryError

section
variable (limit : Text.DigitLimit)

/-- The first of the extents that is below the least. -/
def requireAtLeast (least : Int) (wrong : Extent → Int → GeometryError) (extents : List (Extent × Int)) :
    Except GeometryError Unit :=
  match extents.find? (·.2 < least) with
  | some (e, v) => .error (if limit.Allows v then wrong e v else .unwritable limit)
  | none => .ok ()

def requirePositive : List (Extent × Int) → Except GeometryError Unit :=
  requireAtLeast limit 1 .belowOne

def requireNonNegative : List (Extent × Int) → Except GeometryError Unit :=
  requireAtLeast limit 0 .belowZero

/-- A result that is told of in a text, unless there is no such text. -/
def toldOf {α : Type} (text? : Option String) (result : α) : Except GeometryError α :=
  match text? with
  | some _ => .ok result
  | none => .error (.unwritable limit)

end

/-! ## Thumbnails -/

/-- The nearest integer, the upper one on a tie. -/
def roundHalfUp (x : Rat) : Int := (x + 1 / 2).floor

inductive RoundingError
  | infinite
  | undefined
deriving DecidableEq, Repr

/-- The same rule on a floating-point value, where the sum with one half is itself rounded. -/
def Binary64.roundHalfUp (x : Binary64) : Except RoundingError Int :=
  match x with
  | .infinity _ => .error .infinite
  | .nan => .error .undefined
  | x => .ok ((x.add .half).floor?.getD 0)

def lesser (a b : Rat) : Rat := if a ≤ b then a else b

def greater (a b : Rat) : Rat := if a ≤ b then b else a

/-- A scaled extent in whole pixels, at least one. -/
def scaledExtent (extent : Int) (scale : Rat) : Int := max 1 (roundHalfUp (extent * scale))

/-- The scale of a thumbnail inside (`fit`) or around a bounding box, never above one. -/
def thumbnailScale (source bound : Dimensions) (fit : Bool) (limit : Text.DigitLimit := .standard) :
    Except GeometryError Rat := do
  requirePositive limit [(.sourceWidth, source.width), (.sourceHeight, source.height)]
  requireNonNegative limit [(.boundWidth, bound.width), (.boundHeight, bound.height)]
  let across : Rat := bound.width / source.width
  let down : Rat := bound.height / source.height
  let scale := if fit then lesser across down else greater across down
  return lesser scale 1

private def truthWord (b : Bool) : String := if b then "True" else "False"

/-- What is said of a thumbnail that is really scaled. -/
def thumbnailText? (limit : Text.DigitLimit) (source bound size : Dimensions) (fit : Bool) (scale : Rat) :
    Option String := do
  let source ← source.written? limit
  let size ← size.written? limit
  let bound ← bound.written? limit
  let scale := (Binary64.ofRat scale).toFixed 4
  return s!"Thumbnail geometry: {source} -> {size} (box={bound}, " ++
    s!"fit_inside={truthWord fit}, scale={scale})"

def thumbnailSize (source bound : Dimensions) (fit : Bool) (limit : Text.DigitLimit := .standard) :
    Except GeometryError Dimensions := do
  let scale ← thumbnailScale source bound fit limit
  if scale = 1 then return source
  let size : Dimensions := ⟨scaledExtent source.width scale, scaledExtent source.height scale⟩
  toldOf limit (thumbnailText? limit source bound size fit scale) size

/-! ## Crops -/

/-- A rectangle with its upper left corner at an offset. -/
structure CropBox where
  width : Int
  height : Int
  offsetX : Int
  offsetY : Int
deriving DecidableEq, Repr, Inhabited

namespace CropBox

def left (b : CropBox) : Int := b.offsetX
def upper (b : CropBox) : Int := b.offsetY
def right (b : CropBox) : Int := b.offsetX + b.width
def lower (b : CropBox) : Int := b.offsetY + b.height
def size (b : CropBox) : Dimensions := ⟨b.width, b.height⟩

end CropBox

/-- Whether a rectangle of this size can be cut from the source as it is. -/
def fitsWithin (source target : Dimensions) : Bool :=
  target.width ≤ source.width && target.height ≤ source.height

/-- A target that fits is kept; any other shrinks to the largest of its aspect ratio that fits. -/
def cropSize (source target : Dimensions) : Dimensions :=
  if fitsWithin source target then target
  else
    let scale := lesser (source.width / target.width) (source.height / target.height)
    ⟨min source.width (scaledExtent target.width scale),
      min source.height (scaledExtent target.height scale)⟩

/-- What is said of a crop that does not get the size asked for. -/
def cropText? (limit : Text.DigitLimit) (source target size : Dimensions) : Option String := do
  let target ← target.written? limit
  let source ← source.written? limit
  let size ← size.written? limit
  return s!"Crop request {target} exceeds source {source}, clamped to {size}"

/-- The centred rectangle for a target; an odd remainder goes to the right and below. -/
def cropBox (source target : Dimensions) (limit : Text.DigitLimit := .standard) : Except GeometryError CropBox := do
  requirePositive limit [(.sourceWidth, source.width), (.sourceHeight, source.height),
    (.targetWidth, target.width), (.targetHeight, target.height)]
  let size := cropSize source target
  let box : CropBox := ⟨size.width, size.height, (source.width - size.width).fdiv 2,
    (source.height - size.height).fdiv 2⟩
  if fitsWithin source target then return box
  toldOf limit (cropText? limit source target size) box

/-! ## Remarks for the log -/

private def geometryLogger : String := "imager.core.geometry"

/-- Said of every thumbnail that is really scaled. -/
def thumbnailRemark (source bound : Dimensions) (fit : Bool) (limit : Text.DigitLimit := .standard) :
    List Log.Record :=
  match thumbnailScale source bound fit limit, thumbnailSize source bound fit limit with
  | .ok scale, .ok size =>
    if scale = 1 then []
    else (thumbnailText? limit source bound size fit scale).toList.map fun text =>
      { level := .debug, logger := geometryLogger, text }
  | _, _ => []

/-- Said of every crop that does not get the size asked for. -/
def cropRemark (source target : Dimensions) (limit : Text.DigitLimit := .standard) : List Log.Record :=
  match cropBox source target limit with
  | .ok box =>
    if fitsWithin source target then []
    else (cropText? limit source target box.size).toList.map fun text =>
      { level := .debug, logger := geometryLogger, text }
  | .error _ => []

end Darkroom
