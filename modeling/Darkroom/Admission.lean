import Darkroom.Format
import Darkroom.Geometry
/-!
# Admission

A small file can declare enormous dimensions, so a header is judged before any pixel is decoded:
`Header.judge` refuses a format that is not known, a size without visual content, an axis or a
pixel count above the limits, in this order. The log is told of the judgement with its numbers, so it
stands (`Header.assess`) only if they are short enough to be written.
-/

namespace Darkroom

/-- What a container says of its image before any pixel is decoded. -/
structure Header where
  raw : Dimensions
  format : Format
  orientation : Option Int := none
deriving DecidableEq, Repr, Inhabited

/-- Anything smaller on either axis carries no visual content. -/
def leastExtent : Int := 2

/-- The per-axis ceiling where no other is set. -/
def defaultMaxDimension : Int := 32767

structure Limits where
  /-- The greatest number of display pixels. -/
  budget : Int
  /-- The greatest extent of either axis. -/
  maxDimension : Int := defaultMaxDimension
deriving DecidableEq, Repr

/-- An admitted image: how it shows and how it was stored. -/
structure Admission where
  dimensions : Dimensions
  transform : Transform
  orientation : Int
  inputFormat : Format
deriving DecidableEq, Repr, Inhabited

inductive Rejection
  | unsupported
  | degenerate (format : Format) (size : Dimensions)
  | oversized (size : Dimensions) (limit : Int)
  | overBudget (size : Dimensions) (budget : Int)
  /-- What the log is told has a number with more digits than the limit. -/
  | unwritable (digits : Text.DigitLimit)
deriving DecidableEq, Repr

namespace Rejection

/-- The numbers are known to be short enough by then: the log is told of the same ones first, and a
header of which it cannot be told is refused as `unwritable`. -/
def failure : Rejection → Failure
  | unsupported => .unknownFormat "Unsupported image format"
  | degenerate _ size => .unknownFormat
      s!"Image dimensions {size.text} are below the {leastExtent}x{leastExtent} minimum"
  | oversized size limit => .tooBig s!"Image dimensions {size.text} exceed {limit}px per axis"
  | overBudget size budget => .tooBig
      s!"Image has {Text.grouped size.pixels} pixels, exceeds limit of {Text.grouped budget}"
  | unwritable digits => .value digits.complaint

end Rejection

/-! ## Judging a header -/

def Header.judge (h : Header) (limits : Limits) : Except Rejection Admission :=
  let (size, transform) := upright h.raw h.orientation
  if h.format = .unknown then .error .unsupported
  else if size.width < leastExtent ∨ size.height < leastExtent then
    .error (.degenerate h.format size)
  else if limits.maxDimension < size.width ∨ limits.maxDimension < size.height then
    .error (.oversized size limits.maxDimension)
  else if limits.budget < size.pixels then .error (.overBudget size limits.budget)
  else .ok ⟨size, transform, orientationOrUpright h.orientation, h.format⟩

private def admissionRecord (level : Log.Level) (text : String) : Log.Record :=
  { level, logger := "imager.core.admission", text }

/-- What the log is told of a judgement, if its numbers can be written. -/
def Header.remark? (digits : Text.DigitLimit) (h : Header) :
    Except Rejection Admission → Option (List Log.Record)
  | .error .unsupported | .error (.unwritable _) => some []
  | .error (.degenerate format size) => do
    let size ← size.written? digits
    return [admissionRecord .info s!"Rejecting degenerate {format.name} image: {size}"]
  | .error (.oversized size limit) => do
    let size ← size.written? digits
    let limit ← Text.number? digits limit
    return [admissionRecord .warning s!"Rejecting oversized image: {size} exceeds {limit}px per axis"]
  | .error (.overBudget size budget) => do
    let text ← size.written? digits
    let pixels ← Text.grouped? digits size.pixels
    let budget ← Text.grouped? digits budget
    return [admissionRecord .warning s!"Rejecting image over pixel budget: {text} ({pixels} > {budget} pixels)"]
  | .ok a => do
    let size ← a.dimensions.written? digits
    let raw ← h.raw.written? digits
    return [admissionRecord .debug (s!"Admitted {a.inputFormat.name} {size} (raw={raw}, " ++
      s!"orientation={a.orientation})")]

def Header.assess (h : Header) (limits : Limits) (digits : Text.DigitLimit := .standard) :
    Except Rejection Admission :=
  let judgement := h.judge limits
  match h.remark? digits judgement with
  | some _ => judgement
  | none => .error (.unwritable digits)

/-- What the log is told. -/
def Header.remark (h : Header) (judgement : Except Rejection Admission)
    (digits : Text.DigitLimit := .standard) : List Log.Record :=
  (h.remark? digits judgement).getD []

end Darkroom
