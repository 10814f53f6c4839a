import Darkroom.Json.Literal
import Darkroom.Work
/-!
# Derived images

A thumbnail or a crop is made from a validated source by a few steps, each making a buffer of
its own, and written out at the end. The source is never changed. The buffers made on the way
are released in reverse order whatever came of it; a release that fails ends the releasing.
-/

namespace Darkroom

/-- What was decided about an image when it was opened. -/
structure Facts where
  dimensions : Dimensions
  transform : Transform
  orientation : Int
  inputFormat : Format
  outputFormat : Format
deriving DecidableEq, Repr, Inhabited

/-- What the log tells as the size in bytes of what a codec encodes. -/
class Measured (ω : Type) where
  size : ω → Json

def Measured.sizeText {ω : Type} [Measured ω] (output : ω) : String := (size output).text

namespace Derivation

variable {ω α : Type}

/-- A step asks for a new buffer made from the one at hand. -/
abbrev Step (ω : Type) := BufferId → Work ω BufferId

def resizing (d : Dimensions) : Step ω := fun b => Work.request (.resize b d.width d.height)

def turning (t : Transform) : Step ω := fun b => Work.request (.transform b t)

def cropping (box : CropBox) : Step ω := fun b => Work.request (.crop b box)

/-- Turning is left out for an image that stands upright. -/
def turningIfNeeded (t : Transform) : List (Step ω) :=
  if t.isIdentity then [] else [turning t]

def releaseAll : List BufferId → Work ω Unit
  | [] => pure ()
  | b :: rest => do
    Work.request (.release b)
    releaseAll rest

/-- Goes through the steps and uses the last buffer; gives what came of it and the buffers made,
the last one first. -/
def attemptSteps (use : BufferId → Work ω α) :
    List (Step ω) → List BufferId → BufferId → Work ω (Except Failure α × List BufferId)
  | [], made, b => do return (← (use b).attempt, made)
  | step :: rest, made, b => do
    match ← (step b).attempt with
    | .ok next => attemptSteps use rest (next :: made) next
    | .error f => return (.error f, made)

/-- Uses what the steps make of a source and releases every buffer made. -/
def through (steps : List (Step ω)) (source : BufferId) (use : BufferId → Work ω α) : Work ω α := do
  let (outcome, made) ← attemptSteps use steps [] source
  releaseAll made
  Work.ofExcept outcome

/-! ## Thumbnails and crops -/

private def builderRecord (text : String) : Log.Record :=
  { level := .info, logger := "imager.core.builder", text }

/-- The source is resized as it is stored and turned afterwards, when it is small. -/
def thumbnailSteps (facts : Facts) (size : Dimensions) : List (Step ω) :=
  let stored := facts.dimensions.after facts.transform
  let target := size.after facts.transform
  (if target = stored then [] else [resizing target]) ++ turningIfNeeded facts.transform

def cropSteps (facts : Facts) (box : CropBox) : List (Step ω) :=
  turningIfNeeded facts.transform ++ [cropping box]

def thumbnail [Measured ω] (source : BufferId) (facts : Facts) (bound : Dimensions) (fit : Bool) :
    Work ω ω := do
  Work.noteAll (thumbnailRemark facts.dimensions bound fit)
  let size ← Work.ofExcept ((thumbnailSize facts.dimensions bound fit).mapError (·.failure))
  let output ← through (thumbnailSteps facts size) source fun b =>
    Work.request (.encode b facts.outputFormat)
  Work.noteAll [builderRecord (s!"Thumbnail built: {facts.dimensions.text} -> {size.text} " ++
    s!"{facts.outputFormat.name}, {Measured.sizeText output} bytes")]
  return output

def crop [Measured ω] (source : BufferId) (facts : Facts) (target : Dimensions) : Work ω ω := do
  Work.noteAll (cropRemark facts.dimensions target)
  let box ← Work.ofExcept ((cropBox facts.dimensions target).mapError (·.failure))
  let output ← through (cropSteps facts box) source fun b =>
    Work.request (.encode b facts.outputFormat)
  Work.noteAll [builderRecord (s!"Crop built: {facts.dimensions.text} -> {box.size.text} " ++
    s!"at ({box.offsetX},{box.offsetY}) {facts.outputFormat.name}, " ++
    s!"{Measured.sizeText output} bytes")]
  return output

end Derivation

end Darkroom
