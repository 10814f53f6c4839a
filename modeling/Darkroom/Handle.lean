import Darkroom.Config
import Darkroom.Derivation
/-!
# Image handles

Opening an image admits, decodes and judges it once; the handle then derives images from the
decoded buffer until it is closed. A handle whose opening failed is uninitialized. What was
decided at opening can be read before and after closing.
-/

namespace Darkroom

/-! ## Opening -/

private def imageRecord (text : String) : Log.Record :=
  { level := .debug, logger := "imager.core.image", text }

/-- The header alone decides whether the pixels are decoded. A decoded buffer that cannot be
judged is released. -/
def openImage {ω : Type} (imageId : String) (data : Bytes) (budget : Int) (config : Config) :
    Work ω (BufferId × Facts) := do
  let sniffed : Format ← Work.request (.sniff data)
  let header : Header ← Work.request (.decodeHeader data)
  if header.format ≠ sniffed then
    Work.fail (.unknownFormat
      s!"Image signature says {sniffed.name} but decoder found {header.format.name}")
  else
    let judgement := header.assess ⟨budget, config.maxDimension⟩
    Work.noteAll (header.remark judgement)
    let admission ← Work.ofExcept (judgement.mapError (·.failure))
    let buffer ← Work.request (.decodeFull data)
    let transparent ← (Work.request (.hasTransparency buffer)).onFailure
      (Work.request (.release buffer))
    let output := config.outputPolicy.choose admission.inputFormat transparent
    Work.noteAll [imageRecord (s!"Image {imageId} opened: {admission.inputFormat.name} " ++
      s!"{admission.dimensions.text}, orientation={admission.orientation}, output={output.name}")]
    return (buffer, ⟨admission.dimensions, admission.transform, admission.orientation,
      admission.inputFormat, output⟩)

/-! ## Handles -/

inductive Handle
  | uninitialized
  | opened (buffer : BufferId) (facts : Facts)
  | closed (facts : Facts)
deriving DecidableEq, Repr, Inhabited

namespace Handle

variable {ω : Type}

def ofOutcome : Except Failure (BufferId × Facts) → Handle
  | .ok (b, facts) => opened b facts
  | .error _ => uninitialized

def facts? : Handle → Option Facts
  | uninitialized => none
  | opened _ facts | closed facts => some facts

/-- A handle that never opened counts as closed. -/
def isClosed : Handle → Bool
  | opened _ _ => false
  | uninitialized | closed _ => true

def thumbnail [Measured ω] (bound : Dimensions) (fit : Bool) : Handle → Work ω ω
  | opened b facts => Derivation.thumbnail b facts bound fit
  | _ => .fail .closedImage

def crop [Measured ω] (target : Dimensions) : Handle → Work ω ω
  | opened b facts => Derivation.crop b facts target
  | _ => .fail .closedImage

/-- The handle after closing, whether or not the release succeeds. -/
def afterClose : Handle → Handle
  | opened _ facts => closed facts
  | h => h

/-- The buffer of an open handle is released; closing again does nothing. -/
def close : Handle → Work ω Unit
  | opened b _ => Work.request (.release b)
  | _ => pure ()

def text (imageId : String) : Handle → String
  | uninitialized => s!"<Image {imageId} uninitialized>"
  | opened _ facts => s!"<Image {imageId} {facts.inputFormat.name} {facts.dimensions.text} open>"
  | closed facts => s!"<Image {imageId} {facts.inputFormat.name} {facts.dimensions.text} closed>"

end Handle

/-- Uses an image that is closed afterwards, whatever came of it. -/
def withImage {ω α : Type} (imageId : String) (data : Bytes) (budget : Int) (config : Config)
    (use : BufferId → Facts → Work ω α) : Work ω α := do
  let (buffer, facts) ← openImage imageId data budget config
  (use buffer facts).ensure (Work.request (.release buffer))

/-- The display size and the format of an image that can be opened; nothing is kept. -/
def validateImage {ω : Type} (imageId : String) (data : Bytes) (budget : Int) (config : Config) :
    Work ω (Dimensions × Format) :=
  withImage imageId data budget config fun _ facts =>
    return (facts.dimensions, facts.inputFormat)

end Darkroom
