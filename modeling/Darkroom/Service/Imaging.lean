import Darkroom.Log.Context
import Darkroom.Service.Bodies
import Darkroom.Settings.Basic
/-!
# Work of the service

An upload is opened under the settings and described, or an image is derived from it; the image
is closed before anything is answered. The log is told under the context of the request.
-/

namespace Darkroom

namespace Service

def logger : String := "imager.transport.http_app"

/-- A record under a context, with attributes of its own. -/
def record (context : Log.Context) (text : String) (attributes : Attributes := []) : Log.Record :=
  { level := .info, logger, text, attributes := attributes.merge context.stamp }

/-- An upload to be handled: under which settings, and for whom. -/
structure Job where
  data : Bytes
  settings : Settings
  imageId : String
  context : Log.Context

namespace Job

variable {ω : Type}

/-- The context, with the image named. -/
def imageContext (j : Job) : Log.Context := { j.context with imageId := .string j.imageId }

def opened {α : Type} (j : Job) (use : BufferId → Facts → Work ω α) : Work ω α :=
  withImage j.imageId j.data j.settings.maxBufferPixels j.settings.imageConfig use

def describe (j : Job) : Work ω Description :=
  j.opened fun _ facts => do
    Work.noteAll [record j.imageContext
      s!"Described {facts.inputFormat.name} {facts.dimensions.text}"]
    match Description.ofAttributes (Description.factAttributes facts) with
    | .ok description => return description
    | .issues _ => Work.fail (.value "an image cannot be described")

/-- The derived image and its media type. -/
def derive [Measured ω] (j : Job) (operation : Handle → Work ω ω) : Work ω (String × ω) := do
  let (output, mediaType) ← j.opened fun buffer facts => do
    Work.noteAll [record j.imageContext
      (s!"Decoded {facts.inputFormat.name} {facts.dimensions.text}, " ++
        s!"orientation={facts.orientation}, output={facts.outputFormat.name}")]
    let output ← operation (.opened buffer facts)
    return (output, facts.outputFormat.mediaType)
  Work.noteAll [record j.imageContext
    s!"Derived {Measured.sizeText output} bytes as {mediaType}"
    [("output_bytes", Measured.size output)]]
  return (mediaType, output)

end Job

end Service

end Darkroom
