import Darkroom.Http.Route
import Darkroom.Service.Imaging
import Darkroom.Service.Parameters
import Darkroom.Service.Upload
/-!
# The site

The routes of the service and the layers around them. An image is described, shrunk or cropped
on request. The library's own failures are answered with their status inside all layers; what
else goes wrong is left to the layers.
-/

namespace Darkroom

namespace Service

/-- What the service works with. A codec may refuse a configuration. -/
structure Studio (ω σ : Type) where
  settings : Settings
  codec : Codec ω σ
  start : Config → Except Failure σ
  imageId : String

variable {ω σ α : Type}

/-- Works for one request with a codec of its own. -/
def Studio.perform (s : Studio ω σ) (work : Work ω α) : Except Failure α × List Log.Record :=
  match s.start s.settings.imageConfig with
  | .error f => (.error f, [])
  | .ok state =>
    let run := work.run s.codec state
    (run.outcome, run.journal)

/-! ## What is answered to an upload -/

def Studio.job (s : Studio ω σ) (operation : String) (known : Option String) (data : Bytes) : Job where
  data
  settings := s.settings
  imageId := s.imageId
  context :=
    { requestId := (known.map Json.string).getD .null, operation := .string operation }

/-- Reads the upload and works on it. -/
def Studio.handle (s : Studio ω σ) (operation : String) (work : Job → Work ω α)
    (encode : α → Http.Response ω) : Http.Application ω := fun r known =>
  match (Upload.read s.settings.maxUploadBytes r).outcome with
  | .error f => ⟨.error f, known, []⟩
  | .ok data =>
    let (outcome, journal) := s.perform (work (s.job operation known data))
    ⟨outcome.map encode, known, journal⟩

def Studio.info (s : Studio ω σ) : Http.Application ω :=
  s.handle "info" Job.describe fun d => .ofJson 200 (.object d.attributes)

private def encodedResponse : String × ω → Http.Response ω
  | (mediaType, output) => .ofEncoded mediaType output

/-- A query that is refused is answered before the upload is read. -/
def Studio.thumbnail [Measured ω] (s : Studio ω σ) : Http.Application ω := fun r known =>
  match Parameters.thumbnail r with
  | .issues all => ⟨.ok (Parameters.refusal all), known, []⟩
  | .ok (bound, fit) =>
    s.handle "thumbnail" (fun job => job.derive fun image => image.thumbnail bound fit)
      encodedResponse r known

/-- A query that is refused is answered before the upload is read. -/
def Studio.crop [Measured ω] (s : Studio ω σ) : Http.Application ω := fun r known =>
  match Parameters.crop r with
  | .issues all => ⟨.ok (Parameters.refusal all), known, []⟩
  | .ok target =>
    s.handle "crop" (fun job => job.derive fun image => image.crop target) encodedResponse r known

def health : Http.Application ω := fun _ known =>
  ⟨.ok (.ofJson 200 (.object [("status", .string "healthy")])), known, []⟩

def Studio.routes [Measured ω] (s : Studio ω σ) : List (Http.Route ω) :=
  [⟨"GET", "/health", health⟩, ⟨"POST", "/info", s.info⟩, ⟨"POST", "/thumbnail", s.thumbnail⟩,
    ⟨"POST", "/crop", s.crop⟩]

/-! ## Failures of the library's own -/

/-- A failure of an encoder is an error; an upload that is turned down is not. -/
def turnedDown (f : Failure) : Log.Record :=
  if 500 ≤ f.kind.status then
    { level := .error, logger, text := s!"Image processing failed: {f.message}" }
  else
    { level := .info, logger, text := s!"Image rejected ({f.kind.status}): {f.message}" }

def problemResponse (f : Failure) : Http.Response ω :=
  .ofJson f.kind.status (.object (Problem.mk f.message).attributes)

/-- The library's own failures become answers. -/
def owningUp (app : Http.Application ω) : Http.Application ω := fun r known =>
  let passage := app r known
  match passage.outcome with
  | .ok _ => passage
  | .error f =>
    if f.kind.isOwn then
      { passage with
        outcome := .ok (problemResponse f)
        journal := passage.journal ++ [turnedDown f] }
    else passage

/-! ## Sites -/

/-- From the innermost: what fails is answered, what is answered is logged, and every request
has its id by then. -/
def layers (requestLogging : Bool) : List Http.Layer :=
  [.guarding, .logging requestLogging, .identifying]

def site [Measured ω] (c : Http.Circumstances) (requestLogging : Bool) (s : Studio ω σ) :
    Http.Application ω :=
  Http.Layer.wrapAll c (layers requestLogging) (owningUp (Http.Route.dispatch s.routes))

/-- A route that tells the id of its request, or fails. -/
def probe (failure : Option Failure) : Http.Application ω := fun _ known =>
  match failure with
  | some f => ⟨.error f, known, []⟩
  | none =>
    let seen := (known.map Json.string).getD .null
    ⟨.ok (.ofJson 200 (.object [("ok", .bool true), ("seen", seen)])), known, []⟩

/-- A site with nothing but a probe, to see layers by. -/
def probeSite (c : Http.Circumstances) (layers : List Http.Layer) (failure : Option Failure) :
    Http.Application ω :=
  Http.Layer.wrapAll c layers (Http.Route.dispatch [⟨"GET", "/test", probe failure⟩])

end Service

end Darkroom
