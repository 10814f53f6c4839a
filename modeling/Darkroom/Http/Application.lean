import Darkroom.Http.Message
import Darkroom.Log.Context
/-!
# Applications and layers

An application answers a request or fails, and remarks on it in the log. The id of a request is
kept beside it, and may be set on the way: it is still there for those further out. A layer makes
an application of another one by doing something before it, after it or instead of failing.
-/

namespace Darkroom

namespace Http

/-- What comes of a request: the answer, the request's id as it stands then, and the log. -/
structure Passage (ω : Type) where
  outcome : Except Failure (Response ω)
  requestId : Option String
  journal : List Log.Record

/-- What answers a request, given the id that is known by then. -/
abbrev Application (ω : Type) := Request → Option String → Passage ω

/-- What an application needs to be told: an id for requests that bring none, how the time that a
request takes is written, and how the log tells of a failure and of the way it came. -/
structure Circumstances where
  freshId : String
  duration : String
  durationMetric : Json
  account : Failure → String
deriving Inhabited

/-! ## Layers -/

inductive Layer
  /-- Gives the request its id, and tells it with the response. -/
  | identifying
  /-- Remarks on every request before and after, if enabled. -/
  | logging (enabled : Bool)
  /-- Answers in place of a failure. -/
  | guarding
deriving DecidableEq, Repr

namespace Layer

variable {ω : Type}

def idHeader : String := "x-request-id"

/-- What stands for the id of a request that has none. -/
def noId : String := "unknown"

private def record (level : Log.Level) (requestId text : String) : Log.Record :=
  { level, logger := "imager.transport.middleware", text
    attributes := ({ requestId := .string requestId } : Log.Context).stamp }

def identify (c : Circumstances) (app : Application ω) : Application ω := fun r _ =>
  let requestId := (r.header? idHeader).getD c.freshId
  let passage := app r (some requestId)
  { passage with outcome := passage.outcome.map (·.withHeader idHeader requestId) }

/-- The method and the path, by which the log knows a request. -/
def subject (r : Request) (path : String) : String := s!"{r.method} {path}"

def started (requestId subject : String) : Log.Record :=
  record .info requestId s!"Request started: {subject}"

def completed (c : Circumstances) (requestId subject : String) (status : Nat) : Log.Record :=
  let bare := record .info requestId
    s!"Request completed: {subject} status={status} duration={c.duration}"
  { bare with attributes :=
      [("status_code", .int status), ("duration_ms", c.durationMetric)] ++ bare.attributes }

def failed (c : Circumstances) (requestId subject : String) (f : Failure) : Log.Record :=
  { record .error requestId
      s!"Request failed: {subject} error={f.kind.shortLabel} duration={c.duration}" with
    exception := some (c.account f) }

/-- The id is asked for before the application runs. An address that makes no sense is a failure
that comes before it, and nothing is remarked on. -/
def log (c : Circumstances) (app : Application ω) : Application ω := fun r known =>
  match r.addressedPath with
  | .error f => ⟨.error f, known, []⟩
  | .ok path =>
    let requestId := known.getD noId
    let subject := subject r path
    let passage := app r known
    let ending := match passage.outcome with
      | .ok response => completed c requestId subject response.status
      | .error f => failed c requestId subject f
    { passage with journal := started requestId subject :: passage.journal ++ [ending] }

def unhandled (c : Circumstances) (requestId : String) (f : Failure) : Log.Record :=
  { record .error requestId s!"Unhandled exception: {f.kind.shortLabel}: {f.text}" with
    exception := some (c.account f) }

def apology (requestId : String) : Response ω :=
  .ofJson 500 (.object [("error", .string "Internal server error"),
    ("request_id", .string requestId)])

/-- The id is asked for after the application has run. -/
def guard (c : Circumstances) (app : Application ω) : Application ω := fun r known =>
  let passage := app r known
  match passage.outcome with
  | .ok _ => passage
  | .error f =>
    let requestId := passage.requestId.getD noId
    { passage with
      outcome := .ok (apology requestId)
      journal := passage.journal ++ [unhandled c requestId f] }

def wrap (c : Circumstances) : Layer → Application ω → Application ω
  | identifying, app => identify c app
  | logging true, app => log c app
  | logging false, app => app
  | guarding, app => guard c app

/-- The first layer is the innermost. -/
def wrapAll (c : Circumstances) (layers : List Layer) (app : Application ω) : Application ω :=
  layers.foldl (fun app layer => layer.wrap c app) app

end Layer

/-! ## The last resort -/

/-- What a client gets, and the failure that left the application, if one did. -/
structure Delivery (ω : Type) where
  response : Response ω
  escaped : Option Failure
  journal : List Log.Record

/-- A failure that leaves the application is answered without a word about it. -/
def deliver {ω : Type} (app : Application ω) (r : Request) : Delivery ω :=
  let passage := app r none
  match passage.outcome with
  | .ok response => ⟨response, none, passage.journal⟩
  | .error f => ⟨.ofText 500 "Internal Server Error", some f, passage.journal⟩

end Http

end Darkroom
