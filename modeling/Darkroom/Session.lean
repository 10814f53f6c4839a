import Darkroom.Handle
/-!
# Sessions

Any number of handles over any number of codecs. A handle is found by the name it was last
opened under and keeps its identity when the name passes to another. `Session.perform` carries
out one step; a block (`Step.within`) closes its handle when it is left on any path.
-/

namespace Darkroom

namespace Session

inductive Step
  | openAs (name codec : String) (data : Bytes) (budget : Int) (config : Config)
  | validate (codec : String) (data : Bytes) (budget : Int) (config : Config)
  | thumbnail (name : String) (bound : Dimensions) (fit : Bool)
  | crop (name : String) (target : Dimensions)
  | close (name : String)
  | isClosed (name : String)
  | facts (name : String)
  | describe (name : String)
  | within (name : String) (steps : List Step) (failure : Option Failure)
deriving Inhabited

inductive Answer (ω : Type)
  | facts (f : Facts) (closed : Bool)
  | output (o : ω)
  | validated (d : Dimensions) (f : Format)
  | flag (b : Bool)
  | text (s : String)
  | nothing
  | all (answers : List (Answer ω))
deriving Inhabited

end Session

/-- A handle and the codec its buffers belong to. -/
structure HandleEntry where
  codec : String
  handle : Handle
deriving DecidableEq, Inhabited

structure Session (σ : Type) where
  codecs : String → σ
  /-- Every handle ever opened, by number. -/
  entries : List HandleEntry := []
  /-- The number of the handle a name stands for. -/
  names : String → Option Nat := fun _ => none

namespace Session

variable {ω σ α : Type}

def setCodec (s : Session σ) (name : String) (state : σ) : Session σ :=
  { s with codecs := fun n => if n = name then state else s.codecs n }

/-- A name that nothing was opened under stands for an uninitialized handle. -/
def entryAt (s : Session σ) (number : Option Nat) : HandleEntry :=
  (number.bind (s.entries[·]?)).getD ⟨"", .uninitialized⟩

def setHandle (s : Session σ) (number : Option Nat) (h : Handle) : Session σ :=
  match number with
  | none => s
  | some n => { s with entries := s.entries.set n { s.entryAt number with handle := h } }

def addHandle (s : Session σ) (name codec : String) (h : Handle) : Session σ :=
  { s with
    entries := s.entries ++ [⟨codec, h⟩]
    names := fun n => if n = name then some s.entries.length else s.names n }

/-- What a step leaves behind. -/
structure Turnout (ω σ α : Type) where
  outcome : Except Failure α
  session : Session σ
  calls : List (String × Call ω) := []
  journal : List Log.Record := []

/-- Does work on one of the codecs. -/
def work (c : Codec ω σ) (s : Session σ) (codec : String) (w : Work ω α) : Turnout ω σ α :=
  let run := w.run c (s.codecs codec)
  { outcome := run.outcome
    session := s.setCodec codec run.state
    calls := run.calls.map (codec, ·)
    journal := run.journal }

namespace Turnout

def map (t : Turnout ω σ α) (f : α → β) : Turnout ω σ β :=
  ⟨t.outcome.map f, t.session, t.calls, t.journal⟩

/-- What follows goes on from the session left behind, after what was called and noted so far. -/
def andThen (t : Turnout ω σ α) (next : Except Failure α → Session σ → Turnout ω σ β) :
    Turnout ω σ β :=
  let later := next t.outcome t.session
  { later with calls := t.calls ++ later.calls, journal := t.journal ++ later.journal }

end Turnout

/-- The handle counts as closed even if its release fails. -/
def closeHandle (c : Codec ω σ) (s : Session σ) (number : Option Nat) : Turnout ω σ Unit :=
  let entry := s.entryAt number
  work c (s.setHandle number entry.handle.afterClose) entry.codec entry.handle.close

def factsAnswer (h : Handle) : Except Failure (Answer ω) :=
  match h.facts? with
  | some f => .ok (.facts f h.isClosed)
  | none => .error ⟨.missing, ""⟩

/-- A block that went well is still left by a failure raised at its end. -/
def orRaise (outcome : Except Failure α) (failure : Option Failure) : Except Failure α :=
  outcome.bind fun a => match failure with
    | some f => .error f
    | none => .ok a

mutual

def perform [Measured ω] (c : Codec ω σ) (imageId : String) (s : Session σ) :
    Step → Turnout ω σ (Answer ω)
  | .openAs name codec data budget config =>
    (work c s codec (openImage imageId data budget config)).andThen fun outcome s =>
      let h := Handle.ofOutcome outcome
      ⟨outcome.bind fun _ => factsAnswer h, s.addHandle name codec h, [], []⟩
  | .validate codec data budget config =>
    (work c s codec (validateImage imageId data budget config)).map fun (d, f) => .validated d f
  | .thumbnail name bound fit =>
    let entry := s.entryAt (s.names name)
    (work c s entry.codec (entry.handle.thumbnail bound fit)).map .output
  | .crop name target =>
    let entry := s.entryAt (s.names name)
    (work c s entry.codec (entry.handle.crop target)).map .output
  | .close name => (closeHandle c s (s.names name)).map fun _ => .nothing
  | .isClosed name => ⟨.ok (.flag (s.entryAt (s.names name)).handle.isClosed), s, [], []⟩
  | .facts name => ⟨factsAnswer (s.entryAt (s.names name)).handle, s, [], []⟩
  | .describe name => ⟨.ok (.text ((s.entryAt (s.names name)).handle.text imageId)), s, [], []⟩
  | .within name steps failure =>
    let number := s.names name
    (performUntilFailure c imageId s steps).andThen fun outcome s =>
      (closeHandle c s number).andThen fun closing s =>
        ⟨closing.bind fun _ => (orRaise outcome failure).map .all, s, [], []⟩

/-- The steps' answers, or the first failure. -/
def performUntilFailure [Measured ω] (c : Codec ω σ) (imageId : String) (s : Session σ) :
    List Step → Turnout ω σ (List (Answer ω))
  | [] => ⟨.ok [], s, [], []⟩
  | step :: rest =>
    (perform c imageId s step).andThen fun outcome s =>
      match outcome with
      | .error f => ⟨.error f, s, [], []⟩
      | .ok a => (performUntilFailure c imageId s rest).map (a :: ·)

end

end Session

end Darkroom
