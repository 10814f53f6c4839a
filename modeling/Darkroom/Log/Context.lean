import Darkroom.Failure
import Darkroom.Log
import Darkroom.Text.Template
/-!
# Log contexts

A context stamps what it knows onto every record that goes through it. Contexts are bound from
one another and never change. A caller may pass a dictionary of its own for a record's
attributes: the stamp goes into that very dictionary, which the caller keeps.
-/

namespace Darkroom

namespace Log

/-! ## Messages -/

/-- A text with the values that are to be put into it. -/
structure Message where
  template : String
  values : List Json := []
deriving Repr, Inhabited

/-- A single mapping that is not empty gives its values by name; with no values at all the
template is no template. -/
def Message.text (m : Message) : Except Template.Fault String :=
  match m.values with
  | [] => .ok m.template
  | [.object (f :: fields)] => Template.render m.template (.ofMapping (f :: fields))
  | values => Template.render m.template { row := values }

/-! ## Contexts -/

/-- A field that is null says nothing. -/
structure Context where
  requestId : Json := .null
  imageId : Json := .null
  operation : Json := .null
deriving Repr, Inhabited

namespace Context

def attributes (c : Context) : Attributes :=
  [("request_id", c.requestId), ("image_id", c.imageId), ("operation", c.operation)]

/-- What a context stamps. -/
def stamp (c : Context) : Attributes := c.attributes.filter fun (_, v) => !v.isNull

/-- Fields of no context are refused. -/
def set? (c : Context) (name : String) (v : Json) : Option Context :=
  match name with
  | "request_id" => some { c with requestId := v }
  | "image_id" => some { c with imageId := v }
  | "operation" => some { c with operation := v }
  | _ => none

def bind? (c : Context) (updates : Attributes) : Option Context :=
  updates.foldlM (fun c (name, v) => c.set? name v) c

end Context

/-! ## Logging through contexts -/

/-- The attributes every record has of its own, which no dictionary may name. -/
def reservedNames : List String :=
  ["message", "asctime", "name", "msg", "args", "levelname", "levelno", "pathname", "filename",
    "module", "exc_info", "exc_text", "stack_info", "lineno", "funcName", "created", "msecs",
    "relativeCreated", "thread", "threadName", "processName", "process"]

/-- A record before its text is made. -/
structure Draft where
  level : Level
  message : Message
  attributes : Attributes
deriving Repr, Inhabited

/-- A record at the threshold or above, unless an attribute's name is reserved. -/
def draft? (threshold level : Level) (message : Message) (attributes : Attributes) :
    Except Failure (Option Draft) :=
  if !level.passes threshold then .ok none
  else match attributes.find? fun (name, _) => reservedNames.contains name with
    | some (name, _) =>
      .error ⟨.key, s!"Attempt to overwrite {Text.quoted name} in LogRecord"⟩
    | none => .ok (some ⟨level, message, attributes⟩)

/-- Contexts and callers' dictionaries by name. -/
structure Desk where
  threshold : Level
  contexts : List (String × Context)
  dictionaries : List (String × Attributes) := []
deriving Inhabited

namespace Desk

inductive Step
  | bind (on name : String) (updates : Attributes)
  | log (on : String) (level : Level) (message : Message) (dictionary : Option String)
deriving Inhabited

inductive Answer
  | bound (c : Context)
  /-- The record, if one was made, and the caller's dictionary afterwards, if there is one. -/
  | logged (record : Option Draft) (dictionary : Option Attributes)
deriving Inhabited

private def replace {α : Type} (all : List (String × α)) (name : String) (a : α) :
    List (String × α) :=
  (name, a) :: all.filter (·.1 != name)

def context (d : Desk) (name : String) : Context := (d.contexts.lookup name).getD {}

def dictionary (d : Desk) (name : String) : Attributes := (d.dictionaries.lookup name).getD []

/-- The stamp reaches the caller's dictionary whether or not a record is made. -/
def perform (d : Desk) : Step → Except Failure Answer × Desk
  | .bind on name updates =>
    match (d.context on).bind? updates with
    | none => (.error ⟨.type, "unknown context field"⟩, d)
    | some c => (.ok (.bound c), { d with contexts := replace d.contexts name c })
  | .log on level message owner =>
    let before := (owner.map d.dictionary).getD []
    let stamped := before.merge (d.context on).stamp
    let after := match owner with
      | some name => { d with dictionaries := replace d.dictionaries name stamped }
      | none => d
    ((draft? d.threshold level message stamped).map fun record =>
      .logged record (owner.map fun _ => stamped), after)

end Desk

end Log

end Darkroom
