import Darkroom.Failure
import Darkroom.Json.Literal
import Darkroom.Json.Writer
import Darkroom.Log
/-!
# Lines of a log

A record becomes one JSON object for machines, or a coloured line for people. Context fields and
metrics are those of the record's attributes that bear their names.
-/

namespace Darkroom

namespace Log

/-! ## What a record carries -/

/-- The fields that tell what a record is about, with their short names for people. -/
def contextFields : List (String × String) :=
  [("request_id", "req"), ("image_id", "img"), ("operation", "op")]

def metricFields : List String := ["status_code", "duration_ms", "output_bytes"]

namespace Record

/-- The context fields that say something, in their own order. -/
def context (r : Record) : Attributes :=
  contextFields.filterMap fun (name, _) =>
    match r.attributes.get? name with
    | none | some .null => none
    | some v => some (name, v)

/-- Metrics are told even if they say nothing. -/
def metrics (r : Record) : Attributes :=
  metricFields.filterMap fun name => (r.attributes.get? name).map fun v => (name, v)

private def fileName (path : List Char) : List Char :=
  (path.reverse.takeWhile (· != '/')).reverse

/-- The name without its last extension; points in front belong to the name. -/
private def withoutExtension (name : List Char) : List Char :=
  let points := name.takeWhile (· == '.')
  let rest := name.dropWhile (· == '.')
  match rest.reverse.dropWhile (· != '.') with
  | _ :: stem => points ++ stem.reverse
  | [] => name

/-- The module that a record comes from. -/
def module (r : Record) : String :=
  String.ofList (withoutExtension (fileName r.path.toList))

end Record

/-! ## For machines -/

/-- The timestamp comes first, then what every record has, and what some have at the end. -/
def Record.fields (r : Record) (timestamp : String) : Attributes :=
  [("timestamp", .string timestamp), ("level", .string r.level.name),
    ("logger", .string r.logger), ("message", .string r.text), ("module", .string r.module),
    ("line", .int r.line)] ++ r.context ++ r.metrics ++
  (r.exception.map fun text => ("exception", .string text)).toList

def Record.jsonLine (r : Record) (timestamp : String) : String :=
  (Json.object (r.fields timestamp)).render

/-- The line, or what is said of a number in it that is too long. -/
def Record.jsonLine? (r : Record) (timestamp : String) (limit : Text.DigitLimit := .standard) :
    Except Failure String :=
  match (Json.object (r.fields timestamp)).render? limit with
  | some line => .ok line
  | none => .error (.value limit.complaint)

/-! ## For people -/

private def escape (code : String) : String := "\x1b[" ++ code ++ "m"

/-- Levels without a name have no colour. -/
def Level.color (l : Level) : String :=
  if l = debug then escape "36"
  else if l = info then escape "32"
  else if l = warning then escape "33"
  else if l = error then escape "31"
  else if l = critical then escape "35"
  else escape "0"

private def padded (width : Nat) (s : String) : String :=
  s ++ String.ofList (List.replicate (width - s.length) ' ')

/-- Of the request no more than eight characters are told. -/
private def tag (name label : String) (v : Json) : String :=
  let text := if name = "request_id" then String.ofList (v.text.toList.take 8) else v.text
  label ++ "=" ++ text

def Record.tags (r : Record) : List String :=
  r.context.filterMap fun (name, v) => (contextFields.lookup name).map fun label => tag name label v

def Record.consoleLine (r : Record) (timestamp : String) : String :=
  let tags := if r.tags.isEmpty then "" else " [" ++ String.intercalate " " r.tags ++ "]"
  let told := r.level.color ++ "[" ++ timestamp ++ "] " ++ padded 8 r.level.name ++ escape "0" ++
    " " ++ r.logger ++ tags ++ " - " ++ r.text
  match r.exception with
  | some text => told ++ "\n" ++ text
  | none => told

end Log

end Darkroom
