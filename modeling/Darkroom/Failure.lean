import Darkroom.Text.Quoted
/-!
# Failures

What can go wrong between the bytes of an image and the bytes derived from it. Five kinds are
the library's own and carry the status a front end answers with; the others come from below,
from decoders and from the system. None is worth a second attempt.
-/

namespace Darkroom

/-- The kinds from `processing` to `closed` are the library's own. -/
inductive Failure.Kind
  | processing
  | unknownFormat
  | tooBig
  | encoding
  | closed
  | runtime
  | value
  | key
  | type
  | system
  | badForm
  | endOfData
  | memory
  | bomb
  | packing
  | index
  | missing
deriving DecidableEq, Repr, Inhabited

structure Failure where
  kind : Failure.Kind
  message : String
deriving DecidableEq, Repr, Inhabited

namespace Failure

namespace Kind

/-- The name a kind goes by in answers and in log lines. -/
def label : Kind → String
  | processing => "ImagerError"
  | unknownFormat => "UnknownFormatError"
  | tooBig => "TooBigError"
  | encoding => "EncodeError"
  | closed => "ClosedError"
  | runtime => "RuntimeError"
  | value => "ValueError"
  | key => "KeyError"
  | type => "TypeError"
  | system => "OSError"
  | badForm => "SyntaxError"
  | endOfData => "EOFError"
  | memory => "MemoryError"
  | bomb => "DecompressionBombError"
  | packing => "struct.error"
  | index => "IndexError"
  | missing => "AttributeError"

def all : List Kind :=
  [processing, unknownFormat, tooBig, encoding, closed, runtime, value, key, type, system, badForm,
    endOfData, memory, bomb, packing, index, missing]

def ofLabel? (s : String) : Option Kind := all.find? (·.label == s)

def isOwn : Kind → Bool
  | processing | unknownFormat | tooBig | encoding | closed => true
  | _ => false

/-- A closed handle counts as an invalid value as well. -/
def isInvalidValue : Kind → Bool
  | value | closed => true
  | _ => false

/-- What a front end answers with, for the library's own kinds. -/
def status : Kind → Nat
  | unknownFormat => 415
  | tooBig => 413
  | _ => 500

/-- The message a failure of the library's own carries when none is given. -/
def defaultMessage : Kind → String
  | closed => "I/O operation on closed image"
  | _ => "Image processing error"

end Kind

/-- How a failure reads inside another text: the name of a missing key stands in quotes. -/
def text (f : Failure) : String :=
  match f.kind with
  | .key => Text.quoted f.message
  | _ => f.message

/-- The name a kind goes by in full, where it stands before a failure's text. -/
def Kind.fullLabel (k : Kind) : String :=
  if k.isOwn then "imager.core.errors." ++ k.label
  else match k with
    | .bomb => "PIL.Image." ++ k.label
    | _ => k.label

/-- The last part of the name of a kind. -/
def Kind.shortLabel : Kind → String
  | packing => "error"
  | k => k.label

/-- How a failure is told in a log. -/
def report (f : Failure) : String :=
  match f.kind, f.text with
  | .badForm, "" => f.kind.fullLabel ++ ": <no detail available>"
  | _, "" => f.kind.fullLabel
  | _, text => f.kind.fullLabel ++ ": " ++ text

def closedImage : Failure := ⟨.closed, Kind.closed.defaultMessage⟩

def unknownFormat (message : String) : Failure := ⟨.unknownFormat, message⟩

def tooBig (message : String) : Failure := ⟨.tooBig, message⟩

def encoding (message : String) : Failure := ⟨.encoding, message⟩

def value (message : String) : Failure := ⟨.value, message⟩

end Failure

end Darkroom
