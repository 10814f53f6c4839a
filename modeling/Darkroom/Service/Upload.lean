import Darkroom.Failure
import Darkroom.Http.Message
import Darkroom.Text.Number
/-!
# Uploads

The body of a request is taken up to a limit. A length that is declared and goes over it is
refused before any part of the body is read. Three superscripts count as digits where a declared
length is looked at but cannot be read as a number.
-/

namespace Darkroom

namespace Upload

/-! ## Declared lengths -/

def superscripts : List Char := ['²', '³', '¹']

def isDigit (c : Char) : Bool := c.isDigit || superscripts.contains c

/-- As much of an unreadable number as is shown. -/
def shownLength : Nat := 200

private def tooManyDigits (count : Nat) : Failure :=
  .value (s!"Exceeds the limit ({Text.digitLimit} digits) for integer string conversion: value has " ++
    s!"{count} digits; use sys.set_int_max_str_digits() to increase the limit")

private def unreadable (text : String) : Failure :=
  let shown := String.ofList ((Text.quoted text).toList.take shownLength)
  .value s!"invalid literal for int() with base 10: {shown}"

/-- The length that a header declares; one that holds anything but digits declares none. -/
def declaredLength (text : String) : Except Failure (Option Nat) :=
  let cs := text.toList
  if cs.isEmpty ∨ !cs.all isDigit then .ok none
  else
    let leading := cs.takeWhile Char.isDigit
    if Text.digitLimit < leading.length then .error (tooManyDigits leading.length)
    else if leading.length < cs.length then .error (unreadable text)
    else .ok (some (Text.decimal cs))

/-! ## Reading -/

def overLimit (length limit : Int) : Failure :=
  .tooBig s!"Upload of {length} bytes exceeds limit of {limit} bytes"

/-- What is read, and the number of parts that are not. -/
structure Reading where
  outcome : Except Failure Bytes
  unread : Nat

def declared (r : Http.Request) : Except Failure (Option Nat) :=
  match r.header? "Content-Length" with
  | some text => declaredLength text
  | none => .ok none

def readParts (limit : Int) (r : Http.Request) : Reading :=
  let data := r.parts.flatten
  if limit < data.length then ⟨.error (overLimit data.length limit), 0⟩ else ⟨.ok data, 0⟩

def read (limit : Int) (r : Http.Request) : Reading :=
  match declared r with
  | .error f => ⟨.error f, r.parts.length⟩
  | .ok (some length) =>
    if limit < length then ⟨.error (overLimit length limit), r.parts.length⟩
    else readParts limit r
  | .ok none => readParts limit r

end Upload

end Darkroom
