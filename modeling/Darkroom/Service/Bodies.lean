import Darkroom.Handle
import Darkroom.Validation.Scalar
/-!
# Bodies of answers

What the service says about an image, and what it says when it cannot.
-/

namespace Darkroom

/-- What the service tells about an image. -/
structure Description where
  width : Int
  height : Int
  inputFormat : String
  outputFormat : String
  orientation : Int
deriving DecidableEq, Repr, Inhabited

namespace Description

open Validation in
def ofAttributes (a : Attributes) : Checked Description :=
  Description.mk
    <$> field "width" (atLeast 2 integer) (a.get? "width")
    <*> field "height" (atLeast 2 integer) (a.get? "height")
    <*> field "input_format" text (a.get? "input_format")
    <*> field "output_format" text (a.get? "output_format")
    <*> field "orientation" (atMost 8 (atLeast 1 integer)) (a.get? "orientation")

def attributes (d : Description) : Attributes :=
  [("width", .int d.width), ("height", .int d.height), ("input_format", .string d.inputFormat),
    ("output_format", .string d.outputFormat), ("orientation", .int d.orientation)]

/-- What was decided about an image, under the names it is told by. -/
def factAttributes (f : Facts) : Attributes :=
  [("width", .int f.dimensions.width), ("height", .int f.dimensions.height),
    ("input_format", .string f.inputFormat.name), ("output_format", .string f.outputFormat.name),
    ("orientation", .int f.orientation)]

end Description

/-- What the service tells instead of an image. -/
structure Problem where
  error : String
deriving DecidableEq, Repr, Inhabited

namespace Problem

open Validation in
def ofAttributes (a : Attributes) : Checked Problem :=
  Problem.mk <$> field "error" text (a.get? "error")

def attributes (p : Problem) : Attributes := [("error", .string p.error)]

end Problem

end Darkroom
