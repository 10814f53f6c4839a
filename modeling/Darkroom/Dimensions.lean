import Darkroom.Orientation
import Darkroom.Text.Number
/-!
# Dimensions

A size in pixels, and the size at which stored pixels show once they stand upright.
-/

namespace Darkroom

structure Dimensions where
  width : Int
  height : Int
deriving DecidableEq, Repr, Inhabited

namespace Dimensions

def pixels (d : Dimensions) : Int := d.width * d.height

/-- For sizes whose numbers are known to be short enough: those of a judged header, which the log
has been told, and those derived from an admitted one, which are no larger. -/
def text (d : Dimensions) : String := s!"{d.width}x{d.height}"

/-- The same text, unless one of the numbers is too long for it. -/
def written? (limit : Text.DigitLimit) (d : Dimensions) : Option String := do
  let width ← Text.number? limit d.width
  let height ← Text.number? limit d.height
  return s!"{width}x{height}"

def swap (d : Dimensions) : Dimensions := ⟨d.height, d.width⟩

/-- The size of what a transform makes of an image of this size. -/
def after (t : Transform) (d : Dimensions) : Dimensions :=
  if t.swapsAxes then d.swap else d

end Dimensions

/-- The display size of an image stored at `raw` under an orientation code, and the transform
that leads there. -/
def upright (raw : Dimensions) (code : Option Int) : Dimensions × Transform :=
  let t := Transform.forCode code
  (raw.after t, t)

end Darkroom
