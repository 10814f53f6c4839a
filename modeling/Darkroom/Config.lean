import Darkroom.Admission
/-!
# How images are decoded and written again
-/

namespace Darkroom

structure Config where
  maxDimension : Int := defaultMaxDimension
  jpegQuality : Int := 85
  pngOptimize : Bool := true
  /-- A name; whether there is such a filter is asked when a codec is made. -/
  resampleFilter : String := "lanczos"
  outputPolicy : OutputPolicy := {}
deriving DecidableEq, Repr

end Darkroom
