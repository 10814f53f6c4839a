import Darkroom.Bytes
/-!
# Pixel modes

How many bytes a pixel has and what they mean. A `Pixel` holds up to four bytes; those a mode
does not use are zero. A bilevel pixel is one byte that is 0 or 255.
-/

namespace Darkroom

inductive Mode
  | bilevel
  | gray
  | grayAlpha
  | grayPremultiplied
  | palette
  | paletteAlpha
  | rgb
  | rgba
  | rgbx
  | rgbPremultiplied
  | cmyk
  | ycbcr
  | hsv
  /-- Unsigned, two bytes, the low one first. -/
  | gray16
  /-- Signed, four bytes, the low one first. -/
  | int32
  /-- Binary floating point, four bytes, the low one first. -/
  | float32
deriving DecidableEq, Repr, Inhabited

namespace Mode

def name : Mode → String
  | bilevel => "1"
  | gray => "L"
  | grayAlpha => "LA"
  | grayPremultiplied => "La"
  | palette => "P"
  | paletteAlpha => "PA"
  | rgb => "RGB"
  | rgba => "RGBA"
  | rgbx => "RGBX"
  | rgbPremultiplied => "RGBa"
  | cmyk => "CMYK"
  | ycbcr => "YCbCr"
  | hsv => "HSV"
  | gray16 => "I;16"
  | int32 => "I"
  | float32 => "F"

def ofName? (s : String) : Option Mode :=
  [bilevel, gray, grayAlpha, grayPremultiplied, palette, paletteAlpha, rgb, rgba, rgbx,
    rgbPremultiplied, cmyk, ycbcr, hsv, gray16, int32, float32].find? (·.name == s)

/-- Bytes a pixel. -/
def width : Mode → Nat
  | bilevel | gray | palette => 1
  | grayAlpha | grayPremultiplied | paletteAlpha | gray16 => 2
  | rgb | ycbcr | hsv => 3
  | rgba | rgbx | rgbPremultiplied | cmyk | int32 | float32 => 4

/-- Modes whose last byte says how opaque a pixel is. -/
def hasAlpha : Mode → Bool
  | grayAlpha | rgba => true
  | _ => false

end Mode

structure Pixel where
  a : UInt8 := 0
  b : UInt8 := 0
  c : UInt8 := 0
  d : UInt8 := 0
deriving DecidableEq, Repr, Inhabited

namespace Pixel

def ofBytes (bs : Bytes) : Pixel :=
  ⟨bs.getD 0 0, bs.getD 1 0, bs.getD 2 0, bs.getD 3 0⟩

def bytes (width : Nat) (p : Pixel) : Bytes := [p.a, p.b, p.c, p.d].take width

end Pixel

end Darkroom
