import Darkroom.Failure
import Darkroom.Power
import Darkroom.Raster.Resample
/-!
# Conversions between modes

Decoded images are brought to a mode that resampling and writing handle (`Raster.toNative`),
and an image with transparency is laid on white before it is written without
(`Raster.flattened`).
-/

namespace Darkroom

namespace Pixel

/-- `n / 255` rounded to nearest, for `n` up to `255 * 255`. -/
def divide255 (n : Nat) : Nat :=
  let n := n + 128
  (n / 256 + n) / 256

/-- A byte scaled by an opacity. -/
def scaled (x alpha : UInt8) : UInt8 := (divide255 (x.toNat * alpha.toNat)).toUInt8

/-- The byte that scaling by an opacity came from, as near as can be told. -/
def unscaled (x alpha : UInt8) : UInt8 :=
  if alpha = 0 ∨ alpha = 255 then x else clampByte (255 * x.toNat / alpha.toNat : Nat)

/-! ## Opacity multiplied into the colours -/

def premultiplied (mode : Mode) (p : Pixel) : Pixel :=
  match mode with
  | .grayAlpha => ⟨scaled p.a p.b, p.b, 0, 0⟩
  | _ => ⟨scaled p.a p.d, scaled p.b p.d, scaled p.c p.d, p.d⟩

def unpremultiplied (mode : Mode) (p : Pixel) : Pixel :=
  match mode with
  | .grayAlpha => ⟨unscaled p.a p.b, p.b, 0, 0⟩
  | _ => ⟨unscaled p.a p.d, unscaled p.b p.d, unscaled p.c p.d, p.d⟩

/-! ## Numbers -/

def int32Value (p : Pixel) : Int :=
  Int.bmod (Bytes.littleEndian (p.bytes 4)) 4294967296

def gray16Value (p : Pixel) : Nat := Bytes.littleEndian (p.bytes 2)

/-- The integer part, cut off at 0 and 255. -/
def float32Byte (p : Pixel) : UInt8 :=
  let bits := Bytes.littleEndian (p.bytes 4)
  let exponent := bits / twoPow 23 % 256
  let fraction := bits % twoPow 23
  if twoPow 31 ≤ bits then 0
  else if exponent = 255 then (if fraction = 0 then 255 else 0)
  else
    let mantissa := if exponent = 0 then fraction else twoPow 23 + fraction
    let shift : Int := (max exponent 1 : Nat) - 150
    clampByte (mantissa * twoPow shift.toNat / twoPow (-shift).toNat : Nat)

/-! ## Colours -/

/-- A chroma coefficient in hundred-thousandths at a byte, in units of one sixty-fourth. -/
private def chroma (coefficient : Int) (x : UInt8) : Int :=
  (coefficient * 64 * (x.toNat - 128) + 50000).tdiv 100000

def ofYcbcr (p : Pixel) : Pixel where
  a := clampByte (p.a.toNat + chroma 140200 p.c / 64)
  b := clampByte (p.a.toNat + (chroma (-34414) p.b + chroma (-71414) p.c) / 64)
  c := clampByte (p.a.toNat + chroma 177200 p.b / 64)

/-- `num / den` to the nearest integer, halves up. -/
private def nearestByte (num den : Nat) : UInt8 := clampByte ((2 * num + den) / (2 * den) : Nat)

def ofHsv (p : Pixel) : Pixel :=
  let h := p.a.toNat
  let s := p.b.toNat
  let v := p.c.toNat
  if s = 0 then ⟨p.c, p.c, p.c, 0⟩
  else
    let sector := h * 6 / 255
    let f := h * 6 - sector * 255
    let low := nearestByte (v * (255 - s)) 255
    let falling := nearestByte (v * (255 * 255 - s * f)) (255 * 255)
    let rising := nearestByte (v * (255 * 255 - s * (255 - f))) (255 * 255)
    match sector % 6 with
    | 0 => ⟨p.c, rising, low, 0⟩
    | 1 => ⟨falling, p.c, low, 0⟩
    | 2 => ⟨low, p.c, rising, 0⟩
    | 3 => ⟨low, falling, p.c, 0⟩
    | 4 => ⟨rising, low, p.c, 0⟩
    | _ => ⟨p.c, low, falling, 0⟩

end Pixel

namespace Raster

def mapPixels (r : Raster) (mode : Mode) (f : Pixel → Pixel) : Raster :=
  { r with mode, grid := r.grid.map f, palette := #[] }

/-! ## Palettes -/

/-- An entry that the palette lacks is black. -/
def paletteColor (r : Raster) (index : UInt8) : Pixel :=
  let (red, green, blue) := r.palette.getD index.toNat (0, 0, 0)
  ⟨red, green, blue, 255⟩

/-- The opacity of a palette entry. -/
def entryAlpha (t : Transparency) (index : UInt8) : UInt8 :=
  match t with
  | .single n => if n = index.toNat then 0 else 255
  | .entries alphas => alphas.getD index.toNat 255
  | _ => 255

/-- Whether a palette of 256 entries can carry the transparency. -/
def paletteAlphaFailure? : Transparency → Option Failure
  | .single n => if 0 ≤ n ∧ n < 256 then none else some (.value "palette index out of range")
  | .entries alphas => if alphas.length ≤ 256 then none else some (.value "palette index out of range")
  | _ => some (.value "Transparency for P mode should be bytes or int")

def paletteToRgba (r : Raster) (t : Transparency) : Raster :=
  { r.mapPixels .rgba fun p => { r.paletteColor p.a with d := entryAlpha t p.a } with
    info := { r.info with transparency := none } }

def paletteToRgb (r : Raster) : Raster :=
  r.mapPixels .rgb fun p => { r.paletteColor p.a with d := 0 }

/-! ## Native modes -/

/-- A sixteen-bit gray value divided by 256 and cut off at 255. -/
def grayOfWide (n : Int) : UInt8 := clampByte (n.tdiv 256)

/-- Brings a decoded image to a mode that is resampled and written as it is. -/
def toNative (r : Raster) : Except Failure Raster :=
  match r.mode with
  | .bilevel | .gray | .grayAlpha | .rgb | .rgba | .cmyk => .ok r
  | .palette =>
    match r.info.transparency with
    | none => .ok r.paletteToRgb
    | some t =>
      match paletteAlphaFailure? t with
      | some f => .error f
      | none => .ok (r.paletteToRgba t)
  | .paletteAlpha => .ok (r.mapPixels .rgba fun p => { r.paletteColor p.a with d := p.b })
  | .gray16 => .ok (r.mapPixels .gray fun p => { a := grayOfWide p.gray16Value })
  | .int32 => .ok (r.mapPixels .gray fun p => { a := grayOfWide p.int32Value })
  | .float32 => .ok (r.mapPixels .gray fun p => { a := p.float32Byte })
  | .ycbcr => .ok (r.mapPixels .rgb Pixel.ofYcbcr)
  | .hsv => .ok (r.mapPixels .rgb Pixel.ofHsv)
  | .rgbx => .ok (r.mapPixels .rgb fun p => { p with d := 0 })
  | .rgbPremultiplied =>
    .ok (r.mapPixels .rgb fun p => { Pixel.unpremultiplied .rgba p with d := 0 })
  | .grayPremultiplied => .error (.value "conversion from La to L not supported")

/-! ## Without transparency -/

/-- A colour byte laid on white. -/
def onWhite (x alpha : UInt8) : UInt8 :=
  (Pixel.divide255 (255 * (255 - alpha.toNat) + x.toNat * alpha.toNat)).toUInt8

/-- The transparent colour that is left of a palette's single transparent entry. -/
private def colorOfEntry (r : Raster) (t : Transparency) : Option Transparency :=
  match t with
  | .single n =>
    let p := r.paletteColor n.toNat.toUInt8
    some (.color p.a.toNat p.b.toNat p.c.toNat)
  | _ => none

/-- What is written without transparency: gray, RGB and CMYK as they are, an opacity laid on
white, anything else as RGB. -/
def flattened (r : Raster) : Except Failure Raster :=
  match r.mode with
  | .gray | .rgb | .cmyk => .ok r
  | .grayAlpha => .ok { r.mapPixels .rgb fun p =>
      let x := onWhite p.a p.b
      ⟨x, x, x, 0⟩ with info := {} }
  | .rgba => .ok { r.mapPixels .rgb fun p =>
      ⟨onWhite p.a p.d, onWhite p.b p.d, onWhite p.c p.d, 0⟩ with info := {} }
  | .bilevel => .ok (r.mapPixels .rgb fun p => ⟨p.a, p.a, p.a, 0⟩)
  | .palette => .ok { r.paletteToRgb with
      info := { r.info with transparency := r.info.transparency.bind r.colorOfEntry } }
  | .paletteAlpha => .ok (r.mapPixels .rgb fun p => { r.paletteColor p.a with d := 0 })
  | .gray16 => .ok (r.mapPixels .rgb fun p =>
      let x := clampByte p.gray16Value
      ⟨x, x, x, 0⟩)
  | .int32 => .ok (r.mapPixels .rgb fun p =>
      let x := clampByte p.int32Value
      ⟨x, x, x, 0⟩)
  | .float32 => .ok (r.mapPixels .rgb fun p => ⟨p.float32Byte, p.float32Byte, p.float32Byte, 0⟩)
  | .ycbcr => .ok (r.mapPixels .rgb Pixel.ofYcbcr)
  | .hsv => .ok (r.mapPixels .rgb Pixel.ofHsv)
  | .rgbx => .ok (r.mapPixels .rgb fun p => { p with d := 0 })
  | .rgbPremultiplied =>
    .ok (r.mapPixels .rgb fun p => { Pixel.unpremultiplied .rgba p with d := 0 })
  | .grayPremultiplied => .error (.value "conversion from La to L not supported")

/-! ## Transparency -/

/-- Where pixels have an opacity one of them is not fully opaque; elsewhere the container says
that something shows through. -/
def hasTransparency (r : Raster) : Except Failure Bool :=
  match r.mode with
  | .grayAlpha =>
    if r.isEmpty then .error ⟨.type, "cannot unpack an extent that does not exist"⟩
    else .ok (r.grid.cells.any fun p => p.b < 255)
  | .rgba =>
    if r.isEmpty then .error ⟨.type, "cannot unpack an extent that does not exist"⟩
    else .ok (r.grid.cells.any fun p => p.d < 255)
  | _ => .ok r.info.transparency.isSome

end Raster

end Darkroom
