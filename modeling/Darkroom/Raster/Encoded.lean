import Darkroom.Config
import Darkroom.Derivation
import Darkroom.Raster.Convert
/-!
# Written images

Writing is described by what the file says when it is read again (`Encoded`): the compressed
bytes themselves are left open. Of what travels with the pixels, a PNG is written with the colour
profile and the transparent colour, a JPEG with the comment, and neither with the EXIF block.
-/

namespace Darkroom

/-- How images are resized and written. -/
structure WritingOptions where
  jpegQuality : Int := 85
  pngOptimize : Bool := true
  filter : ResampleFilter := .lanczos
deriving DecidableEq, Repr, Inhabited

/-- A configuration may name a filter that does not exist. -/
def WritingOptions.ofConfig (c : Config) : Except Failure WritingOptions :=
  match ResampleFilter.ofName? c.resampleFilter with
  | some filter => .ok ⟨c.jpegQuality, c.pngOptimize, filter⟩
  | none => .error (.value s!"Unknown resample filter: {c.resampleFilter}")

inductive Encoded.Content
  | png (pixels : Raster) (transparency : Option Transparency)
  | jpeg (quantizers : List Nat) (comment : Option Bytes)

structure Encoded where
  mode : Mode
  width : Nat
  height : Nat
  exif : Option Bytes := none
  icc : Option Bytes := none
  content : Encoded.Content

def Encoded.format (e : Encoded) : Format :=
  match e.content with
  | .png _ _ => .png
  | .jpeg _ _ => .jpeg

/-- The compressed size hangs on the compressor. -/
instance : Measured Encoded := ⟨fun _ => .string "<n>"⟩

namespace Raster

private def refuse (kind : Failure.Kind) (message : String) : Except Failure α :=
  .error ⟨kind, message⟩

private def checkNotEmpty (r : Raster) : Except Failure Unit :=
  if r.isEmpty then refuse .value "cannot write empty image" else .ok ()

/-! ## PNG -/

private def sixteenBits (n : Int) : Int := max 0 (min 65535 n)

private def unpackFailure (count : Nat) : Failure :=
  if 3 < count then ⟨.value, "too many values to unpack (expected 3)"⟩
  else ⟨.value, s!"not enough values to unpack (expected 3, got {count})"⟩

/-- A colour key for red, green and blue, each in sixteen bits. -/
private def colorKey (t : Transparency) : Except Failure (Option Transparency) :=
  let inRange (n : Int) := 0 ≤ n ∧ n ≤ 65535
  match t with
  | .color r g b =>
    if inRange r ∧ inRange g ∧ inRange b then .ok (some t)
    else refuse .packing "'H' format requires 0 <= number <= 65535"
  | .entries [r, g, b] => .ok (some (.color r.toNat g.toNat b.toNat))
  | .entries [] => .ok none
  | .entries alphas => .error (unpackFailure alphas.length)
  | .single _ => refuse .type "a colour key needs three values"
  | .text s =>
    match s.length with
    | 0 => .ok none
    | 3 => refuse .packing "required argument is not an integer"
    | n => .error (unpackFailure n)

private def grayKey (t : Transparency) : Except Failure (Option Transparency) :=
  match t with
  | .single n => .ok (some (.single (sixteenBits n)))
  | .entries [] | .text "" => .ok none
  | _ => refuse .type "a gray key needs one value"

private def palettedKey (r : Raster) (t : Transparency) : Except Failure (Option Transparency) :=
  let colors := max 1 (min 256 r.palette.size)
  match t with
  | .entries [] | .text "" => .ok none
  | .entries alphas => .ok (some (.ofAlphas (alphas.take colors)))
  | .single n =>
    let n := (max 0 (min 255 n)).toNat
    .ok (some (.ofAlphas ((List.replicate n (255 : UInt8) ++ [0]).take colors)))
  | _ => refuse .type "a palette needs opacities or one entry"

private def writtenKey (r : Raster) : Except Failure (Option Transparency) :=
  match r.info.transparency, r.mode with
  | none, _ => .ok none
  | some t, .bilevel | some t, .gray | some t, .int32 | some t, .gray16 => grayKey t
  | some t, .rgb => colorKey t
  | some t, .palette => palettedKey r t
  | some _, _ => .ok none

/-- Wide gray values are written in sixteen bits. -/
private def asWritten (r : Raster) : Raster :=
  match r.mode with
  | .int32 => r.mapPixels .gray16 fun p =>
      Pixel.ofBytes (Bytes.ofNatLittle 2 (sixteenBits p.int32Value).toNat)
  | _ => r

def writePng (r : Raster) : Except Failure Encoded := do
  checkNotEmpty r
  match r.mode with
  | .bilevel | .gray | .grayAlpha | .int32 | .gray16 | .palette | .rgb | .rgba =>
    let key ← writtenKey r
    let written := r.asWritten
    return { mode := written.mode, width := r.width, height := r.height, icc := r.info.icc
             content := .png written key }
  | mode => refuse .system s!"cannot write mode {mode.name} as PNG"

/-! ## JPEG -/

/-- The first four entries of the luminance table that the quality scales. -/
def luminanceBase : List Nat := [16, 11, 10, 16]

/-- Quality 50 leaves the table as it is; -1 stands for 75. -/
def quantizers (quality : Int) : List Nat :=
  let q := if quality = -1 then 75 else max 1 (min 100 quality)
  let scale := (if q < 50 then 5000 / q else 200 - 2 * q).toNat
  luminanceBase.map fun n => max 1 (min 255 ((n * scale + 50) / 100))

/-- The greatest extent that can be written. -/
def jpegReach : Nat := 65500

def writeJpeg (r : Raster) (options : WritingOptions) : Except Failure Encoded := do
  checkNotEmpty r
  if jpegReach < r.width ∨ jpegReach < r.height then
    refuse .system "broken data stream when writing image file"
  else
    return { mode := r.mode, width := r.width, height := r.height
             content := .jpeg (quantizers options.jpegQuality) r.info.comment }

/-! ## Either -/

/-- What writing can be expected to fail with is reported as a failure to write. -/
def writingFailure (format : Format) (f : Failure) : Failure :=
  match f.kind with
  | .system | .value | .key | .closed =>
    .encoding s!"Failed to encode {format.name}: {f.text}"
  | _ => f

end Raster

end Darkroom
