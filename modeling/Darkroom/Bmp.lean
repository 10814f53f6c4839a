import Darkroom.Failure
import Darkroom.Raster.Basic
/-!
# BMP images

Only to tell what a file holds that is no image for this library: bitmaps of 24 bits a pixel
without compression, whose rows stand from the bottom up, or from the top down where the height
is negative.
-/

namespace Darkroom

namespace Bmp

structure OpenBmp where
  width : Nat
  height : Nat
  topDown : Bool
  pixels : Bytes

private def unsupported (message : String) : Except Failure α := .error ⟨.system, message⟩

private def number (size : Nat) (file : Bytes) (at_ : Nat) : Nat :=
  Bytes.littleEndian ((file.drop at_).take size)

/-- The sizes a header may have, the oldest apart. -/
def headerSizes : List Nat := [40, 52, 56, 64, 108, 124]

/-- The image that a file with a BMP signature announces. -/
def openFile (file : Bytes) : Except Failure OpenBmp := do
  let size := number 4 file 14
  if size ∉ headerSizes ∨ file.length < 14 + size then
    unsupported s!"Unsupported BMP header type ({size})"
  let topDown := file.getD 25 0 = 0xFF
  let height := number 4 file 22
  let bits := number 2 file 28
  let compression := number 4 file 30
  if bits ≠ 24 then unsupported s!"Unsupported BMP pixel depth ({bits})"
  if compression ≠ 0 then unsupported s!"Unsupported BMP compression ({compression})"
  let (width, height) := (number 4 file 18, if topDown then 4294967296 - height else height)
  if width = 0 ∨ height = 0 then .error ⟨.badForm, "not identified"⟩
  let start := number 4 file 10
  return { width, height, topDown
           pixels := file.drop (if start = 0 then 14 + size else start) }

/-- Each row is filled up to four bytes; a pixel is blue, green, red. -/
def OpenBmp.load (b : OpenBmp) : Except Failure Raster :=
  let stride := (3 * b.width + 3) / 4 * 4
  if b.pixels.length < stride * (b.height - 1) + 3 * b.width then
    .error ⟨.system, "image file is truncated"⟩
  else
    let bytes := b.pixels.toArray
    .ok {
      mode := .rgb
      grid := Grid.ofFn b.width b.height fun x y =>
        let row := if b.topDown then y.val else b.height - 1 - y.val
        let start := row * stride + 3 * x.val
        Pixel.ofBytes [bytes.getD (start + 2) 0, bytes.getD (start + 1) 0, bytes.getD start 0] }

end Bmp

end Darkroom
